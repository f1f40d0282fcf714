import TradeExecutor.State.Exec
import Mathlib.Algebra.Order.BigOperators.Group.List

/-! # Crossover detectors

`has_crossover_occurred` and `has_crossunder_occurred` take two series, keep the
latest values of the longer one so that both have the same length, validate their
window and buffer arguments, find the latest index where the first series crosses
the second, and then check the windows before and after that crossing. Series are
lists of exact rationals (`Series`), read positionally as `iloc` reads them; a
Python slice is `TradeExecutor.Crossover.ilocFrom` or `TradeExecutor.Crossover.ilocTo`, with
Python's normalisation of negative and out-of-range bounds.

Every division checks its divisor and raises on zero, so that a call that raises no
division error is one whose divisors are all nonzero (numpy would return an
infinity instead). The regression slope of the `min_gradient` check is a parameter:
numpy's least-squares fit is not part of the model.
-/

namespace TradeExecutor

namespace Crossover

/-- A pandas series, read by position. -/
abbrev Series := List ℚ

/-- `epsilon`, which stands in for a crossing value of zero. -/
def epsilon : ℚ := 1 / 10 ^ 10

/-- What the detectors return: a bare bool, or with `return_cross_index` the bool and
the index of the crossing counted from the end. -/
inductive CrossResult where
  | bare (crossed : Bool)
  | withIndex (crossed : Bool) (crossIndex : Option Int)
  deriving DecidableEq, Repr

/-- `_get_return_value`: a negative answer carries no index. -/
def getReturnValue (returnValue returnCrossIndex : Bool) (crossIndex : Option Int) : CrossResult :=
  let crossIndex := if returnValue = false then none else crossIndex
  if returnCrossIndex then .withIndex returnValue crossIndex else .bare returnValue

/-- `series.iloc[i]` at a position `i ≥ 0`, which raises `IndexError` past the end. -/
def iloc (series : Series) (i : Nat) : Except Error ℚ :=
  match series[i]? with
  | some value => .ok value
  | none => .error .indexError

/-- Python's normalisation of a slice bound for a sequence of `length` items: a
negative bound counts from the end, and the result is clamped to `[0, length]`. -/
def sliceBound (length : Nat) (bound : Int) : Nat :=
  if bound < 0 then (length + bound).toNat else min bound.toNat length

/-- `series.iloc[start:]`. -/
def ilocFrom (series : Series) (start : Int) : Series :=
  series.drop (sliceBound series.length start)

/-- `series.iloc[:stop]`. -/
def ilocTo (series : Series) (stop : Int) : Series :=
  series.take (sliceBound series.length stop)

/-- Python's `max` of a sequence, which raises `ValueError` on an empty one. -/
def pyMax (series : Series) : Except Error ℚ :=
  match series.max? with
  | some value => .ok value
  | none => .error .valueError

/-- Python's `min` of a sequence, which raises `ValueError` on an empty one. -/
def pyMin (series : Series) : Except Error ℚ :=
  match series.min? with
  | some value => .ok value
  | none => .error .valueError

theorem pyMax_of_ne_nil {series : Series} (nonempty : series ≠ []) :
    pyMax series = .ok (series.max?.getD 0) := by
  obtain ⟨value, found⟩ := Option.ne_none_iff_exists'.mp (mt List.max?_eq_none_iff.mp nonempty)
  rw [pyMax, found, Option.getD_some]

theorem pyMin_of_ne_nil {series : Series} (nonempty : series ≠ []) :
    pyMin series = .ok (series.min?.getD 0) := by
  obtain ⟨value, found⟩ := Option.ne_none_iff_exists'.mp (mt List.min?_eq_none_iff.mp nonempty)
  rw [pyMin, found, Option.getD_some]

/-- Every value of a series is at most its `max`. -/
theorem le_max?_getD {series : Series} {x : ℚ} (mem : x ∈ series) : x ≤ series.max?.getD 0 := by
  obtain ⟨value, found⟩ := Option.ne_none_iff_exists'.mp
    (mt List.max?_eq_none_iff.mp (List.ne_nil_of_mem mem))
  rw [found, Option.getD_some]
  exact (List.max?_le_iff (fun _ _ _ => max_le_iff) found).mp le_rfl x mem

/-- Every value of a series is at least its `min`. -/
theorem min?_getD_le {series : Series} {x : ℚ} (mem : x ∈ series) : series.min?.getD 0 ≤ x := by
  obtain ⟨value, found⟩ := Option.ne_none_iff_exists'.mp
    (mt List.min?_eq_none_iff.mp (List.ne_nil_of_mem mem))
  rw [found, Option.getD_some]
  exact (List.le_min?_iff (fun _ _ _ => le_min_iff) found).mp le_rfl x mem

/-- The length equalisation at the start of both detectors: the longer series keeps
its latest values, `series.iloc[-len(other):]`. -/
def trimToCommonLength (series1 series2 : Series) : Series × Series :=
  if series2.length > series1.length then (series1, ilocFrom series2 (-(series1.length : Int)))
  else if series1.length > series2.length then (ilocFrom series1 (-(series2.length : Int)), series2)
  else (series1, series2)

/-- `_validate_args` on arguments that are already of the right types: both window
sizes positive and both buffers between 0 and 1. -/
def validateArgs (minValuesAboveCross minValuesBelowCross : Int)
    (minPercentDiff1 minPercentDiff2 : ℚ) : Except Error Unit := do
  pyAssert (minValuesAboveCross > 0) "min_values_above_cross must be a positive int"
  pyAssert (minValuesBelowCross > 0) "min_values_below_cross must be a positive int"
  pyAssert (0 ≤ minPercentDiff1 ∧ minPercentDiff1 ≤ 1)
    "min_percent_above must be a number between 0 and 1"
  pyAssert (0 ≤ minPercentDiff2 ∧ minPercentDiff2 ≤ 1)
    "min_percent_below must be a number between 0 and 1"

theorem validateArgs_eq_ok {minValuesAboveCross minValuesBelowCross : Int}
    {minPercentDiff1 minPercentDiff2 : ℚ} :
    validateArgs minValuesAboveCross minValuesBelowCross minPercentDiff1 minPercentDiff2 = .ok () ↔
      0 < minValuesAboveCross ∧ 0 < minValuesBelowCross ∧
        (0 ≤ minPercentDiff1 ∧ minPercentDiff1 ≤ 1) ∧ (0 ≤ minPercentDiff2 ∧ minPercentDiff2 ≤ 1) := by
  simp only [validateArgs, pyAssert_bind_eq_ok_except]
  unfold pyAssert
  split_ifs <;> simp_all

/-- One iteration of the detectors' loop, at position `i` with value `x` of `series1`:
when `series1` crosses `series2` between `i - 1` and `i` (`wasBefore` on the earlier
values, `isAfter` on the later ones, and-ed lazily), the crossing becomes the latest,
its index counted from the end and its value `series2.iloc[i]`, with `epsilon` for
zero. -/
def scanStep (wasBefore isAfter : ℚ → ℚ → Bool) (series1 series2 : Series)
    (found : Option (Int × ℚ)) (i : Nat) (x : ℚ) : Except Error (Option (Int × ℚ)) := do
  if i = 0 then return found
  let previous1 ← iloc series1 (i - 1)
  let previous2 ← iloc series2 (i - 1)
  if wasBefore previous1 previous2 then
    let current2 ← iloc series2 i
    if isAfter x current2 then
      let crossValue ← iloc series2 i
      return some (-((series1.length : Int) - i), if crossValue = 0 then epsilon else crossValue)
  return found

/-- The loop `for i, x in enumerate(series1)` from position `i` on. -/
def scanFrom (wasBefore isAfter : ℚ → ℚ → Bool) (series1 series2 : Series) :
    Nat → Series → Option (Int × ℚ) → Except Error (Option (Int × ℚ))
  | _, [], found => pure found
  | i, x :: rest, found => do
    let found ← scanStep wasBefore isAfter series1 series2 found i x
    scanFrom wasBefore isAfter series1 series2 (i + 1) rest found

/-- The search for the latest crossing: the index from the end and the crossing
value, if `series1` crosses `series2` anywhere. -/
def scan (wasBefore isAfter : ℚ → ℚ → Bool) (series1 series2 : Series) :
    Except Error (Option (Int × ℚ)) :=
  scanFrom wasBefore isAfter series1 series2 0 series1 none

section Detectors

-- The slope of numpy's least-squares line through the standardised values of a
-- series against their positions.
variable (standardizedSlope : Series → ℚ)

/-- The slope of the `min_gradient` check: `_standardize` divides by the number of
values for the mean and by the standard deviation, the square root of the
population variance, which is zero exactly when the variance is. -/
def gradientSlope (series1 : Series) : Except Error ℚ := do
  let mean ← decimalDiv series1.sum series1.length
  let variance ← decimalDiv ((series1.map fun value => (value - mean) ^ 2).sum) series1.length
  if variance = 0 then throw .divisionByZero
  return standardizedSlope series1

/-- The population variance of a series, which `_standardize` divides by through its
square root. -/
def variance (series1 : Series) : ℚ :=
  (series1.map fun value => (value - series1.sum / series1.length) ^ 2).sum / series1.length

/-- A series with two different values has a nonzero variance. -/
theorem variance_ne_zero {series1 : Series} {x y : ℚ} (low : x ∈ series1) (high : y ∈ series1)
    (differ : x ≠ y) : variance series1 ≠ 0 := by
  have length : (series1.length : ℚ) ≠ 0 := Nat.cast_ne_zero.mpr (List.length_pos_of_mem low).ne'
  refine div_ne_zero (fun zero => differ ?_) length
  have flat : ∀ value ∈ series1, value = series1.sum / series1.length := fun value mem =>
    sub_eq_zero.mp (pow_eq_zero_iff two_ne_zero |>.mp
      (List.all_zero_of_le_zero_le_of_sum_eq_zero (by simp [sq_nonneg]) zero
        (List.mem_map_of_mem _ mem)))
  rw [flat x low, flat y high]

/-- The slope check divides by the length and by the variance, and returns the
slope when both are nonzero. -/
theorem gradientSlope_of_ne {series1 : Series} {x y : ℚ} (low : x ∈ series1) (high : y ∈ series1)
    (differ : x ≠ y) : gradientSlope standardizedSlope series1 = .ok (standardizedSlope series1) := by
  have length : (series1.length : ℚ) ≠ 0 := Nat.cast_ne_zero.mpr (List.length_pos_of_mem low).ne'
  have spread := variance_ne_zero low high differ
  unfold variance at spread
  simp only [gradientSlope, decimalDiv_except, length, if_false, ok_bind_except, spread]
  rfl

/-- `has_crossover_occurred`. -/
def hasCrossoverOccurred (series1 series2 : Series) (minValuesAboveCross minValuesBelowCross : Int)
    (bufferAbovePercent bufferBelowPercent : ℚ) (minGradient : Option ℚ)
    (returnCrossIndex : Bool) : Except Error CrossResult := do
  let (series1, series2) := trimToCommonLength series1 series2
  validateArgs minValuesAboveCross minValuesBelowCross bufferAbovePercent bufferBelowPercent
  let found ← scan (fun x y => decide (x ≤ y)) (fun x y => decide (x > y)) series1 series2
  let some (crossIndex, crossValue) := found
    | return getReturnValue false returnCrossIndex none
  if crossIndex = 0 then return getReturnValue false returnCrossIndex (some crossIndex)
  let afterCross1 := ilocFrom series1 crossIndex
  let highest ← pyMax afterCross1
  let rise ← decimalDiv (highest - crossValue) crossValue
  if ¬rise ≥ bufferAbovePercent then return getReturnValue false returnCrossIndex (some crossIndex)
  if (afterCross1.length : Int) < minValuesAboveCross then
    return getReturnValue false returnCrossIndex (some crossIndex)
  let afterCross1Cut := ilocTo afterCross1 minValuesAboveCross
  if afterCross1Cut.any (· ≤ crossValue) then
    return getReturnValue false returnCrossIndex (some crossIndex)
  let beforeCross1 := ilocTo series1 crossIndex
  if ¬beforeCross1.any (· < crossValue) then
    return getReturnValue false returnCrossIndex (some crossIndex)
  if (beforeCross1.length : Int) < minValuesBelowCross then
    return getReturnValue false returnCrossIndex (some crossIndex)
  let beforeCross1Cut := ilocFrom beforeCross1 (-minValuesBelowCross)
  if beforeCross1Cut.any (· > crossValue) then
    return getReturnValue false returnCrossIndex (some crossIndex)
  let lowest ← pyMin beforeCross1
  let fall ← decimalDiv (crossValue - lowest) crossValue
  if ¬fall ≥ bufferBelowPercent then return getReturnValue false returnCrossIndex (some crossIndex)
  if let some minGradient := minGradient then
    let slope ← gradientSlope standardizedSlope series1
    if slope < minGradient then return getReturnValue false returnCrossIndex (some crossIndex)
  return getReturnValue true returnCrossIndex (some crossIndex)

/-- `has_crossunder_occurred`. Unlike `has_crossover_occurred` it returns a bare
`False` when no value before the crossing is above it, and it checks the length of
`series1.iloc[:-cross_index]`, the first `n - i` values, against
`min_values_above_cross`. -/
def hasCrossunderOccurred (series1 series2 : Series) (minValuesAboveCross minValuesBelowCross : Int)
    (bufferAbovePercent bufferBelowPercent : ℚ) (minGradient : Option ℚ)
    (returnCrossIndex : Bool) : Except Error CrossResult := do
  let (series1, series2) := trimToCommonLength series1 series2
  validateArgs minValuesAboveCross minValuesBelowCross bufferAbovePercent bufferBelowPercent
  let found ← scan (fun x y => decide (x ≥ y)) (fun x y => decide (x < y)) series1 series2
  let some (crossIndex, crossValue) := found
    | return getReturnValue false returnCrossIndex none
  if crossIndex = 0 then return getReturnValue false returnCrossIndex (some crossIndex)
  let afterCross1 := ilocFrom series1 crossIndex
  if (afterCross1.length : Int) < minValuesBelowCross then
    return getReturnValue false returnCrossIndex (some crossIndex)
  let lowest ← pyMin afterCross1
  let fall ← decimalDiv (crossValue - lowest) crossValue
  if ¬fall ≥ bufferBelowPercent then return getReturnValue false returnCrossIndex (some crossIndex)
  let afterCross1Cut := ilocTo afterCross1 minValuesBelowCross
  if afterCross1Cut.any (· > crossValue) then
    return getReturnValue false returnCrossIndex (some crossIndex)
  let beforeCross1 := ilocTo series1 crossIndex
  if ¬beforeCross1.any (· > crossValue) then return .bare false
  if ((ilocTo series1 (-crossIndex)).length : Int) < minValuesAboveCross then
    return getReturnValue false returnCrossIndex (some crossIndex)
  let highest ← pyMax beforeCross1
  let rise ← decimalDiv (highest - crossValue) crossValue
  if ¬rise ≥ bufferAbovePercent then return getReturnValue false returnCrossIndex (some crossIndex)
  let beforeCross1Cut := ilocFrom beforeCross1 (-minValuesAboveCross)
  if beforeCross1Cut.any (· < crossValue) then
    return getReturnValue false returnCrossIndex (some crossIndex)
  if let some minGradient := minGradient then
    let slope ← gradientSlope standardizedSlope series1
    if slope > -minGradient then return getReturnValue false returnCrossIndex (some crossIndex)
  return getReturnValue true returnCrossIndex (some crossIndex)

end Detectors

end Crossover

end TradeExecutor
