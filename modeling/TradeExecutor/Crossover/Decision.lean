import TradeExecutor.Crossover.Scan

/-! # What the detectors decide

On series the loop can read and arguments `_validate_args` accepts, neither detector
raises, and each answers from the latest crossing alone: at no crossing a negative
answer, and at the latest crossing `i` with crossing value `cv` the outcome of a
list of checks on `series1[i:]` and `series1[:i]`
(`TradeExecutor.Crossover.hasCrossoverOccurred_eq`,
`TradeExecutor.Crossover.hasCrossunderOccurred_eq`).
-/

namespace TradeExecutor

namespace Crossover

/-- A detector's answer from its latest crossing: a negative answer when there is
none, and `answerAt i cv` at the latest crossing `i` with crossing value `cv`. -/
def answerAtLatest (wasBefore isAfter : ℚ → ℚ → Bool) (answerAt : Nat → ℚ → CrossResult)
    (series1 series2 : Series) (returnCrossIndex : Bool) : CrossResult :=
  match latestCrossing wasBefore isAfter series1 series2 with
  | none => getReturnValue false returnCrossIndex none
  | some i => answerAt i (crossValueAt series2 i)

/-- `cross_index` for a crossing at position `i` of a series of length `length`. -/
def crossIndexAt (length i : Nat) : Int :=
  -((length : Int) - i)

section Checks

variable (standardizedSlope : Series → ℚ)

/-- The checks `has_crossover_occurred` makes after its loop at a crossing at
position `i` with crossing value `crossValue`, in the code's order: the buffer of
`max(after_cross1)` above the crossing, the number of values from the crossing on and
the first `min_values_above_cross` of them above it, a value before the crossing below
it, the number of values before the crossing and the last `min_values_below_cross`
of them at or below it, the buffer of `min(before_cross1)` below the crossing, and the
slope. -/
def crossoverChecks (series1 : Series) (minValuesAboveCross minValuesBelowCross : Int)
    (bufferAbovePercent bufferBelowPercent : ℚ) (minGradient : Option ℚ) (i : Nat)
    (crossValue : ℚ) : Bool :=
  let afterCross1 := series1.drop i
  let beforeCross1 := series1.take i
  decide (bufferAbovePercent ≤ (afterCross1.max?.getD 0 - crossValue) / crossValue) &&
    decide (minValuesAboveCross ≤ afterCross1.length) &&
    !(afterCross1.take minValuesAboveCross.toNat).any (· ≤ crossValue) &&
    beforeCross1.any (· < crossValue) &&
    decide (minValuesBelowCross ≤ beforeCross1.length) &&
    !(beforeCross1.drop (beforeCross1.length - minValuesBelowCross.toNat)).any (· > crossValue) &&
    decide (bufferBelowPercent ≤ (crossValue - beforeCross1.min?.getD 0) / crossValue) &&
    minGradient.all fun minGradient => !decide (standardizedSlope series1 < minGradient)

/-- The checks `has_crossunder_occurred` makes after its loop on the values from the
crossing on, in the code's order: their number, the buffer of `min(after_cross1)`
below the crossing, and the first `min_values_below_cross` of them at or below it. -/
def crossunderAfterChecks (series1 : Series) (minValuesBelowCross : Int) (bufferBelowPercent : ℚ)
    (i : Nat) (crossValue : ℚ) : Bool :=
  let afterCross1 := series1.drop i
  decide (minValuesBelowCross ≤ afterCross1.length) &&
    decide (bufferBelowPercent ≤ (crossValue - afterCross1.min?.getD 0) / crossValue) &&
    !(afterCross1.take minValuesBelowCross.toNat).any (· > crossValue)

/-- The checks `has_crossunder_occurred` makes on the values before the crossing once
one of them is above it, in the code's order: the length of `series1[:-cross_index]`,
which holds the first `n - i` values, the buffer of `max(before_cross1)` above the
crossing, the last `min_values_above_cross` values before it at or above it, and the
slope. -/
def crossunderBeforeChecks (series1 : Series) (minValuesAboveCross : Int) (bufferAbovePercent : ℚ)
    (minGradient : Option ℚ) (i : Nat) (crossValue : ℚ) : Bool :=
  let beforeCross1 := series1.take i
  decide (minValuesAboveCross ≤ (series1.take (series1.length - i)).length) &&
    decide (bufferAbovePercent ≤ (beforeCross1.max?.getD 0 - crossValue) / crossValue) &&
    !(beforeCross1.drop (beforeCross1.length - minValuesAboveCross.toNat)).any (· < crossValue) &&
    minGradient.all fun minGradient => !decide (standardizedSlope series1 > -minGradient)

/-- What `has_crossunder_occurred` answers at a crossing at position `i`: a negative
answer when the checks on the values from the crossing on fail, a bare `False` when
no value before the crossing is above it, and otherwise the outcome of the checks on
the values before it. -/
def crossunderAnswer (series1 : Series) (minValuesAboveCross minValuesBelowCross : Int)
    (bufferAbovePercent bufferBelowPercent : ℚ) (minGradient : Option ℚ) (returnCrossIndex : Bool)
    (i : Nat) (crossValue : ℚ) : CrossResult :=
  if !crossunderAfterChecks series1 minValuesBelowCross bufferBelowPercent i crossValue then
    getReturnValue false returnCrossIndex (some (crossIndexAt series1.length i))
  else if !(series1.take i).any (· > crossValue) then .bare false
  else getReturnValue
    (crossunderBeforeChecks standardizedSlope series1 minValuesAboveCross bufferAbovePercent minGradient
      i crossValue)
    returnCrossIndex (some (crossIndexAt series1.length i))

end Checks

variable {standardizedSlope : Series → ℚ} {series1 series2 trimmed1 trimmed2 : Series}
  {minValuesAboveCross minValuesBelowCross : Int} {bufferAbovePercent bufferBelowPercent : ℚ}
  {minGradient : Option ℚ} {returnCrossIndex : Bool}

/-- A check that answers negatively when it fails: the detector answers `answer` when a
failure of the check answers it and the rest of the detector answers it after a pass. -/
theorem guard_eq {failed : Prop} [Decidable failed] {continuation : Except Error CrossResult}
    {answer : CrossResult} {k : Option Int}
    (rejects : failed → getReturnValue false returnCrossIndex k = answer)
    (passes : ¬failed → continuation = .ok answer) :
    (if failed then pure (getReturnValue false returnCrossIndex k) else continuation) = .ok answer := by
  split_ifs with failing
  · exact congrArg Except.ok (rejects failing)
  · exact passes failing

/-- **`has_crossover_occurred` decides from the latest crossing.** On series the loop
can read and accepted arguments it returns, with the answer of its checks at the
latest crossing. -/
theorem hasCrossoverOccurred_eq
    (accepted : validateArgs minValuesAboveCross minValuesBelowCross bufferAbovePercent
      bufferBelowPercent = .ok ())
    (indexable : series2 ≠ [] ∨ series1 = [])
    (trimmed : trimToCommonLength series1 series2 = (trimmed1, trimmed2)) :
    hasCrossoverOccurred standardizedSlope series1 series2 minValuesAboveCross minValuesBelowCross
        bufferAbovePercent bufferBelowPercent minGradient returnCrossIndex =
      .ok (answerAtLatest (· ≤ ·) (· > ·) (fun i crossValue => getReturnValue
          (crossoverChecks standardizedSlope trimmed1 minValuesAboveCross minValuesBelowCross
            bufferAbovePercent bufferBelowPercent minGradient i crossValue)
          returnCrossIndex (some (crossIndexAt trimmed1.length i)))
        trimmed1 trimmed2 returnCrossIndex) := by
  have readable : trimmed1.length ≤ trimmed2.length := by
    simpa only [trimmed] using trimToCommonLength_length_le indexable
  obtain ⟨above, below, -, -⟩ := validateArgs_eq_ok.mp accepted
  simp only [hasCrossoverOccurred, trimmed, accepted, ok_bind_except, scan_eq readable, answerAtLatest]
  cases found : latestCrossing (· ≤ ·) (· > ·) trimmed1 trimmed2 with
  | none => rfl
  | some i =>
    obtain ⟨start, within⟩ := latestCrossing_bounds found
    have nonzero := crossValueAt_ne_zero trimmed2 i
    have after : trimmed1.drop i ≠ [] := by
      simpa only [Ne, List.drop_eq_nil_iff, not_le] using within
    simp only [Option.map_some', crossingAt, crossIndexAt, ilocFrom_crossing within,
      ilocTo_crossing within, show -((trimmed1.length : Int) - i) ≠ 0 by omega, if_false, pure_bind,
      pyMax_of_ne_nil after, decimalDiv_except, nonzero, ok_bind_except, ilocTo_of_nonneg above.le,
      ilocFrom_of_neg below, crossoverChecks]
    generalize crossValueAt trimmed2 i = crossValue at nonzero ⊢
    refine guard_eq (fun risen => ?_) fun risen => ?_
    · simp only [ge_iff_le, risen, decide_False, Bool.false_and]
    refine guard_eq (fun counted => ?_) fun counted => ?_
    · simp only [not_le.mpr counted, decide_False, Bool.and_false, Bool.false_and]
    refine guard_eq (fun low => ?_) fun low => ?_
    · simp only [low, Bool.not_true, Bool.and_false, Bool.false_and]
    refine guard_eq (fun noneBelow => ?_) fun noneBelow => ?_
    · simp only [Bool.not_eq_true] at noneBelow
      simp only [noneBelow, Bool.and_false, Bool.false_and]
    refine guard_eq (fun counted' => ?_) fun counted' => ?_
    · simp only [not_le.mpr counted', decide_False, Bool.and_false, Bool.false_and]
    refine guard_eq (fun high => ?_) fun high => ?_
    · simp only [high, Bool.not_true, Bool.and_false, Bool.false_and]
    have before : trimmed1.take i ≠ [] := fun empty => by simp [empty] at noneBelow
    rw [pyMin_of_ne_nil before, ok_bind_except]
    refine guard_eq (fun fell => ?_) fun fell => ?_
    · simp only [ge_iff_le, fell, decide_False, Bool.and_false, Bool.false_and]
    simp only [Bool.not_eq_true] at low high
    simp only [ge_iff_le, not_not] at risen noneBelow fell
    simp only [risen, not_lt.mp counted, low, noneBelow, not_lt.mp counted', high, fell, decide_True,
      Bool.not_false, Bool.and_true, Bool.true_and]
    cases minGradient with
    | none => rfl
    | some minGradient =>
      obtain ⟨x, lower, xBelow⟩ := List.any_eq_true.mp noneBelow
      have window : (trimmed1.drop i).take minValuesAboveCross.toNat ≠ [] := by
        rw [Ne, List.take_eq_nil_iff, not_or]
        exact ⟨by omega, after⟩
      obtain ⟨y, higher⟩ := List.exists_mem_of_ne_nil _ window
      have yAbove : crossValue < y := by simpa using List.any_eq_false.mp low y higher
      rw [gradientSlope_of_ne standardizedSlope (List.mem_of_mem_take lower)
        (List.mem_of_mem_drop (List.mem_of_mem_take higher))
        (ne_of_lt ((of_decide_eq_true xBelow).trans yAbove))]
      exact guard_eq (fun steep => by simp [steep]) fun steep => by simp [steep]

/-- **`has_crossunder_occurred` decides from the latest crossing.** On series the loop
can read and accepted arguments it returns, with its answer at the latest crossing. -/
theorem hasCrossunderOccurred_eq
    (accepted : validateArgs minValuesAboveCross minValuesBelowCross bufferAbovePercent
      bufferBelowPercent = .ok ())
    (indexable : series2 ≠ [] ∨ series1 = [])
    (trimmed : trimToCommonLength series1 series2 = (trimmed1, trimmed2)) :
    hasCrossunderOccurred standardizedSlope series1 series2 minValuesAboveCross minValuesBelowCross
        bufferAbovePercent bufferBelowPercent minGradient returnCrossIndex =
      .ok (answerAtLatest (· ≥ ·) (· < ·)
        (crossunderAnswer standardizedSlope trimmed1 minValuesAboveCross minValuesBelowCross
          bufferAbovePercent bufferBelowPercent minGradient returnCrossIndex)
        trimmed1 trimmed2 returnCrossIndex) := by
  have readable : trimmed1.length ≤ trimmed2.length := by
    simpa only [trimmed] using trimToCommonLength_length_le indexable
  obtain ⟨above, below, -, -⟩ := validateArgs_eq_ok.mp accepted
  simp only [hasCrossunderOccurred, trimmed, accepted, ok_bind_except, scan_eq readable, answerAtLatest]
  cases found : latestCrossing (· ≥ ·) (· < ·) trimmed1 trimmed2 with
  | none => rfl
  | some i =>
    obtain ⟨start, within⟩ := latestCrossing_bounds found
    have nonzero := crossValueAt_ne_zero trimmed2 i
    have after : trimmed1.drop i ≠ [] := by
      simpa only [Ne, List.drop_eq_nil_iff, not_le] using within
    have later : -(-((trimmed1.length : Int) - i)) = ((trimmed1.length - i : Nat) : Int) := by omega
    simp only [Option.map_some', crossingAt, ilocFrom_crossing within, ilocTo_crossing within,
      show -((trimmed1.length : Int) - i) ≠ 0 by omega, if_false, pure_bind, pyMin_of_ne_nil after,
      decimalDiv_except, nonzero, ok_bind_except, ilocTo_of_nonneg below.le, later,
      ilocTo_of_nonneg (Int.natCast_nonneg _), Int.toNat_natCast, ilocFrom_of_neg above,
      crossunderAnswer, crossunderAfterChecks, crossunderBeforeChecks, crossIndexAt]
    generalize crossValueAt trimmed2 i = crossValue at nonzero ⊢
    refine guard_eq (fun counted => ?_) fun counted => ?_
    · simp only [not_le.mpr counted, decide_False, Bool.false_and, Bool.not_false, ↓reduceIte]
    refine guard_eq (fun fell => ?_) fun fell => ?_
    · simp only [ge_iff_le, fell, decide_False, Bool.and_false, Bool.false_and, Bool.not_false,
        ↓reduceIte]
    refine guard_eq (fun low => ?_) fun low => ?_
    · simp only [low, Bool.not_true, Bool.and_false, Bool.not_false, ↓reduceIte]
    simp only [Bool.not_eq_true] at low
    simp only [ge_iff_le, not_not] at fell
    simp only [not_lt.mp counted, fell, low, decide_True, Bool.not_false, Bool.and_true,
      Bool.not_true, Bool.false_eq_true, ↓reduceIte]
    by_cases aboveBefore : (trimmed1.take i).any (· > crossValue) = true
    swap
    · simp only [Bool.not_eq_true] at aboveBefore
      simp only [aboveBefore, Bool.false_eq_true, not_false_eq_true, Bool.not_false, ↓reduceIte]
      rfl
    simp only [aboveBefore, not_true_eq_false, Bool.not_true, Bool.false_eq_true, ↓reduceIte]
    have before : trimmed1.take i ≠ [] := fun empty => by simp [empty] at aboveBefore
    refine guard_eq (fun counted' => ?_) fun counted' => ?_
    · simp only [not_le.mpr counted', decide_False, Bool.false_and]
    rw [pyMax_of_ne_nil before, ok_bind_except]
    refine guard_eq (fun risen => ?_) fun risen => ?_
    · simp only [ge_iff_le, risen, decide_False, Bool.and_false, Bool.false_and]
    refine guard_eq (fun high => ?_) fun high => ?_
    · simp only [high, Bool.not_true, Bool.and_false, Bool.false_and]
    simp only [Bool.not_eq_true] at high
    simp only [ge_iff_le, not_not] at risen
    simp only [not_lt.mp counted', risen, high, decide_True, Bool.not_false, Bool.and_true,
      Bool.true_and]
    cases minGradient with
    | none => rfl
    | some minGradient =>
      obtain ⟨x, upper, xAbove⟩ := List.any_eq_true.mp aboveBefore
      have window : (trimmed1.drop i).take minValuesBelowCross.toNat ≠ [] := by
        rw [Ne, List.take_eq_nil_iff, not_or]
        exact ⟨by omega, after⟩
      obtain ⟨y, lower⟩ := List.exists_mem_of_ne_nil _ window
      have yBelow : y ≤ crossValue := by simpa using List.any_eq_false.mp low y lower
      rw [gradientSlope_of_ne standardizedSlope (List.mem_of_mem_take upper)
        (List.mem_of_mem_drop (List.mem_of_mem_take lower))
        (ne_of_gt (yBelow.trans_lt (of_decide_eq_true xAbove)))]
      exact guard_eq (fun steep => by simp [steep]) fun steep => by simp [steep]

end Crossover

end TradeExecutor
