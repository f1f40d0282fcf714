import TradeExecutor.Crossover.Decision
import Mathlib.Algebra.Order.Field.Basic

/-! # Crossings decided by order

With zero buffers and no slope check, `has_crossover_occurred` answers from the order
of the values around the latest crossing only when the crossing value is positive: a
negative crossing value fails the buffer check above it whatever the series
(`TradeExecutor.Crossover.hasCrossoverOccurred_zeroBuffers`). A positive answer of
`has_crossunder_occurred` guarantees `n - i` values from the crossing on where the
order conditions ask for `i` values before it
(`TradeExecutor.Crossover.hasCrossunderOccurred_sound`), and it answers a bare `False`,
whatever `return_cross_index` asks for, where no value before the crossing is above
it (`TradeExecutor.Crossover.hasCrossunderOccurred_bare_false`). Both detectors read
past the end of an empty second series
(`TradeExecutor.Crossover.detectors_raise_indexError`) and of no other
(`TradeExecutor.Crossover.detectors_return`).
-/

namespace TradeExecutor

namespace Crossover

/-- The bool a detector's answer carries. -/
def CrossResult.crossed : CrossResult → Bool
  | .bare crossed => crossed
  | .withIndex crossed _ => crossed

/-- The shape callers unpack: with `return_cross_index` a pair whose index is missing
exactly on a negative answer, and otherwise a bare bool. -/
def CrossResult.WellShaped (returnCrossIndex : Bool) : CrossResult → Prop
  | .bare _ => returnCrossIndex = false
  | .withIndex crossed crossIndex => returnCrossIndex = true ∧ (crossIndex = none ↔ crossed = false)

@[simp] theorem getReturnValue_crossed (returnValue returnCrossIndex : Bool)
    (crossIndex : Option Int) :
    (getReturnValue returnValue returnCrossIndex crossIndex).crossed = returnValue := by
  cases returnCrossIndex <;> rfl

theorem getReturnValue_wellShaped (returnValue returnCrossIndex : Bool) (crossIndex : Int) :
    (getReturnValue returnValue returnCrossIndex (some crossIndex)).WellShaped returnCrossIndex := by
  cases returnValue <;> cases returnCrossIndex <;> simp [getReturnValue, CrossResult.WellShaped]

theorem getReturnValue_none_wellShaped (returnCrossIndex : Bool) :
    (getReturnValue false returnCrossIndex none).WellShaped returnCrossIndex := by
  cases returnCrossIndex <;> simp [getReturnValue, CrossResult.WellShaped]

/-- The order conditions on a crossover at position `i` with crossing value
`crossValue`: at least `a` values from the crossing on and the first `a` of them
above it, some value before it below it, at least `b` values before it, and the last
`b` of them at or below it. -/
def crossoverWindows (series1 : Series) (a b : Int) (i : Nat) (crossValue : ℚ) : Bool :=
  decide (a ≤ (series1.length : Int) - i) && ((series1.drop i).take a.toNat).all (crossValue < ·) &&
    (series1.take i).any (· < crossValue) && decide (b ≤ i) &&
    ((series1.take i).drop (i - b.toNat)).all (· ≤ crossValue)

variable {standardizedSlope : Series → ℚ} {series1 series2 trimmed1 trimmed2 : Series} {a b : Int}
  {bufferAbovePercent bufferBelowPercent : ℚ} {minGradient : Option ℚ} {returnCrossIndex : Bool}

/-- A window of `count > 0` values from position `i` on, inside the series, has a first
value. -/
theorem exists_mem_window {i : Nat} {count : Int} (positive : 0 < count)
    (counted : count ≤ (series1.length : Int) - i) :
    ∃ y, y ∈ (series1.drop i).take count.toNat ∧ y ∈ series1.drop i := by
  have nonempty : (series1.drop i).take count.toNat ≠ [] := by
    rw [Ne, List.take_eq_nil_iff, not_or, List.drop_eq_nil_iff]
    omega
  obtain ⟨y, mem⟩ := List.exists_mem_of_ne_nil _ nonempty
  exact ⟨y, mem, List.mem_of_mem_take mem⟩

/-- With zero buffers and no slope check, the checks of `has_crossover_occurred` are the
order conditions and a positive crossing value: above a positive crossing value the
buffer checks follow from the order conditions, and above a negative one the buffer
check above it fails whenever the values after it are above it. -/
theorem crossoverChecks_zeroBuffers {i : Nat} {crossValue : ℚ} (positive : 0 < a)
    (within : i ≤ series1.length) (nonzero : crossValue ≠ 0) :
    crossoverChecks standardizedSlope series1 a b 0 0 none i crossValue =
      (crossoverWindows series1 a b i crossValue && decide (0 < crossValue)) := by
  rw [Bool.eq_iff_iff]
  simp only [crossoverChecks, crossoverWindows, Bool.and_eq_true, decide_eq_true_eq, List.all_eq_true,
    List.any_eq_true, Bool.not_eq_true', List.any_eq_false, not_le, gt_iff_lt, not_lt,
    List.length_drop, List.length_take, Option.all_none, and_true, min_eq_left within,
    Nat.cast_sub within]
  constructor
  · rintro ⟨⟨⟨⟨⟨⟨risen, counted⟩, aboveAll⟩, someBelow⟩, counted'⟩, belowAll⟩, -⟩
    refine ⟨⟨⟨⟨⟨counted, aboveAll⟩, someBelow⟩, counted'⟩, belowAll⟩, ?_⟩
    obtain ⟨y, first, after⟩ := exists_mem_window positive counted
    have highest := le_max?_getD after
    refine lt_of_le_of_ne (not_lt.mp fun negative => ?_) nonzero.symm
    exact (div_neg_of_pos_of_neg (sub_pos.mpr ((aboveAll y first).trans_le highest)) negative).not_le risen
  · rintro ⟨⟨⟨⟨⟨counted, aboveAll⟩, someBelow⟩, counted'⟩, belowAll⟩, positive'⟩
    obtain ⟨y, first, after⟩ := exists_mem_window positive counted
    obtain ⟨x, before, below⟩ := someBelow
    have highest := le_max?_getD after
    have lowest := min?_getD_le before
    refine ⟨⟨⟨⟨⟨⟨div_nonneg (sub_nonneg.mpr ((aboveAll y first).le.trans highest)) positive'.le, counted⟩,
      aboveAll⟩, ⟨x, before, below⟩⟩, counted'⟩, belowAll⟩,
      div_nonneg (sub_nonneg.mpr (lowest.trans below.le)) positive'.le⟩

/-- **Crossover by order, with zero buffers.** With both buffers zero and no slope
check, on series the loop can read, `has_crossover_occurred` answers positively exactly
when the order conditions hold at the latest crossing of the trimmed series and the
crossing value there is positive, with the crossing's index from the end. -/
theorem hasCrossoverOccurred_zeroBuffers (positive : 0 < a ∧ 0 < b)
    (indexable : series2 ≠ [] ∨ series1 = [])
    (trimmed : trimToCommonLength series1 series2 = (trimmed1, trimmed2)) :
    hasCrossoverOccurred standardizedSlope series1 series2 a b 0 0 none returnCrossIndex =
      .ok (answerAtLatest (· ≤ ·) (· > ·) (fun i crossValue => getReturnValue
          (crossoverWindows trimmed1 a b i crossValue && decide (0 < crossValue))
          returnCrossIndex (some (crossIndexAt trimmed1.length i)))
        trimmed1 trimmed2 returnCrossIndex) := by
  rw [hasCrossoverOccurred_eq (validateArgs_eq_ok.mpr ⟨positive.1, positive.2, by norm_num, by norm_num⟩)
    indexable trimmed, answerAtLatest, answerAtLatest]
  cases found : latestCrossing (· ≤ ·) (· > ·) trimmed1 trimmed2 with
  | none => rfl
  | some i =>
    dsimp only
    rw [crossoverChecks_zeroBuffers positive.1 (latestCrossing_bounds found).2.le
      (crossValueAt_ne_zero _ _)]

/-- Below zero: `-3, -1` crosses the constant `-2` at its last value, where the order
conditions hold, and the detector answers `False`. -/
theorem hasCrossoverOccurred_negativeCross :
    latestCrossing (· ≤ ·) (· > ·) [-3, -1] [-2, -2] = some 1 ∧
      crossoverWindows [-3, -1] 1 1 1 (crossValueAt [-2, -2] 1) = true ∧
      hasCrossoverOccurred (fun _ => 0) [-3, -1] [-2, -2] 1 1 0 0 none false = .ok (.bare false) :=
  ⟨by decide, by decide,
    (hasCrossoverOccurred_zeroBuffers ⟨by decide, by decide⟩ (.inl (List.cons_ne_nil _ _)) rfl).trans
      (congrArg Except.ok (by decide))⟩

/-- **What a positive crossunder guarantees.** On series the loop can read and accepted
arguments, a positive answer of `has_crossunder_occurred` comes from a latest crossing
`i` with at least `min_values_below_cross` values from it on, the first of them at or
below the crossing value, at least `min_values_above_cross` values from it on (the
length of `series1[:-cross_index]`), the last `min_values_above_cross` values before it,
as many as there are, at or above it, and some value before it above it. -/
theorem hasCrossunderOccurred_sound
    (accepted : validateArgs a b bufferAbovePercent bufferBelowPercent = .ok ())
    (indexable : series2 ≠ [] ∨ series1 = [])
    (trimmed : trimToCommonLength series1 series2 = (trimmed1, trimmed2)) {result : CrossResult}
    (returned : hasCrossunderOccurred standardizedSlope series1 series2 a b bufferAbovePercent
      bufferBelowPercent minGradient returnCrossIndex = .ok result)
    (crossed : result.crossed = true) :
    ∃ i, latestCrossing (· ≥ ·) (· < ·) trimmed1 trimmed2 = some i ∧
      b ≤ (trimmed1.length : Int) - i ∧
      (∀ x ∈ (trimmed1.drop i).take b.toNat, x ≤ crossValueAt trimmed2 i) ∧
      a ≤ (trimmed1.length : Int) - i ∧
      (∀ x ∈ (trimmed1.take i).drop (i - a.toNat), crossValueAt trimmed2 i ≤ x) ∧
      ∃ x ∈ trimmed1.take i, crossValueAt trimmed2 i < x := by
  rw [hasCrossunderOccurred_eq accepted indexable trimmed, Except.ok.injEq] at returned
  subst returned
  rw [answerAtLatest] at crossed
  cases found : latestCrossing (· ≥ ·) (· < ·) trimmed1 trimmed2 with
  | none => simp [found] at crossed
  | some i =>
    have within := (latestCrossing_bounds found).2.le
    simp only [found, crossunderAnswer] at crossed
    split_ifs at crossed with afterFails noneAbove
    · simp at crossed
    · simp [CrossResult.crossed] at crossed
    · simp only [getReturnValue_crossed, crossunderBeforeChecks, Bool.and_eq_true, decide_eq_true_eq,
        Bool.not_eq_true', List.any_eq_false, List.length_drop, List.length_take, min_eq_left within,
        Nat.cast_sub within, not_lt] at crossed
      simp only [Bool.not_eq_true, Bool.not_eq_false'] at afterFails noneAbove
      simp only [crossunderAfterChecks, Bool.and_eq_true, decide_eq_true_eq, Bool.not_eq_true',
        List.any_eq_false, List.length_drop, Nat.cast_sub within, gt_iff_lt, not_lt] at afterFails
      simp only [List.any_eq_true, gt_iff_lt, decide_eq_true_eq] at noneAbove
      obtain ⟨⟨⟨counted, -⟩, high⟩, -⟩ := crossed
      exact ⟨i, rfl, afterFails.1.1, afterFails.2, by omega, high, noneAbove⟩

/-- One value before the crossunder where two are asked for: `2, 0, 0` crosses under the
constant `1` at position 1, and the detector answers `True` with `min_values_above_cross
= 2`, which the three values from the crossing on satisfy. -/
theorem hasCrossunderOccurred_sound_shortPrefix :
    hasCrossunderOccurred (fun _ => 0) [2, 0, 0] [1, 1, 1] 2 1 0 0 none false = .ok (.bare true) ∧
      latestCrossing (· ≥ ·) (· < ·) [2, 0, 0] [1, 1, 1] = some 1 ∧ ¬(2 : Int) ≤ 1 ∧
      (2 : Int) ≤ ([2, 0, 0] : Series).length - 1 := by
  have accepted : validateArgs 2 1 0 0 = .ok () := rfl
  have found : latestCrossing (· ≥ ·) (· < ·) [2, 0, 0] [1, 1, 1] = some 1 := by decide
  have returned : hasCrossunderOccurred (fun _ => 0) [2, 0, 0] [1, 1, 1] 2 1 0 0 none false =
      .ok (.bare true) := by
    have trimmed : trimToCommonLength [2, 0, 0] [1, 1, 1] = ([2, 0, 0], [1, 1, 1]) := rfl
    rw [hasCrossunderOccurred_eq accepted (.inl (List.cons_ne_nil _ _)) trimmed]
    norm_num [answerAtLatest, found, crossunderAnswer, crossunderAfterChecks, crossunderBeforeChecks,
      crossValueAt, getReturnValue]
  obtain ⟨i, found', -, -, counted, -⟩ :=
    hasCrossunderOccurred_sound accepted (.inl (List.cons_ne_nil _ _)) rfl returned rfl
  obtain rfl : i = 1 := Option.some.inj (found'.symm.trans found)
  exact ⟨returned, found, by decide, counted⟩

/-- **The crossunder detector's bare `False`.** On series the loop can read and accepted
arguments, when the values from the latest crossing on pass their checks and no value
before it is above the crossing value, `has_crossunder_occurred` returns a bare `False`,
also when `return_cross_index` asks for a pair. -/
theorem hasCrossunderOccurred_bare_false
    (accepted : validateArgs a b bufferAbovePercent bufferBelowPercent = .ok ())
    (indexable : series2 ≠ [] ∨ series1 = [])
    (trimmed : trimToCommonLength series1 series2 = (trimmed1, trimmed2)) {i : Nat}
    (found : latestCrossing (· ≥ ·) (· < ·) trimmed1 trimmed2 = some i)
    (afterPasses : crossunderAfterChecks trimmed1 b bufferBelowPercent i (crossValueAt trimmed2 i) = true)
    (noneAbove : (trimmed1.take i).any (· > crossValueAt trimmed2 i) = false) :
    hasCrossunderOccurred standardizedSlope series1 series2 a b bufferAbovePercent bufferBelowPercent
      minGradient returnCrossIndex = .ok (.bare false) := by
  rw [hasCrossunderOccurred_eq accepted indexable trimmed, answerAtLatest, found]
  simp only [crossunderAnswer, afterPasses, noneAbove, Bool.not_true, Bool.not_false,
    Bool.false_eq_true, ↓reduceIte]

/-- A crossunder with nothing above before it: `1, 0` crosses under the constant `1`, and
asked for a pair the detector answers a bare `False`. -/
theorem hasCrossunderOccurred_bare_false_flat :
    validateArgs 1 1 0 0 = .ok () ∧ latestCrossing (· ≥ ·) (· < ·) [1, 0] [1, 1] = some 1 ∧
      crossunderAfterChecks [1, 0] 1 0 1 (crossValueAt [1, 1] 1) = true ∧
      (([1, 0] : Series).take 1).any (· > crossValueAt [1, 1] 1) = false ∧
      hasCrossunderOccurred (fun _ => 0) [1, 0] [1, 1] 1 1 0 0 none true = .ok (.bare false) := by
  have accepted : validateArgs 1 1 0 0 = .ok () := rfl
  have found : latestCrossing (· ≥ ·) (· < ·) [1, 0] [1, 1] = some 1 := by decide
  have afterPasses : crossunderAfterChecks [1, 0] 1 0 1 (crossValueAt [1, 1] 1) = true := by
    norm_num [crossunderAfterChecks, crossValueAt]
  have noneAbove : (([1, 0] : Series).take 1).any (· > crossValueAt [1, 1] 1) = false := by decide
  exact ⟨accepted, found, afterPasses, noneAbove, hasCrossunderOccurred_bare_false accepted
    (.inl (List.cons_ne_nil _ _)) rfl found afterPasses noneAbove⟩

/-- **An empty second series.** Once the arguments pass `_validate_args`, against an
empty second series a first series of two values or more makes both detectors raise
`IndexError`: the length equalisation keeps the first series whole and the loop's first
comparison reads `series2.iloc[0]`. -/
theorem detectors_raise_indexError
    (accepted : validateArgs a b bufferAbovePercent bufferBelowPercent = .ok ())
    (long : 2 ≤ series1.length) :
    hasCrossoverOccurred standardizedSlope series1 [] a b bufferAbovePercent bufferBelowPercent
        minGradient returnCrossIndex = .error .indexError ∧
      hasCrossunderOccurred standardizedSlope series1 [] a b bufferAbovePercent bufferBelowPercent
        minGradient returnCrossIndex = .error .indexError := by
  have trimmed := trimToCommonLength_nil (List.ne_nil_of_length_pos (by omega : 0 < series1.length))
  constructor <;>
    simp only [hasCrossoverOccurred, hasCrossunderOccurred, trimmed, accepted, ok_bind_except,
      scan_nil_eq_error long, error_bind_except]

/-- Two rising values against an empty series raise in both detectors. -/
theorem detectors_raise_indexError_rising :
    validateArgs 1 1 0 0 = .ok () ∧ 2 ≤ ([1, 2] : Series).length ∧
      hasCrossoverOccurred (fun _ => 0) [1, 2] [] 1 1 0 0 none false = .error .indexError ∧
      hasCrossunderOccurred (fun _ => 0) [1, 2] [] 1 1 0 0 none false = .error .indexError :=
  have accepted : validateArgs 1 1 0 0 = .ok () := rfl
  ⟨accepted, by decide, detectors_raise_indexError accepted (by decide)⟩

/-- **The detectors raise nothing else.** On series the loop can read, with arguments
`_validate_args` accepts, both detectors return. -/
theorem detectors_return
    (accepted : validateArgs a b bufferAbovePercent bufferBelowPercent = .ok ())
    (indexable : series2 ≠ [] ∨ series1 = []) :
    (∃ result, hasCrossoverOccurred standardizedSlope series1 series2 a b bufferAbovePercent
        bufferBelowPercent minGradient returnCrossIndex = .ok result) ∧
      ∃ result, hasCrossunderOccurred standardizedSlope series1 series2 a b bufferAbovePercent
        bufferBelowPercent minGradient returnCrossIndex = .ok result :=
  ⟨⟨_, hasCrossoverOccurred_eq accepted indexable rfl⟩, ⟨_, hasCrossunderOccurred_eq accepted indexable rfl⟩⟩

/-- Both detectors return on a series rising through a constant. -/
theorem detectors_return_rising :
    validateArgs 1 1 0 0 = .ok () ∧ ([2, 2] : Series) ≠ [] ∧
      (∃ result, hasCrossoverOccurred (fun _ => 0) [1, 3] [2, 2] 1 1 0 0 none true = .ok result) ∧
      ∃ result, hasCrossunderOccurred (fun _ => 0) [1, 3] [2, 2] 1 1 0 0 none true = .ok result :=
  have accepted : validateArgs 1 1 0 0 = .ok () := rfl
  have indexable : ([2, 2] : Series) ≠ [] := List.cons_ne_nil _ _
  ⟨accepted, indexable, detectors_return accepted (.inl indexable)⟩

/-- **The crossover detector answers in the shape callers unpack.** Whatever its inputs,
an answer `has_crossover_occurred` returns is, with `return_cross_index`, a pair whose
index is missing exactly on `False`, and a bare bool otherwise. -/
theorem hasCrossoverOccurred_wellShaped {result : CrossResult}
    (returned : hasCrossoverOccurred standardizedSlope series1 series2 a b bufferAbovePercent
      bufferBelowPercent minGradient returnCrossIndex = .ok result) :
    result.WellShaped returnCrossIndex := by
  have accepted : validateArgs a b bufferAbovePercent bufferBelowPercent = .ok () := by
    simp only [hasCrossoverOccurred] at returned
    obtain ⟨⟨⟩, valid, -⟩ := except_bind_eq_ok.mp returned
    exact valid
  by_cases indexable : series2 ≠ [] ∨ series1 = []
  · rw [hasCrossoverOccurred_eq accepted indexable rfl, Except.ok.injEq] at returned
    subst returned
    unfold answerAtLatest
    split
    · exact getReturnValue_none_wellShaped _
    · exact getReturnValue_wellShaped _ _ _
  · rw [not_or, not_not] at indexable
    obtain ⟨rfl, nonempty⟩ := indexable
    rcases Nat.lt_or_ge series1.length 2 with short | long
    · simp only [hasCrossoverOccurred, trimToCommonLength_nil nonempty, accepted, ok_bind_except,
        scan_of_length_le_one (Nat.le_of_lt_succ short), pure_eq_ok_except] at returned
      exact returned ▸ getReturnValue_none_wellShaped _
    · simp only [hasCrossoverOccurred, trimToCommonLength_nil nonempty, accepted, ok_bind_except,
        scan_nil_eq_error long, error_bind_except] at returned
      cases returned

/-- Asked for a pair, the crossover detector answers `1, 3` rising through `2` with a
pair carrying the crossing's index. -/
theorem hasCrossoverOccurred_wellShaped_rising :
    hasCrossoverOccurred (fun _ => 0) [1, 3] [2, 2] 1 1 0 0 none true = .ok (.withIndex true (some (-1))) ∧
      (CrossResult.withIndex true (some (-1))).WellShaped true := by
  have returned : hasCrossoverOccurred (fun _ => 0) [1, 3] [2, 2] 1 1 0 0 none true =
      .ok (.withIndex true (some (-1))) := by
    have accepted : validateArgs 1 1 0 0 = .ok () := rfl
    have trimmed : trimToCommonLength [1, 3] [2, 2] = ([1, 3], [2, 2]) := rfl
    rw [hasCrossoverOccurred_eq accepted (.inl (List.cons_ne_nil _ _)) trimmed]
    have found : latestCrossing (· ≤ ·) (· > ·) [1, 3] [2, 2] = some 1 := by decide
    norm_num [answerAtLatest, found, crossoverChecks, crossValueAt, getReturnValue, crossIndexAt]
  exact ⟨returned, hasCrossoverOccurred_wellShaped returned⟩

end Crossover

end TradeExecutor
