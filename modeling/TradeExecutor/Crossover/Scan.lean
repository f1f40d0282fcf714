import TradeExecutor.Crossover.Detect

/-! # The crossing search

The detectors' loop walks the first series once and keeps overwriting its answer,
so it ends with the last crossing it saw. When every value it reads is in range (the
first series is no longer than the second), the loop's answer is the largest
crossing position (`TradeExecutor.Crossover.latestCrossing`), reported as its index
from the end with the second series' value there
(`TradeExecutor.Crossover.scan_eq`). When the second series is empty and the first
has two values or more, which the length equalisation allows, the loop's first
comparison reads past the end (`TradeExecutor.Crossover.scan_nil_eq_error`).
-/

namespace TradeExecutor

namespace Crossover

/-! ## Positional reads and slices -/

variable {series : Series} {i : Nat}

theorem getD_of_lt (h : i < series.length) : series.getD i 0 = series[i] := by
  rw [List.getD_eq_getElem?_getD, List.getElem?_eq_getElem h, Option.getD_some]

theorem iloc_of_lt (h : i < series.length) : iloc series i = .ok (series.getD i 0) := by
  rw [iloc, List.getElem?_eq_getElem h, getD_of_lt h]

/-- `series.iloc[cross_index:]` at a crossing `i` keeps the values from `i` on. -/
theorem ilocFrom_crossing (h : i < series.length) :
    ilocFrom series (-((series.length : Int) - i)) = series.drop i := by
  unfold ilocFrom sliceBound
  rw [if_pos (by omega)]
  congr 1
  omega

/-- `series.iloc[:cross_index]` at a crossing `i` keeps the values before `i`. -/
theorem ilocTo_crossing (h : i < series.length) :
    ilocTo series (-((series.length : Int) - i)) = series.take i := by
  unfold ilocTo sliceBound
  rw [if_pos (by omega)]
  congr 1
  omega

/-- A slice up to a nonnegative bound keeps that many values. -/
theorem ilocTo_of_nonneg {stop : Int} (nonneg : 0 ≤ stop) : ilocTo series stop = series.take stop.toNat := by
  unfold ilocTo sliceBound
  rw [if_neg (not_lt.mpr nonneg), ← List.take_take, List.take_length]

/-- A slice from a negative bound keeps that many values at the end. -/
theorem ilocFrom_of_neg {count : Int} (positive : 0 < count) :
    ilocFrom series (-count) = series.drop (series.length - count.toNat) := by
  unfold ilocFrom sliceBound
  rw [if_pos (by omega)]
  congr 1
  omega

/-- The length equalisation leaves the first series no longer than the second,
unless the second is empty and the first is not. -/
theorem trimToCommonLength_length_le {series1 series2 : Series}
    (indexable : series2 ≠ [] ∨ series1 = []) :
    (trimToCommonLength series1 series2).1.length ≤ (trimToCommonLength series1 series2).2.length := by
  have nonempty : series2.length = 0 → series1.length = 0 := by
    rcases indexable with nonempty | empty
    · exact fun zero => absurd (List.length_eq_zero.mp zero) nonempty
    · exact fun _ => by rw [empty, List.length_nil]
  unfold trimToCommonLength ilocFrom sliceBound
  split_ifs <;> simp only [List.length_drop] <;> omega

/-- Against an empty second series the first is kept whole: `iloc[-0:]` is the
whole series. -/
theorem trimToCommonLength_nil {series1 : Series} (nonempty : series1 ≠ []) :
    trimToCommonLength series1 [] = (series1, []) := by
  have positive : 0 < series1.length := List.length_pos.mpr nonempty
  simp only [trimToCommonLength, List.length_nil, Nat.not_lt_zero, if_false, positive, if_true,
    Nat.cast_zero, neg_zero, ilocFrom, sliceBound, lt_irrefl, Int.toNat_zero, Nat.zero_min,
    List.drop_zero]

/-! ## The latest crossing -/

/-- The largest position below `bound` that `p` accepts. -/
def latestBelow (p : Nat → Bool) : Nat → Option Nat
  | 0 => none
  | bound + 1 => if p bound then some bound else latestBelow p bound

theorem latestBelow_eq_some_iff {p : Nat → Bool} {bound position : Nat} :
    latestBelow p bound = some position ↔
      position < bound ∧ p position ∧ ∀ j < bound, p j → j ≤ position := by
  induction bound with
  | zero => simp [latestBelow]
  | succ bound ih =>
    unfold latestBelow
    split_ifs with accepted
    · constructor
      · rintro ⟨⟩
        exact ⟨Nat.lt_succ_self _, accepted, fun j below _ => Nat.le_of_lt_succ below⟩
      · rintro ⟨below, found, latest⟩
        exact congrArg some (le_antisymm (latest bound (by omega) accepted) (Nat.le_of_lt_succ below))
    · rw [ih]
      constructor
      · rintro ⟨below, found, latest⟩
        refine ⟨by omega, found, fun j below' accepts => ?_⟩
        rcases Nat.lt_succ_iff_lt_or_eq.mp below' with below' | rfl
        · exact latest j below' accepts
        · exact absurd accepts accepted
      · rintro ⟨below, found, latest⟩
        have : position ≠ bound := fun same => accepted (same ▸ found)
        exact ⟨by omega, found, fun j below' => latest j (by omega)⟩

/-- Position `i` of two series is a crossing: `wasBefore` holds of their values at
`i - 1` and `isAfter` of their values at `i`. -/
def isCrossing (wasBefore isAfter : ℚ → ℚ → Bool) (series1 series2 : Series) (i : Nat) : Bool :=
  0 < i && i < series1.length && wasBefore (series1.getD (i - 1) 0) (series2.getD (i - 1) 0) &&
    isAfter (series1.getD i 0) (series2.getD i 0)

/-- The largest crossing position of the two series. -/
def latestCrossing (wasBefore isAfter : ℚ → ℚ → Bool) (series1 series2 : Series) : Option Nat :=
  latestBelow (isCrossing wasBefore isAfter series1 series2) series1.length

/-- `cross_value` at position `i`: the second series' value there, or `epsilon` for
zero. -/
def crossValueAt (series2 : Series) (i : Nat) : ℚ :=
  if series2.getD i 0 = 0 then epsilon else series2.getD i 0

/-- What the loop keeps for a crossing at position `i` of series of length `length`:
`cross_index = -(length - i)` and `cross_value`. -/
def crossingAt (length : Nat) (series2 : Series) (i : Nat) : Int × ℚ :=
  (-((length : Int) - i), crossValueAt series2 i)

theorem crossValueAt_ne_zero (series2 : Series) (i : Nat) : crossValueAt series2 i ≠ 0 := by
  unfold crossValueAt epsilon
  split_ifs with zero
  · norm_num
  · exact zero

/-- The latest crossing is inside the series and not at its first position. -/
theorem latestCrossing_bounds {wasBefore isAfter : ℚ → ℚ → Bool} {series1 series2 : Series}
    {position : Nat} (found : latestCrossing wasBefore isAfter series1 series2 = some position) :
    0 < position ∧ position < series1.length := by
  obtain ⟨below, crossing, -⟩ := latestBelow_eq_some_iff.mp found
  simp only [isCrossing, Bool.and_eq_true, decide_eq_true_eq] at crossing
  exact ⟨crossing.1.1.1, below⟩

/-! ## The loop -/

section Loop

variable {wasBefore isAfter : ℚ → ℚ → Bool} {series1 series2 : Series}

/-- One iteration at a position the loop can read: it keeps the crossing there if
there is one, and the earlier answer otherwise. -/
theorem scanStep_of_lt (indexable : series1.length ≤ series2.length) (h : i < series1.length)
    (found : Option (Int × ℚ)) :
    scanStep wasBefore isAfter series1 series2 found i (series1.getD i 0) =
      .ok (if isCrossing wasBefore isAfter series1 series2 i then
        some (crossingAt series1.length series2 i) else found) := by
  cases i with
  | zero => rfl
  | succ k =>
    have first : iloc series1 k = .ok (series1.getD k 0) := iloc_of_lt (by omega)
    have second : iloc series2 k = .ok (series2.getD k 0) := iloc_of_lt (by omega)
    have current : iloc series2 (k + 1) = .ok (series2.getD (k + 1) 0) := iloc_of_lt (by omega)
    simp only [scanStep, Nat.add_one_ne_zero, if_false, Nat.add_sub_cancel, first, second, current,
      ok_bind_except, pure_bind, isCrossing, Nat.succ_pos, h, decide_True, Bool.true_and]
    cases wasBefore (series1.getD k 0) (series2.getD k 0) <;>
      cases isAfter (series1.getD (k + 1) 0) (series2.getD (k + 1) 0) <;> rfl

/-- **The loop finds the latest crossing.** Run from position `k` on, with the answer
for the positions before `k`, the loop ends with the answer for the whole series. -/
theorem scanFrom_drop (indexable : series1.length ≤ series2.length) :
    ∀ {k : Nat} {rest : Series}, series1.drop k = rest → k ≤ series1.length →
      scanFrom wasBefore isAfter series1 series2 k rest
          ((latestBelow (isCrossing wasBefore isAfter series1 series2) k).map
            (crossingAt series1.length series2)) =
        .ok ((latestCrossing wasBefore isAfter series1 series2).map
          (crossingAt series1.length series2)) := by
  intro k rest suffix
  induction rest generalizing k with
  | nil =>
    intro within
    have : k = series1.length := by
      have := congrArg List.length suffix
      rw [List.length_drop, List.length_nil] at this
      omega
    subst this
    rfl
  | cons x rest ih =>
    intro _
    have h : k < series1.length := by
      by_contra beyond
      rw [List.drop_eq_nil_of_le (by omega)] at suffix
      exact List.cons_ne_nil _ _ suffix.symm
    rw [List.drop_eq_getElem_cons h, List.cons.injEq] at suffix
    obtain ⟨rfl, rest_eq⟩ := suffix
    rw [scanFrom, ← getD_of_lt h, scanStep_of_lt indexable h, ok_bind_except, ← ih rest_eq h,
      latestBelow]
    split_ifs <;> rfl

/-- The loop, run on series it can read, ends with the latest crossing. -/
theorem scan_eq (indexable : series1.length ≤ series2.length) :
    scan wasBefore isAfter series1 series2 =
      .ok ((latestCrossing wasBefore isAfter series1 series2).map
        (crossingAt series1.length series2)) :=
  scanFrom_drop indexable (List.drop_zero _) (Nat.zero_le _)

/-- A series of at most one value has no crossing, whatever the second series. -/
theorem scan_of_length_le_one (short : series1.length ≤ 1) :
    scan wasBefore isAfter series1 series2 = .ok none := by
  match series1, short with
  | [], _ => rfl
  | [_], _ => rfl

/-- Against an empty second series, a first series of two values or more makes the
loop's first comparison read past the end. -/
theorem scan_nil_eq_error (long : 2 ≤ series1.length) :
    scan wasBefore isAfter series1 [] = .error .indexError := by
  match series1, long with
  | _ :: _ :: _, _ => rfl

end Loop

end Crossover

end TradeExecutor
