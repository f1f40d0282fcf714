import TradeExecutor.State.Portfolio

/-! # The treasury ledger

What the treasury code does to a portfolio, stated without the vault: each
balance update takes the next id and moves the quantity of the holder it belongs
to by its delta (`TradeExecutor.LedgerStep`); a run of them may begin by opening the
reserve position (`TradeExecutor.LedgerRun`). Over any run each holder's quantity
moves by the sum of its updates' deltas and the updates chain from its quantity
(`TradeExecutor.LedgerRun.holderQuantity_eq`, `TradeExecutor.LedgerRun.chained`),
the ids are the consecutive range from the starting counter
(`TradeExecutor.LedgerRun.ids_eq_range'`), and each id is appended to its holder's
list alone (`TradeExecutor.LedgerRun.holderBalanceUpdates_eq`).
-/

namespace TradeExecutor

namespace Portfolio

variable {portfolio : Portfolio} {holder : Holder} {delta : ℚ}

/-- Take the next balance-update id and apply a treasury update under it. -/
def recordUpdate (portfolio : Portfolio) (holder : Holder) (delta : ℚ) : Portfolio :=
  ({ portfolio with nextBalanceUpdateId := portfolio.nextBalanceUpdateId + 1 }).applyToHolder
    holder delta portfolio.nextBalanceUpdateId

@[simp] theorem recordUpdate_nextBalanceUpdateId :
    (portfolio.recordUpdate holder delta).nextBalanceUpdateId =
      portfolio.nextBalanceUpdateId + 1 := by
  simp [recordUpdate]

/-- The counters play no part in the holders. -/
@[simp] theorem holderState?_setNextBalanceUpdateId (n : Nat) (other : Holder) :
    ({ portfolio with nextBalanceUpdateId := n }).holderState? other =
      portfolio.holderState? other := by
  cases other <;> rfl

/-- A recorded update moves its own holder, if present, and no other. -/
theorem holderQuantity_recordUpdate (present : (portfolio.holderState? holder).isSome)
    (other : Holder) :
    (portfolio.recordUpdate holder delta).holderQuantity other =
      portfolio.holderQuantity other + if holder = other then delta else 0 := by
  unfold recordUpdate holderQuantity
  by_cases same : holder = other
  · subst same
    obtain ⟨⟨q, ids⟩, found⟩ := Option.isSome_iff_exists.mp present
    rw [holderState?_applyToHolder_self, holderState?_setNextBalanceUpdateId, found]
    simp
  · rw [holderState?_applyToHolder_of_ne (Ne.symm same), holderState?_setNextBalanceUpdateId]
    simp [same]

/-- A recorded update appends its id to its own holder, if present, and to no other. -/
theorem holderBalanceUpdates_recordUpdate (present : (portfolio.holderState? holder).isSome)
    (other : Holder) :
    (portfolio.recordUpdate holder delta).holderBalanceUpdates other =
      portfolio.holderBalanceUpdates other ++
        if holder = other then [portfolio.nextBalanceUpdateId] else [] := by
  unfold recordUpdate holderBalanceUpdates
  by_cases same : holder = other
  · subst same
    obtain ⟨⟨q, ids⟩, found⟩ := Option.isSome_iff_exists.mp present
    rw [holderState?_applyToHolder_self, holderState?_setNextBalanceUpdateId, found]
    simp
  · rw [holderState?_applyToHolder_of_ne (Ne.symm same), holderState?_setNextBalanceUpdateId]
    simp [same]

/-- Opening the reserve of an empty portfolio shows a reserve of nothing with no
updates, which is what an absent holder reads as. -/
theorem holderQuantity_initialiseReserves (empty : portfolio.reserves = [])
    (asset : AssetIdentifier) (other : Holder) :
    (portfolio.initialiseReserves asset).holderQuantity other = portfolio.holderQuantity other ∧
      (portfolio.initialiseReserves asset).holderBalanceUpdates other =
        portfolio.holderBalanceUpdates other := by
  cases other with
  | reserve address =>
    simp only [holderQuantity, holderBalanceUpdates, holderState?, getReserve?, initialiseReserves,
      empty, List.find?_cons, List.find?_nil]
    split <;> simp
  | position positionId => exact ⟨rfl, rfl⟩

end Portfolio

/-- One treasury balance update applied to a portfolio: it takes the next id, its
holder is present, it starts from the holder's quantity and moves it by its delta. -/
structure LedgerStep (portfolio : Portfolio) (update : BalanceUpdate) (after : Portfolio) :
    Prop where
  fresh : update.balanceUpdateId = portfolio.nextBalanceUpdateId
  present : (portfolio.holderState? update.holder).isSome
  past : update.pastQuantity = portfolio.holderQuantity update.holder
  applied : after = portfolio.recordUpdate update.holder update.delta

/-- A run of treasury updates, possibly opening the reserve of an empty portfolio
on the way. -/
inductive LedgerRun : Portfolio → List BalanceUpdate → Portfolio → Prop
  | nil (portfolio : Portfolio) : LedgerRun portfolio [] portfolio
  | step {portfolio middle after : Portfolio} {update : BalanceUpdate}
      {updates : List BalanceUpdate} :
      LedgerStep portfolio update middle → LedgerRun middle updates after →
        LedgerRun portfolio (update :: updates) after
  | openReserve {portfolio after : Portfolio} {updates : List BalanceUpdate}
      (asset : AssetIdentifier) : portfolio.reserves = [] →
        LedgerRun (portfolio.initialiseReserves asset) updates after →
          LedgerRun portfolio updates after

/-- The updates of one holder chain: each starts where the previous one ended, the
first where the holder stood. -/
def Chained : ℚ → List BalanceUpdate → Prop
  | _, [] => True
  | quantity, update :: rest => update.pastQuantity = quantity ∧ Chained update.newQuantity rest

namespace LedgerRun

variable {portfolio after : Portfolio} {updates : List BalanceUpdate}

/-- Runs compose. -/
theorem append {middle : Portfolio} {more : List BalanceUpdate}
    (first : LedgerRun portfolio updates middle) (second : LedgerRun middle more after) :
    LedgerRun portfolio (updates ++ more) after := by
  induction first with
  | nil => exact second
  | step step _ ih => exact .step step (ih second)
  | openReserve asset empty _ ih => exact .openReserve asset empty (ih second)

/-- The counter ends one past the last id taken. -/
theorem nextBalanceUpdateId_eq (run : LedgerRun portfolio updates after) :
    after.nextBalanceUpdateId = portfolio.nextBalanceUpdateId + updates.length := by
  induction run with
  | nil => rfl
  | step step _ ih => rw [ih, step.applied]; simp; omega
  | openReserve _ _ _ ih => exact ih

/-- The ids are the consecutive range from the starting counter, in order. -/
theorem ids_eq_range' (run : LedgerRun portfolio updates after) :
    updates.map (·.balanceUpdateId) =
      List.range' portfolio.nextBalanceUpdateId updates.length := by
  induction run with
  | nil => rfl
  | step step _ ih => rw [List.map_cons, ih, step.applied, step.fresh]; simp [List.range'_succ]
  | openReserve _ _ _ ih => exact ih

/-- Every id a run takes lies between the starting and the final counter. -/
theorem id_mem_range (run : LedgerRun portfolio updates after) {update : BalanceUpdate}
    (member : update ∈ updates) :
    portfolio.nextBalanceUpdateId ≤ update.balanceUpdateId ∧
      update.balanceUpdateId < after.nextBalanceUpdateId := by
  have ranged : update.balanceUpdateId ∈
      List.range' portfolio.nextBalanceUpdateId updates.length := by
    rw [← run.ids_eq_range']
    exact List.mem_map_of_mem _ member
  rw [List.mem_range'_1] at ranged
  rw [run.nextBalanceUpdateId_eq]
  exact ranged

/-- Every holder's quantity moves by exactly the deltas of its own updates. -/
theorem holderQuantity_eq (run : LedgerRun portfolio updates after) (holder : Holder) :
    after.holderQuantity holder = portfolio.holderQuantity holder +
      ((updates.filter (·.holder = holder)).map (·.delta)).sum := by
  induction run with
  | nil => simp
  | @step _ _ _ update _ step _ ih =>
    rw [ih, step.applied, Portfolio.holderQuantity_recordUpdate step.present]
    by_cases same : update.holder = holder <;> simp [same, List.filter_cons, add_assoc]
  | openReserve asset empty _ ih =>
    rw [ih, (Portfolio.holderQuantity_initialiseReserves empty asset holder).1]

/-- Every holder's id list grows by exactly the ids of its own updates. -/
theorem holderBalanceUpdates_eq (run : LedgerRun portfolio updates after) (holder : Holder) :
    after.holderBalanceUpdates holder = portfolio.holderBalanceUpdates holder ++
      (updates.filter (·.holder = holder)).map (·.balanceUpdateId) := by
  induction run with
  | nil => simp
  | @step _ _ _ update _ step _ ih =>
    rw [ih, step.applied, Portfolio.holderBalanceUpdates_recordUpdate step.present]
    by_cases same : update.holder = holder <;> simp [same, List.filter_cons, step.fresh]
  | openReserve asset empty _ ih =>
    rw [ih, (Portfolio.holderQuantity_initialiseReserves empty asset holder).2]

/-- Every holder's updates chain from its starting quantity. -/
theorem chained (run : LedgerRun portfolio updates after) (holder : Holder) :
    Chained (portfolio.holderQuantity holder) (updates.filter (·.holder = holder)) := by
  induction run with
  | nil => trivial
  | @step portfolio middle _ update _ step _ ih =>
    have moved := congrArg (·.holderQuantity holder) step.applied
    simp only [Portfolio.holderQuantity_recordUpdate step.present] at moved
    by_cases same : update.holder = holder
    · subst same
      simp only [List.filter_cons, decide_True, ↓reduceIte, Chained]
      refine ⟨step.past, ?_⟩
      simpa [moved, BalanceUpdate.delta, step.past] using ih
    · simpa [List.filter_cons, same, moved] using ih
  | openReserve asset empty _ ih =>
    rwa [(Portfolio.holderQuantity_initialiseReserves empty asset holder).1] at ih

end LedgerRun

end TradeExecutor
