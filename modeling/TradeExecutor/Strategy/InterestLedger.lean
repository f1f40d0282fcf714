import TradeExecutor.Strategy.Accrual

/-! # The interest ledger telescopes

`update_interest` books the gain of an aToken or vToken since its tracker's last
token amount and then moves the tracker to the new amount
(`TradeExecutor.updateInterest_books`). Over any run of returning calls on one
position's asset, each made on the portfolio the previous call returned, with
anything done in between leaving that asset's tracker as the call left it
(`TradeExecutor.InterestSyncs`), each balance update starts where the previous call
left the tracker, books the difference, and the booked quantities add up to the
tracker's total move (`TradeExecutor.interestSyncs_telescope`).

On a loan, a call moves the tracker of the side that holds the asset and leaves the
other side's tracker as it was (`TradeExecutor.updateInterest_books_sides`), so two
calls on the two sides of one loan compose.
-/

namespace TradeExecutor

/-- The loan side and tracker `update_interest`'s lookups reach for an asset of a
position. -/
def Portfolio.BooksInterest (portfolio : Portfolio) (positionId : Nat) (asset : AssetIdentifier)
    (side : LoanSide) (interest : Interest) : Prop :=
  ∃ position loan, portfolio.getPositionById? positionId = some position ∧
    (position.isOpen || position.isFrozen) = true ∧ position.loan = some loan ∧
    loan.interestFor asset = some (side, some interest)

/-- The tracker `update_interest`'s lookups reach for an asset of a position, if any:
the position is open or frozen, holds a loan, and the loan tracks the asset. -/
def Portfolio.trackedInterest (portfolio : Portfolio) (positionId : Nat) (asset : AssetIdentifier) :
    Option Interest :=
  match portfolio.getPositionById? positionId with
  | some position =>
    if (position.isOpen || position.isFrozen) = true then
      (position.loan.bind (·.interestFor asset)).bind Prod.snd
    else none
  | none => none

/-- The tracker `update_interest` leaves: moved to the new token amount, stamped
with the event's time and block. -/
def Interest.synced (interest : Interest) (newTokenAmount : ℚ) (eventAt : Nat)
    (blockNumber : Option Nat) : Interest :=
  { interest with
    lastUpdatedAt := eventAt
    lastEventAt := eventAt
    lastUpdatedBlockNumber := blockNumber
    lastTokenAmount := newTokenAmount }

@[simp] theorem Interest.synced_lastTokenAmount (interest : Interest) (newTokenAmount : ℚ)
    (eventAt : Nat) (blockNumber : Option Nat) :
    (interest.synced newTokenAmount eventAt blockNumber).lastTokenAmount = newTokenAmount := rfl

/-- The gain check of `update_interest`: nonzero and below 999 tokens. -/
def Interest.AcceptsGain (interest : Interest) (newTokenAmount : ℚ) : Prop :=
  0 < |newTokenAmount - interest.lastTokenAmount| ∧ |newTokenAmount - interest.lastTokenAmount| < 999

instance (interest : Interest) (newTokenAmount : ℚ) : Decidable (interest.AcceptsGain newTokenAmount) :=
  inferInstanceAs (Decidable (_ ∧ _))

/-- The lookups reach a tracker exactly when they reach it on some side of the loan. -/
theorem Portfolio.trackedInterest_eq_some {portfolio : Portfolio} {positionId : Nat}
    {asset : AssetIdentifier} {interest : Interest} :
    portfolio.trackedInterest positionId asset = some interest ↔
      ∃ side, portfolio.BooksInterest positionId asset side interest := by
  unfold trackedInterest BooksInterest
  constructor
  · intro tracked
    split at tracked
    · rename_i position live
      split_ifs at tracked with active
      obtain ⟨⟨side, _⟩, found, rfl⟩ := Option.bind_eq_some.mp tracked
      obtain ⟨loan, loaned, booked⟩ := Option.bind_eq_some.mp found
      exact ⟨side, position, loan, live, active, loaned, booked⟩
    · cases tracked
  · rintro ⟨side, position, loan, live, active, loaned, booked⟩
    simp [live, active, loaned, booked]

@[simp] theorem Loan.setInterest_collateral (loan : Loan) (side : LoanSide) (interest : Interest) :
    (loan.setInterest side interest).collateral = loan.collateral := by
  cases side <;> rfl

@[simp] theorem Loan.setInterest_borrowed (loan : Loan) (side : LoanSide) (interest : Interest) :
    (loan.setInterest side interest).borrowed = loan.borrowed := by
  cases side <;> rfl

/-- Replacing the tracker a loan books an asset under keeps the asset on that side. -/
theorem Loan.interestFor_setInterest {loan : Loan} {asset : AssetIdentifier} {side : LoanSide}
    {tracked : Option Interest} (found : loan.interestFor asset = some (side, tracked))
    (interest : Interest) :
    (loan.setInterest side interest).interestFor asset = some (side, some interest) := by
  unfold interestFor at found ⊢
  rw [setInterest_collateral, setInterest_borrowed]
  split_ifs at found ⊢
  · obtain ⟨rfl, -⟩ := Prod.mk.inj (Option.some.inj found)
    rfl
  · cases borrowed : loan.borrowed with
    | none => simp [borrowed] at found
    | some debt =>
      simp only [borrowed] at found ⊢
      split_ifs at found ⊢
      obtain ⟨rfl, -⟩ := Prod.mk.inj (Option.some.inj found)
      rfl

section Sync

variable {portfolio after : Portfolio} {positionId : Nat} {asset other : AssetIdentifier}
  {newTokenAmount : ℚ} {eventAt : Nat} {blockNumber txHash logIndex : Option Nat}
  {side side' : LoanSide} {interest interest' : Interest} {update : BalanceUpdate}

/-- What a returning `update_interest` did: it spent the next balance-update id on the
event booking the gain from the tracker's last token amount, appended the event to
the position and moved the tracker of the asset's side to the new amount. -/
theorem updateInterest_eq_ok {position : TradingPosition} {loan : Loan}
    (live : portfolio.getPositionById? positionId = some position)
    (active : (position.isOpen || position.isFrozen) = true) (loaned : position.loan = some loan)
    (tracked : loan.interestFor asset = some (side, some interest))
    (returned : updateInterest positionId asset newTokenAmount eventAt blockNumber txHash logIndex
      portfolio = .ok update after) :
    update.balanceUpdateId = portfolio.nextBalanceUpdateId ∧
      update.oldBalance = interest.lastTokenAmount ∧
      update.quantity = newTokenAmount - interest.lastTokenAmount ∧
      after = ({ portfolio with nextBalanceUpdateId := portfolio.nextBalanceUpdateId + 1 } :
        Portfolio).modifyPosition positionId fun p => { p.addBalanceUpdateEvent update with
          loan := some (loan.setInterest side (interest.synced newTokenAmount eventAt blockNumber)) } := by
  unfold updateInterest at returned
  simp only [get_bind, live, pyAssert_bind, active, if_true, loaned, tracked, modify_bind] at returned
  split_ifs at returned
  simp only [pure_apply, EStateM.Result.ok.injEq] at returned
  obtain ⟨rfl, rfl⟩ := returned
  exact ⟨rfl, rfl, rfl, rfl⟩

/-- Where a returning `update_interest` leaves the portfolio's counter and the position:
one id spent, the event appended and the loan's tracker moved. -/
theorem getPositionById?_of_updateInterest {position : TradingPosition} {loan : Loan}
    (live : portfolio.getPositionById? positionId = some position)
    (active : (position.isOpen || position.isFrozen) = true) (loaned : position.loan = some loan)
    (tracked : loan.interestFor asset = some (side, some interest))
    (returned : updateInterest positionId asset newTokenAmount eventAt blockNumber txHash logIndex
      portfolio = .ok update after) :
    after.nextBalanceUpdateId = portfolio.nextBalanceUpdateId + 1 ∧
      after.getPositionById? positionId = some { position.addBalanceUpdateEvent update with
        loan := some (loan.setInterest side (interest.synced newTokenAmount eventAt blockNumber)) } := by
  obtain ⟨-, -, -, rfl⟩ := updateInterest_eq_ok live active loaned tracked returned
  rw [Portfolio.getPositionById?_modifyPosition_self (by intro; rfl)]
  exact ⟨Portfolio.modifyPosition_nextBalanceUpdateId .., congrArg _ live⟩

/-- A returning `update_interest` books the gain over the tracker's last token amount,
starting from that amount, and leaves the tracker synced to the new amount. -/
theorem updateInterest_books (tracks : portfolio.trackedInterest positionId asset = some interest)
    (returned : updateInterest positionId asset newTokenAmount eventAt blockNumber txHash logIndex
      portfolio = .ok update after) :
    update.oldBalance = interest.lastTokenAmount ∧
      update.quantity = newTokenAmount - interest.lastTokenAmount ∧
      after.trackedInterest positionId asset = some (interest.synced newTokenAmount eventAt blockNumber) := by
  obtain ⟨side, position, loan, live, active, loaned, tracked⟩ :=
    Portfolio.trackedInterest_eq_some.mp tracks
  obtain ⟨-, old, booked, -⟩ := updateInterest_eq_ok live active loaned tracked returned
  obtain ⟨-, found⟩ := getPositionById?_of_updateInterest live active loaned tracked returned
  exact ⟨old, booked, Portfolio.trackedInterest_eq_some.mpr
    ⟨side, _, _, found, active, rfl, Loan.interestFor_setInterest tracked _⟩⟩

/-- Past its lookups, `update_interest` returns when the gain passes its check. -/
theorem updateInterest_returns (tracks : portfolio.trackedInterest positionId asset = some interest)
    (sane : interest.AcceptsGain newTokenAmount) :
    ∃ update after, updateInterest positionId asset newTokenAmount eventAt blockNumber txHash
      logIndex portfolio = .ok update after :=
  let ⟨_, _, _, live, active, loaned, tracked⟩ := Portfolio.trackedInterest_eq_some.mp tracks
  (updateInterest_eq_ok_iff live active loaned tracked).mpr sane

end Sync

/-- A run of `update_interest` calls on one position's asset that all return: the new
token amounts with the balance updates they produced, and the portfolio the run ends
with. Each call is made on the portfolio the previous call returned, up to changes in
between that leave the asset's tracker as that call left it. -/
def InterestSyncs (positionId : Nat) (asset : AssetIdentifier) :
    Portfolio → List (ℚ × BalanceUpdate) → Portfolio → Prop
  | portfolio, [], final => final = portfolio
  | portfolio, (newTokenAmount, update) :: rest, final =>
    ∃ (eventAt : Nat) (blockNumber txHash logIndex : Option Nat) (after next : Portfolio),
      updateInterest positionId asset newTokenAmount eventAt blockNumber txHash logIndex portfolio =
        .ok update after ∧
      next.trackedInterest positionId asset = after.trackedInterest positionId asset ∧
      InterestSyncs positionId asset next rest final

/-- The booked updates chain: each starts at the previous call's new token amount, the
first at the tracker's amount, and books the difference. -/
def InterestChained : ℚ → List (ℚ × BalanceUpdate) → Prop
  | _, [] => True
  | oldBalance, (newTokenAmount, update) :: rest =>
    update.oldBalance = oldBalance ∧ update.quantity = newTokenAmount - oldBalance ∧
      InterestChained newTokenAmount rest

/-- **The per-position interest ledger telescopes.** Over any run of returning
`update_interest` calls on one position's asset, each on the portfolio the previous
call left, with nothing else touching the asset's tracker in between, each balance
update starts at the previous call's new token amount and books the difference, and
the booked quantities sum to the final tracker's amount less the initial one. -/
theorem interestSyncs_telescope {positionId : Nat} {asset : AssetIdentifier}
    {portfolio final : Portfolio} {initial : Interest} {calls : List (ℚ × BalanceUpdate)}
    (tracks : portfolio.trackedInterest positionId asset = some initial)
    (syncs : InterestSyncs positionId asset portfolio calls final) :
    ∃ last, final.trackedInterest positionId asset = some last ∧
      InterestChained initial.lastTokenAmount calls ∧
      (calls.map (·.2.quantity)).sum = last.lastTokenAmount - initial.lastTokenAmount := by
  induction calls generalizing portfolio initial with
  | nil =>
    subst syncs
    exact ⟨initial, tracks, trivial, (sub_self _).symm⟩
  | cons call rest ih =>
    obtain ⟨_, _, _, _, after, next, returned, between, later⟩ := syncs
    obtain ⟨old, booked, moved⟩ := updateInterest_books tracks returned
    obtain ⟨last, ended, chained, total⟩ := ih (between.trans moved) later
    rw [Interest.synced_lastTokenAmount] at chained total
    refine ⟨last, ended, ⟨old, booked, chained⟩, ?_⟩
    rw [List.map_cons, List.sum_cons, total, booked]
    ring

/-- The telescoping at two syncs of the aUSDC supply of 100, to 101 and then to 102. -/
theorem interestSyncs_telescope_usdcSupply :
    ∃ first second final,
      (creditSupplyPortfolio aUsdc 100).trackedInterest 1 aUsdc = some (Interest.openNew 100 0) ∧
      InterestSyncs 1 aUsdc (creditSupplyPortfolio aUsdc 100) [(101, first), (102, second)] final ∧
      ∃ last, final.trackedInterest 1 aUsdc = some last ∧
        InterestChained (Interest.openNew 100 0).lastTokenAmount [(101, first), (102, second)] ∧
        ([(101, first), (102, second)].map (·.2.quantity)).sum =
          last.lastTokenAmount - (Interest.openNew 100 0).lastTokenAmount := by
  have tracks : (creditSupplyPortfolio aUsdc 100).trackedInterest 1 aUsdc =
      some (Interest.openNew 100 0) := rfl
  obtain ⟨first, after, booked⟩ : ∃ update after, updateInterest 1 aUsdc 101 1 none none none
      (creditSupplyPortfolio aUsdc 100) = .ok update after :=
    updateInterest_returns tracks (by norm_num [Interest.AcceptsGain, Interest.openNew])
  have synced := (updateInterest_books tracks booked).2.2
  obtain ⟨second, final, booked'⟩ : ∃ update after', updateInterest 1 aUsdc 102 2 none none none
      after = .ok update after' :=
    updateInterest_returns synced (by norm_num [Interest.AcceptsGain, Interest.openNew, Interest.synced])
  have syncs : InterestSyncs 1 aUsdc (creditSupplyPortfolio aUsdc 100) [(101, first), (102, second)]
      final := ⟨1, none, none, none, after, after, booked, rfl, 2, none, none, none, final, final,
        booked', rfl, rfl⟩
  exact ⟨first, second, final, tracks, syncs, interestSyncs_telescope tracks syncs⟩

/-! ## The two sides of a loan -/

/-- Replacing the tracker of one side of a loan leaves what the loan books on the
other side. -/
theorem Loan.interestFor_setInterest_of_ne {loan : Loan} {asset other : AssetIdentifier}
    {side side' : LoanSide} {tracked tracked' : Option Interest}
    (found : loan.interestFor asset = some (side, tracked))
    (kept : loan.interestFor other = some (side', tracked')) (differ : side ≠ side')
    (interest : Interest) :
    (loan.setInterest side interest).interestFor other = some (side', tracked') := by
  unfold interestFor at found kept ⊢
  rw [setInterest_collateral, setInterest_borrowed]
  cases side <;> cases side'
  case collateral.collateral | borrowed.borrowed => exact absurd rfl differ
  case collateral.borrowed =>
    split_ifs at kept ⊢
    · cases kept
    · exact kept
  case borrowed.collateral =>
    split_ifs at kept ⊢
    · exact kept
    · split at kept <;> (try split_ifs at kept) <;> cases kept

section Sides

variable {portfolio after : Portfolio} {positionId : Nat} {asset other : AssetIdentifier}
  {newTokenAmount : ℚ} {eventAt : Nat} {blockNumber txHash logIndex : Option Nat}
  {side side' : LoanSide} {interest interest' : Interest} {update : BalanceUpdate}

/-- **One `update_interest` on one side of a loan.** It books the gain under the next
id, moves that side's tracker to the new amount and leaves the other side's tracker
as it was. -/
theorem updateInterest_books_sides (books : portfolio.BooksInterest positionId asset side interest)
    (kept : portfolio.BooksInterest positionId other side' interest') (differ : side ≠ side')
    (returned : updateInterest positionId asset newTokenAmount eventAt blockNumber txHash logIndex
      portfolio = .ok update after) :
    update.balanceUpdateId = portfolio.nextBalanceUpdateId ∧
      after.nextBalanceUpdateId = portfolio.nextBalanceUpdateId + 1 ∧
      update.quantity = newTokenAmount - interest.lastTokenAmount ∧
      after.BooksInterest positionId asset side (interest.synced newTokenAmount eventAt blockNumber) ∧
      after.BooksInterest positionId other side' interest' := by
  obtain ⟨position, loan, live, active, loaned, tracked⟩ := books
  obtain ⟨position', loan', live', -, loaned', tracked'⟩ := kept
  obtain rfl : position = position' := Option.some.inj (live.symm.trans live')
  obtain rfl : loan = loan' := Option.some.inj (loaned.symm.trans loaned')
  obtain ⟨id, -, booked, -⟩ := updateInterest_eq_ok live active loaned tracked returned
  obtain ⟨spent, found⟩ := getPositionById?_of_updateInterest live active loaned tracked returned
  exact ⟨id, spent, booked, ⟨_, _, found, active, rfl, Loan.interestFor_setInterest tracked _⟩,
    ⟨_, _, found, active, rfl, Loan.interestFor_setInterest_of_ne tracked tracked' differ _⟩⟩

/-- Past its lookups, `update_interest` returns exactly when the gain passes its check. -/
theorem Portfolio.BooksInterest.updateInterest_returns_iff
    (books : portfolio.BooksInterest positionId asset side interest) :
    (∃ update after, updateInterest positionId asset newTokenAmount eventAt blockNumber txHash
      logIndex portfolio = .ok update after) ↔ interest.AcceptsGain newTokenAmount :=
  let ⟨_, _, live, active, loaned, tracked⟩ := books
  updateInterest_eq_ok_iff live active loaned tracked

/-- Past its lookups, a gain that fails the check makes `update_interest` raise after
spending an id. -/
theorem Portfolio.BooksInterest.updateInterest_of_rejected
    (books : portfolio.BooksInterest positionId asset side interest)
    (rejected : ¬interest.AcceptsGain newTokenAmount) :
    updateInterest positionId asset newTokenAmount eventAt blockNumber txHash logIndex portfolio =
      .error (.assertionError "Unlikely gained_interest: ")
        { portfolio with nextBalanceUpdateId := portfolio.nextBalanceUpdateId + 1 } :=
  let ⟨_, _, live, active, loaned, tracked⟩ := books
  updateInterest_of_unlikely_gain live active loaned tracked rejected

end Sides

end TradeExecutor
