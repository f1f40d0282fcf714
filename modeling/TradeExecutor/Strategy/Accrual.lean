import TradeExecutor.Strategy.Weights

/-! # Accruing interest

`accrue_interest` checks each asset's growth against the tripwire and then only
yields the generators of the entries' `distribute` calls, so consuming it in full
changes no position: the portfolio is as before and only the interest checkpoint
moves (`TradeExecutor.accrueInterest_eq_ok`). Advancing one of those generators
runs `update_interest`, whose own check on the gained amount is independent of the
tripwire (`TradeExecutor.updateInterest_accepts_iff`).
-/

namespace TradeExecutor

section UpdateInterest

variable {portfolio after : Portfolio} {positionId : Nat} {asset : AssetIdentifier}
  {newTokenAmount : ℚ} {eventAt : Nat} {blockNumber txHash logIndex : Option Nat}
  {position : TradingPosition} {loan : Loan} {side : LoanSide} {interest : Interest}

/-- Past the lookups, `update_interest` returns exactly when the gain is nonzero and
below 999 tokens. -/
theorem updateInterest_eq_ok_iff
    (live : portfolio.getPositionById? positionId = some position)
    (active : (position.isOpen || position.isFrozen) = true) (loaned : position.loan = some loan)
    (tracked : loan.interestFor asset = some (side, some interest)) :
    (∃ update after, updateInterest positionId asset newTokenAmount eventAt blockNumber txHash
      logIndex portfolio = .ok update after) ↔
      0 < |newTokenAmount - interest.lastTokenAmount| ∧
        |newTokenAmount - interest.lastTokenAmount| < 999 := by
  unfold updateInterest
  simp only [get_bind, live, pyAssert_bind, active, if_true, loaned, tracked, modify_bind]
  split_ifs with sane
  · exact iff_of_true ⟨_, _, rfl⟩ sane
  · exact iff_of_false (by simp) sane

/-- Past the lookups, `update_interest` raises only its gain check, and it has then
spent a balance-update id. -/
theorem updateInterest_eq_error {e : Error}
    (live : portfolio.getPositionById? positionId = some position)
    (active : (position.isOpen || position.isFrozen) = true) (loaned : position.loan = some loan)
    (tracked : loan.interestFor asset = some (side, some interest))
    (raised : updateInterest positionId asset newTokenAmount eventAt blockNumber txHash logIndex
      portfolio = .error e after) :
    e = .assertionError "Unlikely gained_interest: " ∧
      after = { portfolio with nextBalanceUpdateId := portfolio.nextBalanceUpdateId + 1 } := by
  unfold updateInterest at raised
  simp only [get_bind, live, pyAssert_bind, active, if_true, loaned, tracked, modify_bind,
    pure_apply] at raised
  split_ifs at raised
  cases raised
  exact ⟨rfl, rfl⟩

/-- A gain that is zero or of 999 tokens or more makes `update_interest` raise. -/
theorem updateInterest_of_unlikely_gain
    (live : portfolio.getPositionById? positionId = some position)
    (active : (position.isOpen || position.isFrozen) = true) (loaned : position.loan = some loan)
    (tracked : loan.interestFor asset = some (side, some interest))
    (unlikely : ¬(0 < |newTokenAmount - interest.lastTokenAmount| ∧
      |newTokenAmount - interest.lastTokenAmount| < 999)) :
    updateInterest positionId asset newTokenAmount eventAt blockNumber txHash logIndex portfolio =
      .error (.assertionError "Unlikely gained_interest: ")
        { portfolio with nextBalanceUpdateId := portfolio.nextBalanceUpdateId + 1 } := by
  unfold updateInterest
  simp only [get_bind, live, pyAssert_bind, active, if_true, loaned, tracked, modify_bind]
  rw [if_neg unlikely]

/-- **`update_interest` has an abort condition of its own.** For an open or frozen
position whose loan tracks the asset with an interest tracker, it returns exactly when
the gain over the tracker's last token amount is nonzero and below 999 tokens, and
otherwise raises `Unlikely gained_interest`, whatever the tripwire accepted. -/
theorem updateInterest_accepts_iff
    (live : portfolio.getPositionById? positionId = some position)
    (active : (position.isOpen || position.isFrozen) = true) (loaned : position.loan = some loan)
    (tracked : loan.interestFor asset = some (side, some interest)) :
    ((∃ update after, updateInterest positionId asset newTokenAmount eventAt blockNumber txHash
      logIndex portfolio = .ok update after) ↔
      0 < |newTokenAmount - interest.lastTokenAmount| ∧
        |newTokenAmount - interest.lastTokenAmount| < 999) ∧
    ∀ e after, updateInterest positionId asset newTokenAmount eventAt blockNumber txHash logIndex
      portfolio = .error e after → e = .assertionError "Unlikely gained_interest: " :=
  ⟨updateInterest_eq_ok_iff live active loaned tracked,
    fun _ _ raised => (updateInterest_eq_error live active loaned tracked raised).1⟩

/-- The aUSDC supply of 100 accepts a gain of one token. -/
theorem updateInterest_accepts_iff_usdcSupply :
    ((∃ update after, updateInterest 1 aUsdc 101 0 none none none (creditSupplyPortfolio aUsdc 100) =
      .ok update after) ↔ 0 < |101 - (Interest.openNew 100 0).lastTokenAmount| ∧
        |101 - (Interest.openNew 100 0).lastTokenAmount| < 999) ∧
    ∀ e after, updateInterest 1 aUsdc 101 0 none none none (creditSupplyPortfolio aUsdc 100) =
      .error e after → e = .assertionError "Unlikely gained_interest: " :=
  updateInterest_accepts_iff rfl rfl rfl rfl

end UpdateInterest

section Accrue

variable {operation : InterestDistributionOperation} {asset : AssetIdentifier} {timestamp : Nat}
  {blockNumber : Option Nat} {newAmount maxInterestGain : ℚ} {s s' : State}
  {calls : List DistributeCall} {e : Error}

/-- The generators `accrue_interest_for_asset` yields for the entries of an asset. -/
def distributeCalls (operation : InterestDistributionOperation) (asset : AssetIdentifier)
    (timestamp : Nat) (blockNumber : Option Nat) (newAmount : ℚ) : List DistributeCall :=
  (operation.entries.filter (·.asset.key = asset.key)).map fun entry =>
    { entry, timestamp, blockNumber, totalAccrued := newAmount - counterGet operation.totals asset }

/-- `accrue_interest_for_asset` returns exactly when the growth passes the tripwire,
yields one generator per entry of the asset and changes nothing. -/
theorem accrueInterestForAsset_eq_ok :
    operation.accrueInterestForAsset asset timestamp blockNumber newAmount maxInterestGain s =
      .ok calls s' ↔
      0 < newAmount - counterGet operation.totals asset ∧ counterGet operation.totals asset ≠ 0 ∧
      |(newAmount - counterGet operation.totals asset) / counterGet operation.totals asset| ≤
        maxInterestGain ∧
      calls = distributeCalls operation asset timestamp blockNumber newAmount ∧ s' = s := by
  unfold InterestDistributionOperation.accrueInterestForAsset
  simp only [pyAssert_bind, decimalDiv_bind]
  by_cases growth : 0 < newAmount - counterGet operation.totals asset
  · by_cases zero : counterGet operation.totals asset = 0
    · rw [zero, sub_zero] at growth
      simp [zero, growth]
    · by_cases tripwire : |(newAmount - counterGet operation.totals asset) /
          counterGet operation.totals asset| ≤ maxInterestGain
      · simp [growth, zero, tripwire, distributeCalls, @eq_comm _ calls, @eq_comm _ s']
      · simp [growth, zero, tripwire]
  · simp [growth]

/-- `accrue_interest_for_asset` changes nothing when it raises either. -/
theorem accrueInterestForAsset_eq_error
    (raised : operation.accrueInterestForAsset asset timestamp blockNumber newAmount maxInterestGain s =
      .error e s') : s' = s := by
  unfold InterestDistributionOperation.accrueInterestForAsset at raised
  simp only [pyAssert_bind, decimalDiv_bind] at raised
  split_ifs at raised <;> simp_all

/-- The loop of `accrue_interest` yields the generators of every balance's asset, in
order, and changes nothing. -/
theorem accrueEach_eq_ok :
    ∀ {balances : List (AssetIdentifier × ℚ)} {calls : List DistributeCall} {s s' : State},
      operation.accrueEach timestamp blockNumber maxInterestGain balances s = .ok calls s' →
      calls = balances.flatMap (fun balance =>
        distributeCalls operation balance.1 timestamp blockNumber balance.2) ∧ s' = s
  | [], _, _, _, returned => by
    simp only [InterestDistributionOperation.accrueEach, pure_apply, EStateM.Result.ok.injEq] at returned
    exact ⟨returned.1.symm, returned.2.symm⟩
  | (asset, newBalance) :: rest, _, _, _, returned => by
    simp only [InterestDistributionOperation.accrueEach, bind_eq_ok, pure_apply,
      EStateM.Result.ok.injEq] at returned
    obtain ⟨first, middle, accrued, more, final, remaining, rfl, rfl⟩ := returned
    obtain ⟨-, -, -, rfl, rfl⟩ := accrueInterestForAsset_eq_ok.mp accrued
    obtain ⟨rfl, rfl⟩ := accrueEach_eq_ok remaining
    exact ⟨by simp, rfl⟩

/-- **Consuming `accrue_interest` books no interest.** When its iterator has been
consumed in full, it has yielded the unstarted generators of the entries' `distribute`
calls, and the only change to the state is the interest sync record: the on-chain
balances and the checkpoint. -/
theorem accrueInterest_eq_ok {onChainBalances : List (AssetIdentifier × ℚ)} {blockTimestamp : Nat}
    {height : Nat}
    (returned : accrueInterest onChainBalances operation blockTimestamp height maxInterestGain s =
      .ok calls s') :
    calls = onChainBalances.flatMap (fun balance =>
      distributeCalls operation balance.1 blockTimestamp (some height) balance.2) ∧
    s' = { s with sync := { s.sync with interest := { s.sync.interest with
      assets := onChainBalances, lastSyncAt := some blockTimestamp, lastSyncBlock := some height } } } := by
  simp only [accrueInterest, bind_eq_ok, modify_bind, setInterestCheckpoint, modify_apply,
    pure_apply, EStateM.Result.ok.injEq] at returned
  obtain ⟨yielded, middle, accrued, rfl, rfl⟩ := returned
  obtain ⟨rfl, rfl⟩ := accrueEach_eq_ok accrued
  exact ⟨rfl, rfl⟩

end Accrue

/-- The entry of an aUSDC supply of `amount` before weighting. -/
def usdcSupplyEntry (amount : ℚ) : InterestDistributionEntry :=
  { side := .collateral, positionId := 1,
    tracker := { asset := aUsdc, lastUsdPrice := 1, lastPricingAt := 0, quantity := amount } }

/-- The distribution of a single aUSDC supply: its entry takes the whole weight. -/
def usdcSupplyDistribution (amount : ℚ) : InterestDistributionOperation :=
  { assets := [aUsdc], entries := [{ usdcSupplyEntry amount with weight := 1 }],
    totals := [(aUsdc, amount)] }

/-- A state holding the aUSDC supply of `amount` and nothing else. -/
def usdcSupplyState (amount : ℚ) : State := { portfolio := creditSupplyPortfolio aUsdc amount }

/-- Any positive aUSDC supply is distributed with weight one. -/
theorem prepareInterestDistribution_usdcSupply {amount : ℚ} (positive : 0 < amount) :
    prepareInterestDistribution usdcOnly (creditSupplyPortfolio aUsdc amount) =
      .ok (usdcSupplyDistribution amount) := by
  have collected : collectEntries usdcOnly { assets := [], entries := [], totals := [] }
      (creditSupplyPortfolio aUsdc amount).getOpenAndFrozenPositions =
      .ok { assets := [aUsdc], entries := [usdcSupplyEntry amount], totals := [(aUsdc, amount)] } := by
    simp [collectEntries, collectAsset, makeEntry, creditSupplyPortfolio, creditSupplyPosition,
      Portfolio.getOpenAndFrozenPositions, Loan.getTrackedAsset, InterestDistributionEntry.quantity,
      positive, aUsdc, usdcOnly, usdcToken, AssetIdentifier.isInterestAccruing,
      AssetIdentifier.getPricingAsset, InterestDistributionOperation.addEntry, setAdd, counterAdd,
      TradingPosition.isLong, TradingPairIdentifier.isLong, usdcSupplyEntry]
  simp [prepareInterestDistribution, collected, weighEntries, counterGet, positive.ne',
    usdcSupplyDistribution, usdcSupplyEntry, InterestDistributionEntry.quantity,
    InterestDistributionEntry.asset]

/-- The generator of the supply's entry when `total` tokens have accrued. -/
def usdcSupplyCall (amount total : ℚ) : DistributeCall :=
  { entry := { usdcSupplyEntry amount with weight := 1 }, timestamp := 0, blockNumber := some 7,
    totalAccrued := total }

/-- The supply's generator hands `update_interest` its tracker times the accrued amount. -/
theorem usdcSupplyCall_unlikely {amount total : ℚ}
    (unlikely : ¬(0 < |amount * total - amount| ∧ |amount * total - amount| < 999)) :
    (usdcSupplyCall amount total).run (usdcSupplyState amount) =
      .error (.assertionError "Unlikely gained_interest: ") { usdcSupplyState amount with
        portfolio := { creditSupplyPortfolio aUsdc amount with nextBalanceUpdateId := 2 } } := by
  have raised : updateInterest 1 aUsdc (usdcSupplyCall amount total).newTokenAmount 0 (some 7) none
      none (creditSupplyPortfolio aUsdc amount) = .error (.assertionError "Unlikely gained_interest: ")
        { creditSupplyPortfolio aUsdc amount with nextBalanceUpdateId := 2 } :=
    updateInterest_of_unlikely_gain rfl rfl rfl rfl (by simpa [DistributeCall.newTokenAmount,
      usdcSupplyCall, usdcSupplyEntry, InterestDistributionEntry.quantity] using unlikely)
  exact liftPortfolio_eq_error.mpr ⟨_, raised, rfl⟩

/-- Growth of a single aUSDC supply that passes the tripwire yields the one generator of
its entry. -/
theorem accrueInterestForAsset_usdcSupply {amount newAmount maxInterestGain : ℚ} {s : State}
    (positive : 0 < amount) (growth : 0 < newAmount - amount)
    (tripwire : |(newAmount - amount) / amount| ≤ maxInterestGain) :
    (usdcSupplyDistribution amount).accrueInterestForAsset aUsdc 0 (some 7) newAmount
      maxInterestGain s = .ok [usdcSupplyCall amount (newAmount - amount)] s := by
  have total : counterGet (usdcSupplyDistribution amount).totals aUsdc = amount := rfl
  rw [← total] at growth tripwire positive
  refine accrueInterestForAsset_eq_ok.mpr ⟨growth, positive.ne', tripwire, ?_, rfl⟩
  simp [distributeCalls, total, usdcSupplyDistribution, usdcSupplyCall, usdcSupplyEntry,
    InterestDistributionEntry.asset]
  exact total.symm

/-- Consuming `accrue_interest` over an aUSDC supply of 100 that grew to 101 yields one
unstarted generator and leaves the portfolio, whose position has no balance update, as
it was; advancing the generator raises, since it hands `update_interest` the tracker
times the accrued amount, which is the old amount. -/
theorem accrueInterest_books_no_interest :
    (creditSupplyPosition aUsdc 100).loan.map (·.collateralInterest.lastTokenAmount) = some 100 ∧
    prepareInterestDistribution usdcOnly (creditSupplyPortfolio aUsdc 100) =
      .ok (usdcSupplyDistribution 100) ∧
    accrueInterest [(aUsdc, 101)] (usdcSupplyDistribution 100) 0 7 (1 / 20) (usdcSupplyState 100) =
      .ok [usdcSupplyCall 100 1] { usdcSupplyState 100 with sync := { interest :=
        { lastSyncAt := some 0, lastSyncBlock := some 7, assets := [(aUsdc, 101)] } } } ∧
    (creditSupplyPosition aUsdc 100).balanceUpdates = [] ∧
    (usdcSupplyCall 100 1).run (usdcSupplyState 100) =
      .error (.assertionError "Unlikely gained_interest: ") { usdcSupplyState 100 with
        portfolio := { creditSupplyPortfolio aUsdc 100 with nextBalanceUpdateId := 2 } } := by
  refine ⟨rfl, prepareInterestDistribution_usdcSupply (by norm_num), ?_, rfl,
    usdcSupplyCall_unlikely (by norm_num)⟩
  have accrued : (usdcSupplyDistribution 100).accrueInterestForAsset aUsdc 0 (some 7) 101 (1 / 20)
      (usdcSupplyState 100) = .ok [usdcSupplyCall 100 (101 - 100)] (usdcSupplyState 100) :=
    accrueInterestForAsset_usdcSupply (by norm_num) (by norm_num) (by norm_num [abs_of_pos])
  norm_num at accrued
  have accruedEach : (usdcSupplyDistribution 100).accrueEach 0 (some 7) (1 / 20) [(aUsdc, 101)]
      (usdcSupplyState 100) = .ok [usdcSupplyCall 100 1] (usdcSupplyState 100) := by
    show bind ((usdcSupplyDistribution 100).accrueInterestForAsset aUsdc 0 (some 7) 101 (1 / 20))
      _ _ = _
    rw [bind_of_ok accrued]
    rfl
  show bind ((usdcSupplyDistribution 100).accrueEach 0 (some 7) (1 / 20) [(aUsdc, 101)]) _ _ = _
  rw [bind_of_ok accruedEach]
  rfl

/-- An aUSDC supply of 100000 whose interest tracker last saw 100000 grows by one per
cent, which the tripwire of five per cent accepts; advancing the generator of its entry
still raises in `update_interest`, the gain being far above 999 tokens. -/
theorem distribute_trips_unlikely_gain :
    (creditSupplyPosition aUsdc 100000).loan.map (·.collateralInterest.lastTokenAmount) =
      some 100000 ∧
    prepareInterestDistribution usdcOnly (creditSupplyPortfolio aUsdc 100000) =
      .ok (usdcSupplyDistribution 100000) ∧
    (usdcSupplyDistribution 100000).accrueInterestForAsset aUsdc 0 (some 7) 101000 (1 / 20)
      (usdcSupplyState 100000) = .ok [usdcSupplyCall 100000 1000] (usdcSupplyState 100000) ∧
    (usdcSupplyCall 100000 1000).run (usdcSupplyState 100000) =
      .error (.assertionError "Unlikely gained_interest: ") { usdcSupplyState 100000 with
        portfolio := { creditSupplyPortfolio aUsdc 100000 with nextBalanceUpdateId := 2 } } := by
  have accrued : (usdcSupplyDistribution 100000).accrueInterestForAsset aUsdc 0 (some 7) 101000
      (1 / 20) (usdcSupplyState 100000) =
        .ok [usdcSupplyCall 100000 (101000 - 100000)] (usdcSupplyState 100000) :=
    accrueInterestForAsset_usdcSupply (by norm_num) (by norm_num) (by norm_num [abs_of_pos])
  norm_num at accrued
  exact ⟨rfl, prepareInterestDistribution_usdcSupply (by norm_num), accrued,
    usdcSupplyCall_unlikely (by norm_num [abs_of_pos])⟩

end TradeExecutor
