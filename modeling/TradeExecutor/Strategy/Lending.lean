import TradeExecutor.Strategy.Leverage
import TradeExecutor.Strategy.InterestLedger
import TradeExecutor.Strategy.Universe
import TradeExecutor.State.Repair

/-! # Lending pairs and the interest of leveraged positions

The trading universe turns lending reserves into trading pairs. `get_shorting_pair`
turns a spot pair quoted in the reserve asset into the vToken of the base's reserve
against the aToken of the quote's (`TradeExecutor.getShortingPair`). Such a pair passes
every pair check of `create_short_loan`: opening a position on it fails only on the
opening trade's amounts or on the loan's health
(`TradeExecutor.shortingPair_createShortLoan`). `can_open_short` answers yes only when
`get_shorting_pair` can resolve both reserves
(`TradeExecutor.canOpenShort_getShortingPair`).

`get_credit_supply_pair` translates its aToken with the default asset type, a plain
token, so `prepare_interest_distribution` makes no entry for a position on that pair
(`TradeExecutor.creditSupplyPair_accruesNoInterest`).

`update_leveraged_position_interest` syncs the vToken and then the aToken of a
leveraged position. It returns exactly when both gains pass `update_interest`'s check,
and books them under consecutive ids (`TradeExecutor.updateLeveragedPositionInterest_books`).
When only the aToken's gain fails, it raises after the vToken's event has been booked
(`TradeExecutor.updateLeveragedPositionInterest_partial`). For a loan that
`create_short_loan` opened, the first sync returns exactly when both amounts moved by a
plausible gain from what the loan opened with (`TradeExecutor.shortLoan_interestSync`).
-/

namespace TradeExecutor

/-! ## Lending reserves and the pairs built on them -/

/-- A token as the Trading Strategy client's data describes it; its decimals may be
missing. -/
structure ClientToken where
  chainId : Nat
  address : Nat
  symbol : String
  decimals : Option Nat
  deriving DecidableEq, Repr

/-- A lending reserve of the client's data: the reserved asset (`get_asset()`), its
aToken and vToken, and the liquidation threshold of its additional details. -/
structure LendingReserve where
  reserveId : Nat
  chainId : Nat
  assetAddress : Nat
  asset : ClientToken
  atoken : ClientToken
  vtoken : ClientToken
  liquidationThreshold : Option ℚ
  deriving DecidableEq, Repr

/-- `LendingReserveUniverse.get_by_chain_and_address` of the client, not part of the
sources: the reserve of the asset with that chain and address, else
`UnknownLendingReserve`. -/
def getByChainAndAddress (reserves : List LendingReserve) (chainId address : Nat) :
    Except Error LendingReserve :=
  match reserves.find? (fun reserve => reserve.chainId = chainId ∧ reserve.assetAddress = address) with
  | some reserve => pure reserve
  | none => throw (.unknownLendingReserve "")

/-- The parts of a `TradingStrategyUniverse` its lending methods read: the strategy's
reserve asset (`get_reserve_asset()` of the base class, not part of the sources), the
lending reserves of the data universe, and the variable borrow rates of its lending
candles at a time within the lag tolerance, `None` where `get_single_rate` has no data.
Either is absent when that data was not loaded. -/
structure TradingStrategyUniverse where
  reserveAsset : AssetIdentifier
  lendingReserves : Option (List LendingReserve)
  variableBorrowApr : Option (LendingReserve → Nat → Option ℚ)

/-- `self.data_universe.lending_reserves.get_by_chain_and_address(chain_id, address)`:
with no lending reserves loaded the attribute lookup fails. -/
def TradingStrategyUniverse.getLendingReserve (strategyUniverse : TradingStrategyUniverse)
    (chainId address : Nat) : Except Error LendingReserve :=
  match strategyUniverse.lendingReserves with
  | some reserves => getByChainAndAddress reserves chainId address
  | none => throw (.attributeError "get_by_chain_and_address")

/-- The `AssetIdentifier` `translate_token` builds from a client token. -/
def ClientToken.toAsset (token : ClientToken) (underlying : Option Token) (type : AssetType) :
    AssetIdentifier :=
  { chainId := token.chainId, address := token.address, tokenSymbol := token.symbol,
    decimals := token.decimals.getD 0, type, underlying }

/-- `translate_token`. The liquidation threshold is not a field of the modelled
`AssetIdentifier`; its check is kept. -/
def translateToken (token : ClientToken) (requireDecimals : Bool := true)
    (underlying : Option Token := none) (type : AssetType := .token)
    (liquidationThreshold : Option ℚ := none) : Except Error AssetIdentifier := do
  if requireDecimals then
    pyAssert (truthy token.decimals) "Bad token: "
    pyAssert (token.decimals.any (0 < ·)) "Bad token: "
  if liquidationThreshold.any (· ≠ 0) then
    pyAssert (type = .collateral) "Only collateral tokens can have liquidation threshold, got "
  pure (token.toAsset underlying type)

/-- `except UnknownLendingReserve as e: raise UnknownLendingReserve(message) from e`. -/
def reraiseUnknownReserve (message : String) : Error → Error
  | .unknownLendingReserve _ => .unknownLendingReserve message
  | e => e

/-- `get_credit_supply_pair`: the aToken of the reserve asset's lending reserve against
the reserve asset. -/
def getCreditSupplyPair (strategyUniverse : TradingStrategyUniverse) : Except Error TradingPairIdentifier := do
  let reserveAsset := strategyUniverse.reserveAsset
  let reserve ← strategyUniverse.getLendingReserve reserveAsset.chainId reserveAsset.address
  pyAssert (reserve.asset.address = reserveAsset.address) ""
  let underlying ← translateToken reserve.asset
  let atoken ← translateToken reserve.atoken true (some underlying.toToken)
  pure
    { base := atoken, quote := underlying, poolAddress := reserve.assetAddress,
      internalId := some reserve.reserveId, kind := .creditSupply }

/-- `get_shorting_pair`: the vToken of the borrowed token's reserve against the aToken
of the collateral's, for a spot pair quoted in the reserve asset. -/
def getShortingPair (strategyUniverse : TradingStrategyUniverse) (pair : TradingPairIdentifier) :
    Except Error TradingPairIdentifier := do
  pyAssert (pair.kind = .spotMarketHold) ""
  let borrowToken := pair.base
  let collateralToken := pair.quote
  pyAssert (collateralToken.key = strategyUniverse.reserveAsset.key) ""
  let borrowReserve ← (strategyUniverse.getLendingReserve borrowToken.chainId borrowToken.address).mapError
    (reraiseUnknownReserve "Could not resolve borrowed token ")
  let collateralReserve ←
    (strategyUniverse.getLendingReserve collateralToken.chainId collateralToken.address).mapError
      (reraiseUnknownReserve "Could not resolve collateral token ")
  let vtoken ← translateToken borrowReserve.vtoken true (some borrowToken.toToken) .borrowed
  let atoken ← translateToken collateralReserve.atoken true (some collateralToken.toToken) .collateral
    collateralReserve.liquidationThreshold
  pure
    { base := vtoken, quote := atoken, poolAddress := borrowToken.address,
      internalId := some borrowReserve.reserveId, kind := .lendingProtocolShort }

/-- `has_lending_market_available`: the asset has a lending reserve whose variable
borrow rate at the time is positive. -/
def hasLendingMarketAvailable (strategyUniverse : TradingStrategyUniverse) (timestamp : Nat)
    (asset : AssetIdentifier) : Except Error Bool := do
  let some variableBorrowApr := strategyUniverse.variableBorrowApr
    | throw (.assertionError "Lending market data is not loaded - cannot determine if we can short or not")
  match strategyUniverse.getLendingReserve asset.chainId asset.address with
  | .error (.unknownLendingReserve _) => pure false
  | .error e => throw e
  | .ok reserve =>
    match variableBorrowApr reserve timestamp with
    | some value => pure (value > 0)
    | none => pure false

/-- `can_open_short`: both assets of the pair have a lending market, the quote asked
only when the base has one. -/
def canOpenShort (strategyUniverse : TradingStrategyUniverse) (timestamp : Nat)
    (pair : TradingPairIdentifier) : Except Error Bool := do
  if ← hasLendingMarketAvailable strategyUniverse timestamp pair.base then
    hasLendingMarketAvailable strategyUniverse timestamp pair.quote
  else pure false

section Pairs

variable {strategyUniverse : TradingStrategyUniverse} {token : ClientToken} {underlying : Option Token}
  {type : AssetType} {liquidationThreshold : Option ℚ} {asset : AssetIdentifier}
  {pair short supply : TradingPairIdentifier}

/-- A renamed error returns what the call returned. -/
theorem mapError_eq_ok {α : Type} {x : Except Error α} {f : Error → Error} {a : α} :
    x.mapError f = .ok a ↔ x = .ok a := by
  cases x <;> simp [Except.mapError]

/-- An assertion in a function that only raises returns exactly when it passes. -/
@[simp] theorem pyAssert_eq_ok_except {condition : Prop} [Decidable condition] {message : String}
    {u : Unit} : (pyAssert condition message : Except Error Unit) = .ok u ↔ condition := by
  unfold pyAssert
  split <;> simp_all

/-- `translate_token` with its decimals check returns exactly when the token has positive
decimals and a liquidation threshold only comes with a collateral type. -/
theorem translateToken_eq_ok :
    translateToken token true underlying type liquidationThreshold = .ok asset ↔
      token.decimals.any (0 < ·) = true ∧
      (liquidationThreshold.any (· ≠ 0) = true → type = .collateral) ∧
      asset = token.toAsset underlying type := by
  rcases token with ⟨chainId, address, symbol, _ | decimals⟩
  · simp [translateToken, truthy]
  rcases Nat.eq_zero_or_pos decimals with rfl | positive
  · simp [translateToken, truthy]
  have truthful : truthy (some decimals) = true := by simp [truthy, positive.ne']
  simp only [translateToken, ↓reduceIte, truthful, Option.any_some, positive, decide_True,
    pyAssert_bind_except, true_and]
  split_ifs with threshold collateral
  · simp only [pure_eq_ok_except, collateral, implies_true, true_and, @eq_comm _ asset]
  · simp only [threshold, collateral, imp_false, not_true_eq_false, false_and]
  · simp only [threshold, Bool.false_eq_true, false_implies, true_and, pure_bind, pure_eq_ok_except,
      @eq_comm _ asset]

/-- What `get_credit_supply_pair` returns: the aToken of the reserve asset's lending
reserve, translated as a plain token, against the reserve asset. -/
theorem getCreditSupplyPair_eq_ok :
    getCreditSupplyPair strategyUniverse = .ok supply ↔
      ∃ reserve, strategyUniverse.getLendingReserve strategyUniverse.reserveAsset.chainId
          strategyUniverse.reserveAsset.address = .ok reserve ∧
        reserve.asset.address = strategyUniverse.reserveAsset.address ∧
        reserve.asset.decimals.any (0 < ·) = true ∧ reserve.atoken.decimals.any (0 < ·) = true ∧
        supply =
          { base := reserve.atoken.toAsset (some (reserve.asset.toAsset none .token).toToken) .token,
            quote := reserve.asset.toAsset none .token, poolAddress := reserve.assetAddress,
            internalId := some reserve.reserveId, kind := .creditSupply } := by
  simp only [getCreditSupplyPair, except_bind_eq_ok, pyAssert_eq_ok_except, translateToken_eq_ok,
    pure_eq_ok_except, Option.any_none, Bool.false_eq_true, false_implies, true_and, exists_const,
    and_assoc, exists_and_left, exists_eq_left, @eq_comm _ _ supply]

/-- What `get_shorting_pair` returns: for a spot pair quoted in the reserve asset whose
two lending reserves resolve and whose vToken and aToken carry decimals, the vToken
typed as borrowed against the aToken typed as collateral, each over its spot token. -/
theorem getShortingPair_eq_ok :
    getShortingPair strategyUniverse pair = .ok short ↔
      pair.kind = .spotMarketHold ∧ pair.quote.key = strategyUniverse.reserveAsset.key ∧
      ∃ borrowReserve collateralReserve,
        strategyUniverse.getLendingReserve pair.base.chainId pair.base.address = .ok borrowReserve ∧
        strategyUniverse.getLendingReserve pair.quote.chainId pair.quote.address = .ok collateralReserve ∧
        borrowReserve.vtoken.decimals.any (0 < ·) = true ∧
        collateralReserve.atoken.decimals.any (0 < ·) = true ∧
        short =
          { base := borrowReserve.vtoken.toAsset (some pair.base.toToken) .borrowed,
            quote := collateralReserve.atoken.toAsset (some pair.quote.toToken) .collateral,
            poolAddress := pair.base.address, internalId := some borrowReserve.reserveId,
            kind := .lendingProtocolShort } := by
  simp only [getShortingPair, except_bind_eq_ok, pyAssert_eq_ok_except, mapError_eq_ok,
    translateToken_eq_ok, pure_eq_ok_except, Option.any_none, Bool.false_eq_true, false_implies,
    true_and, implies_true, exists_const, and_assoc, exists_and_left, exists_eq_left, @eq_comm _ _ short]

/-- Each element of the left list of a `Forall₂` is related to one of the right list. -/
theorem forall₂_exists_of_mem {α β : Type} {R : α → β → Prop} :
    ∀ {left : List α} {right : List β}, List.Forall₂ R left right →
      ∀ {a : α}, a ∈ left → ∃ b ∈ right, R a b
  | _, _, .nil, _, member => absurd member (List.not_mem_nil _)
  | _, _, .cons related rest, _, member => by
    rcases List.mem_cons.mp member with rfl | later
    · exact ⟨_, List.mem_cons_self _ _, related⟩
    · obtain ⟨b, present, holds⟩ := forall₂_exists_of_mem rest later
      exact ⟨b, List.mem_cons_of_mem _ present, holds⟩

end Pairs

/-! ## An Aave universe -/

/-- The USDC reserve: aUSDC and vUSDC over USDC, with no liquidation threshold recorded. -/
def usdcReserve : LendingReserve :=
  { reserveId := 1, chainId := 1, assetAddress := 1,
    asset := { chainId := 1, address := 1, symbol := "USDC", decimals := some 6 },
    atoken := { chainId := 1, address := 3, symbol := "aUSDC", decimals := some 6 },
    vtoken := { chainId := 1, address := 6, symbol := "vUSDC", decimals := some 6 },
    liquidationThreshold := none }

/-- The WETH reserve: aWETH and vWETH over WETH, with no liquidation threshold recorded. -/
def wethReserve : LendingReserve :=
  { reserveId := 2, chainId := 1, assetAddress := 2,
    asset := { chainId := 1, address := 2, symbol := "WETH", decimals := some 18 },
    atoken := { chainId := 1, address := 4, symbol := "aWETH", decimals := some 18 },
    vtoken := { chainId := 1, address := 5, symbol := "vWETH", decimals := some 18 },
    liquidationThreshold := none }

/-- A universe trading against USDC with the two reserves loaded and every variable
borrow rate at 3. -/
def aaveUniverse : TradingStrategyUniverse :=
  { reserveAsset := { toToken := usdcToken }, lendingReserves := some [usdcReserve, wethReserve],
    variableBorrowApr := some fun _ _ => some 3 }

/-- vWETH against aUSDC, on the WETH reserve: the short pair of `wethUsdcSpot`. -/
def aaveWethShort : TradingPairIdentifier :=
  { base := vWeth, quote := aUsdc, poolAddress := 2, internalId := some 2,
    kind := .lendingProtocolShort }

/-- aUSDC, typed as a plain token, against USDC, on the USDC reserve. -/
def aaveUsdcSupply : TradingPairIdentifier :=
  { base := { aUsdc with type := .token }, quote := { toToken := usdcToken }, poolAddress := 1,
    internalId := some 1, kind := .creditSupply }

example : getShortingPair aaveUniverse wethUsdcSpot = .ok aaveWethShort := rfl

example : getCreditSupplyPair aaveUniverse = .ok aaveUsdcSupply := rfl

/-! ## Loans on the universe's pairs -/

section Loans

variable (isHealthy : Loan → Bool) {isStablecoin : Token → Bool}
  {strategyUniverse : TradingStrategyUniverse} {pair short supply : TradingPairIdentifier}
  {position : TradingPosition} {trade : TradeExecution} {timestamp now : Nat} {mode : LoanMode}
  {loan : Loan} {e : Error}

/-- `create_short_loan` opens the collateral with the mode's reserve, allocation and
consumption, which is the collateral change `update_short_loan` reads. -/
theorem openingAmounts_snd {amounts : ℚ × ℚ} (opened : openingAmounts trade mode = .ok amounts) :
    amounts.2 = collateralChange trade mode := by
  cases mode <;> unfold openingAmounts at opened <;>
    obtain ⟨-, built⟩ := pyAssert_bind_eq_ok_except.mp opened <;>
    dsimp only at built <;> split_ifs at built <;>
    obtain ⟨_, -, built⟩ := except_bind_eq_ok.mp built <;>
    obtain rfl := Except.ok.inj built <;>
    simp only [collateralChange] <;> ring

/-- What a returning `create_short_loan` opens: the debt on the pair's base and the
collateral on its quote, each with an interest tracker opened at the amount
`openingAmounts` gives. -/
theorem createShortLoan_eq_ok
    (created : createShortLoan isHealthy isStablecoin position trade timestamp now mode = .ok loan) :
    trade.isShort = true ∧ ∃ amounts, openingAmounts trade mode = .ok amounts ∧
      loan.collateral.asset = trade.pair.quote ∧ loan.borrowed.map (·.asset) = some trade.pair.base ∧
      loan.collateralInterest = Interest.openNew amounts.2 timestamp ∧
      loan.borrowedInterest = some (Interest.openNew amounts.1 timestamp) := by
  rcases base : trade.pair.base.underlying with _ | _
  · simp only [createShortLoan, base, pyAssert_bind_eq_ok_except] at created
    exact absurd created.2.2.2 throw_ne_ok_except
  rcases quote : trade.pair.quote.underlying with _ | quoteUnderlying
  · simp only [createShortLoan, base, quote, pyAssert_bind_eq_ok_except] at created
    exact absurd created.2.2.2 throw_ne_ok_except
  simp only [createShortLoan, base, quote, pyAssert_bind_eq_ok_except] at created
  obtain ⟨amounts, opened, built⟩ := except_bind_eq_ok.mp created.2.2.2.2.2.2
  simp only [checkHealth_bind_except] at built
  split_ifs at built
  cases built
  exact ⟨created.1, amounts, opened, rfl, rfl, rfl, rfl⟩

/-- **The universe's short pair passes `create_short_loan`'s pair checks.** Open a
position with a trade on the pair `get_shorting_pair` built from a spot pair whose
quote token is a stablecoin. Then `create_short_loan` raises only what the opening
trade's amounts raise or `LiquidationRisked`: none of its assertions on the pair's
kind, underlying tokens or asset types can fail. -/
theorem shortingPair_createShortLoan (built : getShortingPair strategyUniverse pair = .ok short)
    (onPair : trade.pair = short) (opening : position.trades.length = 1)
    (fresh : position.loan = none) (stable : isStablecoin pair.quote.toToken = true)
    (raised : createShortLoan isHealthy isStablecoin position trade timestamp now mode = .error e) :
    openingAmounts trade mode = .error e ∨ e = .liquidationRisked := by
  obtain ⟨-, -, borrowReserve, collateralReserve, -, -, -, -, rfl⟩ := getShortingPair_eq_ok.mp built
  simp only [createShortLoan, TradeExecution.isShort, onPair, TradingPairIdentifier.isShort,
    ClientToken.toAsset, opening, fresh, Option.isNone_none, stable, beq_self_eq_true,
    pyAssert_bind_except, ↓reduceIte] at raised
  rcases amounts : openingAmounts trade mode with failure | ⟨borrowedQuantity, collateralQuantity⟩
  · rw [amounts, error_bind_except] at raised
    exact .inl (congrArg _ (Except.error.inj raised))
  · rw [amounts, ok_bind_except, checkHealth_bind_except] at raised
    split_ifs at raised
    · cases raised
    · exact .inr (Except.error.inj raised).symm

/-- A trade on the Aave WETH short that planned `planned` WETH against one USDC of
reserve. -/
def aaveShortTrade (planned : ℚ) : TradeExecution :=
  { tradeId := 1, positionId := 1, pair := aaveWethShort, openedAt := 0, strategyCycleAt := 0,
    plannedQuantity := planned, plannedPrice := 1, plannedReserve := 1,
    reserveCurrency := { toToken := usdcToken } }

/-- The position that trade opens, holding `loan`. -/
def aaveShortPosition (planned : ℚ) (loan : Option Loan) : TradingPosition :=
  { positionId := 1, pair := aaveWethShort, openedAt := 0, trades := [aaveShortTrade planned], loan }

/-- Opening the Aave short with a buy fails on the opening trade's amounts. -/
theorem shortingPair_createShortLoan_openingBuy :
    openingAmounts (aaveShortTrade 1) .plan =
        .error (.assertionError "Short position must open with a sell with negative quantity, got: ") ∨
      Error.assertionError "Short position must open with a sell with negative quantity, got: " =
        .liquidationRisked :=
  shortingPair_createShortLoan (fun _ => true)
    (show getShortingPair aaveUniverse wethUsdcSpot = .ok aaveWethShort from rfl)
    (show (aaveShortTrade 1).pair = aaveWethShort from rfl)
    (show (aaveShortPosition 1 none).trades.length = 1 from rfl)
    (show (aaveShortPosition 1 none).loan = none from rfl)
    (show usdcOnly wethUsdcSpot.quote.toToken = true from rfl)
    (show createShortLoan (fun _ => true) usdcOnly (aaveShortPosition 1 none) (aaveShortTrade 1) 0 0
      .plan = .error _ from rfl)

/-- **A credit supply position on the universe's pair accrues no interest.**
`get_credit_supply_pair` translates the aToken with the default asset type, a plain
token, and so does it the reserve asset. Neither accrues interest, so every entry of
a distribution `prepare_interest_distribution` returns was made for a position on
another pair. -/
theorem creditSupplyPair_accruesNoInterest {portfolio : Portfolio}
    {operation : InterestDistributionOperation}
    (built : getCreditSupplyPair strategyUniverse = .ok supply)
    (prepared : prepareInterestDistribution isStablecoin portfolio = .ok operation) :
    ∀ entry ∈ operation.entries, ∃ p ∈ portfolio.getOpenAndFrozenPositions,
      entry.positionId = p.positionId ∧ p.pair ≠ supply := by
  obtain ⟨reserve, -, -, -, -, rfl⟩ := getCreditSupplyPair_eq_ok.mp built
  obtain ⟨collected, collecting, rfl⟩ := prepareInterestDistribution_eq_ok isStablecoin prepared
  obtain ⟨-, fresh, entries, made⟩ := collectEntries_eq_ok isStablecoin collecting
  intro entry member
  obtain ⟨original, present, rfl⟩ := List.mem_map.mp member
  rw [entries, List.nil_append] at present
  obtain ⟨⟨p, asset⟩, accruing, making⟩ := forall₂_exists_of_mem made present
  obtain ⟨p, pMember, assets⟩ := List.mem_flatMap.mp accruing
  obtain ⟨asset, accrues, same⟩ := List.mem_map.mp assets
  obtain ⟨rfl, rfl⟩ := Prod.mk.inj same
  refine ⟨p, pMember, ((makeEntry_eq_ok isStablecoin).mp making).2.1, ?_⟩
  intro onSupply
  simp [accruingAssets, onSupply, ClientToken.toAsset, AssetIdentifier.isInterestAccruing] at accrues

/-- A credit supply of 100 on the universe's pair. -/
def aaveSupplyPosition : TradingPosition :=
  { positionId := 2, pair := aaveUsdcSupply, openedAt := 0,
    loan := some
      { pair := aaveUsdcSupply,
        collateral := { asset := aaveUsdcSupply.base, lastUsdPrice := 1, lastPricingAt := 0,
                        quantity := 100 },
        collateralInterest := Interest.openNew 100 0, borrowed := none, borrowedInterest := none } }

/-- That supply beside the aUSDC supply of 100 of position 1. -/
def twoSupplies : Portfolio := { openPositions := [creditSupplyPosition aUsdc 100, aaveSupplyPosition] }

/-- Only the aUSDC supply of position 1 gets an entry, with the whole weight. -/
theorem prepareInterestDistribution_twoSupplies :
    prepareInterestDistribution usdcOnly twoSupplies = .ok (usdcSupplyDistribution 100) := by
  have collected : collectEntries usdcOnly { assets := [], entries := [], totals := [] }
      twoSupplies.getOpenAndFrozenPositions =
      .ok { assets := [aUsdc], entries := [usdcSupplyEntry 100], totals := [(aUsdc, 100)] } := by
    simp [collectEntries, collectAsset, makeEntry, twoSupplies, creditSupplyPosition,
      aaveSupplyPosition, aaveUsdcSupply, Portfolio.getOpenAndFrozenPositions, Loan.getTrackedAsset,
      InterestDistributionEntry.quantity, aUsdc, usdcOnly, usdcToken,
      AssetIdentifier.isInterestAccruing, AssetIdentifier.getPricingAsset,
      InterestDistributionOperation.addEntry, setAdd, counterAdd, TradingPosition.isLong,
      TradingPairIdentifier.isLong, usdcSupplyEntry]
  simp [prepareInterestDistribution, collected, weighEntries, counterGet, usdcSupplyDistribution,
    usdcSupplyEntry, InterestDistributionEntry.quantity, InterestDistributionEntry.asset]

/-- The one entry of that distribution was made for position 1, not for the supply on the
universe's pair. -/
theorem creditSupplyPair_accruesNoInterest_twoSupplies :
    getCreditSupplyPair aaveUniverse = .ok aaveUsdcSupply ∧
      prepareInterestDistribution usdcOnly twoSupplies = .ok (usdcSupplyDistribution 100) ∧
      ∃ p ∈ twoSupplies.getOpenAndFrozenPositions,
        (usdcSupplyEntry 100).positionId = p.positionId ∧ p.pair ≠ aaveUsdcSupply :=
  have built : getCreditSupplyPair aaveUniverse = .ok aaveUsdcSupply := rfl
  ⟨built, prepareInterestDistribution_twoSupplies,
    creditSupplyPair_accruesNoInterest built prepareInterestDistribution_twoSupplies
      { usdcSupplyEntry 100 with weight := 1 } (List.mem_singleton_self _)⟩

end Loans

/-! ## Lending markets -/

section Markets

variable {strategyUniverse : TradingStrategyUniverse} {timestamp : Nat} {asset : AssetIdentifier}
  {pair : TradingPairIdentifier}

/-- A reserve the lookup finds is one of the loaded reserves. -/
theorem TradingStrategyUniverse.getLendingReserve_mem {chainId address : Nat}
    {reserve : LendingReserve}
    (found : strategyUniverse.getLendingReserve chainId address = .ok reserve) :
    ∃ reserves, strategyUniverse.lendingReserves = some reserves ∧ reserve ∈ reserves := by
  unfold getLendingReserve getByChainAndAddress at found
  rcases loaded : strategyUniverse.lendingReserves with _ | reserves
  · simp [loaded] at found
  · simp only [loaded] at found
    split at found
    · rename_i hit
      exact ⟨reserves, rfl, pure_eq_ok_except.mp found ▸ List.mem_of_find?_eq_some hit⟩
    · exact absurd found throw_ne_ok_except

/-- `has_lending_market_available` answers yes only for an asset whose lending reserve
resolves. -/
theorem hasLendingMarketAvailable_resolves
    (available : hasLendingMarketAvailable strategyUniverse timestamp asset = .ok true) :
    ∃ reserve, strategyUniverse.getLendingReserve asset.chainId asset.address = .ok reserve := by
  unfold hasLendingMarketAvailable at available
  split at available
  · split at available
    · simp at available
    · exact absurd available throw_ne_ok_except
    · exact ⟨_, ‹_›⟩
  · exact absurd available throw_ne_ok_except

/-- `can_open_short` answers yes only when both assets have a lending market. -/
theorem canOpenShort_eq_ok_true (can : canOpenShort strategyUniverse timestamp pair = .ok true) :
    hasLendingMarketAvailable strategyUniverse timestamp pair.base = .ok true ∧
      hasLendingMarketAvailable strategyUniverse timestamp pair.quote = .ok true := by
  obtain ⟨base, hasBase, rest⟩ := except_bind_eq_ok.mp can
  cases base
  · simp at rest
  · exact ⟨hasBase, by simpa using rest⟩

/-- **`can_open_short` agrees with `get_shorting_pair`.** When `can_open_short` answers
yes for a spot pair quoted in the reserve asset, and the loaded reserves' vTokens and
aTokens carry decimals, `get_shorting_pair` builds the short pair: both lending reserves
it looks up resolve. -/
theorem canOpenShort_getShortingPair (can : canOpenShort strategyUniverse timestamp pair = .ok true)
    (spot : pair.kind = .spotMarketHold) (quoted : pair.quote.key = strategyUniverse.reserveAsset.key)
    (decimals : ∀ reserves, strategyUniverse.lendingReserves = some reserves → ∀ reserve ∈ reserves,
      reserve.vtoken.decimals.any (0 < ·) = true ∧ reserve.atoken.decimals.any (0 < ·) = true) :
    ∃ short, getShortingPair strategyUniverse pair = .ok short := by
  obtain ⟨hasBase, hasQuote⟩ := canOpenShort_eq_ok_true can
  obtain ⟨borrowReserve, borrowFound⟩ := hasLendingMarketAvailable_resolves hasBase
  obtain ⟨collateralReserve, collateralFound⟩ := hasLendingMarketAvailable_resolves hasQuote
  obtain ⟨reserves, loaded, borrowMember⟩ :=
    TradingStrategyUniverse.getLendingReserve_mem borrowFound
  obtain ⟨reserves', loaded', collateralMember⟩ :=
    TradingStrategyUniverse.getLendingReserve_mem collateralFound
  exact ⟨_, getShortingPair_eq_ok.mpr ⟨spot, quoted, borrowReserve, collateralReserve, borrowFound,
    collateralFound, (decimals _ loaded _ borrowMember).1, (decimals _ loaded' _ collateralMember).2,
    rfl⟩⟩

/-- `can_open_short` says yes for WETH-USDC in the Aave universe, which resolves the
short pair. -/
theorem canOpenShort_getShortingPair_aave :
    ∃ short, getShortingPair aaveUniverse wethUsdcSpot = .ok short :=
  canOpenShort_getShortingPair (show canOpenShort aaveUniverse 0 wethUsdcSpot = .ok true from rfl)
    rfl rfl fun reserves loaded reserve member => by
      obtain rfl := Option.some.inj (loaded : some [usdcReserve, wethReserve] = some reserves)
      simp only [List.mem_cons, List.mem_singleton, List.not_mem_nil, or_false] at member
      rcases member with rfl | rfl <;> exact ⟨rfl, rfl⟩

end Markets

/-! ## Leveraged positions -/

/-- `TradingPosition.is_leverage()` of the data model, not part of the sources: a
position on a lending protocol short or long pair. -/
def TradingPosition.isLeverage (position : TradingPosition) : Bool :=
  position.pair.kind == .lendingProtocolShort || position.pair.kind == .lendingProtocolLong

/-- `update_leveraged_position_interest`: `update_interest` on the vToken, the pair's base,
then on the aToken, its quote, returning both events. Prices only feed dollar values
and are left out. -/
def updateLeveragedPositionInterest (positionId : Nat) (newVtokenAmount newTokenAmount : ℚ)
    (eventAt : Nat) (blockNumber txHash logIndex : Option Nat) :
    Exec Portfolio (BalanceUpdate × BalanceUpdate) := do
  let some position := (← get).getPositionById? positionId | throw .keyError
  pyAssert position.isLeverage ""
  let pair := position.pair
  let vevt ← updateInterest positionId pair.base newVtokenAmount eventAt blockNumber txHash logIndex
  let aevt ← updateInterest positionId pair.quote newTokenAmount eventAt blockNumber txHash logIndex
  pure (vevt, aevt)

section LeveragedRun

variable {portfolio after : Portfolio} {positionId : Nat} {position : TradingPosition}
  {newVtokenAmount newTokenAmount : ℚ} {eventAt : Nat} {blockNumber txHash logIndex : Option Nat}
  {debt collateral : Interest}

/-- The two `update_interest` calls of a leveraged position in a row. -/
theorem updateLeveragedPositionInterest_eq (live : portfolio.getPositionById? positionId = some position)
    (leveraged : position.isLeverage = true) :
    updateLeveragedPositionInterest positionId newVtokenAmount newTokenAmount eventAt blockNumber
      txHash logIndex portfolio =
    (do
      let vevt ← updateInterest positionId position.pair.base newVtokenAmount eventAt blockNumber
        txHash logIndex
      let aevt ← updateInterest positionId position.pair.quote newTokenAmount eventAt blockNumber
        txHash logIndex
      pure (vevt, aevt)) portfolio := by
  simp only [updateLeveragedPositionInterest, get_bind, live, pyAssert_bind, leveraged, if_true]

/-- Past its lookups, a leveraged interest sync returns exactly when both gains pass
`update_interest`'s check. -/
theorem updateLeveragedPositionInterest_returns_iff
    (live : portfolio.getPositionById? positionId = some position)
    (leveraged : position.isLeverage = true)
    (debtBooked : portfolio.BooksInterest positionId position.pair.base .borrowed debt)
    (collateralBooked : portfolio.BooksInterest positionId position.pair.quote .collateral collateral) :
    (∃ events after, updateLeveragedPositionInterest positionId newVtokenAmount newTokenAmount
        eventAt blockNumber txHash logIndex portfolio = .ok events after) ↔
      debt.AcceptsGain newVtokenAmount ∧ collateral.AcceptsGain newTokenAmount := by
  simp only [updateLeveragedPositionInterest_eq live leveraged]
  constructor
  · rintro ⟨events, after, returned⟩
    obtain ⟨vevt, middle, first, rest⟩ := bind_eq_ok.mp returned
    obtain ⟨aevt, final, second, -⟩ := bind_eq_ok.mp rest
    have moved := (updateInterest_books_sides debtBooked collateralBooked nofun first).2.2.2.2
    exact ⟨debtBooked.updateInterest_returns_iff.mp ⟨_, _, first⟩,
      moved.updateInterest_returns_iff.mp ⟨_, _, second⟩⟩
  · rintro ⟨debtSane, collateralSane⟩
    obtain ⟨vevt, middle, first⟩ := debtBooked.updateInterest_returns_iff.mpr debtSane
    have moved := (updateInterest_books_sides debtBooked collateralBooked nofun first).2.2.2.2
    obtain ⟨aevt, final, second⟩ := moved.updateInterest_returns_iff.mpr collateralSane
    exact ⟨_, _, by rw [bind_of_ok first, bind_of_ok second]; rfl⟩

/-- A returning leveraged interest sync books the two gains under consecutive ids, the
vToken's first, and leaves both trackers at their new amounts. -/
theorem updateLeveragedPositionInterest_eq_ok
    (live : portfolio.getPositionById? positionId = some position)
    (leveraged : position.isLeverage = true)
    (debtBooked : portfolio.BooksInterest positionId position.pair.base .borrowed debt)
    (collateralBooked : portfolio.BooksInterest positionId position.pair.quote .collateral collateral)
    {vevt aevt : BalanceUpdate}
    (returned : updateLeveragedPositionInterest positionId newVtokenAmount newTokenAmount eventAt
      blockNumber txHash logIndex portfolio = .ok (vevt, aevt) after) :
    vevt.quantity = newVtokenAmount - debt.lastTokenAmount ∧
      aevt.quantity = newTokenAmount - collateral.lastTokenAmount ∧
      aevt.balanceUpdateId = vevt.balanceUpdateId + 1 ∧
      after.BooksInterest positionId position.pair.base .borrowed
        (debt.synced newVtokenAmount eventAt blockNumber) ∧
      after.BooksInterest positionId position.pair.quote .collateral
        (collateral.synced newTokenAmount eventAt blockNumber) := by
  rw [updateLeveragedPositionInterest_eq live leveraged] at returned
  obtain ⟨v, middle, first, rest⟩ := bind_eq_ok.mp returned
  obtain ⟨a, final, second, done⟩ := bind_eq_ok.mp rest
  simp only [pure_apply, EStateM.Result.ok.injEq, Prod.mk.injEq] at done
  obtain ⟨⟨rfl, rfl⟩, rfl⟩ := done
  obtain ⟨vid, vnext, vbooked, debtSynced, moved⟩ :=
    updateInterest_books_sides debtBooked collateralBooked nofun first
  obtain ⟨aid, -, abooked, collateralSynced, debtKept⟩ :=
    updateInterest_books_sides moved debtSynced nofun second
  exact ⟨vbooked, abooked, by rw [aid, vnext, vid], debtKept, collateralSynced⟩

/-- **A leveraged interest sync books both sides or neither returns.** For a leveraged
position whose loan keeps the vToken (the pair's base) on the borrowed side and the
aToken (its quote) on the collateral side, `update_leveraged_position_interest` returns
exactly when both gains pass `update_interest`'s check. A returning call books the two
gains under consecutive balance-update ids, the vToken's first, and leaves both
trackers at their new amounts. -/
theorem updateLeveragedPositionInterest_books
    (live : portfolio.getPositionById? positionId = some position)
    (leveraged : position.isLeverage = true)
    (debtBooked : portfolio.BooksInterest positionId position.pair.base .borrowed debt)
    (collateralBooked : portfolio.BooksInterest positionId position.pair.quote .collateral collateral) :
    ((∃ events after, updateLeveragedPositionInterest positionId newVtokenAmount newTokenAmount
        eventAt blockNumber txHash logIndex portfolio = .ok events after) ↔
      debt.AcceptsGain newVtokenAmount ∧ collateral.AcceptsGain newTokenAmount) ∧
    ∀ vevt aevt after, updateLeveragedPositionInterest positionId newVtokenAmount newTokenAmount
        eventAt blockNumber txHash logIndex portfolio = .ok (vevt, aevt) after →
      vevt.quantity = newVtokenAmount - debt.lastTokenAmount ∧
      aevt.quantity = newTokenAmount - collateral.lastTokenAmount ∧
      aevt.balanceUpdateId = vevt.balanceUpdateId + 1 ∧
      after.BooksInterest positionId position.pair.base .borrowed
        (debt.synced newVtokenAmount eventAt blockNumber) ∧
      after.BooksInterest positionId position.pair.quote .collateral
        (collateral.synced newTokenAmount eventAt blockNumber) :=
  ⟨updateLeveragedPositionInterest_returns_iff live leveraged debtBooked collateralBooked,
    fun _ _ _ returned =>
      updateLeveragedPositionInterest_eq_ok live leveraged debtBooked collateralBooked returned⟩

/-- The Aave WETH short's loan: one vWETH owed against two aUSDC. -/
def aaveShortLoan : Loan :=
  { pair := aaveWethShort,
    collateral := { asset := aUsdc, lastUsdPrice := 1, lastPricingAt := 0, quantity := 2 },
    collateralInterest := Interest.openNew 2 0,
    borrowed := some { asset := vWeth, lastUsdPrice := 1, lastPricingAt := 0, quantity := 1 },
    borrowedInterest := some (Interest.openNew 1 0) }

/-- A portfolio holding that short. -/
def aaveShortPortfolio : Portfolio :=
  { openPositions := [aaveShortPosition (-1) (some aaveShortLoan)] }

/-- The short syncs a tenth of a vWETH and a hundredth of an aUSDC of interest. -/
theorem updateLeveragedPositionInterest_books_aaveShort :
    ∃ events after, updateLeveragedPositionInterest 1 (11 / 10) (201 / 100) 1 none none none
      aaveShortPortfolio = .ok events after :=
  (updateLeveragedPositionInterest_books
    (show aaveShortPortfolio.getPositionById? 1 = some (aaveShortPosition (-1) (some aaveShortLoan))
      from rfl) rfl ⟨_, _, rfl, rfl, rfl, rfl⟩ ⟨_, _, rfl, rfl, rfl, rfl⟩).1.mpr
    ⟨by norm_num [Interest.AcceptsGain, Interest.openNew, aaveShortLoan, abs_of_pos],
      by norm_num [Interest.AcceptsGain, Interest.openNew, aaveShortLoan, abs_of_pos]⟩

/-- **The two syncs are not one transaction.** When the vToken's gain passes the check
and the aToken's does not, `update_leveraged_position_interest` raises `Unlikely
gained_interest` from a portfolio in which the vToken's event is already booked: its id,
the next balance-update id, is appended to the position's balance updates and the
vToken's tracker is moved. Two balance-update ids are spent. -/
theorem updateLeveragedPositionInterest_partial
    (live : portfolio.getPositionById? positionId = some position)
    (leveraged : position.isLeverage = true)
    (debtBooked : portfolio.BooksInterest positionId position.pair.base .borrowed debt)
    (collateralBooked : portfolio.BooksInterest positionId position.pair.quote .collateral collateral)
    (debtSane : debt.AcceptsGain newVtokenAmount)
    (collateralRejected : ¬collateral.AcceptsGain newTokenAmount) :
    ∃ after, updateLeveragedPositionInterest positionId newVtokenAmount newTokenAmount eventAt
        blockNumber txHash logIndex portfolio = .error (.assertionError "Unlikely gained_interest: ") after ∧
      after.nextBalanceUpdateId = portfolio.nextBalanceUpdateId + 2 ∧
      (∃ booked, after.getPositionById? positionId = some booked ∧
        booked.balanceUpdates = position.balanceUpdates ++ [portfolio.nextBalanceUpdateId]) ∧
      after.BooksInterest positionId position.pair.base .borrowed
        (debt.synced newVtokenAmount eventAt blockNumber) := by
  obtain ⟨vevt, middle, first⟩ : ∃ update after, updateInterest positionId position.pair.base
      newVtokenAmount eventAt blockNumber txHash logIndex portfolio = .ok update after :=
    debtBooked.updateInterest_returns_iff.mpr debtSane
  obtain ⟨-, next, -, debtSynced, moved⟩ :=
    updateInterest_books_sides debtBooked collateralBooked nofun first
  obtain ⟨position', loan, live', active, loaned, tracked⟩ := debtBooked
  obtain rfl : position = position' := Option.some.inj (live.symm.trans live')
  obtain ⟨vid, -⟩ := updateInterest_eq_ok live active loaned tracked first
  obtain ⟨-, found⟩ := getPositionById?_of_updateInterest live active loaned tracked first
  refine ⟨{ middle with nextBalanceUpdateId := middle.nextBalanceUpdateId + 1 }, ?_,
    by simp only [next], ⟨_, found, by rw [← vid]; rfl⟩, debtSynced⟩
  rw [updateLeveragedPositionInterest_eq live leveraged, bind_of_ok first,
    bind_of_error (moved.updateInterest_of_rejected collateralRejected)]

/-- An aUSDC balance that did not move makes the short's sync raise after booking the
vWETH's interest. -/
theorem updateLeveragedPositionInterest_partial_aaveShort :
    ∃ after, updateLeveragedPositionInterest 1 (11 / 10) 2 1 none none none aaveShortPortfolio =
        .error (.assertionError "Unlikely gained_interest: ") after ∧
      after.nextBalanceUpdateId = aaveShortPortfolio.nextBalanceUpdateId + 2 ∧
      (∃ booked, after.getPositionById? 1 = some booked ∧
        booked.balanceUpdates = (aaveShortPosition (-1) (some aaveShortLoan)).balanceUpdates ++
          [aaveShortPortfolio.nextBalanceUpdateId]) ∧
      after.BooksInterest 1 aaveWethShort.base .borrowed
        ((Interest.openNew 1 0).synced (11 / 10) 1 none) :=
  updateLeveragedPositionInterest_partial
    (show aaveShortPortfolio.getPositionById? 1 = some (aaveShortPosition (-1) (some aaveShortLoan))
      from rfl) rfl ⟨_, _, rfl, rfl, rfl, rfl⟩ ⟨_, _, rfl, rfl, rfl, rfl⟩
    (by norm_num [Interest.AcceptsGain, Interest.openNew, aaveShortLoan, abs_of_pos])
    (by norm_num [Interest.AcceptsGain, Interest.openNew, aaveShortLoan, abs_of_pos])

end LeveragedRun

/-! ## A short's interest from its opening -/

section ShortInterest

variable (isHealthy : Loan → Bool) {isStablecoin : Token → Bool} {position holder : TradingPosition}
  {trade : TradeExecution} {timestamp now : Nat} {mode : LoanMode} {loan : Loan}
  {portfolio : Portfolio} {positionId : Nat} {newVtokenAmount newTokenAmount : ℚ} {eventAt : Nat}
  {blockNumber txHash logIndex : Option Nat}

/-- A loan whose debt and collateral assets differ books the debt's asset on the
borrowed side and the collateral's on the collateral side. -/
theorem Loan.interestFor_sides {base quote : AssetIdentifier} (apart : base.key ≠ quote.key)
    (backing : loan.collateral.asset = quote) (debt : loan.borrowed.map (·.asset) = some base) :
    loan.interestFor base = some (.borrowed, loan.borrowedInterest) ∧
      loan.interestFor quote = some (.collateral, some loan.collateralInterest) := by
  obtain ⟨borrowed, owed, rfl⟩ := Option.map_eq_some'.mp debt
  subst backing
  simp [Loan.interestFor, apart, owed]

/-- **A short opened by `create_short_loan` syncs its interest.** Hold the loan
`create_short_loan` opened in a live position on the trade's pair, with its vToken and
aToken apart. Then `update_leveraged_position_interest` returns exactly when the new
vToken amount is a plausible gain over the debt the loan opened with, minus the mode's
quantity, and the new aToken amount one over the collateral it opened with. -/
theorem shortLoan_interestSync
    (created : createShortLoan isHealthy isStablecoin position trade timestamp now mode = .ok loan)
    (apart : trade.pair.base.key ≠ trade.pair.quote.key)
    (live : portfolio.getPositionById? positionId = some holder)
    (active : (holder.isOpen || holder.isFrozen) = true) (onPair : holder.pair = trade.pair)
    (holding : holder.loan = some loan) :
    (∃ events after, updateLeveragedPositionInterest positionId newVtokenAmount newTokenAmount
        eventAt blockNumber txHash logIndex portfolio = .ok events after) ↔
      (Interest.openNew (-modeQuantity trade mode) timestamp).AcceptsGain newVtokenAmount ∧
      (Interest.openNew (collateralChange trade mode) timestamp).AcceptsGain newTokenAmount := by
  obtain ⟨isShort, amounts, opened, backing, debt, collateralInterest, borrowedInterest⟩ :=
    createShortLoan_eq_ok isHealthy created
  obtain ⟨owes, holds⟩ := Loan.interestFor_sides apart backing debt
  have kind : trade.pair.kind = .lendingProtocolShort := by
    simpa [TradeExecution.isShort, TradingPairIdentifier.isShort] using isShort
  have leveraged : holder.isLeverage = true := by simp [TradingPosition.isLeverage, onPair, kind]
  rw [borrowedInterest] at owes
  rw [collateralInterest] at holds
  rw [← openingAmounts_fst opened, ← openingAmounts_snd opened]
  exact updateLeveragedPositionInterest_returns_iff live leveraged
    ⟨holder, loan, live, active, holding, onPair ▸ owes⟩
    ⟨holder, loan, live, active, holding, onPair ▸ holds⟩

/-- The Aave short, opened by selling one WETH against one USDC, syncs a tenth of a vWETH
and a hundredth of an aUSDC. -/
theorem shortLoan_interestSync_aaveShort :
    ∃ loan, createShortLoan (fun _ => true) usdcOnly (aaveShortPosition (-1) none)
        (aaveShortTrade (-1)) 0 0 .plan = .ok loan ∧
      ((∃ events after, updateLeveragedPositionInterest 1 (11 / 10) (201 / 100) 1 none none none
          { openPositions := [aaveShortPosition (-1) (some loan)] } = .ok events after) ↔
        (Interest.openNew (-modeQuantity (aaveShortTrade (-1)) .plan) 0).AcceptsGain (11 / 10) ∧
        (Interest.openNew (collateralChange (aaveShortTrade (-1)) .plan) 0).AcceptsGain (201 / 100)) := by
  obtain ⟨loan, created⟩ : ∃ loan, createShortLoan (fun _ => true) usdcOnly
      (aaveShortPosition (-1) none) (aaveShortTrade (-1)) 0 0 .plan = .ok loan := ⟨_, rfl⟩
  exact ⟨loan, created, shortLoan_interestSync (fun _ => true) created (by decide) rfl rfl rfl rfl⟩

end ShortInterest

end TradeExecutor
