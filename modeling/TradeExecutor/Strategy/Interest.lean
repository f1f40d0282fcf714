import TradeExecutor.State.State

/-! # Interest distribution

`prepare_interest_distribution` collects one entry per open or frozen position and
interest-accruing pair asset, holding the tracker of the loan side that owns the
asset, and weighs each entry by its share of the asset's total
(`TradeExecutor.prepareInterestDistribution`). `accrue_interest` checks each
asset's growth against the tripwire and yields, for each entry of the asset, what
`distribute` returns. `distribute` is a generator function: calling it builds a
generator whose body, the call of `update_interest`, runs only when that generator
is advanced. A yielded item is therefore the frozen call
(`TradeExecutor.DistributeCall`) and its body is `TradeExecutor.DistributeCall.run`.

A fully consumed generator of the source is a computation returning the list of its
items; the assertions of a generator run when it is first advanced, which for a
fully consumed one is in the order written.
-/

namespace TradeExecutor

/-- One entry of an interest distribution. The source keeps the position object;
here its id, looked up in the live portfolio when the entry is applied. `weight` is
`None` until the weighting loop of `prepare_interest_distribution` sets it, and
nothing reads it before. -/
structure InterestDistributionEntry where
  side : LoanSide
  positionId : Nat
  tracker : AssetWithTrackedValue
  weight : ℚ := 0
  deriving DecidableEq

namespace InterestDistributionEntry

/-- The tracked asset. -/
def asset (entry : InterestDistributionEntry) : AssetIdentifier := entry.tracker.asset

/-- The tracked amount in tokens. -/
def quantity (entry : InterestDistributionEntry) : ℚ := entry.tracker.quantity

end InterestDistributionEntry

/-- A `Counter` of amounts keyed by asset: a missing asset counts `0`. -/
def counterGet (totals : List (AssetIdentifier × ℚ)) (asset : AssetIdentifier) : ℚ :=
  ((totals.find? (·.1.key = asset.key)).map (·.2)).getD 0

/-- `totals[asset] += amount` on a `Counter`. -/
def counterAdd (totals : List (AssetIdentifier × ℚ)) (asset : AssetIdentifier) (amount : ℚ) :
    List (AssetIdentifier × ℚ) :=
  if asset.key ∈ totals.map (·.1.key) then
    updateByKey (·.1.key) asset.key (fun counted => (counted.1, counted.2 + amount)) totals
  else totals ++ [(asset, amount)]

/-- `assets.add(asset)` on a set of assets. -/
def setAdd (assets : List AssetIdentifier) (asset : AssetIdentifier) : List AssetIdentifier :=
  if asset.key ∈ assets.map (·.key) then assets else assets ++ [asset]

/-- One interest update batch. -/
structure InterestDistributionOperation where
  assets : List AssetIdentifier
  entries : List InterestDistributionEntry
  totals : List (AssetIdentifier × ℚ)
  deriving DecidableEq

section Prepare

-- Whether a token is a stablecoin: the identifier module that decides it is not part
-- of the sources.
variable (isStablecoin : Token → Bool)

/-- The entry of one interest-accruing asset of a position, with the checks
`prepare_interest_distribution` makes on it. -/
def makeEntry (p : TradingPosition) (asset : AssetIdentifier) :
    Except Error InterestDistributionEntry := do
  let some loan := p.loan | throw (.attributeError "get_tracked_asset")
  let some (side, tracker) := loan.getTrackedAsset asset
    | throw (.assertionError "Got confused with asset ")
  if side = .collateral then
    pyAssert (!p.isLong) ""
    pyAssert (isStablecoin asset.getPricingAsset) "Asset is collateral but not stablecoin based: "
  let entry : InterestDistributionEntry := { side, positionId := p.positionId, tracker }
  pyAssert (entry.quantity > 0) "Zero-amount entry in the interest distribution: "
  pure entry

/-- Record an entry of `asset`: append it, add the asset and count its quantity. -/
def InterestDistributionOperation.addEntry (operation : InterestDistributionOperation)
    (asset : AssetIdentifier) (entry : InterestDistributionEntry) : InterestDistributionOperation where
  assets := setAdd operation.assets asset
  entries := operation.entries ++ [entry]
  totals := counterAdd operation.totals asset entry.quantity

/-- The body of the inner loop of `prepare_interest_distribution`: an asset that does
not accrue interest is skipped. -/
def collectAsset (operation : InterestDistributionOperation) (p : TradingPosition)
    (asset : AssetIdentifier) : Except Error InterestDistributionOperation :=
  if asset.isInterestAccruing then
    operation.addEntry asset <$> makeEntry isStablecoin p asset
  else pure operation

/-- The outer loop of `prepare_interest_distribution`: the base then the quote asset
of each position. -/
def collectEntries (operation : InterestDistributionOperation) :
    List TradingPosition → Except Error InterestDistributionOperation
  | [] => pure operation
  | p :: rest => do
    let operation ← collectAsset isStablecoin operation p p.pair.base
    let operation ← collectAsset isStablecoin operation p p.pair.quote
    collectEntries operation rest

/-- The weighting loop: each entry's share of its asset's total. -/
def weighEntries (totals : List (AssetIdentifier × ℚ)) :
    List InterestDistributionEntry → Except Error (List InterestDistributionEntry)
  | [] => pure []
  | entry :: rest => do
    let weight ← decimalDiv entry.quantity (counterGet totals entry.asset)
    let rest ← weighEntries totals rest
    pure ({ entry with weight } :: rest)

/-- `prepare_interest_distribution`: the entries of all open and frozen positions,
weighted. Prices only feed dollar values and are left out. -/
def prepareInterestDistribution (portfolio : Portfolio) :
    Except Error InterestDistributionOperation := do
  let operation ← collectEntries isStablecoin { assets := [], entries := [], totals := [] }
    portfolio.getOpenAndFrozenPositions
  let entries ← weighEntries operation.totals operation.entries
  pure { operation with entries }

end Prepare

/-- The interest tracker `update_interest` books an asset under: the collateral's,
else the borrowed side's when the asset is the borrowed one. -/
def Loan.interestFor (loan : Loan) (asset : AssetIdentifier) :
    Option (LoanSide × Option Interest) :=
  if asset.key = loan.collateral.asset.key then some (.collateral, some loan.collateralInterest)
  else match loan.borrowed with
    | some borrowed =>
      if asset.key = borrowed.asset.key then some (.borrowed, loan.borrowedInterest) else none
    | none => none

/-- Replace the interest tracker of one side of the loan. -/
def Loan.setInterest (loan : Loan) : LoanSide → Interest → Loan
  | .collateral, interest => { loan with collateralInterest := interest }
  | .borrowed, interest => { loan with borrowedInterest := some interest }

/-- `update_interest`: book what an aToken or vToken gained since its last update as a
balance update of the position, and move its interest tracker to the new amount.
The balance-update id is allocated before the sanity check on the gain. -/
def updateInterest (positionId : Nat) (asset : AssetIdentifier) (newTokenAmount : ℚ)
    (eventAt : Nat) (blockNumber txHash logIndex : Option Nat) : Exec Portfolio BalanceUpdate := do
  let some position := (← get).getPositionById? positionId | throw .keyError
  pyAssert (position.isOpen || position.isFrozen) "Cannot update interest for position "
  let some loan := position.loan | throw (.assertionError "")
  let some (side, tracked) := loan.interestFor asset | throw (.assertionError "Loan ")
  let some interest := tracked
    | throw (.assertionError "Position does not have interest tracked set up on ")
  let eventId := (← get).nextBalanceUpdateId
  modify fun p => { p with nextBalanceUpdateId := p.nextBalanceUpdateId + 1 }
  let previousUpdateAt := interest.lastEventAt
  let oldBalance := interest.lastTokenAmount
  let gainedInterest := newTokenAmount - oldBalance
  pyAssert (0 < |gainedInterest| ∧ |gainedInterest| < 999) "Unlikely gained_interest: "
  let evt : BalanceUpdate := {
    balanceUpdateId := eventId
    positionType := .openPosition
    cause := .interest
    asset
    blockMinedAt := eventAt
    chainId := asset.chainId
    oldBalance
    quantity := gainedInterest
    txHash
    logIndex
    positionId := some position.positionId
    blockNumber
    previousUpdateAt := some previousUpdateAt }
  let updated : Interest := { interest with
    lastUpdatedAt := eventAt, lastEventAt := eventAt, lastUpdatedBlockNumber := blockNumber,
    lastTokenAmount := newTokenAmount }
  modify (·.modifyPosition positionId fun p =>
    { p.addBalanceUpdateEvent evt with loan := some (loan.setInterest side updated) })
  pure evt

/-- A generator built by `InterestDistributionEntry.distribute`: the entry and the
arguments of the call, frozen until the generator is advanced. -/
structure DistributeCall where
  entry : InterestDistributionEntry
  timestamp : Nat
  blockNumber : Option Nat
  totalAccrued : ℚ
  deriving DecidableEq

namespace DistributeCall

/-- The token amount `distribute` hands to `update_interest`. `update_interest` never
moves a tracker, so the entry's tracker is the loan's. -/
def newTokenAmount (call : DistributeCall) : ℚ :=
  call.entry.quantity * (call.totalAccrued * call.entry.weight)

/-- The body of `distribute`, which runs when its generator is advanced. -/
def run (call : DistributeCall) : Exec State BalanceUpdate :=
  liftPortfolio <| updateInterest call.entry.positionId call.entry.asset call.newTokenAmount
    call.timestamp call.blockNumber none none

end DistributeCall

namespace InterestDistributionOperation

/-- `accrue_interest_for_asset`, fully consumed: the growth of the asset's total must
be positive and within the tripwire; then each entry of the asset yields the
generator its `distribute` call returns. -/
def accrueInterestForAsset (operation : InterestDistributionOperation) (asset : AssetIdentifier)
    (timestamp : Nat) (blockNumber : Option Nat) (newAmount maxInterestGain : ℚ) :
    Exec State (List DistributeCall) := do
  let interestAccrued := newAmount - counterGet operation.totals asset
  pyAssert (interestAccrued > 0) "Interest cannot go negative: "
  let gain ← decimalDiv interestAccrued (counterGet operation.totals asset)
  pyAssert (|gain| ≤ maxInterestGain) "Interest gain tripwired. Asset: "
  pure ((operation.entries.filter (·.asset.key = asset.key)).map fun entry =>
    { entry, timestamp, blockNumber, totalAccrued := interestAccrued })

/-- The loop of `accrue_interest` over the on-chain balances, in dictionary order. -/
def accrueEach (operation : InterestDistributionOperation) (timestamp : Nat)
    (blockNumber : Option Nat) (maxInterestGain : ℚ) :
    List (AssetIdentifier × ℚ) → Exec State (List DistributeCall)
  | [] => pure []
  | (asset, newBalance) :: rest => do
    let calls ← operation.accrueInterestForAsset asset timestamp blockNumber newBalance
      maxInterestGain
    let more ← accrueEach operation timestamp blockNumber maxInterestGain rest
    pure (calls ++ more)

end InterestDistributionOperation

/-- `set_interest_checkpoint`. -/
def setInterestCheckpoint (timestamp : Nat) (blockNumber : Option Nat) : Exec State Unit :=
  modify fun s => { s with sync := { s.sync with interest := { s.sync.interest with
    lastSyncAt := some timestamp, lastSyncBlock := blockNumber } } }

/-- `accrue_interest`, fully consumed: the items of every asset's
`accrue_interest_for_asset`, then the on-chain balances and the checkpoint are
stored. -/
def accrueInterest (onChainBalances : List (AssetIdentifier × ℚ))
    (interestDistribution : InterestDistributionOperation) (blockTimestamp blockNumber : Nat)
    (maxInterestGain : ℚ := 1 / 20) : Exec State (List DistributeCall) := do
  let calls ← interestDistribution.accrueEach blockTimestamp (some blockNumber) maxInterestGain
    onChainBalances
  modify fun s => { s with sync := { s.sync with interest := { s.sync.interest with
    assets := onChainBalances } } }
  setInterestCheckpoint blockTimestamp (some blockNumber)
  pure calls

end TradeExecutor
