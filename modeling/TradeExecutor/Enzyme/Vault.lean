import TradeExecutor.State.State

/-! # Enzyme vault treasury sync

`EnzymeVaultSyncModel.sync_treasury` reads the vault's deposit and redemption
events in the block window after the last scanned block, translates each into
balance updates applied to the reserve or to a trading position, records the
updates by id and advances the checkpoint. Events arrive already decoded:
`translate_token_details` has turned token details into assets. The reader is
the spec's event reader (`TradeExecutor.Enzyme.fetchVaultBalanceEvents`); the
reorganisation monitor, the exchange-rate oracle and the wall clock are outside
the model, the clock entering as the argument `now`.
-/

namespace TradeExecutor

namespace Enzyme

/-- A `Deposit` (SharesBought) event of the vault. -/
structure Deposit where
  denominationToken : AssetIdentifier
  investmentAmount : ℚ
  receiver : Nat
  timestamp : Nat
  blockNumber : Nat
  transactionHash : Nat
  logIndex : Nat
  deriving DecidableEq

/-- A `Redemption` (in-kind SharesRedeemed) event of the vault: the raw amount of
each asset paid out. -/
structure Redemption where
  redeemer : Nat
  redeemedAssets : List (AssetIdentifier × Nat)
  timestamp : Nat
  blockNumber : Nat
  transactionHash : Nat
  logIndex : Nat
  deriving DecidableEq

/-- The balance events the vault emits. -/
inductive EnzymeBalanceEvent where
  | deposit (event : Deposit)
  | redemption (event : Redemption)
  deriving DecidableEq

/-- The block an event was mined in. -/
def EnzymeBalanceEvent.blockNumber : EnzymeBalanceEvent → Nat
  | .deposit event => event.blockNumber
  | .redemption event => event.blockNumber

/-- Modelled from the spec: the event reader returns the vault's events of the
window `[startBlock, endBlock]` in chain order. -/
def fetchVaultBalanceEvents (chainEvents : List EnzymeBalanceEvent) (startBlock endBlock : Nat) :
    List EnzymeBalanceEvent :=
  chainEvents.filter fun event => startBlock ≤ event.blockNumber ∧ event.blockNumber ≤ endBlock

/-- The vault's deployment event. -/
structure DeploymentEvent where
  blockNumber : Nat
  blockHash : Nat
  transactionHash : Nat
  deriving DecidableEq

/-- `State.sync.treasury := treasury`. -/
def State.setTreasury (state : State) (treasury : TreasuryState) : State :=
  { state with sync := { state.sync with treasury } }

namespace EnzymeVaultSyncModel

/-- `get_related_position`: the reserve position of the asset's address, else the open
position of the asset. -/
def getRelatedPosition (asset : AssetIdentifier) : Exec Portfolio Holder := do
  let portfolio ← get
  pyAssert (portfolio.reserves.length = 1) "Safety check"
  match portfolio.getReserve? asset.address with
  | some _ => pure (.reserve asset.address)
  | none =>
    match portfolio.getOpenPositionForAsset asset with
    | some spotPosition => pure (.position spotPosition.positionId)
    | none => throw (.unknownAsset asset)

/-- The second half of `process_deposit`: raise the reserve position of the
deposited asset by the invested amount under a fresh balance-update id. -/
def creditReserve (event : Deposit) : Exec Portfolio BalanceUpdate := do
  let asset := event.denominationToken
  let some reservePosition := (← get).getReserve? asset.address | throw .keyError
  let pastBalance := reservePosition.quantity
  let newBalance := reservePosition.quantity + event.investmentAmount
  let eventId := (← get).nextBalanceUpdateId
  modify fun p => { p with nextBalanceUpdateId := p.nextBalanceUpdateId + 1 }
  modify (·.applyToHolder (.reserve asset.address) event.investmentAmount eventId)
  pure {
    balanceUpdateId := eventId
    positionType := .reserve
    cause := .deposit
    asset
    blockMinedAt := event.timestamp
    chainId := asset.chainId
    pastQuantity := pastBalance
    newQuantity := newBalance
    ownerAddress := some event.receiver
    txHash := some event.transactionHash
    logIndex := some event.logIndex
    positionId := none }

/-- `process_deposit`: the first deposit opens the reserve, a later one must be in
the reserve asset; then the reserve is credited. -/
def processDeposit (event : Deposit) : Exec Portfolio BalanceUpdate := do
  let asset := event.denominationToken
  let portfolio ← get
  match portfolio.reserves with
  | [] => set (portfolio.initialiseReserves asset)
  | reserve :: _ => pyAssert (asset.key = reserve.asset.key) ""
  creditReserve event

/-- The balance-update position type of a holder. -/
def Holder.positionType : Holder → BalanceUpdatePositionType
  | .reserve _ => .reserve
  | .position _ => .openPosition

/-- The balance-update position id of a holder. -/
def Holder.positionId : Holder → Option Nat
  | .reserve _ => none
  | .position positionId => some positionId

/-- One iteration of `process_redemption`'s loop: lower the related holder by the
redeemed amount under a fresh id, then check that it stays positive. -/
def redeemAsset (event : Redemption) (asset : AssetIdentifier) (rawAmount : Nat) :
    Exec Portfolio BalanceUpdate := do
  let position ← getRelatedPosition asset
  let quantity := asset.convertToDecimal rawAmount
  let eventId := (← get).nextBalanceUpdateId
  modify fun p => { p with nextBalanceUpdateId := p.nextBalanceUpdateId + 1 }
  let pastBalance := (← get).holderQuantity position
  modify (·.applyToHolder position (-quantity) eventId)
  let newBalance := (← get).holderQuantity position
  pyAssert (newBalance > 0) "Position went to negative"
  pure {
    balanceUpdateId := eventId
    positionType := Holder.positionType position
    cause := .redemption
    asset
    blockMinedAt := event.timestamp
    chainId := asset.chainId
    pastQuantity := pastBalance
    newQuantity := newBalance
    ownerAddress := some event.redeemer
    txHash := some event.transactionHash
    logIndex := some event.logIndex
    positionId := Holder.positionId position }

/-- `process_redemption`'s loop over the redeemed assets, in order. -/
def redeemAssets (event : Redemption) :
    List (AssetIdentifier × Nat) → Exec Portfolio (List BalanceUpdate)
  | [] => pure []
  | (asset, rawAmount) :: rest => do
    let evt ← redeemAsset event asset rawAmount
    let events ← redeemAssets event rest
    pure (evt :: events)

/-- `process_redemption`: one balance update per redeemed asset. -/
def processRedemption (event : Redemption) : Exec Portfolio (List BalanceUpdate) :=
  redeemAssets event event.redeemedAssets

/-- `translate_and_apply_event`. -/
def translateAndApplyEvent (event : EnzymeBalanceEvent) : Exec State (List BalanceUpdate) :=
  liftPortfolio <|
    match event with
    | .deposit event => do return [← processDeposit event]
    | .redemption event => processRedemption event

/-- `sync_treasury`'s loop `events += self.translate_and_apply_event(state, chain_event)`. -/
def translateEvents : List EnzymeBalanceEvent → Exec State (List BalanceUpdate)
  | [] => pure []
  | chainEvent :: rest => do
    let updates ← translateAndApplyEvent chainEvent
    let more ← translateEvents rest
    pure (updates ++ more)

/-- `sync_treasury`'s duplicate check and recording loop. Membership in
`past_events` compares balance updates with `sameEvent`, the `__eq__` of the balance
update class, which is not part of the sources. -/
def recordEvents (sameEvent : BalanceUpdate → BalanceUpdate → Bool)
    (pastEvents : List BalanceUpdate) : List BalanceUpdate → Exec State Unit
  | [] => pure ()
  | newEvent :: rest => do
    pyAssert (pastEvents.any (sameEvent newEvent) = false) "Event already processed"
    modify fun s => State.setTreasury s { s.sync.treasury with
      processedEvents := dictSet s.sync.treasury.processedEvents newEvent.balanceUpdateId newEvent }
    recordEvents sameEvent pastEvents rest

/-- The block `sync_treasury` starts its window at: one past the last scanned block,
or the deployment block when no block was scanned (`None` and `0` alike). -/
def startBlock (sync : Sync) : Nat :=
  match sync.treasury.lastBlockScanned with
  | some lastBlock => if lastBlock ≠ 0 then lastBlock + 1 else sync.deployment.blockNumber.getD 0
  | none => sync.deployment.blockNumber.getD 0

/-- `sync_treasury` at a chain whose head is `head` and whose vault events are
`chainEvents`. -/
def syncTreasury (sameEvent : BalanceUpdate → BalanceUpdate → Bool)
    (chainEvents : List EnzymeBalanceEvent) (strategyCycleTs now head : Nat) :
    Exec State (List BalanceUpdate) := do
  let state ← get
  pyAssert state.sync.isInitialised "Vault sync not initialised"
  let endBlock := head
  let events ← translateEvents (fetchVaultBalanceEvents chainEvents (startBlock state.sync) endBlock)
  let pastEvents := (← get).sync.treasury.processedEvents.map Prod.snd
  recordEvents sameEvent pastEvents events
  modify fun s => State.setTreasury s { s.sync.treasury with
    lastBlockScanned := some endBlock, lastUpdatedAt := some now, lastCycleAt := some strategyCycleTs }
  pure events

/-- `sync_initial`: record the deployment found on the chain, once. -/
def syncInitial (deploymentEvent : DeploymentEvent) (vaultAddress blockMinedAt : Nat) :
    Exec State Unit := do
  pyAssert ((← get).sync.isInitialised = false) "Initialisation twice is not allowed"
  pyAssert (deploymentEvent.blockNumber > 1) ""
  modify fun s => { s with sync := { s.sync with deployment := {
    address := some vaultAddress
    blockNumber := some deploymentEvent.blockNumber
    txHash := some deploymentEvent.transactionHash
    blockMinedAt := some blockMinedAt } } }

end EnzymeVaultSyncModel

end Enzyme

end TradeExecutor
