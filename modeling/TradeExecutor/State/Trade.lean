import TradeExecutor.State.Exec

/-! # Trade executions

A trade's status follows its lifecycle timestamps: planned, capital allocated,
broadcasted, then success or failure, and repaired once a counter-trade has
netted it out (`TradeExecutor.TradeExecution.getStatus`). Only a successful trade
counts towards its position's quantity and value. The trade module is not part of
the sources; what the repair engine and the loan helpers read of it is modelled
from the spec.
-/

namespace TradeExecutor

/-- Why a trade was made. -/
inductive TradeType where
  | rebalance
  | stopLoss
  | takeProfit
  | repair
  deriving DecidableEq, Repr

/-- The states of the trade lifecycle. -/
inductive TradeStatus where
  | planned
  | capitalAllocated
  | broadcasted
  | success
  | failed
  | repaired
  deriving DecidableEq, Repr

/-- Modelled from the spec: one on-chain transaction a trade owns, with its hash, its
nonce, its signed bytes when it has been signed into a hex string, and when it was
broadcast. -/
structure BlockchainTransaction where
  txHash : Nat
  nonce : Nat
  signedBytes : Option String := none
  broadcastedAt : Option Nat := none
  deriving DecidableEq

/-- One planned trade of a position, with what its execution did. A missing
`Decimal` the source replaces by `Decimal(0)` is `0` here. -/
structure TradeExecution where
  tradeId : Nat
  positionId : Nat
  tradeType : TradeType := .rebalance
  pair : TradingPairIdentifier
  openedAt : Nat
  strategyCycleAt : Nat
  plannedQuantity : ℚ
  plannedPrice : ℚ
  plannedReserve : ℚ
  plannedMidPrice : ℚ := 0
  reserveCurrency : AssetIdentifier
  reserveCurrencyExchangeRate : ℚ := 1
  plannedCollateralAllocation : ℚ := 0
  plannedCollateralConsumption : ℚ := 0
  executedPrice : ℚ := 0
  executedQuantity : ℚ := 0
  executedReserve : ℚ := 0
  executedCollateralAllocation : ℚ := 0
  executedCollateralConsumption : ℚ := 0
  lpFeesPaid : ℚ := 0
  nativeTokenPrice : ℚ := 0
  capitalAllocatedAt : Option Nat := none
  broadcastedAt : Option Nat := none
  executedAt : Option Nat := none
  failedAt : Option Nat := none
  repairedAt : Option Nat := none
  repairedTradeId : Option Nat := none
  blockchainTransactions : List BlockchainTransaction := []
  deriving DecidableEq

namespace TradeExecution

/-- Modelled from the spec: the status is the furthest lifecycle step reached, and
a trade is repaired as soon as `repaired_at` is set. -/
def getStatus (t : TradeExecution) : TradeStatus :=
  if t.repairedAt.isSome then .repaired
  else if t.failedAt.isSome then .failed
  else if t.executedAt.isSome then .success
  else if t.broadcastedAt.isSome then .broadcasted
  else if t.capitalAllocatedAt.isSome then .capitalAllocated
  else .planned

/-- Modelled from the spec: a trade needs repair when it was broadcast and never
resolved, or when it failed and has not been repaired. -/
def isRepairNeeded (t : TradeExecution) : Bool :=
  match t.getStatus with
  | .broadcasted | .failed => true
  | _ => false

/-- Modelled from the spec: a buy plans to increase its position, a sell to decrease
it. -/
def isBuy (t : TradeExecution) : Bool := decide (t.plannedQuantity > 0)

/-- Modelled from the spec: record that the trade's transactions were broadcast. -/
def markBroadcasted (t : TradeExecution) (broadcastedAt : Nat) : TradeExecution :=
  { t with broadcastedAt := some broadcastedAt }

/-- The trade executed successfully. -/
def isSuccess (t : TradeExecution) : Bool := t.getStatus == .success

/-- Modelled from the spec: only a successful trade moves its position's quantity. -/
def getPositionQuantity (t : TradeExecution) : ℚ :=
  if t.isSuccess then t.executedQuantity else 0

/-- Modelled from the spec: a failed or repaired trade is worth nothing, a
successful one its executed value and any other its planned value. -/
def getValue (t : TradeExecution) : ℚ :=
  match t.getStatus with
  | .failed | .repaired => 0
  | .success => |t.executedQuantity| * t.executedPrice
  | _ => |t.plannedQuantity| * t.plannedPrice

/-- The trade shorts its pair's base asset. -/
def isShort (t : TradeExecution) : Bool := t.pair.isShort

/-- The trade supplies credit to a lending protocol. -/
def isCreditSupply (t : TradeExecution) : Bool := t.pair.isCreditSupply

/-- Modelled from the spec: record a successful execution with its realised price,
quantity, reserve, fees and gas token price. The repair engine's call forces it
past the usual requirement that the trade was broadcast. -/
def markSuccess (t : TradeExecution) (executedAt : Nat)
    (executedPrice executedQuantity executedReserve lpFees nativeTokenPrice : ℚ) :
    TradeExecution :=
  { t with executedAt := some executedAt, executedPrice, executedQuantity, executedReserve,
           lpFeesPaid := lpFees, nativeTokenPrice }

/-- Once `repaired_at` is set the trade is repaired, whatever else happened. -/
@[simp] theorem getStatus_of_repairedAt {t : TradeExecution} (repaired : t.repairedAt.isSome) :
    t.getStatus = .repaired := by
  simp [getStatus, repaired]

/-- A trade that needs repair has not succeeded. -/
theorem not_isSuccess_of_isRepairNeeded {t : TradeExecution} (needed : t.isRepairNeeded) :
    t.isSuccess = false := by
  unfold isRepairNeeded at needed
  unfold isSuccess
  split at needed <;> simp_all

/-- A trade that has not succeeded adds nothing to its position's quantity. -/
@[simp] theorem getPositionQuantity_of_not_isSuccess {t : TradeExecution}
    (notSuccess : t.isSuccess = false) : t.getPositionQuantity = 0 := by
  simp [getPositionQuantity, notSuccess]

/-- A forced success of a trade that was never repaired or failed is a success. -/
theorem getStatus_markSuccess {t : TradeExecution} (clean : t.repairedAt = none)
    (notFailed : t.failedAt = none) (executedAt : Nat) (p q r f n : ℚ) :
    (t.markSuccess executedAt p q r f n).getStatus = .success := by
  simp [getStatus, markSuccess, clean, notFailed]

end TradeExecution

end TradeExecutor
