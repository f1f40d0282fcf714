import TradeExecutor.State.Exec

/-! # Loans and interest trackers

A loan pairs a collateral tracker with an optional borrowed tracker, each with an
`TradeExecutor.Interest` that caches the last on-chain amount of its aToken or
vToken. The loan module is not part of the sources; its trackers and their two
mutators are modelled from the spec's data model.
-/

namespace TradeExecutor

/-- The side of a loan a tracked asset is on. -/
inductive LoanSide where
  | collateral
  | borrowed
  deriving DecidableEq, Repr

/-- An asset amount owned by one side of a loan, with its last known dollar price. -/
structure AssetWithTrackedValue where
  asset : AssetIdentifier
  lastUsdPrice : ℚ
  lastPricingAt : Nat
  quantity : ℚ
  createdStrategyCycleAt : Option Nat := none
  deriving DecidableEq

namespace AssetWithTrackedValue

/-- Modelled from the spec: move the tracked quantity by `delta` at a new price.
The quantity may not end below `-epsilon` unless the caller allows it. -/
def changeQuantityAndValue (tracker : AssetWithTrackedValue) (delta price : ℚ) (when : Nat)
    (allowNegative : Bool) (epsilon : ℚ) : Except Error AssetWithTrackedValue :=
  if allowNegative || decide (-epsilon ≤ tracker.quantity + delta) then
    .ok { tracker with quantity := tracker.quantity + delta, lastUsdPrice := price,
                       lastPricingAt := when }
  else .error (.assertionError "Tracked quantity cannot go negative")

/-- With negative quantities allowed, the change always goes through and adds its
delta. -/
theorem changeQuantityAndValue_allowNegative (tracker : AssetWithTrackedValue)
    (delta price : ℚ) (when : Nat) (epsilon : ℚ) :
    tracker.changeQuantityAndValue delta price when true epsilon =
      .ok { tracker with quantity := tracker.quantity + delta, lastUsdPrice := price,
                         lastPricingAt := when } := rfl

end AssetWithTrackedValue

/-- The interest bookkeeping of one aToken or vToken. -/
structure Interest where
  openingAmount : ℚ
  lastTokenAmount : ℚ
  lastUpdatedAt : Nat
  lastEventAt : Nat
  lastUpdatedBlockNumber : Option Nat := none
  deriving DecidableEq

namespace Interest

/-- Modelled from the spec: start tracking an amount with nothing accrued yet. -/
def openNew (amount : ℚ) (timestamp : Nat) : Interest where
  openingAmount := amount
  lastTokenAmount := amount
  lastUpdatedAt := timestamp
  lastEventAt := timestamp

/-- Modelled from the spec: an explicit principal adjustment moves the cached
token amount by `delta`. -/
def adjust (interest : Interest) (delta : ℚ) : Interest :=
  { interest with lastTokenAmount := interest.lastTokenAmount + delta }

@[simp] theorem openNew_lastTokenAmount (amount : ℚ) (timestamp : Nat) :
    (openNew amount timestamp).lastTokenAmount = amount := rfl

@[simp] theorem adjust_lastTokenAmount (interest : Interest) (delta : ℚ) :
    (interest.adjust delta).lastTokenAmount = interest.lastTokenAmount + delta := rfl

end Interest

/-- A loan of a credit supply, short or long position. -/
structure Loan where
  pair : TradingPairIdentifier
  collateral : AssetWithTrackedValue
  collateralInterest : Interest
  borrowed : Option AssetWithTrackedValue
  borrowedInterest : Option Interest
  deriving DecidableEq

/-- Modelled from the spec: the side and tracker of the loan that holds `asset`, if
any, the collateral side first. -/
def Loan.getTrackedAsset (loan : Loan) (asset : AssetIdentifier) :
    Option (LoanSide × AssetWithTrackedValue) :=
  if asset.key = loan.collateral.asset.key then some (.collateral, loan.collateral)
  else match loan.borrowed with
    | some borrowed => if asset.key = borrowed.asset.key then some (.borrowed, borrowed) else none
    | none => none

/-- A tracker the loan returns for an asset tracks that asset. -/
theorem Loan.getTrackedAsset_key {loan : Loan} {asset : AssetIdentifier}
    {side : LoanSide} {tracker : AssetWithTrackedValue}
    (found : loan.getTrackedAsset asset = some (side, tracker)) :
    tracker.asset.key = asset.key := by
  unfold getTrackedAsset at found
  split at found
  · cases found; simp_all
  · split at found
    · split at found
      · cases found; simp_all
      · cases found
    · cases found

end TradeExecutor
