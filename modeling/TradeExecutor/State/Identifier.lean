import Mathlib.Algebra.Order.Field.Rat
import Mathlib.Algebra.BigOperators.Group.List
import Mathlib.Tactic.Ring
import Mathlib.Tactic.Linarith

/-! # Asset and trading pair identifiers

Immutable descriptions of on-chain tokens and trading pairs. Python compares two
assets by chain and address only (`TradeExecutor.AssetIdentifier.key`), so every
`==` between assets in the source is an equality of keys here. Token amounts are
`Decimal` in the source and exact rationals here.
-/

namespace TradeExecutor

/-- The role of an asset in a lending protocol: a plain token, an aToken held as
collateral, or a vToken tracking a debt. -/
inductive AssetType where
  | token
  | collateral
  | borrowed
  deriving DecidableEq, Repr

/-- A token as the chain describes it; the underlying asset of an aToken or vToken
is one of these. -/
structure Token where
  chainId : Nat
  address : Nat
  tokenSymbol : String
  decimals : Nat
  deriving DecidableEq, Repr

/-- An asset the strategy can hold. -/
structure AssetIdentifier extends Token where
  type : AssetType := .token
  underlying : Option Token := none
  deriving DecidableEq, Repr

namespace AssetIdentifier

/-- What Python's `__eq__` and `__hash__` of an asset look at. -/
def key (asset : AssetIdentifier) : Nat × Nat := (asset.chainId, asset.address)

/-- Modelled from the spec: an asset accrues interest when it is the collateral or
the borrowed token of a loan (aToken or vToken). -/
def isInterestAccruing (asset : AssetIdentifier) : Bool :=
  match asset.type with
  | .token => false
  | .collateral | .borrowed => true

/-- Modelled from the spec: a derivative token is priced by its underlying token,
a plain token by itself. -/
def getPricingAsset (asset : AssetIdentifier) : Token :=
  asset.underlying.getD asset.toToken

/-- Modelled from the spec: a raw on-chain amount in the token's smallest unit,
scaled by the token's decimals. -/
def convertToDecimal (asset : AssetIdentifier) (rawAmount : Nat) : ℚ :=
  rawAmount / 10 ^ asset.decimals

end AssetIdentifier

/-- The kinds of trading pair the executor trades. -/
inductive TradingPairKind where
  | spotMarketHold
  | creditSupply
  | lendingProtocolShort
  | lendingProtocolLong
  deriving DecidableEq, Repr

/-- A trading pair: the base asset is bought or shorted against the quote asset. -/
structure TradingPairIdentifier where
  base : AssetIdentifier
  quote : AssetIdentifier
  poolAddress : Nat
  kind : TradingPairKind := .spotMarketHold
  internalId : Option Nat := none
  internalExchangeId : Option Nat := none
  /-- The trading fee as a multiplier, `0.0030` for 30 BPS. -/
  fee : Option ℚ := none
  deriving DecidableEq, Repr

namespace TradingPairIdentifier

/-- Modelled from the spec: a pair is a short when its kind is a lending protocol
short. -/
def isShort (pair : TradingPairIdentifier) : Bool := pair.kind == .lendingProtocolShort

/-- Modelled from the spec: a pair is a credit supply pair when its kind says so. -/
def isCreditSupply (pair : TradingPairIdentifier) : Bool := pair.kind == .creditSupply

/-- Modelled from the spec: a spot holding or a leveraged long is long on its base
asset. -/
def isLong (pair : TradingPairIdentifier) : Bool :=
  pair.kind == .spotMarketHold || pair.kind == .lendingProtocolLong

end TradingPairIdentifier

end TradeExecutor
