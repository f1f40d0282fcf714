import TradeExecutor.State.Portfolio

/-! # Strategy state and sync checkpoints

The persistent state is the portfolio and the sync checkpoints: where the vault
was deployed, how far the treasury scan has read the chain and which balance
updates it recorded, and when interest was last synced. Portfolio methods run on
the state's portfolio through `TradeExecutor.liftPortfolio`, so a method that
raises leaves the state with the portfolio as it stood at the `raise`.
-/

namespace TradeExecutor

/-- Where and when the vault was deployed. -/
structure Deployment where
  address : Option Nat := none
  blockNumber : Option Nat := none
  txHash : Option Nat := none
  blockMinedAt : Option Nat := none
  deriving DecidableEq

/-- The treasury scan's checkpoint and the balance updates it recorded, by id. -/
structure TreasuryState where
  lastUpdatedAt : Option Nat := none
  lastCycleAt : Option Nat := none
  lastBlockScanned : Option Nat := none
  processedEvents : List (Nat × BalanceUpdate) := []
  deriving DecidableEq

/-- The interest sync checkpoint and the last on-chain balances it saw. -/
structure InterestSync where
  lastSyncAt : Option Nat := none
  lastSyncBlock : Option Nat := none
  assets : List (AssetIdentifier × ℚ) := []
  deriving DecidableEq

/-- All sync checkpoints of a strategy. -/
structure Sync where
  deployment : Deployment := {}
  treasury : TreasuryState := {}
  interest : InterestSync := {}
  deriving DecidableEq

/-- Modelled from the spec: the sync is initialised once the deployment block is
known. -/
def Sync.isInitialised (sync : Sync) : Bool := sync.deployment.blockNumber.isSome

/-- The persistent state of a strategy. -/
structure State where
  portfolio : Portfolio := {}
  sync : Sync := {}
  deriving DecidableEq

/-- Run a portfolio method on the state's portfolio, `portfolio = state.portfolio`. -/
def liftPortfolio {α : Type} (x : Exec Portfolio α) : Exec State α := fun s =>
  match x s.portfolio with
  | .ok a portfolio => .ok a { s with portfolio }
  | .error e portfolio => .error e { s with portfolio }

variable {α : Type} {x : Exec Portfolio α} {s s' : State} {a : α} {e : Error}

/-- A portfolio method that returned changed only the portfolio. -/
theorem liftPortfolio_eq_ok :
    liftPortfolio x s = .ok a s' ↔ ∃ p, x s.portfolio = .ok a p ∧ s' = { s with portfolio := p } := by
  unfold liftPortfolio
  cases x s.portfolio with
  | ok b p =>
    simp only [EStateM.Result.ok.injEq]
    constructor
    · rintro ⟨same, rfl⟩
      exact ⟨p, ⟨same, rfl⟩, rfl⟩
    · rintro ⟨_, ⟨same, rfl⟩, rfl⟩
      exact ⟨same, rfl⟩
  | error err p => simp

/-- A portfolio method that raised changed only the portfolio, up to the raise. -/
theorem liftPortfolio_eq_error :
    liftPortfolio x s = .error e s' ↔
      ∃ p, x s.portfolio = .error e p ∧ s' = { s with portfolio := p } := by
  unfold liftPortfolio
  cases x s.portfolio with
  | ok b p => simp
  | error err p =>
    simp only [EStateM.Result.error.injEq]
    constructor
    · rintro ⟨same, rfl⟩
      exact ⟨p, ⟨same, rfl⟩, rfl⟩
    · rintro ⟨_, ⟨same, rfl⟩, rfl⟩
      exact ⟨same, rfl⟩

end TradeExecutor
