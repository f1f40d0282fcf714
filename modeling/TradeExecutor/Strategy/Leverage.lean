import TradeExecutor.Strategy.Accrual

/-! # Loans of credit supply and short positions

A loan is created at a position's first trade and updated in place at each later
one (`TradeExecutor.createShortLoan`, `TradeExecutor.updateShortLoan`). The mode
picks the fields of the trade the update reads: the planned amounts when a trade is
proposed, the executed ones when it has gone through. `update_short_loan` reads the
collateral change from the mode's fields, but the borrow change it applies is the
planned quantity in both modes: the executed quantity it computes first is
overwritten. Over a run of updates the borrowed quantity is therefore the opening
amount of the mode minus the planned quantities (`TradeExecutor.shortLoanRun_borrowed`).

The loan's health check and the two collateral epsilons belong to modules that are
not part of the sources and are parameters here.
-/

namespace TradeExecutor

/-- The mode of a loan update: `"plan"` or `"execute"`. -/
inductive LoanMode where
  | plan
  | execute
  deriving DecidableEq, Repr

/-- A function that only raises, called from a method, returns its value. -/
@[simp] theorem liftExcept_ok_bind {σ α β : Type} {s : σ} (a : α) (f : α → Exec σ β) :
    (liftExcept (Except.ok a : Except Error α) >>= f) s = f a s := rfl

/-- A function that only raises, called from a method, raises its error. -/
@[simp] theorem liftExcept_error_bind {σ α β : Type} {s : σ} (e : Error) (f : α → Exec σ β) :
    (liftExcept (Except.error e : Except Error α) >>= f) s = .error e s := rfl

/-- Moving every tracked amount by a constant moves the amount read back by it. -/
theorem map_sub_of_map_eq_some {α : Type} {tracked : Option α} {amount : α → ℚ} {a c : ℚ}
    (read : tracked.map amount = some a) : tracked.map (fun x => amount x - c) = some (a - c) := by
  cases tracked <;> simp_all

/-- Two moves of the tracked amounts, one after the other, move them by their sum. -/
theorem map_sub_trans {α : Type} {before middle after : Option α} {amount : α → ℚ} {c d : ℚ}
    (first : middle.map amount = before.map (fun x => amount x - c))
    (second : after.map amount = middle.map (fun x => amount x - d)) :
    after.map amount = before.map (fun x => amount x - (c + d)) := by
  rw [second]
  cases before <;> cases middle <;> simp only [Option.map_none', Option.map_some',
    Option.some.injEq, reduceCtorEq] at first ⊢
  rw [first, sub_sub]

section Loans

-- Whether the loan is safe from immediate liquidation: the body of `check_health`,
-- and the two collateral epsilons of the accuracy module, are not part of the sources.
variable (isHealthy : Loan → Bool) (collateralEpsilon closePositionCollateralEpsilon : ℚ)

/-- `loan.check_health()`. -/
def checkHealth {m : Type → Type} [Monad m] [MonadExceptOf Error m] (loan : Loan) : m Unit :=
  if isHealthy loan then pure () else throwThe Error .liquidationRisked

/-- A health check in a `do` block passes on to the rest or raises `LiquidationRisked`. -/
@[simp] theorem checkHealth_bind {σ α : Type} {s : σ} (loan : Loan) (f : Unit → Exec σ α) :
    (checkHealth isHealthy loan >>= f) s =
      if isHealthy loan then f () s else .error .liquidationRisked s := by
  unfold checkHealth
  split <;> rfl

/-- The same in a function that only raises. -/
@[simp] theorem checkHealth_bind_except {α : Type} (loan : Loan) (f : Unit → Except Error α) :
    (checkHealth isHealthy loan >>= f) = if isHealthy loan then f () else .error .liquidationRisked := by
  unfold checkHealth
  split <;> rfl

/-- `create_credit_supply_loan`: a loan with the planned reserve as collateral and no
borrow. -/
def createCreditSupplyLoan (position : TradingPosition) (trade : TradeExecution)
    (timestamp now : Nat) : Except Error Loan := do
  pyAssert trade.isCreditSupply ""
  pyAssert position.loan.isNone ""
  let pair := position.pair
  pyAssert pair.isCreditSupply ""
  let collateral : AssetWithTrackedValue :=
    { asset := pair.base, lastUsdPrice := trade.reserveCurrencyExchangeRate, lastPricingAt := now,
      quantity := trade.plannedReserve }
  let loan : Loan :=
    { pair := trade.pair, collateral, collateralInterest := Interest.openNew trade.plannedReserve timestamp,
      borrowed := none, borrowedInterest := none }
  checkHealth isHealthy loan
  pure loan

/-- `update_credit_supply_loan`: move the position's collateral by the planned
quantity. -/
def updateCreditSupplyLoan (trade : TradeExecution) : Exec TradingPosition Loan := do
  pyAssert trade.isCreditSupply ""
  let position ← get
  pyAssert position.pair.isCreditSupply ""
  let some loan := position.loan | throw (.assertionError "")
  let collateral ← liftExcept (loan.collateral.changeQuantityAndValue trade.plannedQuantity
    trade.reserveCurrencyExchangeRate trade.openedAt true 0)
  let loan := { loan with collateral }
  set { position with loan := some loan }
  checkHealth isHealthy loan
  pure loan

/-- A credit supply position's loan over its life after the opening trade: updated by
each later trade in order. -/
def creditSupplyRun : List TradeExecution → Exec TradingPosition Unit
  | [] => pure ()
  | trade :: rest => do
    let _ ← updateCreditSupplyLoan isHealthy trade
    creditSupplyRun rest

/-- The borrowed and collateral amounts `create_short_loan` opens the loan with: the
mode's quantity sold and the mode's reserve, allocation and consumption. -/
def openingAmounts (trade : TradeExecution) : LoanMode → Except Error (ℚ × ℚ)
  | .plan => do
    pyAssert (trade.plannedQuantity < 0)
      "Short position must open with a sell with negative quantity, got: "
    if trade.plannedCollateralAllocation = 0 then
      pyAssert (trade.plannedReserve > 0) "Collateral must be positive: "
    pure (|trade.plannedQuantity|, trade.plannedReserve + trade.plannedCollateralAllocation +
      trade.plannedCollateralConsumption)
  | .execute => do
    pyAssert (trade.executedQuantity < 0)
      "Short position open with a sell with negative quantity, got: "
    if trade.executedCollateralAllocation = 0 then
      pyAssert (trade.executedReserve > 0) "Collateral must be positive: "
    pure (|trade.executedQuantity|, trade.executedReserve + trade.executedCollateralAllocation +
      trade.executedCollateralConsumption)

/-- `create_short_loan`: check the short pair, then open a vToken debt and an aToken
collateral with the mode's amounts. -/
def createShortLoan (isStablecoin : Token → Bool) (position : TradingPosition)
    (trade : TradeExecution) (timestamp now : Nat) (mode : LoanMode) : Except Error Loan := do
  pyAssert trade.isShort ""
  pyAssert (position.trades.length = 1) "Can be only called when position is opening"
  pyAssert position.loan.isNone "loan already set"
  let pair := trade.pair
  let some _ := pair.base.underlying | throw (.assertionError "Base token lacks underlying asset")
  let some quoteUnderlying := pair.quote.underlying
    | throw (.assertionError "Quote token lacks underlying asset")
  pyAssert (pair.base.type = .borrowed) "Trading pair base asset is not borrowed: "
  pyAssert (pair.quote.type = .collateral) "Trading pair quote asset is not collateral: "
  pyAssert (isStablecoin quoteUnderlying) "Only stablecoin collateral supported for shorts: "
  let (borrowedQuantity, collateralQuantity) ← openingAmounts trade mode
  let borrowed : AssetWithTrackedValue :=
    { asset := pair.base, lastUsdPrice := trade.plannedPrice, lastPricingAt := now,
      quantity := borrowedQuantity, createdStrategyCycleAt := some trade.strategyCycleAt }
  let collateral : AssetWithTrackedValue :=
    { asset := pair.quote, lastUsdPrice := trade.reserveCurrencyExchangeRate, lastPricingAt := now,
      quantity := collateralQuantity }
  let loan : Loan :=
    { pair := trade.pair, collateral, borrowed := some borrowed,
      collateralInterest := Interest.openNew collateral.quantity timestamp,
      borrowedInterest := some (Interest.openNew borrowed.quantity timestamp) }
  checkHealth isHealthy loan
  pure loan

/-- The collateral change `update_short_loan` reads from the mode's fields. -/
def collateralChange (trade : TradeExecution) : LoanMode → ℚ
  | .plan => trade.plannedCollateralConsumption + trade.plannedCollateralAllocation +
      trade.plannedReserve
  | .execute => trade.executedCollateralConsumption + trade.executedCollateralAllocation +
      trade.executedReserve

/-- `update_short_loan`: move the collateral by the mode's collateral change and the
debt and its interest tracker by the borrow change, which is `-planned_quantity` in
either mode; check the loan's health while it still borrows. -/
def updateShortLoan (position : TradingPosition) (trade : TradeExecution) (mode : LoanMode)
    (closePosition : Bool) : Exec Loan Loan := do
  pyAssert trade.isShort ""
  pyAssert (position.trades.length > 1)
    "Can be only called when closing/reducing/increasing/position"
  let collateralChange := collateralChange trade mode
  let borrowChange := -trade.plannedQuantity
  let epsilon := if closePosition then closePositionCollateralEpsilon else collateralEpsilon
  let loan ← get
  let collateral ← liftExcept (loan.collateral.changeQuantityAndValue collateralChange
    trade.reserveCurrencyExchangeRate trade.openedAt false epsilon)
  modify fun loan => { loan with collateral }
  let some borrowed := loan.borrowed | throw (.attributeError "change_quantity_and_value")
  let borrowed ← liftExcept (borrowed.changeQuantityAndValue borrowChange trade.plannedPrice
    trade.openedAt true 0)
  modify fun loan => { loan with borrowed := some borrowed }
  let some borrowedInterest := loan.borrowedInterest | throw (.attributeError "adjust")
  modify fun loan => { loan with borrowedInterest := some (borrowedInterest.adjust borrowChange) }
  modify fun loan => { loan with collateralInterest := loan.collateralInterest.adjust collateralChange }
  if borrowed.quantity > 0 then checkHealth isHealthy (← get)
  get

/-- A short position's loan over its life: created at the opening trade, then updated
by each later trade, every call in the same mode. -/
def shortLoanRun (mode : LoanMode) : List (TradingPosition × TradeExecution × Bool) → Exec Loan Loan
  | [] => get
  | (position, trade, closePosition) :: rest => do
    let _ ← updateShortLoan isHealthy collateralEpsilon closePositionCollateralEpsilon position trade
      mode closePosition
    shortLoanRun mode rest

variable {position : TradingPosition} {trade : TradeExecution} {mode : LoanMode}
  {closePosition : Bool} {loan loan' result : Loan}

/-- **One update of a short loan.** Whatever the mode, a returning update lowers the
borrowed quantity and its interest tracker's cached amount by the planned quantity. -/
theorem updateShortLoan_borrowed
    (returned : updateShortLoan isHealthy collateralEpsilon closePositionCollateralEpsilon position
      trade mode closePosition loan = .ok result loan') :
    loan'.borrowed.map (·.quantity) = loan.borrowed.map (·.quantity - trade.plannedQuantity) ∧
    loan'.borrowedInterest.map (·.lastTokenAmount) =
      loan.borrowedInterest.map (·.lastTokenAmount - trade.plannedQuantity) ∧
    result = loan' := by
  unfold updateShortLoan at returned
  generalize (if closePosition then closePositionCollateralEpsilon else collateralEpsilon) = epsilon
    at returned
  simp only [get_bind, pyAssert_bind] at returned
  split_ifs at returned
  rcases collateral : loan.collateral.changeQuantityAndValue (collateralChange trade mode)
    trade.reserveCurrencyExchangeRate trade.openedAt false epsilon with e | moved
  · simp only [collateral, liftExcept_error_bind] at returned
    cases returned
  rcases borrowed : loan.borrowed with _ | debt
  · simp [collateral, borrowed] at returned
  rcases interest : loan.borrowedInterest with _ | tracked
  · simp [collateral, borrowed, interest,
      AssetWithTrackedValue.changeQuantityAndValue_allowNegative] at returned
  simp only [collateral, borrowed, interest, AssetWithTrackedValue.changeQuantityAndValue_allowNegative,
    liftExcept_ok_bind, modify_bind, get_bind, checkHealth_bind] at returned
  split_ifs at returned <;>
    simp only [get_bind, checkHealth_bind, pure_bind_apply, get_apply] at returned
  · split_ifs at returned
    simp only [EStateM.Result.ok.injEq] at returned
    obtain ⟨rfl, rfl⟩ := returned
    simp [sub_eq_add_neg]
  · simp only [EStateM.Result.ok.injEq] at returned
    obtain ⟨rfl, rfl⟩ := returned
    simp [sub_eq_add_neg]

/-- An update of a short loan that borrows, whose collateral stays above the epsilon and
whose health check passes, returns. -/
theorem updateShortLoan_returns {debt : AssetWithTrackedValue} {tracked : Interest}
    (short : trade.isShort) (later : position.trades.length > 1)
    (covered : -(if closePosition then closePositionCollateralEpsilon else collateralEpsilon) ≤
      loan.collateral.quantity + collateralChange trade mode)
    (borrowed : loan.borrowed = some debt) (interest : loan.borrowedInterest = some tracked)
    (healthy : ∀ loan, isHealthy loan) :
    ∃ loan', updateShortLoan isHealthy collateralEpsilon closePositionCollateralEpsilon position
      trade mode closePosition loan = .ok loan' loan' := by
  have moved : loan.collateral.changeQuantityAndValue (collateralChange trade mode)
      trade.reserveCurrencyExchangeRate trade.openedAt false
      (if closePosition then closePositionCollateralEpsilon else collateralEpsilon) = .ok _ :=
    if_pos (by simpa using covered)
  simp only [updateShortLoan, get_bind, pyAssert_bind, short, later, if_true, moved, borrowed,
    interest, AssetWithTrackedValue.changeQuantityAndValue_allowNegative, liftExcept_ok_bind,
    modify_bind, checkHealth_bind, healthy]
  split_ifs <;> simp only [get_bind, checkHealth_bind, healthy, if_true, pure_bind_apply] <;>
    exact ⟨_, rfl⟩

/-- A run of updates that returns moves the debt and its interest tracker by the sum
of the planned quantities, and returns the final loan. -/
theorem shortLoanRun_borrowed {updates : List (TradingPosition × TradeExecution × Bool)}
    (run : shortLoanRun isHealthy collateralEpsilon closePositionCollateralEpsilon mode updates loan =
      .ok result loan') :
    loan'.borrowed.map (·.quantity) =
      loan.borrowed.map (·.quantity - (updates.map (·.2.1.plannedQuantity)).sum) ∧
    loan'.borrowedInterest.map (·.lastTokenAmount) =
      loan.borrowedInterest.map (·.lastTokenAmount - (updates.map (·.2.1.plannedQuantity)).sum) ∧
    result = loan' := by
  induction updates generalizing loan with
  | nil =>
    simp only [shortLoanRun, get_apply, EStateM.Result.ok.injEq] at run
    obtain ⟨rfl, rfl⟩ := run
    cases loan.borrowed <;> cases loan.borrowedInterest <;> simp
  | cons update rest ih =>
    obtain ⟨position, trade, closePosition⟩ := update
    obtain ⟨_, middle, updated, rest_run⟩ := bind_eq_ok.mp run
    obtain ⟨borrowed, interest, -⟩ := updateShortLoan_borrowed isHealthy collateralEpsilon
      closePositionCollateralEpsilon updated
    obtain ⟨borrowed', interest', settled⟩ := ih rest_run
    simp only [List.map_cons, List.sum_cons]
    exact ⟨map_sub_trans borrowed borrowed', map_sub_trans interest interest', settled⟩

/-- The quantity a loan helper reads from a trade in its mode: the planned quantity
when planning, the executed one when executing. -/
def modeQuantity (trade : TradeExecution) : LoanMode → ℚ
  | .plan => trade.plannedQuantity
  | .execute => trade.executedQuantity

/-- `create_short_loan` borrows the absolute value of the mode's quantity, which its
assertion requires to be negative. -/
theorem openingAmounts_fst {trade : TradeExecution} {mode : LoanMode} {amounts : ℚ × ℚ}
    (opened : openingAmounts trade mode = .ok amounts) : amounts.1 = -modeQuantity trade mode := by
  cases mode <;> unfold openingAmounts at opened <;>
    obtain ⟨sold, built⟩ := pyAssert_bind_eq_ok_except.mp opened <;>
    dsimp only at built <;> split_ifs at built <;>
    obtain ⟨_, -, built⟩ := except_bind_eq_ok.mp built <;>
    obtain rfl := Except.ok.inj built <;>
    exact abs_of_neg sold

/-- A returning `create_short_loan` opens the debt and its interest tracker at minus the
mode's quantity. -/
theorem createShortLoan_borrowed {isStablecoin : Token → Bool} {timestamp now : Nat}
    (created : createShortLoan isHealthy isStablecoin position trade timestamp now mode = .ok loan) :
    loan.borrowed.map (·.quantity) = some (-modeQuantity trade mode) ∧
    loan.borrowedInterest.map (·.lastTokenAmount) = some (-modeQuantity trade mode) := by
  rcases base : trade.pair.base.underlying with _ | _
  · simp only [createShortLoan, base, pyAssert_bind_eq_ok_except] at created
    exact absurd created.2.2.2 throw_ne_ok_except
  rcases quote : trade.pair.quote.underlying with _ | quoteUnderlying
  · simp only [createShortLoan, base, quote, pyAssert_bind_eq_ok_except] at created
    exact absurd created.2.2.2 throw_ne_ok_except
  simp only [createShortLoan, base, quote, pyAssert_bind_eq_ok_except] at created
  obtain ⟨amounts, opened, built⟩ := except_bind_eq_ok.mp created.2.2.2.2.2.2
  simp only [checkHealth_bind_except] at built
  split_ifs at built
  cases built
  simp [openingAmounts_fst opened]

/-- **A short loan's debt over its life.** Opened at minus the mode's quantity of the
opening trade, the debt then moves by the planned quantity of each later trade,
whatever the mode; its interest tracker follows it. -/
theorem shortLoan_borrowed {isStablecoin : Token → Bool} {timestamp now : Nat}
    {opening : TradeExecution} {updates : List (TradingPosition × TradeExecution × Bool)}
    {opened : Loan}
    (created : createShortLoan isHealthy isStablecoin position opening timestamp now mode = .ok opened)
    (run : shortLoanRun isHealthy collateralEpsilon closePositionCollateralEpsilon mode updates opened =
      .ok result loan') :
    loan'.borrowed.map (·.quantity) =
      some (-modeQuantity opening mode - (updates.map (·.2.1.plannedQuantity)).sum) ∧
    loan'.borrowedInterest.map (·.lastTokenAmount) =
      some (-modeQuantity opening mode - (updates.map (·.2.1.plannedQuantity)).sum) := by
  obtain ⟨borrowed, interest⟩ := createShortLoan_borrowed isHealthy created
  obtain ⟨borrowed', interest', -⟩ := shortLoanRun_borrowed isHealthy collateralEpsilon
    closePositionCollateralEpsilon run
  rw [borrowed', interest', map_sub_of_map_eq_some borrowed, map_sub_of_map_eq_some interest]
  exact ⟨rfl, rfl⟩

/-- In plan mode the debt and its interest tracker stand at minus the planned
quantities of the opening trade and of every update. -/
theorem shortLoan_borrowed_plan {isStablecoin : Token → Bool} {timestamp now : Nat}
    {opening : TradeExecution} {updates : List (TradingPosition × TradeExecution × Bool)}
    {opened : Loan}
    (created : createShortLoan isHealthy isStablecoin position opening timestamp now .plan = .ok opened)
    (run : shortLoanRun isHealthy collateralEpsilon closePositionCollateralEpsilon .plan updates opened =
      .ok result loan') :
    loan'.borrowed.map (·.quantity) =
      some (-((opening :: updates.map (·.2.1)).map (·.plannedQuantity)).sum) ∧
    loan'.borrowedInterest.map (·.lastTokenAmount) =
      some (-((opening :: updates.map (·.2.1)).map (·.plannedQuantity)).sum) := by
  obtain ⟨borrowed, interest⟩ := createShortLoan_borrowed isHealthy created
  obtain ⟨borrowed', interest', -⟩ := shortLoanRun_borrowed isHealthy collateralEpsilon
    closePositionCollateralEpsilon run
  have total : -modeQuantity opening .plan - (updates.map (·.2.1.plannedQuantity)).sum =
      -((opening :: updates.map (·.2.1)).map (·.plannedQuantity)).sum := by
    simp only [modeQuantity, List.map_cons, List.map_map, List.sum_cons, neg_add, sub_eq_add_neg]
    rfl
  rw [borrowed', interest', map_sub_of_map_eq_some borrowed, map_sub_of_map_eq_some interest, total]
  exact ⟨rfl, rfl⟩

/-- `update_credit_supply_loan` returns exactly when the trade and the position's pair
are credit supply, the position holds a loan, and that loan, with its collateral moved
by the planned quantity, is healthy; the position then holds the moved loan. -/
theorem updateCreditSupplyLoan_eq_ok {position' : TradingPosition} :
    updateCreditSupplyLoan isHealthy trade position = .ok result position' ↔
      trade.isCreditSupply ∧ position.pair.isCreditSupply ∧ ∃ loan, position.loan = some loan ∧
        result = { loan with collateral := { loan.collateral with
          quantity := loan.collateral.quantity + trade.plannedQuantity,
          lastUsdPrice := trade.reserveCurrencyExchangeRate, lastPricingAt := trade.openedAt } } ∧
        isHealthy result ∧ position' = { position with loan := some result } := by
  simp only [updateCreditSupplyLoan, pyAssert_bind, get_bind]
  split_ifs with supply pairSupply
  · rcases holding : position.loan with _ | loan
    · simp
    simp only [AssetWithTrackedValue.changeQuantityAndValue_allowNegative, liftExcept_ok_bind,
      set_bind, checkHealth_bind, supply, pairSupply, Option.some.injEq, exists_eq_left', true_and]
    split_ifs with healthy
    · simp only [pure_apply, EStateM.Result.ok.injEq]
      constructor
      · rintro ⟨rfl, rfl⟩
        exact ⟨rfl, healthy, rfl⟩
      · rintro ⟨rfl, -, rfl⟩
        exact ⟨rfl, rfl⟩
    · exact iff_of_false nofun fun ⟨moved, sick, _⟩ => healthy (moved ▸ sick)
  · exact iff_of_false nofun fun ⟨_, paired, _⟩ => pairSupply paired
  · exact iff_of_false nofun fun ⟨supplied, _⟩ => supply supplied

/-- A returning `create_credit_supply_loan` opens the collateral, and its interest
tracker, at the planned reserve. -/
theorem createCreditSupplyLoan_collateral {timestamp now : Nat}
    (created : createCreditSupplyLoan isHealthy position trade timestamp now = .ok loan) :
    loan.collateral.quantity = trade.plannedReserve ∧
      loan.collateralInterest = Interest.openNew trade.plannedReserve timestamp := by
  simp only [createCreditSupplyLoan, pyAssert_bind_eq_ok_except, checkHealth_bind_except] at created
  obtain ⟨-, -, -, built⟩ := created
  split_ifs at built
  obtain rfl := pure_eq_ok_except.mp built
  exact ⟨rfl, rfl⟩

/-- **A run of credit supply updates.** From a position holding a loan, a run that
returns moves the collateral by the sum of the planned quantities and leaves the
interest tracker as it was. -/
theorem creditSupplyRun_collateral {trades : List TradeExecution} {position' : TradingPosition}
    (holding : position.loan = some loan)
    (run : creditSupplyRun isHealthy trades position = .ok () position') :
    ∃ loan', position'.loan = some loan' ∧
      loan'.collateral.quantity = loan.collateral.quantity + (trades.map (·.plannedQuantity)).sum ∧
      loan'.collateralInterest = loan.collateralInterest := by
  induction trades generalizing position loan with
  | nil =>
    obtain rfl : position = position' := (EStateM.Result.ok.inj run).2
    exact ⟨loan, holding, by simp, rfl⟩
  | cons trade rest ih =>
    obtain ⟨_, middle, updated, rest_run⟩ := bind_eq_ok.mp run
    obtain ⟨-, -, held, found, rfl, -, rfl⟩ := (updateCreditSupplyLoan_eq_ok isHealthy).mp updated
    obtain rfl := Option.some.inj (holding.symm.trans found)
    obtain ⟨loan', holding', moved, kept⟩ := ih rfl rest_run
    rw [List.map_cons, List.sum_cons, ← add_assoc]
    exact ⟨loan', holding', moved, kept⟩

/-- A run of credit supply trades on a credit supply position that holds a loan returns
when every health check passes. -/
theorem creditSupplyRun_returns {trades : List TradeExecution}
    (supply : ∀ trade ∈ trades, trade.isCreditSupply) (pairSupply : position.pair.isCreditSupply)
    (holding : position.loan = some loan) (healthy : ∀ loan, isHealthy loan) :
    ∃ position', creditSupplyRun isHealthy trades position = .ok () position' := by
  induction trades generalizing position loan with
  | nil => exact ⟨position, rfl⟩
  | cons trade rest ih =>
    have updated : updateCreditSupplyLoan isHealthy trade position = .ok _ _ :=
      (updateCreditSupplyLoan_eq_ok isHealthy).mpr
        ⟨supply trade (List.mem_cons_self _ _), pairSupply, loan, holding, rfl, healthy _, rfl⟩
    exact (ih (fun t member => supply t (List.mem_cons_of_mem _ member)) (by exact pairSupply)
      (by exact rfl)).imp fun _ rest_run => (bind_of_ok updated).trans rest_run

/-- **A credit supply loan over its life.** Opened at the planned reserve of the
opening trade, the collateral then moves by the planned quantity of each later trade,
while the interest tracker keeps the amount the loan was opened with. -/
theorem creditSupplyLoan_collateral {position' : TradingPosition} {opening : TradeExecution}
    {updates : List TradeExecution} {opened : Loan} {timestamp now : Nat}
    (created : createCreditSupplyLoan isHealthy position opening timestamp now = .ok opened)
    (run : creditSupplyRun isHealthy updates { position with loan := some opened } =
      .ok () position') :
    ∃ loan', position'.loan = some loan' ∧
      loan'.collateral.quantity = opening.plannedReserve + (updates.map (·.plannedQuantity)).sum ∧
      loan'.collateralInterest.lastTokenAmount = opening.plannedReserve := by
  obtain ⟨quantity, interest⟩ := createCreditSupplyLoan_collateral isHealthy created
  obtain ⟨loan', holding, moved, kept⟩ := creditSupplyRun_collateral isHealthy rfl run
  refine ⟨loan', holding, quantity ▸ moved, ?_⟩
  rw [kept, interest, Interest.openNew_lastTokenAmount]

end Loans

/-- The vToken of a WETH debt. -/
def vWeth : AssetIdentifier :=
  { chainId := 1, address := 5, tokenSymbol := "vWETH", decimals := 18, type := .borrowed,
    underlying := some wethToken }

/-- A WETH short against aUSDC collateral. -/
def wethShort : TradingPairIdentifier :=
  { base := vWeth, quote := aUsdc, poolAddress := 0, kind := .lendingProtocolShort }

/-- A trade of that short that planned to sell minus `planned` WETH and sold minus
`executed`, adding one USDC of collateral. -/
def shortTrade (tradeId : Nat) (planned executed : ℚ) : TradeExecution :=
  { tradeId, positionId := 1, pair := wethShort, openedAt := 0, strategyCycleAt := 0,
    plannedQuantity := planned, plannedPrice := 1, plannedReserve := 1,
    reserveCurrency := { toToken := usdcToken }, executedQuantity := executed, executedReserve := 1 }

/-- The short position holding the given trades. -/
def shortPosition (trades : List TradeExecution) : TradingPosition :=
  { positionId := 1, pair := wethShort, openedAt := 0, trades }

/-- The opening trade of that short and a later trade that planned to sell one more
WETH but sold half. -/
def wethShortIncrease : List (TradingPosition × TradeExecution × Bool) :=
  [(shortPosition [shortTrade 1 (-1) (-1), shortTrade 2 (-1) (-1 / 2)], shortTrade 2 (-1) (-1 / 2),
    false)]

/-- The WETH short opens, and takes its increase, in either mode. -/
theorem wethShort_opens_and_increases (mode : LoanMode) :
    ∃ opened loan',
      createShortLoan (fun _ => true) usdcOnly (shortPosition [shortTrade 1 (-1) (-1)])
        (shortTrade 1 (-1) (-1)) 0 0 mode = .ok opened ∧
      shortLoanRun (fun _ => true) 0 0 mode wethShortIncrease opened = .ok loan' loan' := by
  have run : ∀ opened : Loan, 0 ≤ opened.collateral.quantity → (∃ debt, opened.borrowed = some debt) →
      (∃ tracked, opened.borrowedInterest = some tracked) →
      ∃ loan', shortLoanRun (fun _ => true) 0 0 mode wethShortIncrease opened = .ok loan' loan' := by
    rintro opened covered ⟨debt, borrowed⟩ ⟨tracked, interest⟩
    obtain ⟨loan', updated⟩ : ∃ loan', updateShortLoan (fun _ => true) 0 0
        (shortPosition [shortTrade 1 (-1) (-1), shortTrade 2 (-1) (-1 / 2)])
        (shortTrade 2 (-1) (-1 / 2)) mode false opened = .ok loan' loan' :=
      updateShortLoan_returns (fun _ => true) 0 0 rfl (by decide)
        (by cases mode <;> norm_num [collateralChange, shortTrade] <;> linarith) borrowed interest
        fun _ => rfl
    exact ⟨loan', bind_of_ok updated⟩
  cases mode <;>
    exact ⟨_, _, rfl, (run _ (by norm_num [shortTrade]) (by exact ⟨_, rfl⟩)
      (by exact ⟨_, rfl⟩)).choose_spec⟩

/-- The lifecycle theorem at the WETH short, executed. -/
theorem shortLoan_borrowed_wethShort :
    ∃ opened loan',
      createShortLoan (fun _ => true) usdcOnly (shortPosition [shortTrade 1 (-1) (-1)])
        (shortTrade 1 (-1) (-1)) 0 0 .execute = .ok opened ∧
      shortLoanRun (fun _ => true) 0 0 .execute wethShortIncrease opened = .ok loan' loan' ∧
      loan'.borrowed.map (·.quantity) = some (-modeQuantity (shortTrade 1 (-1) (-1)) .execute -
        (wethShortIncrease.map (·.2.1.plannedQuantity)).sum) ∧
      loan'.borrowedInterest.map (·.lastTokenAmount) = some (-modeQuantity (shortTrade 1 (-1) (-1))
        .execute - (wethShortIncrease.map (·.2.1.plannedQuantity)).sum) :=
  let ⟨opened, loan', created, run⟩ := wethShort_opens_and_increases .execute
  ⟨opened, loan', created, run, shortLoan_borrowed (fun _ => true) 0 0 created run⟩

/-- The plan-mode theorem at the WETH short. -/
theorem shortLoan_borrowed_plan_wethShort :
    ∃ opened loan',
      createShortLoan (fun _ => true) usdcOnly (shortPosition [shortTrade 1 (-1) (-1)])
        (shortTrade 1 (-1) (-1)) 0 0 .plan = .ok opened ∧
      shortLoanRun (fun _ => true) 0 0 .plan wethShortIncrease opened = .ok loan' loan' ∧
      loan'.borrowed.map (·.quantity) = some (-((shortTrade 1 (-1) (-1) ::
        wethShortIncrease.map (·.2.1)).map (·.plannedQuantity)).sum) ∧
      loan'.borrowedInterest.map (·.lastTokenAmount) = some (-((shortTrade 1 (-1) (-1) ::
        wethShortIncrease.map (·.2.1)).map (·.plannedQuantity)).sum) :=
  let ⟨opened, loan', created, run⟩ := wethShort_opens_and_increases .plan
  ⟨opened, loan', created, run, shortLoan_borrowed_plan (fun _ => true) 0 0 created run⟩

/-- In execute mode the debt follows the planned quantities once the loan is open: a
short opened by selling one WETH, then increased by a trade that planned to sell one
more but sold half, owes two WETH where its trades sold one and a half. -/
theorem shortLoan_execute_owes_planned :
    ∃ opened loan',
      createShortLoan (fun _ => true) usdcOnly (shortPosition [shortTrade 1 (-1) (-1)])
        (shortTrade 1 (-1) (-1)) 0 0 .execute = .ok opened ∧
      shortLoanRun (fun _ => true) 0 0 .execute wethShortIncrease opened = .ok loan' loan' ∧
      loan'.borrowed.map (·.quantity) = some 2 ∧
      -((shortTrade 1 (-1) (-1)).executedQuantity + (shortTrade 2 (-1) (-1 / 2)).executedQuantity) =
        3 / 2 := by
  obtain ⟨opened, loan', created, run⟩ := wethShort_opens_and_increases .execute
  obtain ⟨borrowed, -⟩ := createShortLoan_borrowed _ created
  obtain ⟨borrowed', -, -⟩ := shortLoanRun_borrowed _ _ _ run
  refine ⟨opened, loan', created, run, ?_, by norm_num [shortTrade]⟩
  rw [borrowed', map_sub_of_map_eq_some borrowed]
  norm_num [modeQuantity, shortTrade, wethShortIncrease]

/-- A USDC credit supply: aUSDC priced in USDC. -/
def usdcSupply : TradingPairIdentifier :=
  { base := aUsdc, quote := { toToken := usdcToken }, poolAddress := 0, kind := .creditSupply }

/-- A trade of that credit supply planning to move `planned` aUSDC for `reserve` USDC. -/
def supplyTrade (tradeId : Nat) (planned reserve : ℚ) : TradeExecution :=
  { tradeId, positionId := 2, pair := usdcSupply, openedAt := 0, strategyCycleAt := 0,
    plannedQuantity := planned, plannedPrice := 1, plannedReserve := reserve,
    reserveCurrency := { toToken := usdcToken } }

/-- The credit supply position before its loan is opened. -/
def supplyPosition : TradingPosition := { positionId := 2, pair := usdcSupply, openedAt := 0 }

/-- A supply of 100 USDC topped up by 50 and then reduced by 30. -/
def usdcSupplyChanges : List TradeExecution := [supplyTrade 2 50 50, supplyTrade 3 (-30) (-30)]

/-- The lifecycle theorem at that supply: the collateral ends at 120 aUSDC while the
interest tracker still holds 100. -/
theorem creditSupplyLoan_collateral_usdcSupply :
    ∃ opened position',
      createCreditSupplyLoan (fun _ => true) supplyPosition (supplyTrade 1 100 100) 0 0 = .ok opened ∧
      creditSupplyRun (fun _ => true) usdcSupplyChanges { supplyPosition with loan := some opened } =
        .ok () position' ∧
      ∃ loan', position'.loan = some loan' ∧
        loan'.collateral.quantity = (supplyTrade 1 100 100).plannedReserve +
          (usdcSupplyChanges.map (·.plannedQuantity)).sum ∧
        loan'.collateralInterest.lastTokenAmount = (supplyTrade 1 100 100).plannedReserve := by
  obtain ⟨opened, created⟩ : ∃ opened, createCreditSupplyLoan (fun _ => true) supplyPosition
      (supplyTrade 1 100 100) 0 0 = .ok opened := ⟨_, rfl⟩
  obtain ⟨position', run⟩ : ∃ position', creditSupplyRun (fun _ => true) usdcSupplyChanges
      { supplyPosition with loan := some opened } = .ok () position' :=
    creditSupplyRun_returns (fun _ => true) (by decide) rfl rfl fun _ => rfl
  exact ⟨opened, position', created, run, creditSupplyLoan_collateral (fun _ => true) created run⟩

end TradeExecutor
