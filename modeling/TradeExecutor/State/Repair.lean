import TradeExecutor.State.State

/-! # Repairing broken trades

`repair_trades` finds the trades of open and frozen positions that need repair
(`TradeExecutor.findTradesToBeRepaired`) and repairs each in turn
(`TradeExecutor.repairTrade`): a counter-trade of the opposite planned quantity is
added to the trade's position and marked successful with nothing executed, and the
trade is marked repaired. The source mutates the trade objects it found; here a
trade is addressed by its position's id and its own id, which finds that same trade
in a portfolio that keeps the data model's invariants
(`TradeExecutor.Portfolio.WellFormed`). Under them one repair changes the trade's
position alone, and in a way that leaves the position's quantity as it was
(`TradeExecutor.repairTrade_eq`).
-/

namespace TradeExecutor

/-- `t.repaired_at = now`. -/
def TradeExecution.markRepaired (t : TradeExecution) (now : Nat) : TradeExecution :=
  { t with repairedAt := some now }

namespace Portfolio

/-- Mutate the trade of id `tradeId` held by the position `positionId`. -/
def modifyTrade (portfolio : Portfolio) (positionId tradeId : Nat)
    (f : TradeExecution → TradeExecution) : Portfolio :=
  portfolio.modifyPosition positionId fun p =>
    { p with trades := updateByKey (·.tradeId) tradeId f p.trades }

/-- Modelled from the spec: `create_trade` on an existing position, a planned trade
under the next trade id stored in the position's trades by its id. The source's caller
compares the returned position with its own by identity, so the position is returned
by its id; `created` is `False`. A missing reserve is zero. -/
def createTrade (now strategyCycleAt : Nat) (pair : TradingPairIdentifier)
    (quantity assumedPrice : ℚ) (tradeType : TradeType) (reserveCurrency : AssetIdentifier)
    (plannedMidPrice : ℚ) (reserve : Option ℚ) (reserveCurrencyPrice : ℚ)
    (position : TradingPosition) : Exec Portfolio (Nat × TradeExecution × Bool) := do
  let trade : TradeExecution :=
    { tradeId := (← get).nextTradeId, positionId := position.positionId, tradeType, pair,
      openedAt := now, strategyCycleAt, plannedQuantity := quantity, plannedPrice := assumedPrice,
      plannedReserve := reserve.getD 0, plannedMidPrice, reserveCurrency,
      reserveCurrencyExchangeRate := reserveCurrencyPrice }
  modify fun p => { p with nextTradeId := p.nextTradeId + 1 }
  modify (·.modifyPosition position.positionId fun p =>
    { p with trades := setByKey (·.tradeId) trade p.trades })
  pure (position.positionId, trade, false)

end Portfolio

/-- `make_counter_trade`: a repair trade of the opposite planned quantity at the same
price in the same position, marked successful with nothing executed. -/
def makeCounterTrade (now : Nat) (p : TradingPosition) (t : TradeExecution) :
    Exec Portfolio TradeExecution := do
  let (position, counterTrade, created) ← Portfolio.createTrade now t.strategyCycleAt t.pair
    (-t.plannedQuantity) t.plannedPrice .repair t.reserveCurrency t.plannedMidPrice none
    t.reserveCurrencyExchangeRate p
  pyAssert (created = false) ""
  pyAssert (position = p.positionId) ""
  let counterTrade := counterTrade.markSuccess now t.plannedPrice 0 0 0 t.nativeTokenPrice
  modify (·.modifyTrade p.positionId counterTrade.tradeId fun _ => counterTrade)
  pyAssert counterTrade.isSuccess ""
  pyAssert (counterTrade.getValue = 0) ""
  pyAssert (counterTrade.getPositionQuantity = 0) ""
  pyAssert (counterTrade.tradeType = .repair) ""
  pure counterTrade

/-- `repair_trade`: make the counter-trade, mark the trade repaired and link the
counter-trade to it. The trade is the object `find_trades_to_be_repaired` returned:
its mutation is written to the trade of its id in its position. -/
def repairTrade (now : Nat) (t : TradeExecution) : Exec Portfolio TradeExecution := do
  let some p := (← get).getPositionById? t.positionId | throw .keyError
  let c ← makeCounterTrade now p t
  modify (·.modifyTrade t.positionId t.tradeId (·.markRepaired now))
  modify (·.modifyTrade c.positionId c.tradeId fun c => { c with repairedTradeId := some t.tradeId })
  let t := t.markRepaired now
  let c := { c with repairedTradeId := some t.tradeId }
  pyAssert (t.getStatus = .repaired) ""
  pyAssert (t.getValue = 0) ""
  pyAssert (t.getPositionQuantity = 0) ""
  pyAssert (t.plannedQuantity ≠ 0) ""
  pure c

/-- `find_trades_to_be_repaired`: the trades needing repair of the open, then the
frozen positions; closed positions are not looked at. -/
def findTradesToBeRepaired (state : State) : List TradeExecution :=
  (state.portfolio.openPositions ++ state.portfolio.frozenPositions).flatMap fun p =>
    p.trades.filter (·.isRepairNeeded)

/-- `unfreeze_position`: its body is `pass`, so it returns `None`, which is false. -/
def unfreezePosition (_position : TradingPosition) : Bool := false

/-- The report of `repair_trades`. -/
structure RepairResult where
  frozenPositions : List TradingPosition
  unfrozenPositions : List TradingPosition
  tradesNeedingRepair : List TradeExecution
  newTrades : List TradeExecution
  deriving DecidableEq

/-- The repair loop of `repair_trades`: the counter-trade of each trade, in order. -/
def repairEach (now : Nat) : List TradeExecution → Exec Portfolio (List TradeExecution)
  | [] => pure []
  | t :: rest => do
    let c ← repairTrade now t
    let more ← repairEach now rest
    pure (c :: more)

/-- `repair_trades`. With `interactive` set, `answer` is what the operator types at the
prompt, and anything but `y` aborts. The lists of the report are the values the repair
started from, where the source's hold the objects it goes on to mutate. -/
def repairTrades (now : Nat) (attemptRepair interactive : Bool) (answer : String) :
    Exec State RepairResult := do
  let frozenPositions := (← get).portfolio.frozenPositions
  let tradesToBeRepaired := findTradesToBeRepaired (← get)
  if tradesToBeRepaired.length == 0 || !attemptRepair then
    return { frozenPositions, unfrozenPositions := [], tradesNeedingRepair := tradesToBeRepaired,
             newTrades := [] }
  if interactive && answer.toLower != "y" then throw .repairAborted
  let newTrades ← liftPortfolio (repairEach now tradesToBeRepaired)
  let unfrozenPositions := frozenPositions.filter unfreezePosition
  pure { frozenPositions, unfrozenPositions, tradesNeedingRepair := tradesToBeRepaired, newTrades }

/-! ## The invariants and the effect of one repair -/

/-- The data model's invariants of a portfolio: position ids are unique across it,
each position keys its trades by id and holds only its own, and the next trade id is
above every trade id. -/
structure Portfolio.WellFormed (portfolio : Portfolio) : Prop where
  positionIds : (portfolio.allPositions.map (·.positionId)).Nodup
  tradeIds : ∀ p ∈ portfolio.allPositions, (p.trades.map (·.tradeId)).Nodup
  ownTrades : ∀ p ∈ portfolio.allPositions, ∀ t ∈ p.trades, t.positionId = p.positionId
  freshTradeId : ∀ p ∈ portfolio.allPositions, ∀ t ∈ p.trades, t.tradeId < portfolio.nextTradeId

/-- The counter-trade `repair_trade` makes for `t` under the trade id `tradeId`. -/
def counterTrade (now tradeId : Nat) (t : TradeExecution) : TradeExecution :=
  { tradeId, positionId := t.positionId, tradeType := .repair, pair := t.pair, openedAt := now,
    strategyCycleAt := t.strategyCycleAt, plannedQuantity := -t.plannedQuantity,
    plannedPrice := t.plannedPrice, plannedReserve := 0, plannedMidPrice := t.plannedMidPrice,
    reserveCurrency := t.reserveCurrency,
    reserveCurrencyExchangeRate := t.reserveCurrencyExchangeRate, executedAt := some now,
    executedPrice := t.plannedPrice, executedQuantity := 0, executedReserve := 0,
    lpFeesPaid := 0, nativeTokenPrice := t.nativeTokenPrice, repairedTradeId := some t.tradeId }

/-- A position after the repair of the trades `repaired` by the counter-trades
`counters`: its repaired trades marked, then the counter-trades made in it. -/
def repairedPosition (now : Nat) (repaired counters : List TradeExecution)
    (p : TradingPosition) : TradingPosition :=
  { p with trades := p.trades.map (fun t => if t ∈ repaired then t.markRepaired now else t) ++
      counters.filter (·.positionId = p.positionId) }

/-- The portfolio after repairs: the trade id counter moved past the counter-trades,
every position repaired. -/
def Portfolio.afterRepair (portfolio : Portfolio) (now : Nat)
    (repaired counters : List TradeExecution) : Portfolio :=
  { portfolio with nextTradeId := portfolio.nextTradeId + counters.length }.mapPositions
    (repairedPosition now repaired counters)

section Trades

variable {t : TradeExecution} {now tradeId : Nat}

@[simp] theorem markRepaired_markRepaired :
    (t.markRepaired now).markRepaired now = t.markRepaired now := rfl

@[simp] theorem markRepaired_tradeId : (t.markRepaired now).tradeId = t.tradeId := rfl

@[simp] theorem markRepaired_positionId : (t.markRepaired now).positionId = t.positionId := rfl

@[simp] theorem markRepaired_repairedAt : (t.markRepaired now).repairedAt = some now := rfl

@[simp] theorem markRepaired_plannedQuantity :
    (t.markRepaired now).plannedQuantity = t.plannedQuantity := rfl

/-- A marked trade is repaired. -/
@[simp] theorem getStatus_markRepaired : (t.markRepaired now).getStatus = .repaired :=
  TradeExecution.getStatus_of_repairedAt rfl

/-- A marked trade is worth nothing. -/
@[simp] theorem getValue_markRepaired : (t.markRepaired now).getValue = 0 := by
  simp [TradeExecution.getValue]

/-- A marked trade moves no quantity. -/
@[simp] theorem getPositionQuantity_markRepaired : (t.markRepaired now).getPositionQuantity = 0 := by
  simp [TradeExecution.getPositionQuantity, TradeExecution.isSuccess]

@[simp] theorem counterTrade_tradeId : (counterTrade now tradeId t).tradeId = tradeId := rfl

@[simp] theorem counterTrade_positionId : (counterTrade now tradeId t).positionId = t.positionId :=
  rfl

/-- A counter-trade has succeeded. -/
@[simp] theorem getStatus_counterTrade : (counterTrade now tradeId t).getStatus = .success := rfl

/-- A counter-trade is worth nothing. -/
@[simp] theorem getValue_counterTrade : (counterTrade now tradeId t).getValue = 0 := by
  simp only [TradeExecution.getValue, getStatus_counterTrade]
  exact (congrArg (· * t.plannedPrice) abs_zero).trans (zero_mul _)

/-- A counter-trade moves no quantity. -/
@[simp] theorem getPositionQuantity_counterTrade :
    (counterTrade now tradeId t).getPositionQuantity = 0 := by
  simp [TradeExecution.getPositionQuantity, TradeExecution.isSuccess]
  rfl

/-- A counter-trade does not need repair. -/
@[simp] theorem isRepairNeeded_counterTrade : (counterTrade now tradeId t).isRepairNeeded = false := by
  simp [TradeExecution.isRepairNeeded]

/-- A marked trade does not need repair. -/
@[simp] theorem isRepairNeeded_markRepaired : (t.markRepaired now).isRepairNeeded = false := by
  simp [TradeExecution.isRepairNeeded]

end Trades

section Step

variable {portfolio : Portfolio} {p q : TradingPosition} {t c : TradeExecution} (now : Nat)

/-- A position that holds neither the repaired trade nor its counter-trade is left as it
was. -/
theorem repairedPosition_of_ne (own : ∀ x ∈ q.trades, x.positionId = q.positionId)
    (other : t.positionId ≠ q.positionId) (counter : c.positionId = t.positionId) :
    repairedPosition now [t] [c] q = q := by
  have untouched : ∀ x ∈ q.trades, x ∉ [t] := fun x member same =>
    other (List.mem_singleton.mp same ▸ own x member)
  simp only [repairedPosition, List.map_congr_left fun x member => if_neg (untouched x member),
    List.map_id', List.filter_cons, List.filter_nil, counter, other, decide_False, Bool.false_eq_true,
    if_false, List.append_nil]

/-- The position holding the repaired trade has it marked and the counter-trade
appended. -/
theorem repairedPosition_self (distinct : (p.trades.map (·.tradeId)).Nodup) (held : t ∈ p.trades)
    (counter : c.positionId = p.positionId) :
    repairedPosition now [t] [c] p =
      { p with trades := updateByKey (·.tradeId) t.tradeId (·.markRepaired now) p.trades ++ [c] } := by
  have marks : ∀ x ∈ p.trades, (if x ∈ [t] then x.markRepaired now else x) =
      if x.tradeId = t.tradeId then x.markRepaired now else x := fun x member => by
    by_cases same : x = t
    · simp [same]
    · have : x.tradeId ≠ t.tradeId := fun ids => same (List.inj_on_of_nodup_map distinct member held ids)
      simp [same, this]
  simp only [repairedPosition, List.map_congr_left marks, updateByKey_eq_map distinct,
    List.filter_cons, List.filter_nil, counter, decide_True, if_true]

/-- **One repair.** A trade held by a position of a well-formed portfolio is repaired by
a change of that position alone: the trade is marked, the counter-trade under the next
trade id is appended, and the trade id counter moves on. The last assertion, that the
trade planned a non-zero quantity, raises after all of this. -/
theorem repairTrade_eq (wf : portfolio.WellFormed) (member : p ∈ portfolio.allPositions)
    (held : t ∈ p.trades) :
    repairTrade now t portfolio =
      if t.plannedQuantity ≠ 0 then
        .ok (counterTrade now portfolio.nextTradeId t)
          (portfolio.afterRepair now [t] [counterTrade now portfolio.nextTradeId t])
      else .error (.assertionError "")
        (portfolio.afterRepair now [t] [counterTrade now portfolio.nextTradeId t]) := by
  have own : t.positionId = p.positionId := wf.ownTrades p member t held
  have found : portfolio.getPositionById? t.positionId = some p :=
    own ▸ Portfolio.getPositionById?_of_mem wf.positionIds member
  have fresh : portfolio.nextTradeId ∉ p.trades.map (·.tradeId) := fun taken =>
    let ⟨x, held, same⟩ := List.mem_map.mp taken
    (wf.freshTradeId p member x held).ne same
  have present : t.tradeId ∈ p.trades.map (·.tradeId) := List.mem_map_of_mem _ held
  have distinct : ({ portfolio with nextTradeId := portfolio.nextTradeId + 1 }.allPositions.map
      fun x : TradingPosition => x.positionId).Nodup := wf.positionIds
  simp only [repairTrade, makeCounterTrade, Portfolio.createTrade, bind_assoc, get_bind, found,
    modify_bind, pure_bind_apply, pure_apply, pyAssert_bind, TradeExecution.markSuccess,
    TradeExecution.isSuccess, TradeExecution.getStatus, TradeExecution.getValue,
    TradeExecution.getPositionQuantity, markRepaired_repairedAt, markRepaired_plannedQuantity,
    markRepaired_tradeId, Option.isSome_none, Option.isSome_some, Bool.false_eq_true, if_false,
    if_true, beq_self_eq_true, abs_zero, zero_mul, beq_iff_eq, reduceCtorEq]
  rw [← own]
  split_ifs
  on_goal 1 => refine congrArg₂ EStateM.Result.ok rfl ?_
  on_goal 2 => refine congrArg (EStateM.Result.error _) ?_
  all_goals
    unfold Portfolio.modifyTrade Portfolio.afterRepair
    rw [Portfolio.modifyPosition_modifyPosition, Portfolio.modifyPosition_modifyPosition,
      Portfolio.modifyPosition_modifyPosition, Portfolio.modifyPosition_eq_mapPositions distinct,
      List.length_singleton]
    · apply Portfolio.mapPositions_congr
      intro q inPortfolio
      have counter : (counterTrade now portfolio.nextTradeId t).positionId = t.positionId := rfl
      by_cases same : q.positionId = t.positionId
      · obtain rfl : q = p :=
          List.inj_on_of_nodup_map wf.positionIds inPortfolio member (same.trans own)
        rw [if_pos same, repairedPosition_self now (wf.tradeIds q member) held (counter.trans same.symm)]
        have keeps : (updateByKey (·.tradeId) t.tradeId (·.markRepaired now) q.trades).map
            (·.tradeId) = q.trades.map (·.tradeId) := map_key_updateByKey (by intro; rfl) _
        simp only [Function.comp, setByKey, updateByKey_append, fresh, present, keeps, updateByKey,
          if_true, if_false, List.append_nil]
        rfl
      · rw [if_neg same, repairedPosition_of_ne now (wf.ownTrades q inPortfolio) (Ne.symm same) counter]
    all_goals exact fun _ => rfl

end Step

/-! ## Repair zeroing -/

section Zeroing

variable {repaired counters : List TradeExecution} {p : TradingPosition} {now : Nat}

/-- Dropping trades that move nothing leaves a quantity sum as it was. -/
theorem sum_filter_of_zero {l : List TradeExecution} {keep : TradeExecution → Bool}
    (dropped : ∀ x ∈ l, keep x = false → x.getPositionQuantity = 0) :
    ((l.filter keep).map (·.getPositionQuantity)).sum = (l.map (·.getPositionQuantity)).sum := by
  induction l with
  | nil => rfl
  | cons x xs ih =>
    have rest := ih fun y member => dropped y (List.mem_cons_of_mem x member)
    by_cases kept : keep x
    · simp [List.filter_cons, kept, rest]
    · simp [List.filter_cons, kept, rest, dropped x (List.mem_cons_self x xs) (by simpa using kept)]

/-- Repairing trades that moved nothing, with counter-trades that move nothing, leaves a
position's quantity as it was. -/
theorem getQuantity_repairedPosition (idle : ∀ x ∈ repaired, x.getPositionQuantity = 0)
    (idleCounters : ∀ c ∈ counters, c.getPositionQuantity = 0) :
    (repairedPosition now repaired counters p).getQuantity = p.getQuantity := by
  have marked : ∀ x ∈ p.trades, (if x ∈ repaired then x.markRepaired now else x).getPositionQuantity =
      x.getPositionQuantity := fun x _ => by
    split_ifs with chosen
    · rw [getPositionQuantity_markRepaired, idle x chosen]
    · rfl
  have appended : ((counters.filter (·.positionId = p.positionId)).map (·.getPositionQuantity)).sum = 0 :=
    List.sum_eq_zero fun q member => by
      obtain ⟨c, kept, rfl⟩ := List.mem_map.mp member
      exact idleCounters c (List.mem_filter.mp kept).1
  simp only [TradingPosition.getQuantity, repairedPosition, List.map_append, List.sum_append, appended,
    add_zero, List.map_map]
  exact congrArg List.sum (List.map_congr_left marked)

end Zeroing

/-- The trades `find_trades_to_be_repaired` returns are those of open and frozen
positions that need repair. -/
theorem mem_findTradesToBeRepaired {s : State} {t : TradeExecution} :
    t ∈ findTradesToBeRepaired s ↔
      ∃ p ∈ s.portfolio.openPositions ++ s.portfolio.frozenPositions, t ∈ p.trades ∧ t.isRepairNeeded := by
  simp only [findTradesToBeRepaired, List.mem_flatMap, List.mem_filter]

/-- A lookup after repairs finds the repaired position. -/
theorem getPositionById?_afterRepair (portfolio : Portfolio) (now : Nat)
    (repaired counters : List TradeExecution) (positionId : Nat) :
    (portfolio.afterRepair now repaired counters).getPositionById? positionId =
      (portfolio.getPositionById? positionId).map (repairedPosition now repaired counters) :=
  Portfolio.getPositionById?_mapPositions (by intro; rfl) positionId

/-- An open or frozen position is a position of the portfolio. -/
theorem mem_allPositions_of_live {portfolio : Portfolio} {p : TradingPosition}
    (live : p ∈ portfolio.openPositions ++ portfolio.frozenPositions) : p ∈ portfolio.allPositions := by
  simp only [List.mem_append, Portfolio.allPositions] at live ⊢
  tauto

/-- **Repair zeroing.** Repairing a trade that needs repair leaves it, in its position,
repaired, worth nothing and moving nothing; the counter-trade is worth nothing and moves
nothing; and the position's quantity is the sum over its trades other than these two,
which is its quantity with the repaired trade ignored. -/
theorem repairTrade_zeroes {s : State} {t c : TradeExecution} {portfolio' : Portfolio} (now : Nat)
    (wf : s.portfolio.WellFormed) (found : t ∈ findTradesToBeRepaired s)
    (returned : repairTrade now t s.portfolio = .ok c portfolio') :
    ∃ p p', s.portfolio.getPositionById? t.positionId = some p ∧
      portfolio'.getPositionById? t.positionId = some p' ∧
      t.markRepaired now ∈ p'.trades ∧ c ∈ p'.trades ∧
      (t.markRepaired now).getStatus = .repaired ∧ (t.markRepaired now).getValue = 0 ∧
      (t.markRepaired now).getPositionQuantity = 0 ∧ c.getValue = 0 ∧ c.getPositionQuantity = 0 ∧
      p'.getQuantity =
        ((p'.trades.filter fun x => x ≠ t.markRepaired now ∧ x ≠ c).map (·.getPositionQuantity)).sum ∧
      p'.getQuantity = ((p.trades.filter (· ≠ t)).map (·.getPositionQuantity)).sum := by
  obtain ⟨p, live, held, needed⟩ := mem_findTradesToBeRepaired.mp found
  have member := mem_allPositions_of_live live
  have own : t.positionId = p.positionId := wf.ownTrades p member t held
  have idle : t.getPositionQuantity = 0 :=
    TradeExecution.getPositionQuantity_of_not_isSuccess
      (TradeExecution.not_isSuccess_of_isRepairNeeded needed)
  rw [repairTrade_eq now wf member held] at returned
  split_ifs at returned
  obtain ⟨rfl, rfl⟩ := (EStateM.Result.ok.injEq _ _ _ _).mp returned
  have before : s.portfolio.getPositionById? t.positionId = some p :=
    own ▸ Portfolio.getPositionById?_of_mem wf.positionIds member
  have counted : (repairedPosition now [t] [counterTrade now s.portfolio.nextTradeId t] p).getQuantity =
      p.getQuantity :=
    getQuantity_repairedPosition (by simpa using idle) (by simp)
  refine ⟨p, _, before, by rw [getPositionById?_afterRepair, before]; rfl, ?_, ?_, by simp, by simp,
    by simp, by simp, by simp, ?_, ?_⟩
  · exact List.mem_append_left _ (List.mem_map.mpr ⟨t, held, by simp⟩)
  · exact List.mem_append_right _ (List.mem_filter.mpr ⟨List.mem_singleton_self _, by simp [own]⟩)
  · refine (sum_filter_of_zero fun x _ dropped => ?_).symm
    simp only [decide_eq_false_iff_not, not_and_or, not_not] at dropped
    rcases dropped with rfl | rfl <;> simp
  · rw [counted, sum_filter_of_zero fun x _ dropped => by simp_all]
    rfl

/-- A spot pair of WETH quoted in USDC. -/
def wethUsdcSpot : TradingPairIdentifier :=
  { base := { chainId := 1, address := 2, tokenSymbol := "WETH", decimals := 18 },
    quote := { chainId := 1, address := 1, tokenSymbol := "USDC", decimals := 6 }, poolAddress := 9 }

/-- A buy of one WETH at 1000 USDC that was broadcast and reverted. -/
def failedBuy : TradeExecution :=
  { tradeId := 1, positionId := 1, pair := wethUsdcSpot, openedAt := 0, strategyCycleAt := 0,
    plannedQuantity := 1, plannedPrice := 1000, plannedReserve := 1000,
    reserveCurrency := wethUsdcSpot.quote, broadcastedAt := some 1, failedAt := some 2 }

/-- The position the failed buy froze. -/
def frozenBuyPosition : TradingPosition :=
  { positionId := 1, pair := wethUsdcSpot, openedAt := 0, frozenAt := some 2, trades := [failedBuy] }

/-- A state whose one position is frozen by the failed buy. -/
def frozenBuyState : State :=
  { portfolio := { nextPositionId := 2, nextTradeId := 2, frozenPositions := [frozenBuyPosition] } }

/-- The frozen state keeps the data model's invariants. -/
theorem frozenBuyState_wellFormed : frozenBuyState.portfolio.WellFormed :=
  ⟨by decide, by decide, by decide, by decide⟩

/-- The failed buy is what needs repair in the frozen state. -/
theorem findTradesToBeRepaired_frozenBuyState : findTradesToBeRepaired frozenBuyState = [failedBuy] :=
  rfl

/-- The zeroing theorem at the failed buy. -/
theorem repairTrade_zeroes_failedBuy :
    ∃ c portfolio', repairTrade 3 failedBuy frozenBuyState.portfolio = .ok c portfolio' ∧
      ∃ p p', frozenBuyState.portfolio.getPositionById? failedBuy.positionId = some p ∧
        portfolio'.getPositionById? failedBuy.positionId = some p' ∧
        failedBuy.markRepaired 3 ∈ p'.trades ∧ c ∈ p'.trades ∧
        (failedBuy.markRepaired 3).getStatus = .repaired ∧ (failedBuy.markRepaired 3).getValue = 0 ∧
        (failedBuy.markRepaired 3).getPositionQuantity = 0 ∧ c.getValue = 0 ∧
        c.getPositionQuantity = 0 ∧
        p'.getQuantity = ((p'.trades.filter fun x => x ≠ failedBuy.markRepaired 3 ∧ x ≠ c).map
          (·.getPositionQuantity)).sum ∧
        p'.getQuantity = ((p.trades.filter (· ≠ failedBuy)).map (·.getPositionQuantity)).sum := by
  have member : frozenBuyPosition ∈ frozenBuyState.portfolio.allPositions := by decide
  have returned := repairTrade_eq 3 frozenBuyState_wellFormed member (List.mem_singleton_self _)
  rw [if_pos (by norm_num [failedBuy])] at returned
  exact ⟨_, _, returned, repairTrade_zeroes 3 frozenBuyState_wellFormed
    (by rw [findTradesToBeRepaired_frozenBuyState]; exact List.mem_singleton_self _) returned⟩

end TradeExecutor
