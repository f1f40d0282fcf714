import Mathlib.Data.List.Forall2
import TradeExecutor.State.Repair

/-! # A whole repair run

The repair loop repairs the trades `find_trades_to_be_repaired` returned one after the
other (`TradeExecutor.repairEach`). One repair is a change of one position
(`TradeExecutor.repairTrade_eq`) that keeps the portfolio's invariants, and two
repairs compose into the repair of both, so a run that returns has made the
counter-trades `TradeExecutor.counterTrades` under consecutive trade ids and left the
portfolio `TradeExecutor.Portfolio.afterRepair` of all of them
(`TradeExecutor.repairEach_eq_ok`). Nothing is left to repair afterwards, so a second
`repair_trades` returns an empty report and changes nothing.
-/

namespace TradeExecutor

/-- The counter-trades of a run of repairs, under consecutive trade ids from `tradeId`. -/
def counterTrades (now : Nat) : Nat → List TradeExecution → List TradeExecution
  | _, [] => []
  | tradeId, t :: rest => counterTrade now tradeId t :: counterTrades now (tradeId + 1) rest

section Counters

variable {now tradeId : Nat} {ts : List TradeExecution}

@[simp] theorem length_counterTrades : (counterTrades now tradeId ts).length = ts.length := by
  induction ts generalizing tradeId with
  | nil => rfl
  | cons t rest ih => simp [counterTrades, ih]

/-- Each trade of a run has, at the same place, a counter-trade of its own. -/
theorem forall₂_counterTrades :
    List.Forall₂ (fun t c => ∃ k, c = counterTrade now k t) ts (counterTrades now tradeId ts) := by
  induction ts generalizing tradeId with
  | nil => exact .nil
  | cons t rest ih => exact .cons ⟨tradeId, rfl⟩ ih

/-- What the repair engine promises of a counter-trade: it sits in its trade's position,
undoes the trade's planned quantity, has succeeded and points back at the trade. -/
theorem counterTrade_spec {t : TradeExecution} :
    (counterTrade now tradeId t).positionId = t.positionId ∧
      (counterTrade now tradeId t).plannedQuantity = -t.plannedQuantity ∧
      (counterTrade now tradeId t).isSuccess ∧
      (counterTrade now tradeId t).repairedTradeId = some t.tradeId :=
  ⟨rfl, rfl, by simp [TradeExecution.isSuccess], rfl⟩

/-- A counter-trade of a run is the counter-trade of one of its trades. -/
theorem exists_of_mem_counterTrades {c : TradeExecution} (member : c ∈ counterTrades now tradeId ts) :
    ∃ t ∈ ts, ∃ k, c = counterTrade now k t := by
  induction ts generalizing tradeId with
  | nil => cases member
  | cons t rest ih =>
    rcases List.mem_cons.mp member with rfl | later
    · exact ⟨t, List.mem_cons_self t rest, tradeId, rfl⟩
    · obtain ⟨t', held, k, rfl⟩ := ih later
      exact ⟨t', List.mem_cons_of_mem t held, k, rfl⟩

end Counters

section Compose

variable {now : Nat} {t c : TradeExecution} {rest counters : List TradeExecution}

/-- Repairing nothing changes nothing. -/
@[simp] theorem repairedPosition_nil (p : TradingPosition) : repairedPosition now [] [] p = p := by
  simp [repairedPosition]

/-- Repairing one trade and then others is repairing all of them, the first counter-trade
being none of the others. -/
theorem repairedPosition_repairedPosition (fresh : c ∉ rest) (p : TradingPosition) :
    repairedPosition now rest counters (repairedPosition now [t] [c] p) =
      repairedPosition now (t :: rest) (c :: counters) p := by
  have marks : ∀ x ∈ p.trades,
      (fun y => if y ∈ rest then y.markRepaired now else y)
        (if x ∈ [t] then x.markRepaired now else x) =
      if x ∈ t :: rest then x.markRepaired now else x := fun x _ => by
    by_cases first : x = t
    · subst first
      by_cases again : x.markRepaired now ∈ rest <;> simp [again]
    · simp [first]
  have untouched : (fun y => if y ∈ rest then y.markRepaired now else y) c = c := if_neg fresh
  simp only [repairedPosition, List.map_append, List.map_map, Function.comp_def,
    List.map_congr_left marks, List.filter_cons, List.filter_nil, List.append_assoc]
  split_ifs <;> simp [untouched]

/-- The portfolio after no repair is the portfolio. -/
@[simp] theorem afterRepair_nil (portfolio : Portfolio) : portfolio.afterRepair now [] [] = portfolio := by
  simp only [Portfolio.afterRepair, List.length_nil, Nat.add_zero]
  exact (Portfolio.mapPositions_congr fun p _ => repairedPosition_nil p).trans
    (by simp [Portfolio.mapPositions])

/-- One repair followed by others is the repair of all of them. -/
theorem afterRepair_afterRepair (portfolio : Portfolio) (fresh : c ∉ rest) :
    (portfolio.afterRepair now [t] [c]).afterRepair now rest counters =
      portfolio.afterRepair now (t :: rest) (c :: counters) := by
  simp only [Portfolio.afterRepair, Portfolio.mapPositions, List.map_map, Function.comp_def,
    repairedPosition_repairedPosition fresh, List.length_cons, List.length_singleton,
    Portfolio.mk.injEq, List.length_nil, true_and, and_true]
  omega

end Compose

section Invariant

variable {portfolio : Portfolio} {p : TradingPosition} {t : TradeExecution} {now : Nat}

/-- A repaired position's trades are its own trades, marked or not, and the
counter-trades made in it. -/
theorem mem_repairedPosition {repaired counters : List TradeExecution} {q : TradingPosition}
    {x : TradeExecution} (member : x ∈ (repairedPosition now repaired counters q).trades) :
    (∃ y ∈ q.trades, x = if y ∈ repaired then y.markRepaired now else y) ∨
      (x ∈ counters ∧ x.positionId = q.positionId) := by
  rcases List.mem_append.mp member with marked | made
  · obtain ⟨y, held, rfl⟩ := List.mem_map.mp marked
    exact .inl ⟨y, held, rfl⟩
  · obtain ⟨made, same⟩ := List.mem_filter.mp made
    exact .inr ⟨made, of_decide_eq_true same⟩

/-- **One repair keeps the invariants.** -/
theorem WellFormed.afterRepair (wf : portfolio.WellFormed) (member : p ∈ portfolio.allPositions)
    (held : t ∈ p.trades) :
    (portfolio.afterRepair now [t] [counterTrade now portfolio.nextTradeId t]).WellFormed := by
  have own : t.positionId = p.positionId := wf.ownTrades p member t held
  have keysKept : ∀ q : TradingPosition, (q.trades.map fun x =>
      if x ∈ [t] then x.markRepaired now else x).map (·.tradeId) = q.trades.map (·.tradeId) :=
    fun q => by
      simp only [List.map_map]
      exact List.map_congr_left fun x _ => by
        show (if x ∈ [t] then x.markRepaired now else x).tradeId = x.tradeId
        split_ifs <;> rfl
  constructor
  · simpa [Portfolio.afterRepair, List.map_map, Function.comp_def, repairedPosition] using
      wf.positionIds
  · simp only [Portfolio.afterRepair, Portfolio.allPositions_mapPositions, List.mem_map]
    rintro _ ⟨q, inPortfolio, rfl⟩
    have fresh : portfolio.nextTradeId ∉ q.trades.map (·.tradeId) := fun taken =>
      let ⟨x, held, same⟩ := List.mem_map.mp taken
      (wf.freshTradeId q inPortfolio x held).ne same
    simp only [repairedPosition, List.map_append, keysKept, List.filter_cons, List.filter_nil]
    split_ifs
    · exact List.nodup_append.mpr ⟨wf.tradeIds q inPortfolio, List.nodup_singleton _,
        List.disjoint_singleton.mpr fresh⟩
    · simpa using wf.tradeIds q inPortfolio
  · simp only [Portfolio.afterRepair, Portfolio.allPositions_mapPositions, List.mem_map]
    rintro _ ⟨q, inPortfolio, rfl⟩ x member
    rcases mem_repairedPosition member with ⟨y, held, rfl⟩ | ⟨_, same⟩
    · split_ifs <;> exact wf.ownTrades q inPortfolio y held
    · exact same
  · simp only [Portfolio.afterRepair, Portfolio.allPositions_mapPositions, List.mem_map]
    rintro _ ⟨q, inPortfolio, rfl⟩ x member
    rcases mem_repairedPosition member with ⟨y, held, rfl⟩ | ⟨made, -⟩
    · have := wf.freshTradeId q inPortfolio y held
      split_ifs <;> simp only [markRepaired_tradeId, Portfolio.mapPositions_nextTradeId,
        List.length_singleton] <;> omega
    · rw [List.mem_singleton.mp made]
      simp

/-- A trade of a position that the repair does not mark stays in the repaired position. -/
theorem mem_repairedPosition_of_not_mem {repaired counters : List TradeExecution}
    {q : TradingPosition} {x : TradeExecution} (held : x ∈ q.trades) (kept : x ∉ repaired) :
    x ∈ (repairedPosition now repaired counters q).trades :=
  List.mem_append_left _ (List.mem_map.mpr ⟨x, held, if_neg kept⟩)

section Step

-- The trades of a run: the first one repaired, the rest still to be repaired, all held by
-- positions of a well-formed portfolio.
variable {rest : List TradeExecution}
  (located : ∀ t' ∈ t :: rest, ∃ p ∈ portfolio.allPositions, t' ∈ p.trades)
include located

/-- The counter-trade of the first trade of a run is none of the others. -/
theorem counterTrade_not_mem (wf : portfolio.WellFormed) :
    counterTrade now portfolio.nextTradeId t ∉ rest := fun taken =>
  let ⟨q, inPortfolio, kept⟩ := located _ (List.mem_cons_of_mem t taken)
  (wf.freshTradeId q inPortfolio _ kept).ne rfl

/-- The other trades of a run are still held by positions after the first is repaired. -/
theorem located_afterRepair (outside : t ∉ rest) :
    ∀ t' ∈ rest, ∃ q ∈ (portfolio.afterRepair now [t] [counterTrade now portfolio.nextTradeId t]).allPositions,
      t' ∈ q.trades := fun t' later =>
  let ⟨q, inPortfolio, kept⟩ := located t' (List.mem_cons_of_mem t later)
  ⟨_, by simpa only [Portfolio.afterRepair, Portfolio.allPositions_mapPositions] using
    List.mem_map_of_mem _ inPortfolio, mem_repairedPosition_of_not_mem kept
    fun same => outside (by rw [← List.mem_singleton.mp same]; exact later)⟩

end Step

end Invariant

/-- **A whole run keeps the invariants.** Repairing distinct trades held by positions of
a well-formed portfolio leaves it well-formed. -/
theorem WellFormed.afterRepairAll {now : Nat} {ts : List TradeExecution} {portfolio : Portfolio}
    (wf : portfolio.WellFormed) (located : ∀ t ∈ ts, ∃ p ∈ portfolio.allPositions, t ∈ p.trades)
    (distinct : ts.Nodup) :
    (portfolio.afterRepair now ts (counterTrades now portfolio.nextTradeId ts)).WellFormed := by
  induction ts generalizing portfolio with
  | nil => simpa [counterTrades] using wf
  | cons t rest ih =>
    obtain ⟨p, member, held⟩ := located t (List.mem_cons_self t rest)
    obtain ⟨outside, restDistinct⟩ := List.nodup_cons.mp distinct
    rw [counterTrades, ← afterRepair_afterRepair _ (counterTrade_not_mem located wf)]
    exact ih (WellFormed.afterRepair wf member held) (located_afterRepair located outside)
      restDistinct

/-- **A run of repairs.** From a well-formed portfolio, repairing distinct trades held
by its positions returns exactly when none of them planned a zero quantity, and then
returns their counter-trades under consecutive ids and leaves the portfolio repaired
by all of them. -/
theorem repairEach_eq_ok {now : Nat} {ts cs : List TradeExecution} {portfolio portfolio' : Portfolio}
    (wf : portfolio.WellFormed) (located : ∀ t ∈ ts, ∃ p ∈ portfolio.allPositions, t ∈ p.trades)
    (distinct : ts.Nodup) :
    repairEach now ts portfolio = .ok cs portfolio' ↔
      (∀ t ∈ ts, t.plannedQuantity ≠ 0) ∧ cs = counterTrades now portfolio.nextTradeId ts ∧
        portfolio' = portfolio.afterRepair now ts cs := by
  induction ts generalizing portfolio cs with
  | nil =>
    simp only [repairEach, pure_apply, EStateM.Result.ok.injEq, counterTrades, afterRepair_nil,
      List.not_mem_nil, false_implies, implies_true, true_and]
    constructor
    · rintro ⟨rfl, rfl⟩
      exact ⟨rfl, (afterRepair_nil _).symm⟩
    · rintro ⟨rfl, rfl⟩
      exact ⟨rfl, (afterRepair_nil _).symm⟩
  | cons t rest ih =>
    obtain ⟨p, member, held⟩ := located t (List.mem_cons_self t rest)
    obtain ⟨outside, restDistinct⟩ := List.nodup_cons.mp distinct
    set c := counterTrade now portfolio.nextTradeId t
    have step := repairTrade_eq now wf member held
    by_cases zero : t.plannedQuantity = 0
    · have raised : repairTrade now t portfolio = .error (.assertionError "")
          (portfolio.afterRepair now [t] [c]) := by rw [step, if_neg (not_not.mpr zero)]
      simp [repairEach, bind_of_error raised, zero]
    · have returned : repairTrade now t portfolio = .ok c (portfolio.afterRepair now [t] [c]) := by
        rw [step, if_pos zero]
      have fresh : c ∉ rest := counterTrade_not_mem located wf
      have relocated : ∀ t' ∈ rest, ∃ q ∈ (portfolio.afterRepair now [t] [c]).allPositions,
          t' ∈ q.trades := located_afterRepair located outside
      have next : (portfolio.afterRepair now [t] [c]).nextTradeId = portfolio.nextTradeId + 1 := rfl
      simp only [repairEach]
      rw [bind_of_ok returned, bind_eq_ok]
      constructor
      · rintro ⟨more, middle, run, finish⟩
        simp only [pure_apply, EStateM.Result.ok.injEq] at finish
        obtain ⟨rfl, rfl⟩ := finish
        obtain ⟨nonzero, rfl, rfl⟩ :=
          (ih (WellFormed.afterRepair wf member held) relocated restDistinct).mp run
        refine ⟨?_, by rw [next]; rfl, afterRepair_afterRepair _ fresh⟩
        exact List.forall_mem_cons.mpr ⟨zero, nonzero⟩
      · rintro ⟨nonzero, rfl, rfl⟩
        refine ⟨_, _, (ih (WellFormed.afterRepair wf member held) relocated restDistinct).mpr
          ⟨(List.forall_mem_cons.mp nonzero).2, rfl, (afterRepair_afterRepair _ fresh).symm⟩, ?_⟩
        rfl

/-- A run of repairs that raises, from a well-formed portfolio and on distinct trades held
by its positions, has met a trade that planned a zero quantity: the error is
`repair_trade`'s last assertion. -/
theorem repairEach_eq_error {now : Nat} {ts : List TradeExecution} {portfolio portfolio' : Portfolio}
    {e : Error} (wf : portfolio.WellFormed)
    (located : ∀ t ∈ ts, ∃ p ∈ portfolio.allPositions, t ∈ p.trades) (distinct : ts.Nodup)
    (raised : repairEach now ts portfolio = .error e portfolio') :
    e = .assertionError "" ∧ ∃ t ∈ ts, t.plannedQuantity = 0 := by
  induction ts generalizing portfolio with
  | nil => cases raised
  | cons t rest ih =>
    obtain ⟨p, member, held⟩ := located t (List.mem_cons_self t rest)
    obtain ⟨outside, restDistinct⟩ := List.nodup_cons.mp distinct
    have step := repairTrade_eq now wf member held
    simp only [repairEach] at raised
    by_cases zero : t.plannedQuantity = 0
    · rw [bind_of_error (step.trans (if_neg (not_not.mpr zero))), EStateM.Result.error.injEq] at raised
      exact ⟨raised.1.symm, t, List.mem_cons_self t rest, zero⟩
    · rw [bind_of_ok (step.trans (if_pos zero))] at raised
      rcases bind_eq_error.mp raised with run | ⟨_, _, _, finish⟩
      · obtain ⟨assertion, t', later, zero'⟩ :=
          ih (WellFormed.afterRepair wf member held) (located_afterRepair located outside) restDistinct run
        exact ⟨assertion, t', List.mem_cons_of_mem t later, zero'⟩
      · cases finish

/-! ## The repair command -/

section Command

variable {s : State} {now : Nat}

/-- Two trades that `find_trades_to_be_repaired` returns are different trades. -/
theorem nodup_findTradesToBeRepaired (wf : s.portfolio.WellFormed) :
    (findTradesToBeRepaired s).Nodup := by
  have live : (s.portfolio.openPositions ++ s.portfolio.frozenPositions).Sublist
      s.portfolio.allPositions :=
    (List.sublist_append_left _ _).append (List.Sublist.refl _)
  refine List.nodup_flatMap.mpr ⟨fun p member => ?_, ?_⟩
  · exact ((wf.tradeIds p (live.subset member)).of_map _).filter _
  · have ids := wf.positionIds.sublist (live.map (·.positionId))
    rw [List.Nodup, List.pairwise_map] at ids
    refine ids.imp_of_mem fun {p q} inP inQ distinct x inTradesP inTradesQ => distinct ?_
    exact (wf.ownTrades p (live.subset inP) x (List.mem_filter.mp inTradesP).1).symm.trans
      (wf.ownTrades q (live.subset inQ) x (List.mem_filter.mp inTradesQ).1)

/-- Every trade `find_trades_to_be_repaired` returns is held by a position. -/
theorem located_of_findTradesToBeRepaired {t : TradeExecution} (found : t ∈ findTradesToBeRepaired s) :
    ∃ p ∈ s.portfolio.allPositions, t ∈ p.trades :=
  let ⟨p, live, held, _⟩ := mem_findTradesToBeRepaired.mp found
  ⟨p, mem_allPositions_of_live live, held⟩

/-- After the repair of everything `find_trades_to_be_repaired` found, with counter-trades
that need no repair, it finds nothing. -/
theorem findTradesToBeRepaired_afterRepair {cs : List TradeExecution}
    (counters : ∀ c ∈ cs, c.isRepairNeeded = false) :
    findTradesToBeRepaired
      { s with portfolio := s.portfolio.afterRepair now (findTradesToBeRepaired s) cs } = [] := by
  refine List.eq_nil_iff_forall_not_mem.mpr fun x found => ?_
  obtain ⟨q', live', held', needed⟩ := mem_findTradesToBeRepaired.mp found
  simp only [Portfolio.afterRepair, Portfolio.mapPositions, ← List.map_append, List.mem_map] at live'
  obtain ⟨q, live, rfl⟩ := live'
  rcases mem_repairedPosition held' with ⟨y, held, rfl⟩ | ⟨made, -⟩
  · split_ifs at needed with chosen
    · simp at needed
    · exact chosen (mem_findTradesToBeRepaired.mpr ⟨q, live, held, needed⟩)
  · simp [counters x made] at needed

/-- With nothing to repair, `repair_trades` reports nothing and changes nothing, whatever
its arguments. -/
theorem repairTrades_of_nothing_found (nothing : findTradesToBeRepaired s = [])
    (attemptRepair interactive : Bool) (answer : String) :
    repairTrades now attemptRepair interactive answer s =
      .ok { frozenPositions := s.portfolio.frozenPositions, unfrozenPositions := [],
            tradesNeedingRepair := [], newTrades := [] } s := by
  simp [repairTrades, nothing]

/-- `unfreeze_position` unfreezes no position. -/
@[simp] theorem filter_unfreezePosition (positions : List TradingPosition) :
    positions.filter unfreezePosition = [] :=
  List.filter_eq_nil_iff.mpr fun _ _ => Bool.false_ne_true

/-- A non-interactive repair that attempts repairs runs the repair loop on the portfolio
when there is something to repair. -/
theorem repairTrades_of_found (something : findTradesToBeRepaired s ≠ []) (answer : String) :
    repairTrades now true false answer s =
      (liftPortfolio (repairEach now (findTradesToBeRepaired s)) >>= fun newTrades =>
        pure { frozenPositions := s.portfolio.frozenPositions, unfrozenPositions := [],
               tradesNeedingRepair := findTradesToBeRepaired s, newTrades }) s := by
  simp [repairTrades, something]

/-- A non-interactive repair of a well-formed state in which no trade to repair planned a
zero quantity reports the counter-trades and leaves the repaired state. -/
theorem repairTrades_eq_of_nonzero (wf : s.portfolio.WellFormed)
    (nonzero : ∀ t ∈ findTradesToBeRepaired s, t.plannedQuantity ≠ 0) (answer : String) :
    repairTrades now true false answer s =
      .ok { frozenPositions := s.portfolio.frozenPositions, unfrozenPositions := [],
            tradesNeedingRepair := findTradesToBeRepaired s,
            newTrades := counterTrades now s.portfolio.nextTradeId (findTradesToBeRepaired s) }
        { s with
          portfolio := s.portfolio.afterRepair now (findTradesToBeRepaired s)
            (counterTrades now s.portfolio.nextTradeId (findTradesToBeRepaired s)) } := by
  by_cases nothing : findTradesToBeRepaired s = []
  · rw [repairTrades_of_nothing_found nothing]
    simp only [nothing, counterTrades, afterRepair_nil]
  · have loop : repairEach now (findTradesToBeRepaired s) s.portfolio = .ok _ _ :=
      (repairEach_eq_ok wf (fun _ => located_of_findTradesToBeRepaired)
        (nodup_findTradesToBeRepaired wf)).mpr ⟨nonzero, rfl, rfl⟩
    rw [repairTrades_of_found nothing, bind_of_ok (liftPortfolio_eq_ok.mpr ⟨_, loop, rfl⟩)]
    rfl

/-- Conversely, a non-interactive repair of a well-formed state that returns found no
trade to repair with a zero planned quantity. -/
theorem nonzero_of_repairTrades_eq_ok {result : RepairResult} {s' : State} {answer : String}
    (wf : s.portfolio.WellFormed) (returned : repairTrades now true false answer s = .ok result s') :
    ∀ t ∈ findTradesToBeRepaired s, t.plannedQuantity ≠ 0 := by
  by_cases nothing : findTradesToBeRepaired s = []
  · simp [nothing]
  · rw [repairTrades_of_found nothing] at returned
    obtain ⟨cs, middle, run, -⟩ := bind_eq_ok.mp returned
    obtain ⟨portfolio', loop, -⟩ := liftPortfolio_eq_ok.mp run
    exact ((repairEach_eq_ok wf (fun _ => located_of_findTradesToBeRepaired)
      (nodup_findTradesToBeRepaired wf)).mp loop).1

end Command

/-- **Repair runs exactly once.** A non-interactive repair of a well-formed state that
returns reports the trades `find_trades_to_be_repaired` found and, at the same place,
one counter-trade for each: in the same position, of the opposite planned quantity,
successful and linked to the trade. The state is changed by these repairs alone
(`TradeExecutor.Portfolio.afterRepair`), nothing is left to repair, and so running the
repair again reports nothing and changes nothing. -/
theorem repairTrades_exactly_once {s s' : State} {result : RepairResult} {now : Nat}
    {answer : String} (wf : s.portfolio.WellFormed)
    (returned : repairTrades now true false answer s = .ok result s') :
    result.tradesNeedingRepair = findTradesToBeRepaired s ∧
    List.Forall₂ (fun t c => c.positionId = t.positionId ∧ c.plannedQuantity = -t.plannedQuantity ∧
        c.isSuccess ∧ c.repairedTradeId = some t.tradeId)
      (findTradesToBeRepaired s) result.newTrades ∧
    (∀ c ∈ result.newTrades,
      c ∈ ((s'.portfolio.getPositionById? c.positionId).map (·.trades)).getD []) ∧
    s' = { s with portfolio :=
      s.portfolio.afterRepair now (findTradesToBeRepaired s) result.newTrades } ∧
    findTradesToBeRepaired s' = [] ∧
    ∀ now' attemptRepair interactive answer',
      repairTrades now' attemptRepair interactive answer' s' =
        .ok { frozenPositions := s'.portfolio.frozenPositions, unfrozenPositions := [],
              tradesNeedingRepair := [], newTrades := [] } s' := by
  by_cases nothing : findTradesToBeRepaired s = []
  · rw [repairTrades_of_nothing_found nothing, EStateM.Result.ok.injEq] at returned
    obtain ⟨rfl, rfl⟩ := returned
    refine ⟨nothing.symm, by rw [nothing]; exact .nil, by simp, by simp [nothing], nothing,
      fun _ _ _ _ => repairTrades_of_nothing_found nothing _ _ _⟩
  · rw [repairTrades_of_found nothing] at returned
    obtain ⟨cs, middle, run, finish⟩ := bind_eq_ok.mp returned
    simp only [pure_apply, EStateM.Result.ok.injEq] at finish
    obtain ⟨rfl, rfl⟩ := finish
    obtain ⟨portfolio', loop, rfl⟩ := liftPortfolio_eq_ok.mp run
    obtain ⟨-, rfl, rfl⟩ := (repairEach_eq_ok wf (fun _ => located_of_findTradesToBeRepaired)
      (nodup_findTradesToBeRepaired wf)).mp loop
    have counters : ∀ c ∈ counterTrades now s.portfolio.nextTradeId (findTradesToBeRepaired s),
        c.isRepairNeeded = false := fun c made => by
      obtain ⟨_, _, _, rfl⟩ := exists_of_mem_counterTrades made
      exact isRepairNeeded_counterTrade
    refine ⟨rfl, forall₂_counterTrades.imp fun t c ⟨k, made⟩ => made ▸ counterTrade_spec,
      fun c made => ?_, rfl, findTradesToBeRepaired_afterRepair counters, fun _ _ _ _ =>
        repairTrades_of_nothing_found (findTradesToBeRepaired_afterRepair counters) _ _ _⟩
    obtain ⟨t, found, k, rfl⟩ := exists_of_mem_counterTrades made
    obtain ⟨p, member, held⟩ := located_of_findTradesToBeRepaired found
    have own : t.positionId = p.positionId := wf.ownTrades p member t held
    simp only [counterTrade_positionId, getPositionById?_afterRepair, own,
      Portfolio.getPositionById?_of_mem wf.positionIds member, Option.map_some', Option.getD_some]
    exact List.mem_append_right _ (List.mem_filter.mpr ⟨made, by simp [own]⟩)

/-- The exactly-once theorem at the state frozen by a failed buy. -/
theorem repairTrades_exactly_once_frozenBuy :
    ∃ result s', frozenBuyState.portfolio.WellFormed ∧
      repairTrades 3 true false "" frozenBuyState = .ok result s' ∧
      result.tradesNeedingRepair = findTradesToBeRepaired frozenBuyState ∧
      List.Forall₂ (fun t c => c.positionId = t.positionId ∧ c.plannedQuantity = -t.plannedQuantity ∧
          c.isSuccess ∧ c.repairedTradeId = some t.tradeId)
        (findTradesToBeRepaired frozenBuyState) result.newTrades ∧
      (∀ c ∈ result.newTrades,
        c ∈ ((s'.portfolio.getPositionById? c.positionId).map (·.trades)).getD []) ∧
      s' = { frozenBuyState with
        portfolio := frozenBuyState.portfolio.afterRepair 3 (findTradesToBeRepaired frozenBuyState)
          result.newTrades } ∧
      findTradesToBeRepaired s' = [] ∧
      ∀ now' attemptRepair interactive answer',
        repairTrades now' attemptRepair interactive answer' s' =
          .ok { frozenPositions := s'.portfolio.frozenPositions, unfrozenPositions := [],
                tradesNeedingRepair := [], newTrades := [] } s' := by
  have nonzero : ∀ t ∈ findTradesToBeRepaired frozenBuyState, t.plannedQuantity ≠ 0 := by
    rw [findTradesToBeRepaired_frozenBuyState]
    norm_num [failedBuy]
  have returned : repairTrades 3 true false "" frozenBuyState = _ :=
    repairTrades_eq_of_nonzero frozenBuyState_wellFormed nonzero ""
  exact ⟨_, _, frozenBuyState_wellFormed, returned,
    repairTrades_exactly_once frozenBuyState_wellFormed returned⟩

/-- A non-interactive repair of a well-formed state returns exactly when no trade that
needs repair planned a zero quantity; otherwise it raises, and what it raises is the last
assertion of `repair_trade`, `assert t.planned_quantity != 0`. -/
theorem repairTrades_returns_iff {s : State} {now : Nat} (wf : s.portfolio.WellFormed)
    (answer : String) :
    ((∃ result s', repairTrades now true false answer s = .ok result s') ↔
      ∀ t ∈ findTradesToBeRepaired s, t.plannedQuantity ≠ 0) ∧
    ∀ e s', repairTrades now true false answer s = .error e s' →
      e = .assertionError "" ∧ ∃ t ∈ findTradesToBeRepaired s, t.plannedQuantity = 0 := by
  refine ⟨⟨fun ⟨_, _, returned⟩ => nonzero_of_repairTrades_eq_ok wf returned,
    fun nonzero => ⟨_, _, repairTrades_eq_of_nonzero wf nonzero answer⟩⟩, fun e s' raised => ?_⟩
  by_cases nothing : findTradesToBeRepaired s = []
  · rw [repairTrades_of_nothing_found nothing] at raised
    cases raised
  · rw [repairTrades_of_found nothing] at raised
    rcases bind_eq_error.mp raised with run | ⟨_, _, _, finish⟩
    · obtain ⟨portfolio', loop, -⟩ := liftPortfolio_eq_error.mp run
      exact repairEach_eq_error wf (fun _ => located_of_findTradesToBeRepaired)
        (nodup_findTradesToBeRepaired wf) loop
    · cases finish

/-- The returns theorem at the state frozen by a failed buy. -/
theorem repairTrades_returns_iff_frozenBuy :
    frozenBuyState.portfolio.WellFormed ∧
      ((∃ result s', repairTrades 3 true false "" frozenBuyState = .ok result s') ↔
        ∀ t ∈ findTradesToBeRepaired frozenBuyState, t.plannedQuantity ≠ 0) ∧
      ∀ e s', repairTrades 3 true false "" frozenBuyState = .error e s' →
        e = .assertionError "" ∧ ∃ t ∈ findTradesToBeRepaired frozenBuyState, t.plannedQuantity = 0 :=
  ⟨frozenBuyState_wellFormed, repairTrades_returns_iff frozenBuyState_wellFormed ""⟩

/-- **Repair keeps the invariants.** A non-interactive repair of a well-formed state that
returns leaves a well-formed state, ready to be repaired again. -/
theorem repairTrades_wellFormed {s s' : State} {result : RepairResult} {now : Nat} {answer : String}
    (wf : s.portfolio.WellFormed) (returned : repairTrades now true false answer s = .ok result s') :
    s'.portfolio.WellFormed := by
  rw [repairTrades_eq_of_nonzero wf (nonzero_of_repairTrades_eq_ok wf returned),
    EStateM.Result.ok.injEq] at returned
  rw [← returned.2]
  exact WellFormed.afterRepairAll wf (fun _ => located_of_findTradesToBeRepaired)
    (nodup_findTradesToBeRepaired wf)

/-- The invariant theorem at the state frozen by a failed buy. -/
theorem repairTrades_wellFormed_frozenBuy :
    ∃ result s', frozenBuyState.portfolio.WellFormed ∧
      repairTrades 3 true false "" frozenBuyState = .ok result s' ∧ s'.portfolio.WellFormed := by
  have nonzero : ∀ t ∈ findTradesToBeRepaired frozenBuyState, t.plannedQuantity ≠ 0 := by
    rw [findTradesToBeRepaired_frozenBuyState]
    norm_num [failedBuy]
  have returned : repairTrades 3 true false "" frozenBuyState = _ :=
    repairTrades_eq_of_nonzero frozenBuyState_wellFormed nonzero ""
  exact ⟨_, _, frozenBuyState_wellFormed, returned, repairTrades_wellFormed frozenBuyState_wellFormed
    returned⟩

end TradeExecutor
