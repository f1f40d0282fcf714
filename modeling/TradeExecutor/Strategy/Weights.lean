import Mathlib.Algebra.BigOperators.Ring.List
import Mathlib.Algebra.Order.Field.Basic
import Mathlib.Algebra.Order.BigOperators.Group.List
import TradeExecutor.Strategy.Interest

/-! # Interest weights are normalised

The accumulation loop of `prepare_interest_distribution` keeps the `Counter` of
totals equal, asset by asset, to the sum of the quantities of the entries collected
so far (`TradeExecutor.Counted`). The loop collects, in order, exactly the entries
`TradeExecutor.makeEntry` returns for the interest-accruing assets of the open and
frozen positions (`TradeExecutor.accruingPairs`), and it returns exactly when every
one of them passes its checks (`TradeExecutor.Distributable`). Dividing each
quantity by its asset's total then gives weights in `(0, 1]` that sum to one for
each asset.
-/

namespace TradeExecutor

section Counter

variable {totals : List (AssetIdentifier × ℚ)} {asset other : AssetIdentifier}

/-- A `Counter` looks assets up by key. -/
theorem counterGet_congr (same : asset.key = other.key) :
    counterGet totals asset = counterGet totals other := by
  simp [counterGet, same]

/-- Counting an amount raises that asset's count by it and no other. -/
theorem counterGet_counterAdd (amount : ℚ) (other : AssetIdentifier) :
    counterGet (counterAdd totals asset amount) other =
      counterGet totals other + if asset.key = other.key then amount else 0 := by
  unfold counterAdd counterGet
  by_cases same : asset.key = other.key
  · rw [if_pos same, ← same]
    split_ifs with present
    · obtain ⟨counted, found⟩ := Option.isSome_iff_exists.mp (find?_key_isSome _ present)
      rw [find?_updateByKey_self, found]
      · rfl
      · exact fun _ => rfl
    · rw [List.find?_append, find?_key_eq_none _ present]
      simp
  · rw [if_neg same, add_zero]
    split_ifs with present
    · rw [find?_updateByKey_of_ne _ (Ne.symm same)]
      exact fun _ => rfl
    · rw [List.find?_append]
      cases totals.find? (·.1.key = other.key) <;> simp [same]

/-- An asset added to a set was there before or is the one added. -/
theorem mem_setAdd {assets : List AssetIdentifier} :
    other ∈ setAdd assets asset → other ∈ assets ∨ other = asset := by
  unfold setAdd
  split_ifs
  · exact .inl
  · simp

end Counter

variable (isStablecoin : Token → Bool)

/-- The interest-accruing assets of a position's pair, the base first. -/
def accruingAssets (p : TradingPosition) : List AssetIdentifier :=
  [p.pair.base, p.pair.quote].filter (·.isInterestAccruing)

/-- The position and asset of each entry `prepare_interest_distribution` makes, in
order. -/
def accruingPairs (positions : List TradingPosition) : List (TradingPosition × AssetIdentifier) :=
  positions.flatMap fun p => (accruingAssets p).map (p, ·)

/-- The checks `prepare_interest_distribution` makes on an asset of a position pass:
the position's loan tracks the asset with a positive quantity, and on the collateral
side the position is not long and the asset is priced by a stablecoin. -/
def Distributable (p : TradingPosition) (asset : AssetIdentifier) : Prop :=
  ∃ side tracker, p.loan.bind (·.getTrackedAsset asset) = some (side, tracker) ∧
    0 < tracker.quantity ∧
    (side = .collateral → p.isLong = false ∧ isStablecoin asset.getPricingAsset = true)

/-- `makeEntry` returns exactly when its checks pass, with the tracker of the loan
side holding the asset and the weight still unset. -/
theorem makeEntry_eq_ok {p : TradingPosition} {asset : AssetIdentifier}
    {entry : InterestDistributionEntry} :
    makeEntry isStablecoin p asset = .ok entry ↔
      p.loan.bind (·.getTrackedAsset asset) = some (entry.side, entry.tracker) ∧
        entry.positionId = p.positionId ∧ entry.weight = 0 ∧ 0 < entry.quantity ∧
        (entry.side = .collateral → p.isLong = false ∧ isStablecoin asset.getPricingAsset = true) := by
  unfold makeEntry
  rcases p.loan with _ | loan
  · simp
  rcases tracked : loan.getTrackedAsset asset with _ | ⟨side, tracker⟩
  · simp [tracked]
  obtain ⟨side', positionId, tracker', weight⟩ := entry
  cases side <;> simp only [ite_true, reduceCtorEq, ite_false, bind_assoc, pure_bind,
    pyAssert_bind_eq_ok_except, Option.some_bind, tracked, Option.some.injEq, Prod.mk.injEq,
    pure_eq_ok_except, InterestDistributionEntry.mk.injEq, InterestDistributionEntry.quantity,
    gt_iff_lt, Bool.not_eq_true']
  case collateral =>
    constructor
    · rintro ⟨long, stable, positive, rfl, rfl, rfl, rfl⟩
      exact ⟨⟨rfl, rfl⟩, rfl, rfl, positive, fun _ => ⟨long, stable⟩⟩
    · rintro ⟨⟨rfl, rfl⟩, rfl, rfl, positive, guard⟩
      exact ⟨(guard rfl).1, (guard rfl).2, positive, rfl, rfl, rfl, rfl⟩
  case borrowed =>
    constructor
    · rintro ⟨positive, rfl, rfl, rfl, rfl⟩
      exact ⟨⟨rfl, rfl⟩, rfl, rfl, positive, nofun⟩
    · rintro ⟨⟨rfl, rfl⟩, rfl, rfl, positive, -⟩
      exact ⟨positive, rfl, rfl, rfl, rfl⟩

/-- An entry holds the tracker of its own asset. -/
theorem makeEntry_key {p : TradingPosition} {asset : AssetIdentifier}
    {entry : InterestDistributionEntry} (made : makeEntry isStablecoin p asset = .ok entry) :
    entry.asset.key = asset.key := by
  obtain ⟨loan, _, tracked⟩ := Option.bind_eq_some.mp ((makeEntry_eq_ok isStablecoin).mp made).1
  exact Loan.getTrackedAsset_key tracked

/-- An asset whose checks pass gets its entry. -/
theorem makeEntry_of_distributable {p : TradingPosition} {asset : AssetIdentifier}
    (distributable : Distributable isStablecoin p asset) :
    ∃ entry, makeEntry isStablecoin p asset = .ok entry := by
  obtain ⟨side, tracker, tracked, positive, collateral⟩ := distributable
  exact ⟨{ side, positionId := p.positionId, tracker },
    (makeEntry_eq_ok isStablecoin).mpr ⟨tracked, rfl, rfl, positive, collateral⟩⟩

/-- What the accumulation loop keeps: each asset's total is the sum of the quantities
of its entries, every entry is positive, and every asset of the set has an entry. -/
structure Counted (operation : InterestDistributionOperation) : Prop where
  totals : ∀ asset, counterGet operation.totals asset =
    ((operation.entries.filter (·.asset.key = asset.key)).map (·.quantity)).sum
  positive : ∀ entry ∈ operation.entries, 0 < entry.quantity
  assets : ∀ asset ∈ operation.assets, ∃ entry ∈ operation.entries, entry.asset.key = asset.key

/-- The loop starts with nothing counted. -/
theorem counted_empty : Counted { assets := [], entries := [], totals := [] } :=
  ⟨fun _ => rfl, by simp, by simp⟩

/-- Recording a positive entry of its own asset keeps the counts. -/
theorem Counted.addEntry {operation : InterestDistributionOperation} (counted : Counted operation)
    {asset : AssetIdentifier} {entry : InterestDistributionEntry} (positive : 0 < entry.quantity)
    (key : entry.asset.key = asset.key) : Counted (operation.addEntry asset entry) where
  totals other := by
    simp only [InterestDistributionOperation.addEntry, counterGet_counterAdd, counted.totals,
      List.filter_append, List.map_append, List.sum_append, key]
    by_cases same : asset.key = other.key <;> simp [List.filter_cons, key, same]
  positive other member := by
    rcases List.mem_append.mp member with old | added
    · exact counted.positive _ old
    · rw [List.mem_singleton.mp added]
      exact positive
  assets other member := by
    rcases mem_setAdd member with old | rfl
    · obtain ⟨found, present, same⟩ := counted.assets _ old
      exact ⟨found, List.mem_append_left _ present, same⟩
    · exact ⟨entry, List.mem_append_right _ (List.mem_singleton_self _), key⟩

variable {operation operation' : InterestDistributionOperation} {p : TradingPosition}
  {asset : AssetIdentifier}

/-- One pass of the inner loop records the entry of an interest-accruing asset and
skips any other asset. -/
theorem collectAsset_eq_ok :
    collectAsset isStablecoin operation p asset = .ok operation' ↔
      if asset.isInterestAccruing then
        ∃ entry, makeEntry isStablecoin p asset = .ok entry ∧ operation' = operation.addEntry asset entry
      else operation' = operation := by
  unfold collectAsset
  split
  · simp only [except_map_eq_ok, @eq_comm _ operation']
  · simp only [pure, Except.pure, Except.ok.injEq, @eq_comm _ operation']

/-- One pass of the inner loop keeps the counts and appends the entries `makeEntry`
makes for the asset when it accrues interest. -/
theorem collectAsset_step (returned : collectAsset isStablecoin operation p asset = .ok operation') :
    (Counted operation → Counted operation') ∧ ∃ fresh, operation'.entries = operation.entries ++ fresh ∧
      List.Forall₂ (fun entry made => makeEntry isStablecoin p made = .ok entry) fresh
        ([asset].filter (·.isInterestAccruing)) := by
  have step := (collectAsset_eq_ok isStablecoin).mp returned
  split at step
  · obtain ⟨entry, made, rfl⟩ := step
    refine ⟨fun counted => counted.addEntry (((makeEntry_eq_ok isStablecoin).mp made).2.2.2.1)
      (makeEntry_key isStablecoin made), [entry], rfl, ?_⟩
    simp [List.filter_cons, *]
  · subst step
    exact ⟨id, [], by simp, by simp [List.filter_cons, *]⟩

/-- **The accumulation loop.** It keeps the counts, and it appends exactly the entries
`makeEntry` makes for the interest-accruing assets of the positions, in order. -/
theorem collectEntries_eq_ok :
    ∀ {operation operation' : InterestDistributionOperation} {positions : List TradingPosition},
      collectEntries isStablecoin operation positions = .ok operation' →
      (Counted operation → Counted operation') ∧ ∃ fresh,
        operation'.entries = operation.entries ++ fresh ∧
        List.Forall₂ (fun entry (made : TradingPosition × AssetIdentifier) =>
          makeEntry isStablecoin made.1 made.2 = .ok entry) fresh (accruingPairs positions)
  | _, _, [], returned => by
    simp only [collectEntries, pure, Except.pure, Except.ok.injEq] at returned
    subst returned
    exact ⟨id, [], by simp, by simp [accruingPairs]⟩
  | _, _, p :: rest, returned => by
    simp only [collectEntries, except_bind_eq_ok] at returned
    obtain ⟨afterBase, base, afterQuote, quote, remaining⟩ := returned
    obtain ⟨keepsBase, freshBase, entriesBase, madeBase⟩ := collectAsset_step isStablecoin base
    obtain ⟨keepsQuote, freshQuote, entriesQuote, madeQuote⟩ := collectAsset_step isStablecoin quote
    obtain ⟨keepsRest, freshRest, entriesRest, madeRest⟩ := collectEntries_eq_ok remaining
    refine ⟨keepsRest ∘ keepsQuote ∘ keepsBase, freshBase ++ freshQuote ++ freshRest,
      by rw [entriesRest, entriesQuote, entriesBase]; simp, ?_⟩
    have own : List.Forall₂ (fun entry (made : TradingPosition × AssetIdentifier) =>
        makeEntry isStablecoin made.1 made.2 = .ok entry) (freshBase ++ freshQuote)
          ((accruingAssets p).map (p, ·)) := by
      rw [List.forall₂_map_right_iff, accruingAssets, show [p.pair.base, p.pair.quote] =
        [p.pair.base] ++ [p.pair.quote] from rfl, List.filter_append]
      exact List.rel_append madeBase madeQuote
    simpa [accruingPairs] using List.rel_append own madeRest

/-- **The loop returns** when every interest-accruing asset of every position passes
its checks. -/
theorem collectEntries_of_distributable :
    ∀ {operation : InterestDistributionOperation} {positions : List TradingPosition},
      (∀ p ∈ positions, ∀ asset ∈ accruingAssets p, Distributable isStablecoin p asset) →
      ∃ operation', collectEntries isStablecoin operation positions = .ok operation'
  | operation, [], _ => ⟨operation, rfl⟩
  | operation, p :: rest, distributable => by
    have collects : ∀ {operation} {asset}, asset ∈ [p.pair.base, p.pair.quote] →
        ∃ operation', collectAsset isStablecoin operation p asset = .ok operation' := by
      intro operation asset member
      by_cases accruing : asset.isInterestAccruing
      · obtain ⟨entry, made⟩ := makeEntry_of_distributable isStablecoin
          (distributable p (List.mem_cons_self _ _) asset (List.mem_filter.mpr ⟨member, accruing⟩))
        exact ⟨_, (collectAsset_eq_ok isStablecoin).mpr (by simpa [accruing] using ⟨entry, made, rfl⟩)⟩
      · exact ⟨operation, (collectAsset_eq_ok isStablecoin).mpr (by simp [accruing])⟩
    obtain ⟨afterBase, base⟩ : ∃ after, collectAsset isStablecoin operation p p.pair.base = .ok after :=
      collects (by simp)
    obtain ⟨afterQuote, quote⟩ : ∃ after, collectAsset isStablecoin afterBase p p.pair.quote =
        .ok after := collects (by simp)
    obtain ⟨final, remaining⟩ : ∃ final, collectEntries isStablecoin afterQuote rest = .ok final :=
      collectEntries_of_distributable fun q member => distributable q (List.mem_cons_of_mem _ member)
    exact ⟨final, by simp only [collectEntries, base, quote, remaining, ok_bind_except]⟩

/-- The weighting loop returns when no entry's asset has a zero total, and sets each
weight to the entry's share of its asset's total. -/
theorem weighEntries_eq_ok {totals : List (AssetIdentifier × ℚ)} :
    ∀ {entries weighed : List InterestDistributionEntry},
      weighEntries totals entries = .ok weighed ↔
        (∀ entry ∈ entries, counterGet totals entry.asset ≠ 0) ∧
        weighed = entries.map fun entry =>
          { entry with weight := entry.quantity / counterGet totals entry.asset }
  | [], _ => by simp [weighEntries, pure, Except.pure, eq_comm]
  | entry :: rest, weighed => by
    simp only [weighEntries, decimalDiv_except]
    by_cases zero : counterGet totals entry.asset = 0
    · simp [zero]
    · simp only [zero, if_false, ok_bind_except, except_bind_eq_ok, weighEntries_eq_ok, pure,
        Except.pure, Except.ok.injEq, List.forall_mem_cons, List.map_cons]
      constructor
      · rintro ⟨_, ⟨nonzero, rfl⟩, rfl⟩
        exact ⟨⟨zero, nonzero⟩, rfl⟩
      · rintro ⟨⟨-, nonzero⟩, rfl⟩
        exact ⟨_, ⟨nonzero, rfl⟩, rfl⟩

/-- In a counted operation an entry's quantity is at most its asset's total. -/
theorem Counted.quantity_le_total (counted : Counted operation) {entry : InterestDistributionEntry}
    (member : entry ∈ operation.entries) :
    entry.quantity ≤ counterGet operation.totals entry.asset := by
  rw [counted.totals]
  refine List.single_le_sum (fun q counted' => ?_) _
    (List.mem_map_of_mem _ (List.mem_filter.mpr ⟨member, by simp⟩))
  obtain ⟨other, present, rfl⟩ := List.mem_map.mp counted'
  exact (counted.positive _ (List.mem_filter.mp present).1).le

/-- In a counted operation every entry's asset has a positive total. -/
theorem Counted.total_pos (counted : Counted operation) {entry : InterestDistributionEntry}
    (member : entry ∈ operation.entries) : 0 < counterGet operation.totals entry.asset :=
  (counted.positive _ member).trans_le (counted.quantity_le_total member)

/-- The entries of a counted operation, each weighted by its share of its asset's total. -/
def weighted (operation : InterestDistributionOperation) : List InterestDistributionEntry :=
  operation.entries.map fun entry =>
    { entry with weight := entry.quantity / counterGet operation.totals entry.asset }

/-- Every weight lies in `(0, 1]`. -/
theorem Counted.weight_mem (counted : Counted operation) {entry : InterestDistributionEntry}
    (member : entry ∈ weighted operation) : 0 < entry.weight ∧ entry.weight ≤ 1 := by
  obtain ⟨original, present, rfl⟩ := List.mem_map.mp member
  have total := counted.total_pos present
  exact ⟨div_pos (counted.positive _ present) total,
    (div_le_one total).mpr (counted.quantity_le_total present)⟩

/-- The weights of each asset of the set sum to one. -/
theorem Counted.weights_sum (counted : Counted operation) {asset : AssetIdentifier}
    (member : asset ∈ operation.assets) :
    (((weighted operation).filter (·.asset.key = asset.key)).map (·.weight)).sum = 1 := by
  obtain ⟨entry, present, same⟩ := counted.assets asset member
  have total : 0 < counterGet operation.totals asset :=
    counterGet_congr same ▸ counted.total_pos present
  have shares : ((operation.entries.filter (·.asset.key = asset.key)).map fun entry =>
      entry.quantity / counterGet operation.totals entry.asset) =
      (operation.entries.filter (·.asset.key = asset.key)).map fun entry =>
        entry.quantity * (counterGet operation.totals asset)⁻¹ := by
    refine List.map_congr_left fun other kept => ?_
    rw [counterGet_congr (of_decide_eq_true (List.mem_filter.mp kept).2), div_eq_mul_inv]
  calc (((weighted operation).filter (·.asset.key = asset.key)).map (·.weight)).sum
      = ((operation.entries.filter (·.asset.key = asset.key)).map fun entry =>
          entry.quantity / counterGet operation.totals entry.asset).sum := by
        simp only [weighted, List.filter_map, List.map_map, Function.comp_def,
          InterestDistributionEntry.asset]
    _ = counterGet operation.totals asset * (counterGet operation.totals asset)⁻¹ := by
        rw [shares, List.sum_map_mul_right, counted.totals]
    _ = 1 := mul_inv_cancel₀ total.ne'

/-- Whenever `prepare_interest_distribution` returns, it returns the weighted entries of
the accumulation loop. -/
theorem prepareInterestDistribution_eq_ok {portfolio : Portfolio}
    (returned : prepareInterestDistribution isStablecoin portfolio = .ok operation) :
    ∃ collected, collectEntries isStablecoin { assets := [], entries := [], totals := [] }
      portfolio.getOpenAndFrozenPositions = .ok collected ∧
      operation = { collected with entries := weighted collected } := by
  simp only [prepareInterestDistribution, except_bind_eq_ok] at returned
  obtain ⟨collected, collecting, entries, weighing, finished⟩ := returned
  obtain ⟨-, rfl⟩ := weighEntries_eq_ok.mp weighing
  simp only [pure, Except.pure, Except.ok.injEq] at finished
  exact ⟨collected, collecting, finished.symm⟩

/-- **Interest weights are normalised.** When every interest-accruing asset of every open
or frozen position passes the checks, `prepare_interest_distribution` returns one entry
per such position and asset, in order, holding the tracker the position's loan keeps
for the asset; each asset's total is the sum of its entries' quantities; every weight
lies in `(0, 1]`; and the weights of each asset sum to one. -/
theorem prepareInterestDistribution_normalised {portfolio : Portfolio}
    (distributable : ∀ p ∈ portfolio.getOpenAndFrozenPositions, ∀ asset ∈ accruingAssets p,
      Distributable isStablecoin p asset) :
    ∃ operation, prepareInterestDistribution isStablecoin portfolio = .ok operation ∧
      List.Forall₂ (fun entry (made : TradingPosition × AssetIdentifier) =>
          entry.positionId = made.1.positionId ∧
          made.1.loan.bind (·.getTrackedAsset made.2) = some (entry.side, entry.tracker))
        operation.entries (accruingPairs portfolio.getOpenAndFrozenPositions) ∧
      (∀ asset, counterGet operation.totals asset =
        ((operation.entries.filter (·.asset.key = asset.key)).map (·.quantity)).sum) ∧
      (∀ entry ∈ operation.entries, 0 < entry.weight ∧ entry.weight ≤ 1) ∧
      (∀ asset ∈ operation.assets,
        ((operation.entries.filter (·.asset.key = asset.key)).map (·.weight)).sum = 1) := by
  obtain ⟨collected, collecting⟩ := collectEntries_of_distributable isStablecoin distributable
  obtain ⟨keeps, fresh, entries, made⟩ := collectEntries_eq_ok isStablecoin collecting
  have counted := keeps counted_empty
  have weighing : weighEntries collected.totals collected.entries = .ok (weighted collected) :=
    weighEntries_eq_ok.mpr ⟨fun _ member => (counted.total_pos member).ne', rfl⟩
  refine ⟨{ collected with entries := weighted collected }, ?_, ?_, ?_,
    fun _ member => counted.weight_mem member, fun _ member => counted.weights_sum member⟩
  · simp only [prepareInterestDistribution, collecting, weighing, ok_bind_except]
    rfl
  · simp only [weighted, List.forall₂_map_left_iff, entries, List.nil_append]
    refine made.imp fun entry _ madeEntry => ?_
    obtain ⟨tracked, positionId, -⟩ := (makeEntry_eq_ok isStablecoin).mp madeEntry
    exact ⟨positionId, tracked⟩
  · intro asset
    simp only [weighted, List.filter_map, List.map_map, Function.comp_def,
      InterestDistributionEntry.asset, InterestDistributionEntry.quantity]
    exact counted.totals asset

/-- USDC. -/
def usdcToken : Token := { chainId := 1, address := 1, tokenSymbol := "USDC", decimals := 6 }

/-- WETH. -/
def wethToken : Token := { chainId := 1, address := 2, tokenSymbol := "WETH", decimals := 18 }

/-- The aToken of USDC deposits. -/
def aUsdc : AssetIdentifier :=
  { chainId := 1, address := 3, tokenSymbol := "aUSDC", decimals := 6, type := .collateral,
    underlying := some usdcToken }

/-- The aToken of WETH deposits. -/
def aWeth : AssetIdentifier :=
  { chainId := 1, address := 4, tokenSymbol := "aWETH", decimals := 18, type := .collateral,
    underlying := some wethToken }

/-- A stand-in for `is_stablecoin` that knows USDC only. -/
def usdcOnly (token : Token) : Bool := token.tokenSymbol == "USDC"

/-- An open credit supply position of `amount` aTokens, whose interest tracker last saw
the same amount. -/
def creditSupplyPosition (aToken : AssetIdentifier) (amount : ℚ) : TradingPosition :=
  let pair : TradingPairIdentifier :=
    { base := aToken, quote := { toToken := aToken.getPricingAsset }, poolAddress := 0,
      kind := .creditSupply }
  let tracker : AssetWithTrackedValue :=
    { asset := aToken, lastUsdPrice := 1, lastPricingAt := 0, quantity := amount }
  { positionId := 1, pair := pair, openedAt := 0,
    loan := some { pair := pair, collateral := tracker,
                   collateralInterest := Interest.openNew amount 0, borrowed := none,
                   borrowedInterest := none } }

/-- A portfolio whose one position is that credit supply. -/
def creditSupplyPortfolio (aToken : AssetIdentifier) (amount : ℚ) : Portfolio :=
  { openPositions := [creditSupplyPosition aToken amount] }

/-- One aUSDC supply of 100 gets the whole weight. -/
theorem prepareInterestDistribution_normalised_usdcSupply :
    ∃ operation, prepareInterestDistribution usdcOnly (creditSupplyPortfolio aUsdc 100) = .ok operation ∧
      List.Forall₂ (fun entry (made : TradingPosition × AssetIdentifier) =>
          entry.positionId = made.1.positionId ∧
          made.1.loan.bind (·.getTrackedAsset made.2) = some (entry.side, entry.tracker))
        operation.entries (accruingPairs (creditSupplyPortfolio aUsdc 100).getOpenAndFrozenPositions) ∧
      (∀ asset, counterGet operation.totals asset =
        ((operation.entries.filter (·.asset.key = asset.key)).map (·.quantity)).sum) ∧
      (∀ entry ∈ operation.entries, 0 < entry.weight ∧ entry.weight ≤ 1) ∧
      (∀ asset ∈ operation.assets,
        ((operation.entries.filter (·.asset.key = asset.key)).map (·.weight)).sum = 1) :=
  prepareInterestDistribution_normalised usdcOnly fun p member asset accruing => by
    simp only [creditSupplyPortfolio, Portfolio.getOpenAndFrozenPositions, List.append_nil,
      List.mem_singleton] at member
    subst member
    have : asset = aUsdc := by simpa [accruingAssets, creditSupplyPosition, aUsdc,
      AssetIdentifier.isInterestAccruing, AssetIdentifier.getPricingAsset] using accruing
    subst this
    exact ⟨.collateral, _, rfl, by norm_num, fun _ => ⟨rfl, rfl⟩⟩

/-- An aWETH supply, whose every accruing asset has a tracker of positive quantity,
still makes `prepare_interest_distribution` raise: its collateral is not stablecoin
based. -/
theorem prepareInterestDistribution_rejects_aWeth :
    (∀ p ∈ (creditSupplyPortfolio aWeth 1).getOpenAndFrozenPositions, ∀ asset ∈ accruingAssets p,
      ∃ side tracker, p.loan.bind (·.getTrackedAsset asset) = some (side, tracker) ∧
        0 < tracker.quantity) ∧
    prepareInterestDistribution usdcOnly (creditSupplyPortfolio aWeth 1) =
      .error (.assertionError "Asset is collateral but not stablecoin based: ") := by
  refine ⟨fun p member asset accruing => ?_, rfl⟩
  simp only [creditSupplyPortfolio, Portfolio.getOpenAndFrozenPositions, List.append_nil,
    List.mem_singleton] at member
  subst member
  have : asset = aWeth := by simpa [accruingAssets, creditSupplyPosition, aWeth,
    AssetIdentifier.isInterestAccruing, AssetIdentifier.getPricingAsset] using accruing
  subst this
  exact ⟨.collateral, _, rfl, by norm_num⟩

end TradeExecutor
