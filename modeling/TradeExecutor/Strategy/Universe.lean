import TradeExecutor.State.Exec
import Mathlib.Data.Rat.Floor

/-! # Pair universe rows and their fees

`create_pair_universe_from_code` writes each handcrafted pair into a `DEXPair` row,
with the pair's fee multiplier as whole BPS, `int(fee * 10_000)`.
`translate_trading_pair` reads a row back: a fee above 1 is taken for BPS and divided
by 10 000, any other fee for a multiplier already, and a nonzero multiplier must lie
between 0.0001 and 0.01. Every written pair reads back from its row with its tokens,
pool and internal id, and a row fee of 2 to 100 BPS comes back as that many BPS
(`TradeExecutor.createPairUniverseFromCode_roundTrip`). A fee below 0.0002 is written
as 1 BPS, which reads back as a multiplier of 1 and fails the range assertion
(`TradeExecutor.createPairUniverseFromCode_oneBps_rejected`).

Fees are exact rationals here, where the source multiplies Python floats: the results
on the written BPS hold in that frame, and the round trip is stated on what the row
holds, which the float rounding of `int(fee * 10_000)` does not enter.
-/

namespace TradeExecutor

/-- Python's `int()` of a number, which truncates toward zero. -/
def pyInt (x : ℚ) : Int := if 0 ≤ x then ⌊x⌋ else ⌈x⌉

/-- A `DEXPair` row of a pair universe, with the columns the modelled code writes or
reads. `fee` is the pool fee as the row holds it, absent for a missing or NaN fee. -/
structure DEXPair where
  pairId : Nat
  chainId : Nat
  exchangeId : Nat
  address : Nat
  baseTokenAddress : Nat
  baseTokenSymbol : String
  baseTokenDecimals : Option Nat
  quoteTokenAddress : Nat
  quoteTokenSymbol : String
  quoteTokenDecimals : Option Nat
  fee : Option ℚ
  deriving DecidableEq, Repr

/-- The fee column `create_pair_universe_from_code` writes,
`int(p.fee * 10_000) if p.fee else None`. -/
def bpsOfFee : Option ℚ → Option ℚ
  | some fee => if fee ≠ 0 then some (pyInt (fee * 10000)) else none
  | none => none

/-- The row `create_pair_universe_from_code` builds for a pair on chain `chainId`, with
the base as token0 and the quote as token1. -/
def dexPairOf (chainId : Nat) (p : TradingPairIdentifier) : DEXPair where
  pairId := p.internalId.getD 0
  chainId := chainId
  exchangeId := p.internalExchangeId.getD 0
  address := p.poolAddress
  baseTokenAddress := p.base.address
  baseTokenSymbol := p.base.tokenSymbol
  baseTokenDecimals := some p.base.decimals
  quoteTokenAddress := p.quote.address
  quoteTokenSymbol := p.quote.tokenSymbol
  quoteTokenDecimals := some p.quote.decimals
  fee := bpsOfFee p.fee

/-- Python's truth value of an optional id: set and nonzero. -/
def truthy (id : Option Nat) : Bool := id.any (· ≠ 0)

theorem exists_of_truthy {id : Option Nat} (set : truthy id = true) : ∃ n, id = some n := by
  cases id with
  | none => exact absurd set (by decide)
  | some n => exact ⟨n, rfl⟩

/-- The loop of `create_pair_universe_from_code` over the pairs not yet written, with the
internal ids used so far. -/
def createPairRows (chainId : Nat) (usedIds : List Nat) :
    List TradingPairIdentifier → Except Error (List DEXPair)
  | [] => pure []
  | p :: rest => do
    pyAssert (p.base.decimals ≠ 0) ""
    pyAssert (p.quote.decimals ≠ 0) ""
    pyAssert (truthy p.internalExchangeId)
      "All trading pairs must have internal_exchange_id set, did not have it set "
    pyAssert (truthy p.internalId) ""
    pyAssert (p.internalId.getD 0 ∉ usedIds) "Duplicate internal id "
    let rows ← createPairRows chainId (p.internalId.getD 0 :: usedIds) rest
    return dexPairOf chainId p :: rows

/-- `create_pair_universe_from_code`: the rows of the pair universe, one per pair. -/
def createPairUniverseFromCode (chainId : Nat) (pairs : List TradingPairIdentifier) :
    Except Error (List DEXPair) :=
  createPairRows chainId [] pairs

/-- The fee conversion of `translate_trading_pair`: a fee above 1 is BPS and is divided by
10 000, any other is a multiplier already, and a nonzero multiplier must lie between
0.0001 and 0.01. -/
def multiplierOfFee : Option ℚ → Except Error (Option ℚ)
  | none => pure none
  | some bps => do
    let fee := if bps > 1 then bps / 10000 else bps
    if fee ≠ 0 then
      pyAssert (1 / 10000 ≤ fee ∧ fee ≤ 1 / 100) "bug in converting fee to multiplier, make sure bps"
    return some fee

/-- `translate_trading_pair`, for the fields of a trading pair the model keeps. -/
def translateTradingPair (pair : DEXPair) : Except Error TradingPairIdentifier := do
  pyAssert pair.baseTokenDecimals.isSome "Base token missing decimals: "
  pyAssert pair.quoteTokenDecimals.isSome "Quote token missing decimals: "
  let base : AssetIdentifier :=
    { chainId := pair.chainId
      address := pair.baseTokenAddress
      tokenSymbol := pair.baseTokenSymbol
      decimals := pair.baseTokenDecimals.getD 0 }
  let quote : AssetIdentifier :=
    { chainId := pair.chainId
      address := pair.quoteTokenAddress
      tokenSymbol := pair.quoteTokenSymbol
      decimals := pair.quoteTokenDecimals.getD 0 }
  let fee ← multiplierOfFee pair.fee
  return { base, quote, poolAddress := pair.address, internalId := some pair.pairId, fee }

/-! ## The rows written -/

section Rows

variable {chainId : Nat} {pairs : List TradingPairIdentifier} {rows : List DEXPair}

/-- What the loop asserts of every pair it writes: token decimals, a set internal
exchange id and a set internal id, not used before. -/
theorem createPairRows_eq_ok {usedIds : List Nat} (created : createPairRows chainId usedIds pairs = .ok rows) :
    rows = pairs.map (dexPairOf chainId) ∧ ∀ p ∈ pairs, truthy p.internalId = true := by
  induction pairs generalizing usedIds rows with
  | nil =>
    cases created
    exact ⟨rfl, fun _ member => absurd member (List.not_mem_nil _)⟩
  | cons p rest ih =>
    simp only [createPairRows, pyAssert_bind_eq_ok_except] at created
    simp only [except_bind_eq_ok, pure_eq_ok_except] at created
    obtain ⟨-, -, -, set, -, later, more, rfl⟩ := created
    obtain ⟨rfl, sets⟩ := ih more
    exact ⟨rfl, List.forall_mem_cons.mpr ⟨set, sets⟩⟩

/-- `create_pair_universe_from_code` writes one row per pair, in order. -/
theorem createPairUniverseFromCode_eq_ok (created : createPairUniverseFromCode chainId pairs = .ok rows) :
    rows = pairs.map (dexPairOf chainId) ∧ ∀ p ∈ pairs, truthy p.internalId = true :=
  createPairRows_eq_ok created

end Rows

/-! ## Fees -/

theorem pyInt_of_nonneg {x : ℚ} (nonneg : 0 ≤ x) : pyInt x = ⌊x⌋ := if_pos nonneg

/-- A fee multiplier of at least 0.0001 is written as its whole BPS. -/
theorem bpsOfFee_of_le {fee : ℚ} (low : 1 / 10000 ≤ fee) :
    bpsOfFee (some fee) = some (⌊fee * 10000⌋ : ℚ) := by
  rw [bpsOfFee, if_pos (by linarith only [low] : (0 : ℚ) < fee).ne', pyInt_of_nonneg (by linarith only [low])]

/-- A row fee of 2 to 100 BPS reads back as its multiplier. -/
theorem multiplierOfFee_of_bps {bps : ℚ} (low : 2 ≤ bps) (high : bps ≤ 100) :
    multiplierOfFee (some bps) = .ok (some (bps / 10000)) := by
  have inRange : 1 / 10000 ≤ bps / 10000 ∧ bps / 10000 ≤ 1 / 100 :=
    ⟨by linarith only [low], by linarith only [high]⟩
  dsimp only [multiplierOfFee, pyAssert]
  rw [if_pos (by linarith only [low] : bps > 1), if_pos (by positivity : bps / 10000 ≠ 0), if_pos inRange]
  rfl

/-- A row fee of 1 reads back as a multiplier of 1, outside the assertion's range. -/
theorem multiplierOfFee_one :
    multiplierOfFee (some 1) =
      .error (.assertionError "bug in converting fee to multiplier, make sure bps") := by
  unfold multiplierOfFee pyAssert
  norm_num
  rfl

section Rows

variable {chainId : Nat} {pairs : List TradingPairIdentifier} {rows : List DEXPair}
  {p : TradingPairIdentifier}

/-- The tokens, pool and internal id of a written pair read back unchanged, with the
row's fee converted. -/
theorem translateTradingPair_dexPairOf {id : Nat} (identified : p.internalId = some id)
    {fee : Option ℚ} (converted : multiplierOfFee (bpsOfFee p.fee) = .ok fee) :
    translateTradingPair (dexPairOf chainId p) = .ok
      { base :=
          { chainId := chainId
            address := p.base.address
            tokenSymbol := p.base.tokenSymbol
            decimals := p.base.decimals }
        quote :=
          { chainId := chainId
            address := p.quote.address
            tokenSymbol := p.quote.tokenSymbol
            decimals := p.quote.decimals }
        poolAddress := p.poolAddress
        internalId := p.internalId
        fee := fee } := by
  simp only [translateTradingPair, dexPairOf, Option.isSome_some, pyAssert_bind_except, ↓reduceIte,
    converted, ok_bind_except, Option.getD_some, identified]
  rfl

/-- **Round trip of a pair universe.** Every pair that `create_pair_universe_from_code`
writes has its row in the universe, and `translate_trading_pair` reads that row back
with the pair's tokens on the universe's chain, its pool and its internal id, whenever
the row holds no fee or a fee of 2 to 100 BPS; the fee comes back as that many BPS, as
a multiplier. -/
theorem createPairUniverseFromCode_roundTrip
    (created : createPairUniverseFromCode chainId pairs = .ok rows) (member : p ∈ pairs)
    (inRange : ∀ bps, (dexPairOf chainId p).fee = some bps → 2 ≤ bps ∧ bps ≤ 100) :
    dexPairOf chainId p ∈ rows ∧ translateTradingPair (dexPairOf chainId p) = .ok
      { base :=
          { chainId := chainId
            address := p.base.address
            tokenSymbol := p.base.tokenSymbol
            decimals := p.base.decimals }
        quote :=
          { chainId := chainId
            address := p.quote.address
            tokenSymbol := p.quote.tokenSymbol
            decimals := p.quote.decimals }
        poolAddress := p.poolAddress
        internalId := p.internalId
        fee := (dexPairOf chainId p).fee.map (· / 10000) } := by
  obtain ⟨rfl, sets⟩ := createPairUniverseFromCode_eq_ok created
  obtain ⟨id, identified⟩ := exists_of_truthy (sets p member)
  refine ⟨List.mem_map_of_mem _ member, translateTradingPair_dexPairOf identified ?_⟩
  show multiplierOfFee (dexPairOf chainId p).fee = .ok ((dexPairOf chainId p).fee.map (· / 10000))
  cases feeOf : (dexPairOf chainId p).fee with
  | none => rfl
  | some bps =>
    obtain ⟨low, high⟩ := inRange bps feeOf
    exact multiplierOfFee_of_bps low high

/-- **A fee below 0.0002 does not come back.** A pair that
`create_pair_universe_from_code` writes with a fee of at least 0.0001 and below 0.0002 gets
a row with a fee of 1 BPS, which `translate_trading_pair` reads as a multiplier of 1 and
rejects. -/
theorem createPairUniverseFromCode_oneBps_rejected
    (created : createPairUniverseFromCode chainId pairs = .ok rows) (member : p ∈ pairs) {fee : ℚ}
    (feeOf : p.fee = some fee) (low : 1 / 10000 ≤ fee) (high : fee < 2 / 10000) :
    ∃ row ∈ rows, row.fee = some 1 ∧
      translateTradingPair row = .error (.assertionError "bug in converting fee to multiplier, make sure bps") := by
  obtain ⟨rfl, -⟩ := createPairUniverseFromCode_eq_ok created
  have oneBps : bpsOfFee p.fee = some 1 := by
    have one : ⌊fee * 10000⌋ = 1 := Int.floor_eq_iff.mpr ⟨by push_cast; linarith only [low],
      by push_cast; linarith only [high]⟩
    rw [feeOf, bpsOfFee_of_le low, one]
    rfl
  refine ⟨dexPairOf chainId p, List.mem_map_of_mem _ member, oneBps, ?_⟩
  simp only [translateTradingPair, dexPairOf, Option.isSome_some, pyAssert_bind_except, ↓reduceIte,
    oneBps, multiplierOfFee_one, error_bind_except]

/-- A WETH/USDC pair with a fee of 1.5 BPS. -/
def wethUsdcAtOneAndAHalfBps : TradingPairIdentifier where
  base := { chainId := 1, address := 2, tokenSymbol := "WETH", decimals := 18 }
  quote := { chainId := 1, address := 1, tokenSymbol := "USDC", decimals := 6 }
  poolAddress := 3
  internalId := some 1
  internalExchangeId := some 1
  fee := some (3 / 20000)

/-- The 1.5 BPS pair is written with a fee of 1 BPS and its row is rejected. -/
theorem createPairUniverseFromCode_oneBps_rejected_wethUsdc :
    createPairUniverseFromCode 1 [wethUsdcAtOneAndAHalfBps] = .ok [dexPairOf 1 wethUsdcAtOneAndAHalfBps] ∧
      (1 / 10000 : ℚ) ≤ 3 / 20000 ∧ (3 / 20000 : ℚ) < 2 / 10000 ∧
      ∃ row ∈ [dexPairOf 1 wethUsdcAtOneAndAHalfBps], row.fee = some 1 ∧
        translateTradingPair row =
          .error (.assertionError "bug in converting fee to multiplier, make sure bps") := by
  have created : createPairUniverseFromCode 1 [wethUsdcAtOneAndAHalfBps] =
      .ok [dexPairOf 1 wethUsdcAtOneAndAHalfBps] := rfl
  have low : (1 / 10000 : ℚ) ≤ 3 / 20000 := by norm_num
  have high : (3 / 20000 : ℚ) < 2 / 10000 := by norm_num
  exact ⟨created, low, high,
    createPairUniverseFromCode_oneBps_rejected created (List.mem_singleton_self _) rfl low high⟩

/-- A WETH/USDC pair with a fee of 30 BPS. -/
def wethUsdcAtThirtyBps : TradingPairIdentifier :=
  { wethUsdcAtOneAndAHalfBps with fee := some (3 / 1000) }

/-- The 30 BPS pair reads back with its fee of 30 BPS. -/
theorem createPairUniverseFromCode_roundTrip_wethUsdc :
    createPairUniverseFromCode 1 [wethUsdcAtThirtyBps] = .ok [dexPairOf 1 wethUsdcAtThirtyBps] ∧
      (∀ bps, (dexPairOf 1 wethUsdcAtThirtyBps).fee = some bps → 2 ≤ bps ∧ bps ≤ 100) ∧
      dexPairOf 1 wethUsdcAtThirtyBps ∈ [dexPairOf 1 wethUsdcAtThirtyBps] ∧
      translateTradingPair (dexPairOf 1 wethUsdcAtThirtyBps) = .ok
        { base := { chainId := 1, address := 2, tokenSymbol := "WETH", decimals := 18 }
          quote := { chainId := 1, address := 1, tokenSymbol := "USDC", decimals := 6 }
          poolAddress := 3
          internalId := some 1
          fee := (dexPairOf 1 wethUsdcAtThirtyBps).fee.map (· / 10000) } := by
  have created : createPairUniverseFromCode 1 [wethUsdcAtThirtyBps] =
      .ok [dexPairOf 1 wethUsdcAtThirtyBps] := rfl
  have inRange : ∀ bps, (dexPairOf 1 wethUsdcAtThirtyBps).fee = some bps → 2 ≤ bps ∧ bps ≤ 100 := by
    intro bps feeOf
    rw [dexPairOf, wethUsdcAtThirtyBps, bpsOfFee_of_le (by norm_num)] at feeOf
    cases feeOf
    norm_num
  exact ⟨created, inRange, createPairUniverseFromCode_roundTrip created (List.mem_singleton_self _) inRange⟩

end Rows

end TradeExecutor
