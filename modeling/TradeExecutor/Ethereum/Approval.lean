import TradeExecutor.State.Keyed
import TradeExecutor.State.Trade
import TradeExecutor.Strategy.Universe

/-! # Batched token approvals

Before a batch of swaps, `approve_tokens` (and `approve_infinity`, whose body is the
same) sums in a `Counter`, per token, what the batch's trades will spend: the quote
token's `int(planned_reserve * 10**decimals)` for a buy, the base token's
`int(-planned_quantity * 10**decimals)` for a sell. It then signs one approval per
counter entry with the hot wallet's next nonce, asserting first that the amount is
positive.

These are exactly the amounts `translate_to_naive_swap` puts at the head of each swap
(`TradeExecutor.approvalsGet_countApprovals`). When the builder returns, every token a
swap spends is approved once, for the sum of those swaps' `amount0_in`. It returns only
when every such sum is positive. Otherwise it raises its assertion, and the batch gets
no approvals at all (`TradeExecutor.approveTokens_coversSwaps`).
-/

namespace TradeExecutor

/-- Modelled from the spec: the token data `fetch_erc20_details` returns. -/
structure TokenDetails where
  address : Nat
  decimals : Nat
  deriving DecidableEq

/-- The swap `translate_to_naive_swap` builds for a trade: the amount it spends, its
path, and what it records as `reserve_currency_allocated`. -/
structure NaiveSwap where
  amount0In : Int
  path : List Nat
  reserveCurrencyAllocated : ℚ

/-- `translate_to_naive_swap`: a buy spends its planned reserve in quote tokens, a sell
its planned quantity in base tokens, each in the token's smallest unit. -/
def translateToNaiveSwap (baseTokenDetails quoteTokenDetails : TokenDetails) (t : TradeExecution) :
    NaiveSwap :=
  if t.isBuy then
    { amount0In := pyInt (t.plannedReserve * 10 ^ quoteTokenDetails.decimals)
      path := [quoteTokenDetails.address, baseTokenDetails.address]
      reserveCurrencyAllocated := t.plannedReserve }
  else
    { amount0In := pyInt (-t.plannedQuantity * 10 ^ baseTokenDetails.decimals)
      path := [baseTokenDetails.address, quoteTokenDetails.address]
      reserveCurrencyAllocated := 0 }

/-- Modelled from the spec: the hot wallet, with the nonce its next transaction gets. -/
structure HotWallet where
  address : Nat
  currentNonce : Nat

/-- The `approve(router, amount)` call on a token, as `build_transaction` fills it in. -/
structure ApprovalTx where
  token : Nat
  spender : Nat
  amount : Int
  chainId : Nat
  gas : Nat
  sender : Nat
  deriving DecidableEq

/-- Modelled from the spec: a transaction signed with the hot wallet's next nonce. -/
structure SignedApproval where
  tx : ApprovalTx
  nonce : Nat
  deriving DecidableEq

/-- Modelled from the spec: `sign_transaction_with_new_nonce` takes the wallet's
current nonce and moves it on by one. -/
def signTransactionWithNewNonce (tx : ApprovalTx) : Exec HotWallet SignedApproval := do
  let w ← get
  set { w with currentNonce := w.currentNonce + 1 }
  return { tx := tx, nonce := w.currentNonce }

/-- `approvals[k]` on the `Counter`: zero for a missing key. -/
def approvalsGet (counter : List (Nat × Int)) (k : Nat) : Int :=
  ((counter.find? (fun e => e.1 = k)).map (·.2)).getD 0

/-- `approvals[k] += v` on the `Counter`. -/
def approvalsAdd (counter : List (Nat × Int)) (k : Nat) (v : Int) : List (Nat × Int) :=
  dictSet counter k (approvalsGet counter k + v)

section Approvals

-- What `fetch_erc20_details` returns for each token address, the chain, and the router.
variable (fetchErc20Details : Nat → TokenDetails) (chainId routerAddress : Nat)

/-- The first loop of `approve_tokens`: add each trade's spend to the counter. -/
def countApprovals (approvals : List (Nat × Int)) : List TradeExecution → List (Nat × Int)
  | [] => approvals
  | t :: rest =>
    let baseTokenDetails := fetchErc20Details t.pair.base.address
    let quoteTokenDetails := fetchErc20Details t.pair.quote.address
    countApprovals
      (if t.isBuy then
        approvalsAdd approvals quoteTokenDetails.address
          (pyInt (t.plannedReserve * 10 ^ quoteTokenDetails.decimals))
      else
        approvalsAdd approvals baseTokenDetails.address
          (pyInt (-t.plannedQuantity * 10 ^ baseTokenDetails.decimals)))
      rest

/-- `token.functions.approve(router, amount).build_transaction(...)`. -/
def buildApproval (sender tokenAddress : Nat) (amount : Int) : ApprovalTx :=
  { token := tokenAddress
    spender := routerAddress
    amount := amount
    chainId := chainId
    gas := 100000
    sender := sender }

/-- The second loop of `approve_tokens`: sign one approval per counter entry. -/
def signApprovals : List (Nat × Int) → Exec HotWallet (List SignedApproval)
  | [] => pure []
  | (tokenAddress, amount) :: rest => do
    pyAssert (amount > 0) "Got a non-positive approval "
    let w ← get
    let tx ← signTransactionWithNewNonce (buildApproval chainId routerAddress w.address tokenAddress amount)
    let signed ← signApprovals rest
    return tx :: signed

/-- The body `approve_tokens` and `approve_infinity` share. -/
def approveBatch (instructions : List TradeExecution) : Exec HotWallet (List SignedApproval) :=
  signApprovals chainId routerAddress (countApprovals fetchErc20Details [] instructions)

/-- `approve_tokens`. -/
def approveTokens (instructions : List TradeExecution) : Exec HotWallet (List SignedApproval) :=
  approveBatch fetchErc20Details chainId routerAddress instructions

/-- `approve_infinity`: despite its name, the same finite approvals as `approve_tokens`. -/
def approveInfinity (instructions : List TradeExecution) : Exec HotWallet (List SignedApproval) :=
  approveBatch fetchErc20Details chainId routerAddress instructions

/-- The swap a trade of the batch is translated to, with the token data as fetched. -/
def swapOf (t : TradeExecution) : NaiveSwap :=
  translateToNaiveSwap (fetchErc20Details t.pair.base.address)
    (fetchErc20Details t.pair.quote.address) t

/-- The token a trade's swap spends: the head of its path. -/
def swapInput (t : TradeExecution) : Option Nat := (swapOf fetchErc20Details t).path.head?

/-- What the batch's swaps starting at `token` spend together. -/
def swappedIn (instructions : List TradeExecution) (token : Nat) : Int :=
  ((instructions.filter fun t => swapInput fetchErc20Details t = some token).map
    fun t => (swapOf fetchErc20Details t).amount0In).sum

/-! ## The counter -/

theorem keys_approvalsAdd (counter : List (Nat × Int)) (k : Nat) (v : Int) :
    (approvalsAdd counter k v).map Prod.fst =
      if k ∈ counter.map Prod.fst then counter.map Prod.fst else counter.map Prod.fst ++ [k] :=
  keys_dictSet _ _ _

theorem approvalsGet_approvalsAdd (counter : List (Nat × Int)) (k : Nat) (v : Int) (k' : Nat) :
    approvalsGet (approvalsAdd counter k v) k' = approvalsGet counter k' + if k = k' then v else 0 := by
  by_cases same : k = k'
  · subst same
    simp [approvalsGet, approvalsAdd, find?_dictSet]
  · simp [approvalsGet, approvalsAdd, find?_dictSet, same]

/-- In a counter with distinct keys, an entry is what a lookup of its key reads. -/
theorem approvalsGet_of_mem {counter : List (Nat × Int)} (distinct : (counter.map Prod.fst).Nodup)
    {e : Nat × Int} (member : e ∈ counter) : approvalsGet counter e.1 = e.2 := by
  simp [approvalsGet, find?_key_of_mem distinct member]

/-- Every trade's swap starts at some token. -/
theorem swapInput_isSome (t : TradeExecution) : ∃ token, swapInput fetchErc20Details t = some token := by
  unfold swapInput swapOf translateToNaiveSwap
  split <;> exact ⟨_, rfl⟩

/-- Each trade adds to the counter what its swap spends, under the token its swap starts
at. -/
theorem countApprovals_cons {t : TradeExecution} {token : Nat}
    (input : swapInput fetchErc20Details t = some token) (approvals : List (Nat × Int))
    (rest : List TradeExecution) :
    countApprovals fetchErc20Details approvals (t :: rest) =
      countApprovals fetchErc20Details
        (approvalsAdd approvals token (swapOf fetchErc20Details t).amount0In) rest := by
  by_cases buy : t.isBuy <;>
    simp only [swapInput, swapOf, translateToNaiveSwap, buy, List.head?_cons, Option.some.injEq,
      if_true, if_false, Bool.false_eq_true] at input ⊢ <;>
    subst input <;> simp only [countApprovals, buy, if_true, if_false, Bool.false_eq_true]

theorem swappedIn_cons (t : TradeExecution) (rest : List TradeExecution) (token : Nat) :
    swappedIn fetchErc20Details (t :: rest) token =
      (if swapInput fetchErc20Details t = some token then (swapOf fetchErc20Details t).amount0In
        else 0) + swappedIn fetchErc20Details rest token := by
  by_cases starts : swapInput fetchErc20Details t = some token <;>
    simp [swappedIn, List.filter_cons, starts]

/-- The counter keeps its keys distinct. -/
theorem keys_countApprovals_nodup :
    ∀ {approvals : List (Nat × Int)} (instructions : List TradeExecution),
      (approvals.map Prod.fst).Nodup →
      ((countApprovals fetchErc20Details approvals instructions).map Prod.fst).Nodup
  | _, [], distinct => distinct
  | approvals, t :: rest, distinct => by
    obtain ⟨token, input⟩ := swapInput_isSome fetchErc20Details t
    rw [countApprovals_cons fetchErc20Details input]
    refine keys_countApprovals_nodup rest ?_
    rw [keys_approvalsAdd]
    split_ifs with present
    · exact distinct
    · exact distinct.append (List.nodup_singleton _) (List.disjoint_singleton.mpr present)

/-- The counter's keys are the tokens it started with and those the swaps start at. -/
theorem mem_keys_countApprovals {token : Nat} :
    ∀ {approvals : List (Nat × Int)} (instructions : List TradeExecution),
      token ∈ (countApprovals fetchErc20Details approvals instructions).map Prod.fst ↔
        token ∈ approvals.map Prod.fst ∨ ∃ t ∈ instructions, swapInput fetchErc20Details t = some token
  | _, [] => by simp [countApprovals]
  | approvals, t :: rest => by
    obtain ⟨input, starts⟩ := swapInput_isSome fetchErc20Details t
    rw [countApprovals_cons fetchErc20Details starts, mem_keys_countApprovals rest, keys_approvalsAdd]
    simp only [List.mem_cons, or_and_right, exists_or, exists_eq_left, starts, Option.some.injEq]
    split_ifs with present
    · constructor
      · rintro (old | later)
        exacts [.inl old, .inr (.inr later)]
      · rintro (old | rfl | later)
        exacts [.inl old, .inl present, .inr later]
    · rw [List.mem_append, List.mem_singleton]
      constructor
      · rintro ((old | rfl) | later)
        exacts [.inl old, .inr (.inl rfl), .inr (.inr later)]
      · rintro (old | rfl | later)
        exacts [.inl (.inl old), .inl (.inr rfl), .inr later]

/-- **The counter sums the swaps.** After the loop, the counter reads for each token
what it read before plus what the batch's swaps starting at that token spend. -/
theorem approvalsGet_countApprovals (token : Nat) :
    ∀ (approvals : List (Nat × Int)) (instructions : List TradeExecution),
      approvalsGet (countApprovals fetchErc20Details approvals instructions) token =
        approvalsGet approvals token + swappedIn fetchErc20Details instructions token
  | _, [] => by simp [countApprovals, swappedIn]
  | approvals, t :: rest => by
    obtain ⟨input, starts⟩ := swapInput_isSome fetchErc20Details t
    rw [countApprovals_cons fetchErc20Details starts, approvalsGet_countApprovals token,
      approvalsGet_approvalsAdd, swappedIn_cons, starts, add_assoc]
    simp only [Option.some.injEq]

/-- An entry of the batch's counter holds what the swaps starting at its token spend. -/
theorem countApprovals_entry {instructions : List TradeExecution} {e : Nat × Int}
    (member : e ∈ countApprovals fetchErc20Details [] instructions) :
    e.2 = swappedIn fetchErc20Details instructions e.1 := by
  rw [← approvalsGet_of_mem (@keys_countApprovals_nodup fetchErc20Details [] instructions List.nodup_nil)
    member, approvalsGet_countApprovals]
  simp [approvalsGet]

/-! ## Signing -/

@[simp] theorem signTransactionWithNewNonce_bind {α : Type} (tx : ApprovalTx)
    (f : SignedApproval → Exec HotWallet α) (w : HotWallet) :
    (signTransactionWithNewNonce tx >>= f) w =
      f { tx := tx, nonce := w.currentNonce } { w with currentNonce := w.currentNonce + 1 } :=
  rfl

/-- With every amount positive, the signing loop signs one approval per entry, with
consecutive nonces from the wallet's current one. -/
theorem signApprovals_of_pos :
    ∀ {entries : List (Nat × Int)} (w : HotWallet), (∀ e ∈ entries, 0 < e.2) →
      ∃ signed, signApprovals chainId routerAddress entries w =
          .ok signed { w with currentNonce := w.currentNonce + entries.length } ∧
        signed.map (·.tx) = entries.map (fun e => buildApproval chainId routerAddress w.address e.1 e.2) ∧
        signed.map (·.nonce) = List.range' w.currentNonce entries.length
  | [], _, _ => ⟨[], rfl, rfl, rfl⟩
  | (token, amount) :: rest, w, positive => by
    have pos : amount > 0 := positive _ (List.mem_cons_self _ _)
    obtain ⟨signed, run, txs, nonces⟩ := signApprovals_of_pos { w with currentNonce := w.currentNonce + 1 }
      fun e member => positive e (List.mem_cons_of_mem _ member)
    refine ⟨{ tx := buildApproval chainId routerAddress w.address token amount, nonce := w.currentNonce } ::
      signed, ?_, by rw [List.map_cons, txs, List.map_cons], ?_⟩
    · simp only [signApprovals, pyAssert_bind, pos, if_true, get_bind, signTransactionWithNewNonce_bind,
        bind_of_ok run, List.length_cons, Nat.add_right_comm _ 1, Nat.add_assoc]
      rfl
    · rw [List.map_cons, nonces, List.length_cons, List.range'_succ]

/-- With some amount not positive, the signing loop raises its assertion. -/
theorem signApprovals_of_nonPositive :
    ∀ {entries : List (Nat × Int)} (w : HotWallet), (∃ e ∈ entries, e.2 ≤ 0) →
      ∃ w', signApprovals chainId routerAddress entries w =
        .error (.assertionError "Got a non-positive approval ") w'
  | [], _, ⟨_, member, _⟩ => absurd member (List.not_mem_nil _)
  | (token, amount) :: rest, w, ⟨e, member, nonPositive⟩ => by
    simp only [signApprovals, pyAssert_bind, get_bind, signTransactionWithNewNonce_bind]
    split_ifs with pos
    · rcases List.mem_cons.mp member with rfl | later
      · exact absurd pos (not_lt.mpr nonPositive)
      · obtain ⟨w', run⟩ := signApprovals_of_nonPositive { w with currentNonce := w.currentNonce + 1 }
          ⟨e, later, nonPositive⟩
        exact ⟨w', bind_of_error run⟩
    · exact ⟨w, rfl⟩

/-! ## The batch's approvals -/

/-- What the approvals signed for a batch should be: one per token that some swap of the
batch spends, for what those swaps spend together, all for the router, with
consecutive nonces from the wallet's current one. -/
structure ApprovesSwaps (instructions : List TradeExecution) (w : HotWallet)
    (signed : List SignedApproval) : Prop where
  oneEach : (signed.map (·.tx.token)).Nodup
  covers : ∀ token, token ∈ signed.map (·.tx.token) ↔
    ∃ t ∈ instructions, swapInput fetchErc20Details t = some token
  amounts : ∀ a ∈ signed, a.tx.amount = swappedIn fetchErc20Details instructions a.tx.token
  spender : ∀ a ∈ signed, a.tx.spender = routerAddress
  nonces : signed.map (·.nonce) = List.range' w.currentNonce signed.length

/-- What an approval builder does with a batch. It returns exactly when every token some
swap spends has a positive total, and it then signs the approvals `ApprovesSwaps`
describes. Otherwise it raises the non-positive approval assertion. -/
structure CoversSwaps (approve : List TradeExecution → Exec HotWallet (List SignedApproval)) :
    Prop where
  approves : ∀ instructions w signed w', approve instructions w = .ok signed w' →
    ApprovesSwaps fetchErc20Details routerAddress instructions w signed
  returns : ∀ instructions w, (∃ signed w', approve instructions w = .ok signed w') ↔
    ∀ t ∈ instructions, ∀ token, swapInput fetchErc20Details t = some token →
      0 < swappedIn fetchErc20Details instructions token
  raises : ∀ instructions w e w', approve instructions w = .error e w' →
    e = .assertionError "Got a non-positive approval "

/-- Every entry of the batch's counter is positive exactly when every token some swap
spends has a positive total. -/
theorem countApprovals_pos_iff (instructions : List TradeExecution) :
    (∀ e ∈ countApprovals fetchErc20Details [] instructions, 0 < e.2) ↔
      ∀ t ∈ instructions, ∀ token, swapInput fetchErc20Details t = some token →
        0 < swappedIn fetchErc20Details instructions token := by
  constructor
  · intro positive t member token starts
    obtain ⟨e, entry, rfl⟩ := List.mem_map.mp
      ((mem_keys_countApprovals fetchErc20Details instructions).mpr (.inr ⟨t, member, starts⟩))
    exact countApprovals_entry fetchErc20Details entry ▸ positive e entry
  · intro positive e entry
    obtain ⟨t, member, starts⟩ := ((mem_keys_countApprovals fetchErc20Details instructions).mp
      (List.mem_map_of_mem _ entry)).resolve_left (List.not_mem_nil _)
    exact countApprovals_entry fetchErc20Details entry ▸ positive t member _ starts

/-- The batch's approvals are signed exactly when every counter entry is positive. -/
theorem approveBatch_returns_iff (instructions : List TradeExecution) (w : HotWallet) :
    (∃ signed w', approveBatch fetchErc20Details chainId routerAddress instructions w = .ok signed w') ↔
      ∀ e ∈ countApprovals fetchErc20Details [] instructions, 0 < e.2 := by
  refine ⟨fun ⟨signed, w', returned⟩ => ?_, fun positive => ?_⟩
  · by_contra nonPositive
    push_neg at nonPositive
    obtain ⟨_, raised⟩ := signApprovals_of_nonPositive chainId routerAddress w nonPositive
    rw [approveBatch, raised] at returned
    cases returned
  · obtain ⟨signed, run, -⟩ := signApprovals_of_pos chainId routerAddress w positive
    exact ⟨signed, _, run⟩

theorem approveBatch_coversSwaps :
    CoversSwaps fetchErc20Details routerAddress (approveBatch fetchErc20Details chainId routerAddress) where
  approves instructions w signed w' returned := by
    have positive := (approveBatch_returns_iff fetchErc20Details chainId routerAddress instructions w).mp
      ⟨signed, w', returned⟩
    obtain ⟨signed', run, txs, nonces⟩ := signApprovals_of_pos chainId routerAddress w positive
    rw [approveBatch, run] at returned
    obtain ⟨rfl, -⟩ := (EStateM.Result.ok.injEq _ _ _ _).mp returned
    have tokens : signed'.map (·.tx.token) = (countApprovals fetchErc20Details [] instructions).map Prod.fst := by
      have tokens := congrArg (List.map (·.token)) txs
      rwa [List.map_map, List.map_map] at tokens
    have entry : ∀ a ∈ signed', ∃ e ∈ countApprovals fetchErc20Details [] instructions,
        buildApproval chainId routerAddress w.address e.1 e.2 = a.tx := fun a member =>
      List.mem_map.mp (txs ▸ List.mem_map_of_mem _ member)
    refine ⟨tokens ▸ keys_countApprovals_nodup fetchErc20Details instructions List.nodup_nil,
      fun token => ?_, fun a member => ?_, fun a member => ?_, ?_⟩
    · rw [tokens, mem_keys_countApprovals, List.map_nil]
      exact or_iff_right (List.not_mem_nil _)
    · obtain ⟨e, counted, built⟩ := entry a member
      rw [← built]
      exact countApprovals_entry fetchErc20Details counted
    · obtain ⟨e, -, built⟩ := entry a member
      rw [← built]
      rfl
    · rw [nonces, ← List.length_map signed' (·.tx), txs, List.length_map]
  returns instructions w :=
    (approveBatch_returns_iff fetchErc20Details chainId routerAddress instructions w).trans
      (countApprovals_pos_iff fetchErc20Details instructions)
  raises instructions w e w' raised := by
    by_cases positive : ∀ e ∈ countApprovals fetchErc20Details [] instructions, 0 < e.2
    · obtain ⟨signed, run, -⟩ := signApprovals_of_pos chainId routerAddress w positive
      rw [approveBatch, run] at raised
      cases raised
    · push_neg at positive
      obtain ⟨_, run⟩ := signApprovals_of_nonPositive chainId routerAddress w positive
      rw [approveBatch, run] at raised
      obtain ⟨rfl, -⟩ := (EStateM.Result.error.injEq _ _ _ _).mp raised
      rfl

/-- **Batched approvals cover the swaps, when they return.** Both `approve_tokens` and
`approve_infinity` return exactly when every token that some swap of the batch spends
has a positive total `amount0_in`. They then approve each such token once, for that
total. Otherwise they raise their non-positive approval assertion, and the batch gets no
approvals. -/
theorem approveTokens_coversSwaps :
    CoversSwaps fetchErc20Details routerAddress (approveTokens fetchErc20Details chainId routerAddress) ∧
      CoversSwaps fetchErc20Details routerAddress
        (approveInfinity fetchErc20Details chainId routerAddress) :=
  ⟨approveBatch_coversSwaps fetchErc20Details chainId routerAddress,
    approveBatch_coversSwaps fetchErc20Details chainId routerAddress⟩

end Approvals

/-! ## A dust buy and a buy with a sell -/

/-- Token data as fetched: USDC at address 1 with 6 decimals, any other token with 18. -/
def usdcAndEighteenDecimals (address : Nat) : TokenDetails :=
  if address = 1 then { address := 1, decimals := 6 } else { address := address, decimals := 18 }

/-- A trade of `quantity` WETH for `reserve` USDC. -/
def wethUsdcTrade (tradeId : Nat) (quantity reserve : ℚ) : TradeExecution :=
  { tradeId := tradeId, positionId := 1,
    pair := { base := { chainId := 1, address := 2, tokenSymbol := "WETH", decimals := 18 },
              quote := { chainId := 1, address := 1, tokenSymbol := "USDC", decimals := 6 },
              poolAddress := 3 },
    openedAt := 0, strategyCycleAt := 0, plannedQuantity := quantity, plannedPrice := 1000,
    plannedReserve := reserve,
    reserveCurrency := { chainId := 1, address := 1, tokenSymbol := "USDC", decimals := 6 } }

/-- A buy of 0.0000001 USDC worth of WETH: less than one unit of USDC's 6 decimals. -/
def dustBuy : TradeExecution := wethUsdcTrade 1 (1 / 10000000000) (1 / 10000000)

/-- The dust buy's swap spends USDC, yet `approve_tokens` raises and approves nothing. -/
theorem approveTokens_dustBuy_unapproved :
    swapInput usdcAndEighteenDecimals dustBuy = some 1 ∧
      ∃ w', approveTokens usdcAndEighteenDecimals 1 9 [dustBuy] ⟨5, 0⟩ =
        .error (.assertionError "Got a non-positive approval ") w' := by
  have buy : dustBuy.isBuy = true := by norm_num [dustBuy, wethUsdcTrade, TradeExecution.isBuy]
  have input : swapInput usdcAndEighteenDecimals dustBuy = some 1 := by
    simp only [swapInput, swapOf, translateToNaiveSwap, buy, if_true]
    rfl
  have unpaid : swappedIn usdcAndEighteenDecimals [dustBuy] 1 = 0 := by
    simp only [swappedIn, List.filter_cons, input, decide_True, if_true, List.filter_nil, List.map_cons,
      List.map_nil, List.sum_cons, List.sum_nil, add_zero, swapOf, translateToNaiveSwap, buy]
    norm_num [pyInt, dustBuy, wethUsdcTrade, usdcAndEighteenDecimals]
  have nonPositive := (countApprovals_pos_iff usdcAndEighteenDecimals [dustBuy]).not.mpr
    fun positive => (positive dustBuy (List.mem_singleton_self _) 1 input).ne' unpaid
  push_neg at nonPositive
  exact ⟨input, signApprovals_of_nonPositive 1 9 ⟨5, 0⟩ nonPositive⟩

/-- A buy of 1 WETH for 1000 USDC. -/
def wethBuy : TradeExecution := wethUsdcTrade 2 1 1000

/-- A sell of 1 WETH for 1000 USDC. -/
def wethSell : TradeExecution := wethUsdcTrade 3 (-1) 1000

/-- The buy and the sell get their approvals, of USDC for the buy and of WETH for the
sell. -/
theorem approveTokens_coversSwaps_buyAndSell :
    ∃ signed w', approveTokens usdcAndEighteenDecimals 1 9 [wethBuy, wethSell] ⟨5, 0⟩ = .ok signed w' ∧
      ApprovesSwaps usdcAndEighteenDecimals 9 [wethBuy, wethSell] ⟨5, 0⟩ signed := by
  have buy : wethBuy.isBuy = true := by norm_num [wethBuy, wethUsdcTrade, TradeExecution.isBuy]
  have sell : wethSell.isBuy = false := by norm_num [wethSell, wethUsdcTrade, TradeExecution.isBuy]
  have buyInput : swapInput usdcAndEighteenDecimals wethBuy = some 1 := by
    simp only [swapInput, swapOf, translateToNaiveSwap, buy, if_true]
    rfl
  have sellInput : swapInput usdcAndEighteenDecimals wethSell = some 2 := by
    simp only [swapInput, swapOf, translateToNaiveSwap, sell, Bool.false_eq_true, if_false]
    rfl
  have buyAmount : (swapOf usdcAndEighteenDecimals wethBuy).amount0In = 1000000000 := by
    simp only [swapOf, translateToNaiveSwap, buy, if_true]
    norm_num [pyInt, wethBuy, wethUsdcTrade, usdcAndEighteenDecimals]
  have sellAmount : (swapOf usdcAndEighteenDecimals wethSell).amount0In = 1000000000000000000 := by
    simp only [swapOf, translateToNaiveSwap, sell, Bool.false_eq_true, if_false]
    norm_num [pyInt, wethSell, wethUsdcTrade, usdcAndEighteenDecimals]
  have positive : ∀ t ∈ [wethBuy, wethSell], ∀ token, swapInput usdcAndEighteenDecimals t = some token →
      0 < swappedIn usdcAndEighteenDecimals [wethBuy, wethSell] token := by
    simp only [List.mem_cons, List.mem_singleton, List.not_mem_nil, or_false]
    rintro t (rfl | rfl) token starts <;>
      simp only [buyInput, sellInput, Option.some.injEq] at starts <;> subst starts <;>
      simp [swappedIn, buyInput, sellInput, buyAmount, sellAmount]
  obtain ⟨signed, w', returned⟩ := ((approveTokens_coversSwaps usdcAndEighteenDecimals 1 9).1.returns
    [wethBuy, wethSell] ⟨5, 0⟩).mpr positive
  exact ⟨signed, w', returned, (approveTokens_coversSwaps usdcAndEighteenDecimals 1 9).1.approves _ _ _ _ returned⟩

end TradeExecutor
