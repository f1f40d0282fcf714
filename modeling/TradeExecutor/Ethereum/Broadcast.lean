import TradeExecutor.State.Keyed
import TradeExecutor.State.Trade

/-! # Broadcasting a batch of trades

`broadcast` walks the batch trade by trade. For each transaction of a trade it checks
that the transaction is signed and that its nonce has not been seen in the batch, then
records the nonce, stamps the transaction's `broadcasted_at` and queues it. Once a
trade's transactions are queued it marks the trade broadcasted. Only after the whole
batch has passed does it hand the queue to `broadcast_transactions`.

A batch that returns has pairwise distinct nonces. A batch that raises the nonce guard
has not reached `broadcast_transactions`. By then it has already marked every trade
before the offending one and stamped every transaction before the repeated nonce
(`TradeExecutor.broadcast_nonce_guard`).

The node is outside the model: `broadcast_transactions` either raises the node's error,
which `broadcast` logs and raises again, or returns one hash per transaction.
`broadcast` returns exactly when every trade has transactions, all signed, the batch's
nonces are distinct and the node accepts the batch. When the node rejects a batch that
passed the checks, the error comes after every trade was marked broadcasted and every
transaction stamped (`TradeExecutor.broadcast_returns_iff`). A call that returns has
sent every trade and called `broadcast_transactions` once, with the whole batch
(`TradeExecutor.broadcast_sends_batch`).
-/

namespace TradeExecutor

/-- What `broadcast` reads and changes: the batch of trades, updated in place, its local
nonce guard, the map of transaction hashes it returns (to the positions of the trade and
the transaction in the batch), the signed transactions it queues, and the batches it
has handed to `broadcast_transactions`. -/
structure Broadcast where
  instructions : List TradeExecution
  nonces : List Nat := []
  res : List (Nat × Nat × Nat) := []
  broadcastBatch : List String := []
  broadcastCalls : List (List String) := []

/-- A transaction as `broadcast` leaves it: `tx.broadcasted_at = ts`. -/
def BlockchainTransaction.stamp (tx : BlockchainTransaction) (ts : Nat) : BlockchainTransaction :=
  { tx with broadcastedAt := some ts }

/-- Trade `t` with its `j`-th transaction stamped at `ts`. -/
def stampTx (ts j : Nat) (t : TradeExecution) : TradeExecution :=
  { t with blockchainTransactions := t.blockchainTransactions.modify (·.stamp ts) j }

/-- The inner loop of `broadcast` over the transactions of the trade at position `i` of
the batch, from the `j`-th on. -/
def broadcastTxs (ts i : Nat) : Nat → List BlockchainTransaction → Exec Broadcast Unit
  | _, [] => pure ()
  | j, tx :: rest => do
    pyAssert tx.signedBytes.isSome "Got signed transaction: "
    let s ← get
    pyAssert (tx.nonce ∉ s.nonces) "Nonce already used"
    set { s with
      nonces := tx.nonce :: s.nonces
      instructions := s.instructions.modify (stampTx ts j) i
      res := dictSet s.res tx.txHash (i, j)
      broadcastBatch := s.broadcastBatch ++ [tx.signedBytes.getD ""] }
    broadcastTxs ts i (j + 1) rest

/-- The outer loop of `broadcast` over the trades of the batch from position `i` on;
`now` is the clock reading `mark_broadcasted` gets. -/
def broadcastTrades (ts now : Nat) : Nat → List TradeExecution → Exec Broadcast Unit
  | _, [] => pure ()
  | i, t :: rest => do
    pyAssert (t.blockchainTransactions.length > 0) "Trade "
    broadcastTxs ts i 0 t.blockchainTransactions
    modify fun s => { s with instructions := s.instructions.modify (·.markBroadcasted now) i }
    broadcastTrades ts now (i + 1) rest

/-- Modelled from the spec: `broadcast_transactions` hands the queued transactions to the
node. The node's answer is `nodeError`: the error it raises for the batch, such as a fee
above the configured cap, or none, and then one hash per transaction. -/
def broadcastTransactions (nodeError : List String → Option String) (batch : List String) :
    Exec Broadcast (List String) := do
  modify fun s => { s with broadcastCalls := s.broadcastCalls ++ [batch] }
  match nodeError batch with
  | some message => throw (.nodeError message)
  | none => return batch

/-- `broadcast` at time `ts`, with `now` the clock reading of `datetime.utcnow()`. Its
handler around `broadcast_transactions` logs the trades and raises the node's error
again, so the error passes through unchanged. -/
def broadcast (nodeError : List String → Option String) (ts now : Nat) :
    Exec Broadcast (List (Nat × Nat × Nat)) := do
  let s ← get
  set { s with nonces := [], res := [], broadcastBatch := [] }
  broadcastTrades ts now 0 s.instructions
  let s' ← get
  let hashes ← broadcastTransactions nodeError s'.broadcastBatch
  pyAssert (hashes.length ≥ s.instructions.length) "We got "
  return s'.res

/-- The call is recorded whatever the node answers. -/
theorem broadcastTransactions_apply (nodeError : List String → Option String) (batch : List String)
    (s : Broadcast) :
    broadcastTransactions nodeError batch s =
      match nodeError batch with
      | some message => .error (.nodeError message) { s with broadcastCalls := s.broadcastCalls ++ [batch] }
      | none => .ok batch { s with broadcastCalls := s.broadcastCalls ++ [batch] } := by
  unfold broadcastTransactions
  cases nodeError batch <;> rfl

/-- A trade as `broadcast` leaves it once all its transactions are queued: every
transaction stamped and the trade marked broadcasted. -/
def sentTrade (ts now : Nat) (t : TradeExecution) : TradeExecution :=
  TradeExecution.markBroadcasted
    { t with blockchainTransactions := t.blockchainTransactions.map (·.stamp ts) } now

/-- The nonces of the transactions of a list of trades, in batch order. -/
def batchNonces (trades : List TradeExecution) : List Nat :=
  (trades.flatMap (·.blockchainTransactions)).map (·.nonce)

/-- The signed transactions of a list of trades, in batch order, as `broadcast` queues
them. -/
def batchSigned (trades : List TradeExecution) : List String :=
  (trades.flatMap (·.blockchainTransactions)).map (·.signedBytes.getD "")

/-- What `broadcast` asserts of a trade, apart from the nonces: it has transactions, and
each of them is signed. -/
def readyToBroadcast (t : TradeExecution) : Bool :=
  0 < t.blockchainTransactions.length && t.blockchainTransactions.all (·.signedBytes.isSome)

/-! ## One transaction, one trade -/

theorem modify_append_cons {α : Type} (f : α → α) (before : List α) (x : α) (after : List α) :
    (before ++ x :: after).modify f before.length = before ++ f x :: after := by
  induction before with
  | nil => rfl
  | cons y before ih => rw [List.cons_append, List.length_cons, List.modify_succ_cons, ih]; rfl

/-- Stamping the first transaction not yet stamped moves it to the stamped ones. -/
theorem stampTx_next (ts : Nat) (t : TradeExecution) (sent : List BlockchainTransaction)
    (tx : BlockchainTransaction) (rest : List BlockchainTransaction) :
    stampTx ts sent.length { t with blockchainTransactions := sent ++ tx :: rest } =
      { t with blockchainTransactions := (sent ++ [tx.stamp ts]) ++ rest } := by
  simp only [stampTx, modify_append_cons, List.append_assoc, List.singleton_append]

theorem batchNonces_cons (t : TradeExecution) (rest : List TradeExecution) :
    batchNonces (t :: rest) = t.blockchainTransactions.map (·.nonce) ++ batchNonces rest := by
  simp only [batchNonces, List.flatMap_cons, List.map_append]

theorem batchSigned_cons (t : TradeExecution) (rest : List TradeExecution) :
    batchSigned (t :: rest) = t.blockchainTransactions.map (·.signedBytes.getD "") ++ batchSigned rest := by
  simp only [batchSigned, List.flatMap_cons, List.map_append]

theorem readyToBroadcast_iff (t : TradeExecution) :
    readyToBroadcast t ↔
      0 < t.blockchainTransactions.length ∧ ∀ tx ∈ t.blockchainTransactions, tx.signedBytes.isSome := by
  simp [readyToBroadcast, List.all_eq_true]

/-- A batch of trades that have transactions queues at least one transaction per trade. -/
theorem length_le_length_batchSigned :
    ∀ {trades : List TradeExecution}, (∀ t ∈ trades, readyToBroadcast t) →
      trades.length ≤ (batchSigned trades).length
  | [], _ => Nat.zero_le _
  | t :: rest, ready => by
    have prepared := ((readyToBroadcast_iff t).mp (ready t (List.mem_cons_self _ _))).1
    have later := length_le_length_batchSigned fun t' member => ready t' (List.mem_cons_of_mem _ member)
    rw [batchSigned_cons, List.length_append, List.length_map, List.length_cons]
    omega

/-! ## The loops

Each loop is described by what a run that returns leaves behind, and by where a run
that raises the nonce guard stopped. The trade the inner loop works on sits at position
`before.length` of the batch, with its transactions `sent` already stamped.
-/

section Loops

variable {ts now : Nat} {before after : List TradeExecution} {t : TradeExecution}

/-- The inner loop, returning, stamps every transaction it walks, records their nonces,
each one new, and queues their signed bytes; each of them is signed. -/
theorem broadcastTxs_ok :
    ∀ {txs : List BlockchainTransaction} (sent : List BlockchainTransaction) {s s' : Broadcast},
      s.instructions = before ++ { t with blockchainTransactions := sent ++ txs } :: after →
      broadcastTxs ts before.length sent.length txs s = .ok () s' →
      s'.instructions =
          before ++ { t with blockchainTransactions := sent ++ txs.map (·.stamp ts) } :: after ∧
        s'.nonces = (txs.map (·.nonce)).reverse ++ s.nonces ∧
        (s.nonces.Nodup → s'.nonces.Nodup) ∧
        s'.broadcastBatch = s.broadcastBatch ++ txs.map (·.signedBytes.getD "") ∧
        s'.broadcastCalls = s.broadcastCalls ∧ ∀ tx ∈ txs, tx.signedBytes.isSome
  | [], _, _, _, shape, run => by
    cases run
    exact ⟨shape, rfl, id, (List.append_nil _).symm, rfl, fun _ member => absurd member (List.not_mem_nil _)⟩
  | tx :: rest, sent, s, s', shape, run => by
    simp only [broadcastTxs, pyAssert_bind, get_bind, set_bind] at run
    split_ifs at run with signed fresh
    rw [← List.length_singleton (tx.stamp ts), ← List.length_append] at run
    obtain ⟨instructions, nonces, nodup, batch, calls, signedRest⟩ :=
      broadcastTxs_ok (sent ++ [tx.stamp ts]) (by rw [shape, modify_append_cons, stampTx_next]) run
    refine ⟨?_, ?_, fun unique => nodup (List.nodup_cons.mpr ⟨fresh, unique⟩), ?_, calls,
      List.forall_mem_cons.mpr ⟨signed, signedRest⟩⟩
    · rw [instructions, List.append_assoc, List.singleton_append, List.map_cons]
    · rw [nonces, List.map_cons, List.reverse_cons, List.append_assoc, List.singleton_append]
    · rw [batch, List.map_cons, List.append_assoc, List.singleton_append]

/-- The inner loop returns when every transaction it walks is signed and has a nonce
new to the guard and to the others. -/
theorem broadcastTxs_returns :
    ∀ {txs : List BlockchainTransaction} (sent : List BlockchainTransaction) (s : Broadcast),
      s.instructions = before ++ { t with blockchainTransactions := sent ++ txs } :: after →
      (∀ tx ∈ txs, tx.signedBytes.isSome) → ((txs.map (·.nonce)).reverse ++ s.nonces).Nodup →
      ∃ s', broadcastTxs ts before.length sent.length txs s = .ok () s'
  | [], _, s, _, _, _ => ⟨s, rfl⟩
  | tx :: rest, sent, s, shape, signed, fresh => by
    rw [List.map_cons, List.reverse_cons, List.append_assoc, List.singleton_append] at fresh
    have absent : tx.nonce ∉ s.nonces := (List.nodup_cons.mp (List.Nodup.of_append_right fresh)).1
    obtain ⟨signedFirst, signedRest⟩ := List.forall_mem_cons.mp signed
    simp only [broadcastTxs, pyAssert_bind, signedFirst, absent, not_false_eq_true, if_true, get_bind,
      set_bind]
    rw [← List.length_singleton (tx.stamp ts), ← List.length_append]
    exact broadcastTxs_returns (sent ++ [tx.stamp ts]) _
      (by rw [shape, modify_append_cons, stampTx_next]) signedRest fresh

/-- The inner loop, raising its nonce guard, stopped at a transaction whose nonce it had
already recorded, with the transactions before it stamped and nothing handed on. -/
theorem broadcastTxs_nonce_error :
    ∀ {txs : List BlockchainTransaction} (sent : List BlockchainTransaction) {s s' : Broadcast},
      s.instructions = before ++ { t with blockchainTransactions := sent ++ txs } :: after →
      broadcastTxs ts before.length sent.length txs s =
          .error (.assertionError "Nonce already used") s' →
      s'.broadcastCalls = s.broadcastCalls ∧
        ∃ done tx unsent, txs = done ++ tx :: unsent ∧
          tx.nonce ∈ done.map (·.nonce) ++ s.nonces ∧
          s'.instructions = before ++
            { t with blockchainTransactions := sent ++ done.map (·.stamp ts) ++ tx :: unsent } :: after
  | [], _, _, _, _, run => nomatch run
  | tx :: rest, sent, s, s', shape, run => by
    simp only [broadcastTxs, pyAssert_bind, get_bind, set_bind] at run
    split_ifs at run with signed repeated
    · cases run
      exact ⟨rfl, [], tx, rest, rfl, repeated, by rw [shape, List.map_nil, List.append_nil]⟩
    · rw [← List.length_singleton (tx.stamp ts), ← List.length_append] at run
      obtain ⟨calls, done, tx', unsent, rfl, repeated, instructions⟩ :=
        broadcastTxs_nonce_error (sent ++ [tx.stamp ts]) (by rw [shape, modify_append_cons, stampTx_next]) run
      refine ⟨calls, tx :: done, tx', unsent, rfl, ?_, ?_⟩
      · simp only [List.map_cons, List.mem_append, List.mem_cons] at repeated ⊢
        rcases repeated with inDone | sameAsTx | inNonces
        exacts [.inl (.inr inDone), .inl (.inl sameAsTx), .inr inNonces]
      · simp only [instructions, List.map_cons, List.append_assoc, List.singleton_append,
          List.cons_append, List.nil_append]
    · simp at run

/-- The outer loop, returning, leaves every trade it walks sent, records the nonces of
all their transactions, each one new, and queues their signed bytes; each trade it walks
is ready to broadcast. -/
theorem broadcastTrades_ok :
    ∀ {pending : List TradeExecution} (before : List TradeExecution) {s s' : Broadcast},
      s.instructions = before ++ pending →
      broadcastTrades ts now before.length pending s = .ok () s' →
      s'.instructions = before ++ pending.map (sentTrade ts now) ∧
        s'.nonces = (batchNonces pending).reverse ++ s.nonces ∧
        (s.nonces.Nodup → s'.nonces.Nodup) ∧
        s'.broadcastBatch = s.broadcastBatch ++ batchSigned pending ∧
        s'.broadcastCalls = s.broadcastCalls ∧ ∀ t ∈ pending, readyToBroadcast t
  | [], _, _, _, shape, run => by
    cases run
    exact ⟨by rw [shape, List.map_nil], rfl, id, (List.append_nil _).symm, rfl,
      fun _ member => absurd member (List.not_mem_nil _)⟩
  | t :: rest, before, s, s', shape, run => by
    simp only [broadcastTrades, pyAssert_bind] at run
    split_ifs at run with prepared
    obtain ⟨_, sMid, inner, outer⟩ := bind_eq_ok.mp run
    obtain ⟨instructions, nonces, nodup, batch, calls, signed⟩ :=
      broadcastTxs_ok [] (by rw [shape]; rfl) inner
    rw [modify_bind, ← List.length_singleton (sentTrade ts now t), ← List.length_append] at outer
    obtain ⟨instructions', nonces', nodup', batch', calls', ready⟩ :=
      broadcastTrades_ok (before ++ [sentTrade ts now t])
        (by simp only [instructions, modify_append_cons, List.append_assoc, List.singleton_append]; rfl)
        outer
    refine ⟨?_, ?_, fun unique => nodup' (nodup unique), ?_, calls'.trans calls,
      List.forall_mem_cons.mpr ⟨(readyToBroadcast_iff t).mpr ⟨prepared, signed⟩, ready⟩⟩
    · simp only [instructions', List.map_cons, List.append_assoc, List.singleton_append]
    · rw [nonces', batchNonces_cons, List.reverse_append, List.append_assoc]
      exact congrArg _ nonces
    · rw [batch', batchSigned_cons, ← List.append_assoc]
      exact congrArg (· ++ _) batch

/-- The outer loop returns when every trade it walks is ready to broadcast and the
nonces of their transactions are new to the guard and to each other. -/
theorem broadcastTrades_returns :
    ∀ {pending : List TradeExecution} (before : List TradeExecution) (s : Broadcast),
      s.instructions = before ++ pending → (∀ t ∈ pending, readyToBroadcast t) →
      ((batchNonces pending).reverse ++ s.nonces).Nodup →
      ∃ s', broadcastTrades ts now before.length pending s = .ok () s'
  | [], _, s, _, _, _ => ⟨s, rfl⟩
  | t :: rest, before, s, shape, ready, fresh => by
    obtain ⟨readyFirst, readyRest⟩ := List.forall_mem_cons.mp ready
    obtain ⟨prepared, signed⟩ := (readyToBroadcast_iff t).mp readyFirst
    rw [batchNonces_cons, List.reverse_append, List.append_assoc] at fresh
    obtain ⟨sMid, inner⟩ : ∃ sMid, broadcastTxs ts before.length 0 t.blockchainTransactions s = .ok () sMid :=
      broadcastTxs_returns [] s (by rw [shape]; rfl) signed (List.Nodup.of_append_right fresh)
    obtain ⟨instructions, nonces, -⟩ := broadcastTxs_ok [] (by rw [shape]; rfl) inner
    simp only [broadcastTrades, pyAssert_bind, prepared, if_true, bind_of_ok inner, modify_bind]
    rw [← List.length_singleton (sentTrade ts now t), ← List.length_append]
    exact broadcastTrades_returns (before ++ [sentTrade ts now t]) _
      (by simp only [instructions, modify_append_cons, List.append_assoc, List.singleton_append]; rfl)
      readyRest (by rwa [← nonces] at fresh)

/-- The outer loop, raising the nonce guard, stopped inside a trade: every trade before it
is sent, the transactions of that trade before the repeated nonce are stamped, and
nothing was handed on. -/
theorem broadcastTrades_nonce_error :
    ∀ {pending : List TradeExecution} (before : List TradeExecution) {s s' : Broadcast},
      s.instructions = before ++ pending →
      broadcastTrades ts now before.length pending s =
          .error (.assertionError "Nonce already used") s' →
      s'.broadcastCalls = s.broadcastCalls ∧
        ∃ done t unsent sentTxs tx unsentTxs, pending = done ++ t :: unsent ∧
          t.blockchainTransactions = sentTxs ++ tx :: unsentTxs ∧
          tx.nonce ∈ batchNonces done ++ sentTxs.map (·.nonce) ++ s.nonces ∧
          s'.instructions = before ++ done.map (sentTrade ts now) ++
            { t with blockchainTransactions := sentTxs.map (·.stamp ts) ++ tx :: unsentTxs } :: unsent
  | [], _, _, _, _, run => nomatch run
  | t :: rest, before, s, s', shape, run => by
    simp only [broadcastTrades, pyAssert_bind] at run
    split_ifs at run with prepared
    · rcases bind_eq_error.mp run with inner | ⟨_, sMid, inner, outer⟩
      · obtain ⟨calls, sentTxs, tx, unsentTxs, split, repeated, instructions⟩ :=
          broadcastTxs_nonce_error [] (by rw [shape]; rfl) inner
        refine ⟨calls, [], t, rest, sentTxs, tx, unsentTxs, rfl, split, ?_, ?_⟩
        · simpa only [batchNonces, List.flatMap_nil, List.map_nil, List.nil_append] using repeated
        · simpa only [List.map_nil, List.append_nil, List.nil_append] using instructions
      · obtain ⟨instructions, nonces, -, -, calls, -⟩ :=
          broadcastTxs_ok [] (by rw [shape]; rfl) inner
        rw [modify_bind, ← List.length_singleton (sentTrade ts now t), ← List.length_append] at outer
        obtain ⟨calls', done, t', unsent, sentTxs, tx, unsentTxs, rfl, split, repeated,
            instructions'⟩ := broadcastTrades_nonce_error (before ++ [sentTrade ts now t])
          (by simp only [instructions, modify_append_cons, List.append_assoc, List.singleton_append]; rfl)
          outer
        refine ⟨calls'.trans calls, t :: done, t', unsent, sentTxs, tx, unsentTxs, rfl, split, ?_, ?_⟩
        · simp only [nonces, batchNonces_cons, List.mem_append, List.mem_reverse] at repeated ⊢
          rcases repeated with (inDone | inSent) | inTrade | inNonces
          exacts [.inl (.inl (.inr inDone)), .inl (.inr inSent), .inl (.inl (.inl inTrade)), .inr inNonces]
        · simp only [instructions', List.map_cons, List.append_assoc, List.singleton_append,
            List.cons_append, List.nil_append]
    · simp at run

end Loops

/-! ## The batch -/

/-- Once the loop over the batch returned, `broadcast` hands the batch's signed
transactions to the node: a rejection is raised with the call recorded, and otherwise
the final check passes and the hash map is returned. -/
theorem broadcast_eq_of_loop {nodeError : List String → Option String} {ts now : Nat}
    {s sMid : Broadcast}
    (loop : broadcastTrades ts now 0 s.instructions { s with nonces := [], res := [], broadcastBatch := [] } =
      .ok () sMid) :
    broadcast nodeError ts now s =
      match nodeError (batchSigned s.instructions) with
      | some message => .error (.nodeError message)
          { sMid with broadcastCalls := sMid.broadcastCalls ++ [batchSigned s.instructions] }
      | none => .ok sMid.res
          { sMid with broadcastCalls := sMid.broadcastCalls ++ [batchSigned s.instructions] } := by
  obtain ⟨-, -, -, batch, -, ready⟩ := broadcastTrades_ok [] (by rfl) loop
  rw [List.nil_append] at batch
  simp only [broadcast, get_bind, set_bind]
  rw [bind_of_ok loop, get_bind]
  cases node : nodeError (batchSigned s.instructions) with
  | none =>
    have sent : broadcastTransactions nodeError sMid.broadcastBatch sMid = .ok sMid.broadcastBatch
        { sMid with broadcastCalls := sMid.broadcastCalls ++ [batchSigned s.instructions] } := by
      rw [broadcastTransactions_apply, batch, node]
    rw [bind_of_ok sent, pyAssert_bind, if_pos (batch ▸ length_le_length_batchSigned ready)]
    rfl
  | some message =>
    have rejected : broadcastTransactions nodeError sMid.broadcastBatch sMid =
        .error (.nodeError message)
          { sMid with broadcastCalls := sMid.broadcastCalls ++ [batchSigned s.instructions] } := by
      rw [broadcastTransactions_apply, batch, node]
    exact bind_of_error rejected

/-- **The nonce guard.** A batch that `broadcast` returns has pairwise distinct nonces.
A batch on which it raises the nonce guard holds a transaction whose nonce an earlier
transaction of the batch has, and `broadcast_transactions` has not been called; but the
trades before that transaction's trade are already marked broadcasted, and every
transaction before it already has its `broadcasted_at` set. -/
theorem broadcast_nonce_guard (nodeError : List String → Option String) (ts now : Nat) (s : Broadcast) :
    (∀ res s', broadcast nodeError ts now s = .ok res s' → (batchNonces s.instructions).Nodup) ∧
    (∀ s', broadcast nodeError ts now s = .error (.assertionError "Nonce already used") s' →
      s'.broadcastCalls = s.broadcastCalls ∧
        ∃ before t after sentTxs tx unsentTxs, s.instructions = before ++ t :: after ∧
          t.blockchainTransactions = sentTxs ++ tx :: unsentTxs ∧
          tx.nonce ∈ batchNonces before ++ sentTxs.map (·.nonce) ∧
          s'.instructions = before.map (sentTrade ts now) ++
            { t with blockchainTransactions := sentTxs.map (·.stamp ts) ++ tx :: unsentTxs } :: after) := by
  constructor
  · intro res s' returned
    simp only [broadcast, get_bind, set_bind] at returned
    obtain ⟨_, sMid, trades, -⟩ := bind_eq_ok.mp returned
    obtain ⟨-, nonces, nodup, -⟩ := broadcastTrades_ok [] (by rfl) trades
    rw [List.append_nil] at nonces
    exact List.nodup_reverse.mp (nonces ▸ nodup List.nodup_nil)
  · intro s' raised
    rcases loop : broadcastTrades ts now 0 s.instructions
        { s with nonces := [], res := [], broadcastBatch := [] } with ⟨_, sMid⟩ | ⟨e, sErr⟩
    · rw [broadcast_eq_of_loop loop] at raised
      split at raised <;> cases raised
    · simp only [broadcast, get_bind, set_bind, bind_of_error loop, EStateM.Result.error.injEq] at raised
      obtain ⟨rfl, rfl⟩ := raised
      obtain ⟨calls, before, t, after, sentTxs, tx, unsentTxs, split, txs, repeated, instructions⟩ :=
        broadcastTrades_nonce_error [] (by rfl) loop
      refine ⟨calls, before, t, after, sentTxs, tx, unsentTxs, split, txs, ?_, instructions⟩
      rwa [List.append_nil] at repeated

/-- **When a batch is broadcast.** `broadcast` returns exactly when every trade of the
batch has transactions, all of them signed, the nonces of the batch are pairwise
distinct and the node accepts the batch; its last assertion, at least one hash per
trade, then always holds. When the node rejects a batch that passed the checks,
`broadcast` raises the node's error after marking every trade broadcasted, stamping
every transaction and handing the whole batch over once. -/
theorem broadcast_returns_iff (nodeError : List String → Option String) (ts now : Nat) (s : Broadcast) :
    ((∃ res s', broadcast nodeError ts now s = .ok res s') ↔
      (∀ t ∈ s.instructions, readyToBroadcast t) ∧ (batchNonces s.instructions).Nodup ∧
        nodeError (batchSigned s.instructions) = none) ∧
    ∀ message, (∀ t ∈ s.instructions, readyToBroadcast t) → (batchNonces s.instructions).Nodup →
      nodeError (batchSigned s.instructions) = some message →
      ∃ s', broadcast nodeError ts now s = .error (.nodeError message) s' ∧
        s'.instructions = s.instructions.map (sentTrade ts now) ∧
        s'.broadcastCalls = s.broadcastCalls ++ [batchSigned s.instructions] := by
  have loopReturns : (∀ t ∈ s.instructions, readyToBroadcast t) → (batchNonces s.instructions).Nodup →
      ∃ sMid, broadcastTrades ts now 0 s.instructions
        { s with nonces := [], res := [], broadcastBatch := [] } = .ok () sMid :=
    fun ready distinct =>
      broadcastTrades_returns [] _ (by rfl) ready (by rwa [List.append_nil, List.nodup_reverse])
  refine ⟨⟨?_, ?_⟩, ?_⟩
  · rintro ⟨res, s', returned⟩
    rcases loop : broadcastTrades ts now 0 s.instructions
        { s with nonces := [], res := [], broadcastBatch := [] } with ⟨_, sMid⟩ | ⟨e, sErr⟩
    · obtain ⟨-, nonces, nodup, -, -, ready⟩ := broadcastTrades_ok [] (by rfl) loop
      rw [List.append_nil] at nonces
      rw [broadcast_eq_of_loop loop] at returned
      split at returned
      · cases returned
      · exact ⟨ready, List.nodup_reverse.mp (nonces ▸ nodup List.nodup_nil), ‹_›⟩
    · simp only [broadcast, get_bind, set_bind, bind_of_error loop] at returned
      cases returned
  · rintro ⟨ready, distinct, accepted⟩
    obtain ⟨sMid, loop⟩ := loopReturns ready distinct
    rw [broadcast_eq_of_loop loop, accepted]
    exact ⟨_, _, rfl⟩
  · intro message ready distinct rejected
    obtain ⟨sMid, loop⟩ := loopReturns ready distinct
    obtain ⟨instructions, -, -, -, calls, -⟩ := broadcastTrades_ok [] (by rfl) loop
    rw [broadcast_eq_of_loop loop, rejected]
    exact ⟨_, rfl, instructions, by rw [calls]⟩

/-- **What a returning broadcast has done.** Every trade of the batch is marked
broadcasted, with every transaction stamped, and `broadcast_transactions` has been called
once, with the signed transactions of the whole batch in batch order. -/
theorem broadcast_sends_batch {nodeError : List String → Option String} {ts now : Nat}
    {s s' : Broadcast} {res : List (Nat × Nat × Nat)}
    (returned : broadcast nodeError ts now s = .ok res s') :
    s'.instructions = s.instructions.map (sentTrade ts now) ∧
      s'.broadcastCalls = s.broadcastCalls ++ [batchSigned s.instructions] := by
  rcases loop : broadcastTrades ts now 0 s.instructions
      { s with nonces := [], res := [], broadcastBatch := [] } with ⟨_, sMid⟩ | ⟨e, sErr⟩
  · obtain ⟨instructions, -, -, -, calls, -⟩ := broadcastTrades_ok [] (by rfl) loop
    rw [broadcast_eq_of_loop loop] at returned
    split at returned
    · cases returned
    · simp only [EStateM.Result.ok.injEq] at returned
      obtain ⟨-, rfl⟩ := returned
      exact ⟨instructions, by rw [calls]⟩
  · simp only [broadcast, get_bind, set_bind, bind_of_error loop] at returned
    cases returned

/-- A trade with one signed transaction of nonce `nonce`. -/
def signedTrade (tradeId nonce : Nat) : TradeExecution :=
  { tradeId := tradeId, positionId := tradeId,
    pair := { base := { chainId := 1, address := 2, tokenSymbol := "WETH", decimals := 18 },
              quote := { chainId := 1, address := 1, tokenSymbol := "USDC", decimals := 6 },
              poolAddress := 3 },
    openedAt := 0, strategyCycleAt := 0, plannedQuantity := 1, plannedPrice := 1000,
    plannedReserve := 1000,
    reserveCurrency := { chainId := 1, address := 1, tokenSymbol := "USDC", decimals := 6 },
    blockchainTransactions := [{ txHash := tradeId, nonce := nonce, signedBytes := some "0x" }] }

/-- Two trades whose transactions share nonce 7. -/
def repeatedNonceBatch : Broadcast := { instructions := [signedTrade 1 7, signedTrade 2 7] }

/-- Two trades whose transactions have nonces 7 and 8. -/
def distinctNonceBatch : Broadcast := { instructions := [signedTrade 1 7, signedTrade 2 8] }

/-- The nonce guard on the two batches: the distinct one returns, the repeated one
raises before `broadcast_transactions`. -/
theorem broadcast_nonce_guard_twoTrades :
    (batchNonces distinctNonceBatch.instructions).Nodup ∧
      ∃ s', broadcast (fun _ => none) 5 6 repeatedNonceBatch =
          .error (.assertionError "Nonce already used") s' ∧ s'.broadcastCalls = [] :=
  ⟨(broadcast_nonce_guard (fun _ => none) 5 6 distinctNonceBatch).1 _ _ rfl,
    _, rfl, ((broadcast_nonce_guard (fun _ => none) 5 6 repeatedNonceBatch).2 _ rfl).1⟩

/-- The nonce guard raises after the first trade was marked broadcasted and its
transaction stamped. -/
theorem broadcast_repeatedNonce_marksFirstTrade :
    ∃ s', broadcast (fun _ => none) 5 6 repeatedNonceBatch =
        .error (.assertionError "Nonce already used") s' ∧
      s'.instructions.map (·.broadcastedAt) = [some 6, none] ∧
      (s'.instructions.flatMap (·.blockchainTransactions)).map (·.broadcastedAt) = [some 5, none] :=
  ⟨_, rfl, rfl, rfl⟩

/-- The batch of distinct nonces is broadcast when the node accepts it; when the node
rejects it for its fee, the error comes with both trades already sent. -/
theorem broadcast_returns_iff_twoTrades :
    (∃ res s', broadcast (fun _ => none) 5 6 distinctNonceBatch = .ok res s') ∧
      ∃ s', broadcast (fun _ => some "tx fee exceeds the configured cap") 5 6 distinctNonceBatch =
          .error (.nodeError "tx fee exceeds the configured cap") s' ∧
        s'.instructions = distinctNonceBatch.instructions.map (sentTrade 5 6) ∧
        s'.broadcastCalls = distinctNonceBatch.broadcastCalls ++ [batchSigned distinctNonceBatch.instructions] :=
  ⟨(broadcast_returns_iff (fun _ => none) 5 6 distinctNonceBatch).1.mpr ⟨by decide, by decide, rfl⟩,
    (broadcast_returns_iff (fun _ => some "tx fee exceeds the configured cap") 5 6 distinctNonceBatch).2
      _ (by decide) (by decide) rfl⟩

/-- Broadcasting the batch of distinct nonces hands both signed transactions to
`broadcast_transactions` in one call. -/
theorem broadcast_sends_batch_twoTrades :
    ∃ res s', broadcast (fun _ => none) 5 6 distinctNonceBatch = .ok res s' ∧
      s'.broadcastCalls = [batchSigned distinctNonceBatch.instructions] := by
  obtain ⟨res, s', returned⟩ : ∃ res s', broadcast (fun _ => none) 5 6 distinctNonceBatch = .ok res s' :=
    ⟨_, _, rfl⟩
  exact ⟨res, s', returned, (broadcast_sends_batch returned).2⟩

end TradeExecutor
