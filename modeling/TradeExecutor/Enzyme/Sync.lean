import TradeExecutor.Enzyme.Redemption

/-! # Treasury sync calls and runs

`sync_treasury` is a batch translation followed by the recording loop and the
checkpoint write (`TradeExecutor.Enzyme.EnzymeVaultSyncModel.syncTreasury_eq_ok`).
It is not atomic: the portfolio is mutated in place event by event and
`processed_events` entry by entry, so a failure keeps what was applied before it.
Only the checkpoint, written last, is untouched by a failed call, and
`processed_events` is untouched unless the duplicate assertion fired, after the
updates before the duplicate were written
(`TradeExecutor.Enzyme.EnzymeVaultSyncModel.syncTreasury_checkpoint_of_error`). Over
a run of calls that returns (`TradeExecutor.Enzyme.syncRun`) the balance-update ids
are the consecutive range from the starting counter and `processed_events` only grows
at its end (`TradeExecutor.Enzyme.syncRun_balanceUpdateIds`). A run that raises may
have spent ids for which it produced no update
(`TradeExecutor.Enzyme.syncRun_fullRedemption_spendsId`).
-/

namespace TradeExecutor

namespace Enzyme

/-- One call of `sync_treasury` by the cycle loop: the strategy cycle, the wall clock
and the chain head at the call. -/
structure SyncCall where
  strategyCycleTs : Nat
  now : Nat
  head : Nat
  deriving DecidableEq, Repr

/-- The executor's cycles calling `sync_treasury` one after another on a chain whose
vault events are `chainEvents`; the updates of all calls, in order. -/
def syncRun (sameEvent : BalanceUpdate → BalanceUpdate → Bool)
    (chainEvents : List EnzymeBalanceEvent) : List SyncCall → Exec State (List BalanceUpdate)
  | [] => pure []
  | call :: rest => do
    let updates ← EnzymeVaultSyncModel.syncTreasury sameEvent chainEvents call.strategyCycleTs
      call.now call.head
    let more ← syncRun sameEvent chainEvents rest
    pure (updates ++ more)

/-- What the recording loop leaves in `processed_events`: each update written under
its id in turn. -/
def recordAll (processed : List (Nat × BalanceUpdate)) (events : List BalanceUpdate) :
    List (Nat × BalanceUpdate) :=
  events.foldl (fun d update => dictSet d update.balanceUpdateId update) processed

/-- Updates with fresh, distinct ids are appended and overwrite nothing. -/
theorem recordAll_of_fresh :
    ∀ {processed : List (Nat × BalanceUpdate)} {events : List BalanceUpdate},
      (∀ update ∈ events, update.balanceUpdateId ∉ processed.map Prod.fst) →
      (events.map (·.balanceUpdateId)).Nodup →
      recordAll processed events =
        processed ++ events.map fun update => (update.balanceUpdateId, update)
  | _, [], _, _ => by simp [recordAll]
  | processed, update :: rest, fresh, distinct => by
    simp only [List.map_cons, List.nodup_cons, List.mem_map] at distinct
    have first := fresh update (List.mem_cons_self _ _)
    have later : ∀ other ∈ rest, other.balanceUpdateId ∉
        (processed ++ [(update.balanceUpdateId, update)]).map Prod.fst := by
      intro other member
      simp only [List.map_append, List.map_cons, List.map_nil, List.mem_append, List.mem_singleton,
        not_or]
      exact ⟨fresh other (List.mem_cons_of_mem _ member),
        fun same => distinct.1 ⟨other, member, same⟩⟩
    have recorded : recordAll processed (update :: rest) =
        recordAll (processed ++ [(update.balanceUpdateId, update)]) rest := by
      simp only [recordAll, List.foldl_cons, dictSet_of_not_mem first]
    rw [recorded, recordAll_of_fresh later distinct.2]
    simp

namespace EnzymeVaultSyncModel

variable {sameEvent : BalanceUpdate → BalanceUpdate → Bool} {past : List BalanceUpdate}
  {s s' : State} {e : Error}

/-- The recording loop writes `processed_events` and nothing else. -/
theorem recordEvents_eq_ok :
    ∀ {events : List BalanceUpdate} {s s' : State}, recordEvents sameEvent past events s = .ok () s' →
      s' = State.setTreasury s { s.sync.treasury with
        processedEvents := recordAll s.sync.treasury.processedEvents events }
  | [], _, _, returned => by
    simp only [recordEvents, pure_apply, EStateM.Result.ok.injEq, true_and] at returned
    subst returned
    rfl
  | update :: rest, s, _, returned => by
    simp only [recordEvents, pyAssert_bind, modify_bind] at returned
    split_ifs at returned
    rw [recordEvents_eq_ok returned]
    rfl

/-- A failing recording loop met an update already among the past events: it raised
the duplicate assertion there, having written the updates before it to
`processed_events` and nothing else. -/
theorem recordEvents_eq_error :
    ∀ {events : List BalanceUpdate} {s s' : State}, recordEvents sameEvent past events s = .error e s' →
      ∃ recorded duplicate rest, events = recorded ++ duplicate :: rest ∧
        past.any (sameEvent duplicate) = true ∧ e = .assertionError "Event already processed" ∧
        s' = State.setTreasury s { s.sync.treasury with
          processedEvents := recordAll s.sync.treasury.processedEvents recorded }
  | [], _, _, raised => by cases raised
  | update :: rest, s, _, raised => by
    simp only [recordEvents, pyAssert_bind, modify_bind] at raised
    split_ifs at raised with fresh
    · obtain ⟨recorded, duplicate, later, rfl, seen, assertion, rfl⟩ := recordEvents_eq_error raised
      exact ⟨update :: recorded, duplicate, later, rfl, seen, assertion, rfl⟩
    · simp only [EStateM.Result.error.injEq] at raised
      obtain ⟨rfl, rfl⟩ := raised
      exact ⟨[], update, rest, rfl, by simpa using fresh, rfl, rfl⟩

/-- Conversely, a recording loop none of whose updates was processed before returns. -/
theorem recordEvents_of_fresh :
    ∀ {events : List BalanceUpdate} {s : State},
      (∀ update ∈ events, past.any (sameEvent update) = false) →
      recordEvents sameEvent past events s = .ok () (State.setTreasury s { s.sync.treasury with
        processedEvents := recordAll s.sync.treasury.processedEvents events })
  | [], _, _ => rfl
  | update :: rest, s, fresh => by
    simp only [recordEvents, pyAssert_bind, modify_bind,
      if_pos (fresh update (List.mem_cons_self _ _))]
    rw [recordEvents_of_fresh fun other member => fresh other (List.mem_cons_of_mem _ member)]
    rfl

/-- A translation that raises has not touched the sync checkpoints. -/
theorem translateEvents_eq_error :
    ∀ {events : List EnzymeBalanceEvent} {s s' : State},
      translateEvents events s = .error e s' → s'.sync = s.sync
  | [], _, _, raised => by simp [translateEvents] at raised
  | _ :: _, _, _, raised => by
    simp only [translateEvents, bind_eq_error, bind_eq_ok] at raised
    rcases raised with first | ⟨updates, middle, translated, rest⟩
    · obtain ⟨p, -, rfl⟩ := liftPortfolio_eq_error.mp first
      rfl
    · have synced := (translateAndApplyEvent_eq_ok translated).1
      rcases rest with rest | ⟨more, final, _, raised⟩
      · exact (translateEvents_eq_error rest).trans synced
      · simp at raised

/-- **`sync_treasury` as a batch.** A call that returns translated the events of its
window, recorded the updates in `processed_events` and wrote the checkpoint. -/
theorem syncTreasury_eq_ok {chainEvents : List EnzymeBalanceEvent} {cycle now head : Nat}
    {updates : List BalanceUpdate}
    (returned : syncTreasury sameEvent chainEvents cycle now head s = .ok updates s') :
    s.sync.isInitialised ∧ ∃ translated,
      translateEvents (fetchVaultBalanceEvents chainEvents (startBlock s.sync) head) s =
        .ok updates translated ∧
      s' = { translated with sync := { s.sync with treasury := { s.sync.treasury with
        processedEvents := recordAll s.sync.treasury.processedEvents updates,
        lastBlockScanned := some head, lastUpdatedAt := some now, lastCycleAt := some cycle } } } := by
  simp only [syncTreasury, get_bind, pyAssert_bind] at returned
  split_ifs at returned with initialised
  rw [bind_eq_ok] at returned
  obtain ⟨events, translated, translation, rest⟩ := returned
  simp only [get_bind, bind_eq_ok, modify_bind, pure_apply, EStateM.Result.ok.injEq] at rest
  obtain ⟨_, recorded, recording, rfl, rfl⟩ := rest
  have synced := (translateEvents_eq_ok translation).1
  refine ⟨initialised, translated, translation, ?_⟩
  rw [recordEvents_eq_ok recording]
  obtain ⟨portfolio, sync⟩ := translated
  subst synced
  rfl

/-- Conversely, on an initialised state a window that translates to updates none of
which was processed before makes `sync_treasury` return them. -/
theorem syncTreasury_of_translateEvents {chainEvents : List EnzymeBalanceEvent}
    {cycle now head : Nat} {updates : List BalanceUpdate} {translated : State}
    (initialised : s.sync.isInitialised)
    (translation : translateEvents (fetchVaultBalanceEvents chainEvents (startBlock s.sync) head) s =
      .ok updates translated)
    (fresh : ∀ update ∈ updates,
      (s.sync.treasury.processedEvents.map Prod.snd).any (sameEvent update) = false) :
    syncTreasury sameEvent chainEvents cycle now head s = .ok updates
      { translated with sync := { s.sync with treasury := { s.sync.treasury with
        processedEvents := recordAll s.sync.treasury.processedEvents updates,
        lastBlockScanned := some head, lastUpdatedAt := some now, lastCycleAt := some cycle } } } := by
  have synced := (translateEvents_eq_ok translation).1
  simp only [syncTreasury, get_bind, pyAssert_bind, if_pos initialised]
  rw [bind_of_ok translation]
  simp only [get_bind, synced]
  rw [bind_of_ok (recordEvents_of_fresh fresh)]
  simp only [modify_bind, pure_apply, State.setTreasury, synced]

/-- A call whose window holds no vault event only moves the checkpoint. -/
theorem syncTreasury_of_empty_window {chainEvents : List EnzymeBalanceEvent} {cycle now head : Nat}
    (initialised : s.sync.isInitialised)
    (empty : fetchVaultBalanceEvents chainEvents (startBlock s.sync) head = []) :
    syncTreasury sameEvent chainEvents cycle now head s = .ok [] { s with sync := { s.sync with
      treasury := { s.sync.treasury with
        lastBlockScanned := some head, lastUpdatedAt := some now, lastCycleAt := some cycle } } } :=
  syncTreasury_of_translateEvents initialised (by rw [empty]; rfl)
    fun _ member => absurd member (List.not_mem_nil _)

/-- **`sync_treasury` is not atomic, but its checkpoint is.** When a call raises,
`last_block_scanned`, `last_updated_at` and `last_cycle_at` are as before it. Its
`processed_events` is as before it too, unless the duplicate assertion fired: then the
window translated to updates, one of which an earlier processed event matches, and the
updates before that one are already written under their ids. -/
theorem syncTreasury_checkpoint_of_error {chainEvents : List EnzymeBalanceEvent}
    {cycle now head : Nat} (raised : syncTreasury sameEvent chainEvents cycle now head s = .error e s') :
    s'.sync.treasury.lastBlockScanned = s.sync.treasury.lastBlockScanned ∧
      s'.sync.treasury.lastUpdatedAt = s.sync.treasury.lastUpdatedAt ∧
      s'.sync.treasury.lastCycleAt = s.sync.treasury.lastCycleAt ∧
      (s'.sync.treasury.processedEvents = s.sync.treasury.processedEvents ∨
        ∃ recorded duplicate rest translated,
          translateEvents (fetchVaultBalanceEvents chainEvents (startBlock s.sync) head) s =
            .ok (recorded ++ duplicate :: rest) translated ∧
          (s.sync.treasury.processedEvents.map Prod.snd).any (sameEvent duplicate) = true ∧
          e = .assertionError "Event already processed" ∧
          s'.sync.treasury.processedEvents = recordAll s.sync.treasury.processedEvents recorded) := by
  simp only [syncTreasury, get_bind, pyAssert_bind] at raised
  split_ifs at raised
  · rw [bind_eq_error] at raised
    rcases raised with translation | ⟨events, translated, translation, rest⟩
    · rw [translateEvents_eq_error translation]
      exact ⟨rfl, rfl, rfl, .inl rfl⟩
    · have synced := (translateEvents_eq_ok translation).1
      simp only [get_bind, bind_eq_error, bind_eq_ok, modify_bind] at rest
      rcases rest with recording | ⟨_, _, _, raised⟩
      · obtain ⟨recorded, duplicate, later, rfl, seen, assertion, rfl⟩ := recordEvents_eq_error recording
        rw [synced] at seen
        refine ⟨?_, ?_, ?_, .inr ⟨recorded, duplicate, later, translated, translation, seen, assertion, ?_⟩⟩ <;>
          simp only [State.setTreasury, synced]
      · cases raised
  · simp only [EStateM.Result.error.injEq] at raised
    rw [raised.2]
    exact ⟨rfl, rfl, rfl, .inl rfl⟩

/-- A second token at address 2 that the vault does not hold. -/
def wethAsset : AssetIdentifier :=
  { chainId := 1, address := 2, tokenSymbol := "WETH", decimals := 0 }

/-- An in-kind redemption of 50 USDC and 1 WETH in block 3. -/
def partialRedemption : Redemption :=
  { redeemer := 0, redeemedAssets := [(usdcAsset, 50), (wethAsset, 1)], timestamp := 0,
    blockNumber := 3, transactionHash := 0, logIndex := 0 }

/-- The USDC leg of the redemption is applied and its balance update id allocated, and
then the WETH leg raises, having no related holder. -/
theorem syncTreasury_partialRedemption :
    syncTreasury (fun _ _ => false) [.redemption partialRedemption] 0 0 3 usdcVault =
      .error (.unknownAsset wethAsset) { usdcVault with
        portfolio := usdcVault.portfolio.recordUpdate (.reserve 1) (-usdcAsset.convertToDecimal 50) } := by
  obtain ⟨_, first⟩ : ∃ update, redeemAsset partialRedemption usdcAsset 50 usdcVault.portfolio =
      .ok update (usdcVault.portfolio.recordUpdate (.reserve 1) (-usdcAsset.convertToDecimal 50)) :=
    redeemAsset_eq_ok_of_positive rfl rfl usdcVault_reserve_positive
  have second : redeemAsset partialRedemption wethAsset 1
      (usdcVault.portfolio.recordUpdate (.reserve 1) (-usdcAsset.convertToDecimal 50)) =
        .error (.unknownAsset wethAsset)
          (usdcVault.portfolio.recordUpdate (.reserve 1) (-usdcAsset.convertToDecimal 50)) := by
    apply redeemAsset_eq_error_of_unrelated
    unfold getRelatedPosition
    simp only [get_bind, pyAssert_bind, Portfolio.reserves_length_recordUpdate]
    rfl
  have translated : translateEvents [.redemption partialRedemption] usdcVault =
      .error (.unknownAsset wethAsset) { usdcVault with
        portfolio := usdcVault.portfolio.recordUpdate (.reserve 1) (-usdcAsset.convertToDecimal 50) } := by
    apply bind_of_error
    refine liftPortfolio_eq_error.mpr ⟨_, ?_, rfl⟩
    show bind (redeemAsset _ _ _) _ _ = _
    rw [bind_of_ok first]
    apply bind_of_error
    exact bind_of_error second
  unfold syncTreasury
  simp only [get_bind, pyAssert_bind, if_pos (show usdcVault.sync.isInitialised from rfl)]
  exact bind_of_error translated

/-- The portfolio is not rolled back: the failed sync leaves the vault's reserve at 50
USDC instead of 100, with balance update 1 in its list and the counter advanced. -/
theorem syncTreasury_keeps_partial_redemption :
    syncTreasury (fun _ _ => false) [.redemption partialRedemption] 0 0 3 usdcVault =
      .error (.unknownAsset wethAsset) { usdcVault with
        portfolio := usdcVault.portfolio.recordUpdate (.reserve 1) (-usdcAsset.convertToDecimal 50) } ∧
    usdcVault.portfolio.holderQuantity (.reserve 1) = 100 ∧
    (usdcVault.portfolio.recordUpdate (.reserve 1) (-usdcAsset.convertToDecimal 50)).holderQuantity
      (.reserve 1) = 50 ∧
    usdcVault.portfolio.holderBalanceUpdates (.reserve 1) = [] ∧
    (usdcVault.portfolio.recordUpdate (.reserve 1) (-usdcAsset.convertToDecimal 50)).holderBalanceUpdates
      (.reserve 1) = [1] ∧
    (usdcVault.portfolio.recordUpdate (.reserve 1) (-usdcAsset.convertToDecimal 50)).nextBalanceUpdateId ≠
      usdcVault.portfolio.nextBalanceUpdateId := by
  have before : usdcVault.portfolio.holderQuantity (.reserve 1) = 100 := rfl
  refine ⟨syncTreasury_partialRedemption, before, ?_, rfl, ?_, by simp⟩
  · rw [Portfolio.holderQuantity_recordUpdate (by rfl), before]
    norm_num [AssetIdentifier.convertToDecimal, usdcAsset]
  · rw [Portfolio.holderBalanceUpdates_recordUpdate (by rfl)]
    rfl

/-- Balance updates of the same chain event: the same transaction and log index. -/
def sameChainEvent (update past : BalanceUpdate) : Bool :=
  update.txHash == past.txHash && update.logIndex == past.logIndex

/-- A deposit of 10 USDC in block 3, in transaction `transactionHash`. -/
def usdcDeposit (transactionHash : Nat) : Deposit :=
  { denominationToken := usdcAsset, investmentAmount := 10, receiver := 0, timestamp := 0,
    blockNumber := 3, transactionHash, logIndex := 0 }

/-- The USDC vault with the deposit of transaction 7 already processed, under id 0. -/
def replayVault : State :=
  State.setTreasury usdcVault { processedEvents := [(0,
    { balanceUpdateId := 0, positionType := .reserve, cause := .deposit, asset := usdcAsset,
      blockMinedAt := 0, chainId := 1, txHash := some 7, logIndex := some 0 })] }

/-- A window holding a new deposit and then the deposit of transaction 7 again: the
duplicate assertion fires at the second update, after the first was written under id 1. -/
theorem syncTreasury_checkpoint_of_replay : ∃ s',
    syncTreasury sameChainEvent [.deposit (usdcDeposit 8), .deposit (usdcDeposit 7)] 0 0 3 replayVault =
      .error (.assertionError "Event already processed") s' ∧
    s'.sync.treasury.processedEvents.map Prod.fst = [0, 1] ∧
    s'.sync.treasury.lastBlockScanned = replayVault.sync.treasury.lastBlockScanned ∧
      s'.sync.treasury.lastUpdatedAt = replayVault.sync.treasury.lastUpdatedAt ∧
      s'.sync.treasury.lastCycleAt = replayVault.sync.treasury.lastCycleAt ∧
      (s'.sync.treasury.processedEvents = replayVault.sync.treasury.processedEvents ∨
        ∃ recorded duplicate rest translated,
          translateEvents (fetchVaultBalanceEvents [.deposit (usdcDeposit 8), .deposit (usdcDeposit 7)]
            (startBlock replayVault.sync) 3) replayVault = .ok (recorded ++ duplicate :: rest) translated ∧
          (replayVault.sync.treasury.processedEvents.map Prod.snd).any (sameChainEvent duplicate) = true ∧
          Error.assertionError "Event already processed" = .assertionError "Event already processed" ∧
          s'.sync.treasury.processedEvents =
            recordAll replayVault.sync.treasury.processedEvents recorded) :=
  have raised : syncTreasury sameChainEvent [.deposit (usdcDeposit 8), .deposit (usdcDeposit 7)] 0 0 3
      replayVault = .error (.assertionError "Event already processed") _ := rfl
  ⟨_, raised, rfl, syncTreasury_checkpoint_of_error raised⟩

end EnzymeVaultSyncModel

open EnzymeVaultSyncModel

variable {sameEvent : BalanceUpdate → BalanceUpdate → Bool} {chainEvents : List EnzymeBalanceEvent}

/-- A run goes on from the state its first call returned. -/
theorem syncRun_cons_of_ok {call : SyncCall} {rest : List SyncCall} {s middle s' : State}
    {first more : List BalanceUpdate}
    (called : syncTreasury sameEvent chainEvents call.strategyCycleTs call.now call.head s =
      .ok first middle)
    (remaining : syncRun sameEvent chainEvents rest middle = .ok more s') :
    syncRun sameEvent chainEvents (call :: rest) s = .ok (first ++ more) s' := by
  show bind (syncTreasury _ _ _ _ _) _ s = _
  rw [bind_of_ok called]
  show bind (syncRun _ _ _) _ _ = _
  rw [bind_of_ok remaining]
  rfl

/-- Every key of `processed_events` lies below the balance-update counter. -/
def KeysBelowCounter (s : State) : Prop :=
  ∀ key ∈ s.sync.treasury.processedEvents.map Prod.fst, key < s.portfolio.nextBalanceUpdateId

/-- A run of calls is one ledger run over all its updates, and from keys below the
counter it appends each update to `processed_events` under its id, keeping the keys
below the counter. -/
theorem syncRun_eq_ok :
    ∀ {calls : List SyncCall} {s s' : State} {updates : List BalanceUpdate},
      syncRun sameEvent chainEvents calls s = .ok updates s' →
      LedgerRun s.portfolio updates s'.portfolio ∧
        (KeysBelowCounter s → KeysBelowCounter s' ∧ s'.sync.treasury.processedEvents =
          s.sync.treasury.processedEvents ++ updates.map fun u => (u.balanceUpdateId, u))
  | [], _, _, _, returned => by
    simp only [syncRun, pure_apply, EStateM.Result.ok.injEq] at returned
    obtain ⟨rfl, rfl⟩ := returned
    exact ⟨.nil _, fun below => ⟨below, by simp⟩⟩
  | _ :: _, s, _, _, returned => by
    simp only [syncRun, bind_eq_ok, pure_apply, EStateM.Result.ok.injEq] at returned
    obtain ⟨first, middle, called, more, final, remaining, rfl, rfl⟩ := returned
    obtain ⟨_, translated, translation, written⟩ := syncTreasury_eq_ok called
    obtain ⟨-, run⟩ := translateEvents_eq_ok translation
    obtain ⟨run', recorded⟩ := syncRun_eq_ok remaining
    have portfolio : middle.portfolio = translated.portfolio := by rw [written]
    rw [portfolio] at run'
    refine ⟨run.append run', fun below => ?_⟩
    have fresh : ∀ update ∈ first,
        update.balanceUpdateId ∉ s.sync.treasury.processedEvents.map Prod.fst :=
      fun update member stored =>
        absurd (below _ stored) (Nat.not_lt.mpr (run.id_mem_range member).1)
    have distinct : (first.map (·.balanceUpdateId)).Nodup := by
      rw [run.ids_eq_range']
      exact List.nodup_range' _ _
    have appended := recordAll_of_fresh fresh distinct
    have below' : KeysBelowCounter middle := by
      intro key stored
      rw [written] at stored
      simp only [appended, List.map_append, List.map_map, List.mem_append, List.mem_map,
        Function.comp] at stored
      rw [portfolio]
      rcases stored with old | ⟨update, member, rfl⟩
      · exact lt_of_lt_of_le (below key (List.mem_map.mpr old))
          (by rw [run.nextBalanceUpdateId_eq]; omega)
      · exact (run.id_mem_range member).2
    obtain ⟨below'', stored⟩ := recorded below'
    refine ⟨below'', ?_⟩
    rw [stored, written]
    simp [appended]

/-- Two cycles over the USDC vault: the first scans blocks 2 to 3 and meets the
redemption, the second scans blocks 4 to 5 and finds nothing. -/
theorem syncRun_halfRedemption : ∃ updates s',
    syncRun (fun _ _ => false) [.redemption halfRedemption] [⟨0, 0, 3⟩, ⟨1, 1, 5⟩] usdcVault =
      .ok updates s' := by
  obtain ⟨_, translated⟩ := translateEvents_halfRedemption
  exact ⟨_, _, syncRun_cons_of_ok (syncTreasury_of_translateEvents rfl translated (by simp))
    (syncRun_cons_of_ok (syncTreasury_of_empty_window rfl rfl) rfl)⟩

end Enzyme

end TradeExecutor
