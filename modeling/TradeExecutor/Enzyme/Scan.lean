import TradeExecutor.Enzyme.Sync

/-! # Exactly-once scanning of the vault's event stream

The chain is modelled by its vault events in block order, none before the
deployment block, and by the head each call of `sync_treasury` sees. Each call
reads the window from one past the last scanned block to the head; with heads
that never decrease these windows tile the chain from the deployment block to the
latest head (`TradeExecutor.Enzyme.window_tiles`), so a whole run of calls has the
effect of translating each event of that stretch once, in order
(`TradeExecutor.Enzyme.syncRun_scans_each_event_once`).
-/

namespace TradeExecutor

namespace Enzyme

open EnzymeVaultSyncModel

/-- The last block the treasury scan has read, `0` before the first scan. -/
def scannedTo (sync : Sync) : Nat := sync.treasury.lastBlockScanned.getD 0

section Windows

variable {chainEvents : List EnzymeBalanceEvent}

/-- Two adjacent windows of a chain in block order read the window they span. -/
theorem fetchVaultBalanceEvents_append
    (sorted : chainEvents.Pairwise fun a b => a.blockNumber ≤ b.blockNumber) {a h c : Nat}
    (joined : a ≤ h + 1) (ordered : h ≤ c) :
    fetchVaultBalanceEvents chainEvents a h ++ fetchVaultBalanceEvents chainEvents (h + 1) c =
      fetchVaultBalanceEvents chainEvents a c := by
  induction chainEvents with
  | nil => rfl
  | cons x xs ih =>
    rw [List.pairwise_cons] at sorted
    by_cases early : x.blockNumber ≤ h
    · have notLate : ¬(h + 1 ≤ x.blockNumber) := by omega
      by_cases started : a ≤ x.blockNumber
      · simp [fetchVaultBalanceEvents, List.filter_cons, early, notLate, started,
          show x.blockNumber ≤ c by omega] at ih ⊢
        exact ih sorted.2
      · simp [fetchVaultBalanceEvents, List.filter_cons, notLate, started] at ih ⊢
        exact ih sorted.2
    · have none : fetchVaultBalanceEvents xs a h = [] := by
        rw [fetchVaultBalanceEvents, List.filter_eq_nil_iff]
        intro y member
        have := sorted.1 y member
        simp only [decide_eq_true_eq, not_and, not_le]
        omega
      have rest : fetchVaultBalanceEvents xs (h + 1) c = fetchVaultBalanceEvents xs a c := by
        unfold fetchVaultBalanceEvents
        apply List.filter_congr
        intro y member
        have := sorted.1 y member
        simp only [decide_eq_decide]
        omega
      unfold fetchVaultBalanceEvents at none rest ⊢
      rw [List.filter_cons_of_neg (by simp only [decide_eq_true_eq]; omega), none, List.nil_append]
      by_cases inWindow : x.blockNumber ≤ c
      · rw [List.filter_cons_of_pos (by simp only [decide_eq_true_eq]; omega),
          List.filter_cons_of_pos (by simp only [decide_eq_true_eq]; omega), rest]
      · rw [List.filter_cons_of_neg (by simp only [decide_eq_true_eq]; omega),
          List.filter_cons_of_neg (by simp only [decide_eq_true_eq]; omega), rest]

/-- A window that ends before it starts reads nothing. -/
theorem fetchVaultBalanceEvents_of_lt {a c : Nat} (empty : c < a) :
    fetchVaultBalanceEvents chainEvents a c = [] := by
  rw [fetchVaultBalanceEvents, List.filter_eq_nil_iff]
  intro event _
  simp only [decide_eq_true_eq, not_and, not_le]
  omega

/-- Starting a window anywhere before the deployment block reads what starting it at
the deployment block reads. -/
theorem fetchVaultBalanceEvents_of_le_deployment {dep a c : Nat}
    (afterDeployment : ∀ event ∈ chainEvents, dep ≤ event.blockNumber) (before : a ≤ dep) :
    fetchVaultBalanceEvents chainEvents a c = fetchVaultBalanceEvents chainEvents dep c := by
  unfold fetchVaultBalanceEvents
  apply List.filter_congr
  intro event member
  have := afterDeployment event member
  simp only [decide_eq_decide]
  omega

variable {dep : Nat} {sync : Sync}

/-- **The windows tile the chain.** What has been scanned, followed by the window
of the next call, is the chain from the deployment block to the new head. -/
theorem window_tiles (sorted : chainEvents.Pairwise fun a b => a.blockNumber ≤ b.blockNumber)
    (afterDeployment : ∀ event ∈ chainEvents, dep ≤ event.blockNumber) (positive : 0 < dep)
    (deployed : sync.deployment.blockNumber = some dep) {head : Nat}
    (advanced : scannedTo sync ≤ head) :
    fetchVaultBalanceEvents chainEvents dep (scannedTo sync) ++
        fetchVaultBalanceEvents chainEvents (startBlock sync) head =
      fetchVaultBalanceEvents chainEvents dep head := by
  have unscanned : fetchVaultBalanceEvents chainEvents dep 0 = [] :=
    fetchVaultBalanceEvents_of_lt positive
  unfold scannedTo startBlock at *
  cases scanned : sync.treasury.lastBlockScanned with
  | none => simp [deployed, unscanned]
  | some last =>
    simp only [scanned, Option.getD_some] at advanced ⊢
    by_cases zero : last = 0
    · simp [zero, deployed, unscanned]
    · simp only [zero, ne_eq, not_false_eq_true, ↓reduceIte]
      by_cases joined : dep ≤ last + 1
      · exact fetchVaultBalanceEvents_append sorted joined advanced
      · rw [fetchVaultBalanceEvents_of_lt (by omega), List.nil_append,
          fetchVaultBalanceEvents_of_le_deployment afterDeployment (by omega)]

/-- A call at the head already scanned reads an empty window. -/
theorem window_of_scanned (positive : 0 < dep) (deployed : sync.deployment.blockNumber = some dep) :
    fetchVaultBalanceEvents chainEvents (startBlock sync) (scannedTo sync) = [] := by
  unfold scannedTo startBlock
  cases scanned : sync.treasury.lastBlockScanned with
  | none => simpa [deployed] using fetchVaultBalanceEvents_of_lt positive
  | some last =>
    by_cases zero : last = 0
    · simpa [zero, deployed] using fetchVaultBalanceEvents_of_lt positive
    · simpa [zero] using fetchVaultBalanceEvents_of_lt (Nat.lt_succ_self last)

end Windows

namespace EnzymeVaultSyncModel

variable {s s₁ s₂ : State} {updates more : List BalanceUpdate}

/-- Translating an event reads and writes the portfolio only. -/
theorem translateAndApplyEvent_withSync {event : EnzymeBalanceEvent} (sync : Sync)
    (returned : translateAndApplyEvent event s = .ok updates s₁) :
    translateAndApplyEvent event { s with sync } = .ok updates { s₁ with sync } := by
  unfold translateAndApplyEvent at returned ⊢
  obtain ⟨p, inner, rfl⟩ := liftPortfolio_eq_ok.mp returned
  exact liftPortfolio_eq_ok.mpr ⟨p, inner, rfl⟩

/-- Translating a batch reads and writes the portfolio only. -/
theorem translateEvents_withSync (sync : Sync) :
    ∀ {events : List EnzymeBalanceEvent} {s s₁ : State} {updates : List BalanceUpdate},
      translateEvents events s = .ok updates s₁ →
      translateEvents events { s with sync } = .ok updates { s₁ with sync }
  | [], _, _, _, returned => by
    simp only [translateEvents, pure_apply, EStateM.Result.ok.injEq] at returned ⊢
    obtain ⟨rfl, rfl⟩ := returned
    exact ⟨rfl, rfl⟩
  | _ :: _, _, _, _, returned => by
    simp only [translateEvents, bind_eq_ok, pure_apply, EStateM.Result.ok.injEq] at returned
    obtain ⟨first, middle, translated, rest, final, remaining, rfl, rfl⟩ := returned
    rw [translateEvents, bind_of_ok (translateAndApplyEvent_withSync sync translated),
      bind_of_ok (translateEvents_withSync sync remaining)]
    rfl

/-- Translating two batches one after the other translates their concatenation. -/
theorem translateEvents_append :
    ∀ {first second : List EnzymeBalanceEvent} {s s₁ s₂ : State}
      {updates more : List BalanceUpdate},
      translateEvents first s = .ok updates s₁ → translateEvents second s₁ = .ok more s₂ →
      translateEvents (first ++ second) s = .ok (updates ++ more) s₂
  | [], _, _, _, _, _, _, returned, next => by
    simp only [translateEvents, pure_apply, EStateM.Result.ok.injEq] at returned
    obtain ⟨rfl, rfl⟩ := returned
    exact next
  | _ :: _, _, _, _, _, _, _, returned, next => by
    simp only [translateEvents, bind_eq_ok, pure_apply, EStateM.Result.ok.injEq] at returned
    obtain ⟨head, middle, translated, rest, final, remaining, rfl, rfl⟩ := returned
    rw [List.cons_append, translateEvents, bind_of_ok translated,
      bind_of_ok (translateEvents_append remaining next), List.append_assoc]
    rfl

end EnzymeVaultSyncModel

section Run

variable {sameEvent : BalanceUpdate → BalanceUpdate → Bool} {chainEvents : List EnzymeBalanceEvent}
  {dep : Nat}

/-- The last scanned block of a run: the last head seen, else the checkpoint it started
from. -/
theorem getLast?_or_cons {α : Type} (a : α) (l : List α) (before : Option α) :
    l.getLast?.or (some a) = (a :: l).getLast?.or before := by
  cases last : l.getLast? <;> simp [List.getLast?_cons, last]

/-- **The scan invariant.** Along a run of calls at non-decreasing heads, everything
translated since `s` is the chain from the deployment block to the last scanned
block, translated once in order on the portfolio of `s`. -/
theorem syncRun_window (sorted : chainEvents.Pairwise fun a b => a.blockNumber ≤ b.blockNumber)
    (afterDeployment : ∀ event ∈ chainEvents, dep ≤ event.blockNumber) (positive : 0 < dep)
    (s : State) :
    ∀ {calls : List SyncCall} {t t' : State} {done updates : List BalanceUpdate},
      syncRun sameEvent chainEvents calls t = .ok updates t' →
      t.sync.deployment.blockNumber = some dep →
      (calls.map (·.head)).Chain' (· ≤ ·) → (∀ head ∈ (calls.map (·.head)).head?, scannedTo t.sync ≤ head) →
      translateEvents (fetchVaultBalanceEvents chainEvents dep (scannedTo t.sync)) s =
        .ok done { t with sync := s.sync } →
      translateEvents (fetchVaultBalanceEvents chainEvents dep (scannedTo t'.sync)) s =
          .ok (done ++ updates) { t' with sync := s.sync } ∧
        t'.sync.deployment = t.sync.deployment ∧
        t'.sync.treasury.lastBlockScanned =
          (calls.map (·.head)).getLast?.or t.sync.treasury.lastBlockScanned
  | [], _, _, _, _, returned, _, _, _, scanned => by
    simp only [syncRun, pure_apply, EStateM.Result.ok.injEq] at returned
    obtain ⟨rfl, rfl⟩ := returned
    simpa using scanned
  | call :: rest, t, _, done, _, returned, deployed, ordered, started, scanned => by
    simp only [syncRun, bind_eq_ok, pure_apply, EStateM.Result.ok.injEq] at returned
    obtain ⟨first, middle, called, more, final, remaining, rfl, rfl⟩ := returned
    obtain ⟨_, translated, translation, rfl⟩ := syncTreasury_eq_ok called
    rw [List.map_cons, List.chain'_cons'] at ordered
    have tiles := window_tiles sorted afterDeployment positive deployed
      (started call.head rfl)
    have caughtUp : translateEvents (fetchVaultBalanceEvents chainEvents dep call.head) s =
        .ok (done ++ first) { translated with sync := s.sync } := by
      rw [← tiles]
      exact translateEvents_append scanned (translateEvents_withSync s.sync translation)
    obtain ⟨window, deployment, last⟩ :=
      syncRun_window sorted afterDeployment positive s remaining deployed ordered.2 ordered.1 caughtUp
    refine ⟨by rwa [List.append_assoc] at window, deployment, ?_⟩
    rw [last, List.map_cons]
    exact getLast?_or_cons _ _ _

/-- **Exactly-once scanning of the vault's event stream.** Run any calls of
`sync_treasury` that return, at heads that never decrease, from an initialised state
that never scanned, on a chain whose vault events are in block order and none before
the deployment block. Then the last scanned block is the latest head, and the run
had the effect of translating exactly the chain's events from the deployment block
to it, each once and in order. A further call at that same head translates nothing,
returns nothing and leaves the checkpoint's block and `processed_events` as they
were. -/
theorem syncRun_scans_each_event_once
    (sorted : chainEvents.Pairwise fun a b => a.blockNumber ≤ b.blockNumber)
    (afterDeployment : ∀ event ∈ chainEvents, dep ≤ event.blockNumber) (positive : 0 < dep)
    {calls : List SyncCall} {s s' : State} {updates : List BalanceUpdate}
    (deployed : s.sync.deployment.blockNumber = some dep)
    (unscanned : s.sync.treasury.lastBlockScanned = none)
    (nondecreasing : (calls.map (·.head)).Chain' (· ≤ ·))
    (returned : syncRun sameEvent chainEvents calls s = .ok updates s') :
    s'.sync.treasury.lastBlockScanned = (calls.map (·.head)).getLast? ∧
      translateEvents (fetchVaultBalanceEvents chainEvents dep (scannedTo s'.sync)) s =
        .ok updates { s' with sync := s.sync } ∧
      ∀ (call : SyncCall) (more : List BalanceUpdate) (s'' : State),
        s'.sync.treasury.lastBlockScanned = some call.head →
        syncTreasury sameEvent chainEvents call.strategyCycleTs call.now call.head s' =
          .ok more s'' →
        more = [] ∧ s''.portfolio = s'.portfolio ∧
          s''.sync.treasury.lastBlockScanned = s'.sync.treasury.lastBlockScanned ∧
          s''.sync.treasury.processedEvents = s'.sync.treasury.processedEvents := by
  have nothingYet : translateEvents (fetchVaultBalanceEvents chainEvents dep (scannedTo s.sync)) s =
      .ok [] { s with sync := s.sync } := by
    simp [scannedTo, unscanned, fetchVaultBalanceEvents_of_lt positive, translateEvents]
  obtain ⟨window, deployment, last⟩ := syncRun_window sorted afterDeployment positive s returned
    deployed nondecreasing (by simp [scannedTo, unscanned]) nothingYet
  refine ⟨by simpa [unscanned] using last, by simpa using window, ?_⟩
  intro call more s'' scanned idle
  obtain ⟨_, translated, translation, rfl⟩ := syncTreasury_eq_ok idle
  have empty : fetchVaultBalanceEvents chainEvents (startBlock s'.sync) (scannedTo s'.sync) = [] :=
    window_of_scanned positive (by rw [deployment]; exact deployed)
  simp only [scannedTo, scanned, Option.getD_some] at empty
  rw [empty] at translation
  simp only [translateEvents, pure_apply, EStateM.Result.ok.injEq] at translation
  obtain ⟨rfl, rfl⟩ := translation
  exact ⟨rfl, rfl, scanned.symm, by simp [recordAll]⟩

/-- The two cycles over the USDC vault scan the redemption once. -/
theorem syncRun_scans_halfRedemption_once : ∃ updates s',
    syncRun (fun _ _ => false) [.redemption halfRedemption] [⟨0, 0, 3⟩, ⟨1, 1, 5⟩] usdcVault =
      .ok updates s' ∧
    s'.sync.treasury.lastBlockScanned = some 5 ∧
      translateEvents (fetchVaultBalanceEvents [.redemption halfRedemption] 2 (scannedTo s'.sync))
        usdcVault = .ok updates { s' with sync := usdcVault.sync } ∧
      ∀ (call : SyncCall) (more : List BalanceUpdate) (s'' : State),
        s'.sync.treasury.lastBlockScanned = some call.head →
        syncTreasury (fun _ _ => false) [.redemption halfRedemption] call.strategyCycleTs call.now
          call.head s' = .ok more s'' →
        more = [] ∧ s''.portfolio = s'.portfolio ∧
          s''.sync.treasury.lastBlockScanned = s'.sync.treasury.lastBlockScanned ∧
          s''.sync.treasury.processedEvents = s'.sync.treasury.processedEvents := by
  obtain ⟨updates, s', run⟩ := syncRun_halfRedemption
  exact ⟨updates, s', run, syncRun_scans_each_event_once (by simp) (by decide) (by decide) rfl rfl
    (by simp) run⟩

end Run

end Enzyme

end TradeExecutor
