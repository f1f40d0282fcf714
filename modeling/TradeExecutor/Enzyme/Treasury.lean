import TradeExecutor.Enzyme.Vault
import TradeExecutor.Enzyme.Ledger

/-! # Treasury translation refines the ledger

Each vault method is one ledger step or run: a deposit is one step on the
reserve (after opening it on the first deposit), a redemption one step per
redeemed asset on the holder `get_related_position` picks
(`TradeExecutor.Portfolio.relatedHolder?`). Translating a batch of events is a
`TradeExecutor.LedgerRun`, so the ledger's conservation, chaining and id facts hold
of it.
-/

namespace TradeExecutor

namespace Portfolio

/-- The holder `get_related_position` returns, leaving out its reserve-count check. -/
def relatedHolder? (portfolio : Portfolio) (asset : AssetIdentifier) : Option Holder :=
  if (portfolio.getReserve? asset.address).isSome then some (.reserve asset.address)
  else (portfolio.getOpenPositionForAsset asset).map fun position => .position position.positionId

variable {portfolio : Portfolio} {asset : AssetIdentifier} {holder : Holder}

/-- The related holder of an asset is present in the portfolio. -/
theorem holderState?_isSome_of_relatedHolder? (related : portfolio.relatedHolder? asset = some holder) :
    (portfolio.holderState? holder).isSome := by
  unfold relatedHolder? at related
  split at related
  · cases related
    simpa [holderState?] using ‹_›
  · obtain ⟨position, found, rfl⟩ := Option.map_eq_some'.mp related
    have member := List.mem_of_find?_eq_some found
    simp only [holderState?, getPositionById?, Option.isSome_map]
    split
    · rfl
    · rename_i absent
      exact absurd (List.find?_eq_none.mp absent position member) (by simp)

/-- A related reserve is the reserve of the asset's own address. -/
theorem relatedHolder?_reserve {address : Nat}
    (related : portfolio.relatedHolder? asset = some (.reserve address)) :
    address = asset.address := by
  unfold relatedHolder? at related
  split at related
  · cases related; rfl
  · simp at related

/-- Moving quantities and appending ids changes no lookup `get_related_position` makes. -/
theorem relatedHolder?_applyToHolder (delta : ℚ) (eventId : Nat) :
    (portfolio.applyToHolder holder delta eventId).relatedHolder? = portfolio.relatedHolder? := by
  funext asset
  have reserveFound : ∀ o : Option ReservePosition, o.isSome = (o.map fun _ => ()).isSome :=
    fun o => by cases o <;> rfl
  have positionFound : ∀ o : Option TradingPosition,
      o.map (fun p => Holder.position p.positionId) = (o.map (·.positionId)).map Holder.position :=
    fun o => by cases o <;> rfl
  cases holder with
  | reserve address =>
    have reserve : (((portfolio.applyToHolder (.reserve address) delta eventId).getReserve?
        asset.address).map fun _ => ()) = (portfolio.getReserve? asset.address).map fun _ => () :=
      find?_updateByKey_map (by intro; rfl) (by intro; rfl) _
    simp only [relatedHolder?, reserveFound (getReserve? _ _), reserve]
    rfl
  | position positionId =>
    have positions : ((portfolio.applyToHolder (.position positionId) delta eventId
        ).getOpenPositionForAsset asset).map (·.positionId) =
        (portfolio.getOpenPositionForAsset asset).map (·.positionId) := by
      simp only [applyToHolder, modifyPosition, getOpenPositionForAsset]
      split_ifs
      · exact find?_updateByKey_map (by intro; rfl) (by intro; rfl) _
      · rfl
      · rfl
    simp only [relatedHolder?, positionFound (getOpenPositionForAsset _ _), positions]
    simp only [applyToHolder, getReserve?, modifyPosition_reserves]

/-- Recording an update changes no lookup `get_related_position` makes. -/
@[simp] theorem relatedHolder?_recordUpdate (delta : ℚ) :
    (portfolio.recordUpdate holder delta).relatedHolder? = portfolio.relatedHolder? := by
  rw [recordUpdate, relatedHolder?_applyToHolder]
  rfl

/-- Recording an update keeps the number of reserves. -/
@[simp] theorem reserves_length_recordUpdate (delta : ℚ) :
    (portfolio.recordUpdate holder delta).reserves.length = portfolio.reserves.length := by
  cases holder <;> simp [recordUpdate, applyToHolder]

end Portfolio

namespace Enzyme

/-- What one vault event does in the ledger of `portfolio`: a deposit is one update
raising the reserve of its token by the invested amount; a redemption is one
update per redeemed asset, in order, lowering the holder `get_related_position`
picks by the redeemed amount. -/
def EventEffect (portfolio : Portfolio) : EnzymeBalanceEvent → List BalanceUpdate → Prop
  | .deposit event, updates => ∃ update, updates = [update] ∧
      update.holder = .reserve event.denominationToken.address ∧
      update.delta = event.investmentAmount
  | .redemption event, updates => List.Forall₂ (fun (redeemed : AssetIdentifier × Nat) update =>
      portfolio.relatedHolder? redeemed.1 = some update.holder ∧
        update.delta = -redeemed.1.convertToDecimal redeemed.2) event.redeemedAssets updates

namespace EnzymeVaultSyncModel

variable {portfolio after : Portfolio} {asset : AssetIdentifier} {update : BalanceUpdate}

/-- A balance update built with a holder's position type and id belongs to it. -/
theorem holder_eq (update : BalanceUpdate) {holder : Holder}
    (type : update.positionType = Holder.positionType holder)
    (id : update.positionId = Holder.positionId holder)
    (address : ∀ a, holder = .reserve a → update.asset.address = a) : update.holder = holder := by
  cases holder with
  | reserve a => simp [BalanceUpdate.holder, type, Holder.positionType, address a rfl]
  | position p => simp [BalanceUpdate.holder, type, id, Holder.positionType, Holder.positionId]

/-- `get_related_position` returns exactly the related holder, under its reserve-count
check, and changes nothing. -/
theorem getRelatedPosition_eq_ok {holder : Holder} :
    getRelatedPosition asset portfolio = .ok holder after ↔
      portfolio.reserves.length = 1 ∧ portfolio.relatedHolder? asset = some holder ∧
        after = portfolio := by
  unfold getRelatedPosition
  simp only [get_bind, pyAssert_bind]
  by_cases single : portfolio.reserves.length = 1
  · simp only [single, ↓reduceIte, true_and, Portfolio.relatedHolder?]
    cases found : portfolio.getReserve? asset.address with
    | some reserve => simp [eq_comm]
    | none => cases position : portfolio.getOpenPositionForAsset asset <;> simp [eq_comm]
  · simp [single]

/-- `get_related_position` changes nothing when it raises either. -/
theorem getRelatedPosition_eq_error {e : Error}
    (raised : getRelatedPosition asset portfolio = .error e after) : after = portfolio := by
  unfold getRelatedPosition at raised
  simp only [get_bind, pyAssert_bind] at raised
  split_ifs at raised
  · revert raised
    cases portfolio.getReserve? asset.address with
    | some _ => simp
    | none => cases portfolio.getOpenPositionForAsset asset <;> simp [eq_comm]
  · simp only [EStateM.Result.error.injEq] at raised
    exact raised.2.symm

/-- One redeemed asset is one ledger step on its related holder, lowering it by the
redeemed amount and leaving it positive. -/
theorem redeemAsset_eq_ok {event : Redemption} {rawAmount : Nat}
    (returned : redeemAsset event asset rawAmount portfolio = .ok update after) :
    portfolio.reserves.length = 1 ∧ portfolio.relatedHolder? asset = some update.holder ∧
      update.delta = -asset.convertToDecimal rawAmount ∧ 0 < update.newQuantity ∧
      LedgerStep portfolio update after := by
  unfold redeemAsset at returned
  rw [bind_eq_ok] at returned
  obtain ⟨holder, middle, related, rest⟩ := returned
  obtain ⟨single, found, rfl⟩ := getRelatedPosition_eq_ok.mp related
  simp only [get_bind, modify_bind, pyAssert_bind] at rest
  split_ifs at rest with positive
  simp only [pure_apply, EStateM.Result.ok.injEq] at rest
  obtain ⟨built, rfl⟩ := rest
  have present := Portfolio.holderState?_isSome_of_relatedHolder? found
  have setNext : ({ middle with nextBalanceUpdateId := middle.nextBalanceUpdateId + 1
    }).holderQuantity holder = middle.holderQuantity holder := by
    simp only [Portfolio.holderQuantity, Portfolio.holderState?_setNextBalanceUpdateId]
  have moved : (middle.recordUpdate holder (-asset.convertToDecimal rawAmount)).holderQuantity
      holder = middle.holderQuantity holder - asset.convertToDecimal rawAmount := by
    simp [Portfolio.holderQuantity_recordUpdate present, sub_eq_add_neg]
  have owner : update.holder = holder := by
    rw [← built]
    exact holder_eq _ rfl rfl fun a same => (Portfolio.relatedHolder?_reserve (same ▸ found)).symm
  have past : update.pastQuantity = middle.holderQuantity holder := by rw [← built, ← setNext]
  have new : update.newQuantity =
      middle.holderQuantity holder - asset.convertToDecimal rawAmount := by
    rw [← built, ← moved]
    rfl
  have delta : update.delta = -asset.convertToDecimal rawAmount := by
    rw [BalanceUpdate.delta, past, new]
    ring
  refine ⟨single, owner ▸ found, delta, ?_, ⟨by rw [← built], owner ▸ present, owner ▸ past, ?_⟩⟩
  · rw [new, ← moved]
    exact positive
  · rw [owner, delta]
    rfl

/-- Conversely, a redemption of a related asset that leaves its holder positive returns,
with the portfolio one ledger step further. -/
theorem redeemAsset_eq_ok_of_positive {event : Redemption} {rawAmount : Nat} {holder : Holder}
    (single : portfolio.reserves.length = 1) (related : portfolio.relatedHolder? asset = some holder)
    (positive : 0 < (portfolio.recordUpdate holder (-asset.convertToDecimal rawAmount)).holderQuantity
      holder) :
    ∃ update, redeemAsset event asset rawAmount portfolio =
      .ok update (portfolio.recordUpdate holder (-asset.convertToDecimal rawAmount)) := by
  unfold redeemAsset
  rw [bind_of_ok (getRelatedPosition_eq_ok.mpr ⟨single, related, rfl⟩)]
  simp only [get_bind, modify_bind, pyAssert_bind]
  exact ⟨_, if_pos positive⟩

/-- A redemption whose asset has no related holder raises before touching the portfolio. -/
theorem redeemAsset_eq_error_of_unrelated {event : Redemption} {rawAmount : Nat} {e : Error}
    (raised : getRelatedPosition asset portfolio = .error e portfolio) :
    redeemAsset event asset rawAmount portfolio = .error e portfolio := by
  unfold redeemAsset
  rw [bind_of_error raised]

/-- Crediting the reserve is one ledger step raising it by the invested amount. -/
theorem creditReserve_eq_ok {event : Deposit}
    (returned : creditReserve event portfolio = .ok update after) :
    update.holder = .reserve event.denominationToken.address ∧
      update.delta = event.investmentAmount ∧ LedgerStep portfolio update after := by
  unfold creditReserve at returned
  simp only [get_bind] at returned
  cases found : portfolio.getReserve? event.denominationToken.address with
  | none => simp [found] at returned
  | some reserve =>
    simp only [found, modify_bind, pure_apply, EStateM.Result.ok.injEq] at returned
    obtain ⟨rfl, rfl⟩ := returned
    have present : (portfolio.holderState? (.reserve event.denominationToken.address)).isSome := by
      simp [Portfolio.holderState?, found]
    have quantity : portfolio.holderQuantity (.reserve event.denominationToken.address) =
        reserve.quantity := by
      simp [Portfolio.holderQuantity, Portfolio.holderState?, found]
    have delta : reserve.quantity + event.investmentAmount - reserve.quantity =
        event.investmentAmount := by ring
    refine ⟨rfl, delta, ⟨rfl, present, quantity.symm, ?_⟩⟩
    simp only [BalanceUpdate.delta, delta]
    rfl

/-- A deposit is one ledger step on the reserve, after opening it when the portfolio
has none. -/
theorem processDeposit_eq_ok {event : Deposit}
    (returned : processDeposit event portfolio = .ok update after) :
    update.holder = .reserve event.denominationToken.address ∧
      update.delta = event.investmentAmount ∧ LedgerRun portfolio [update] after ∧
      (portfolio.reserves ≠ [] → LedgerStep portfolio update after) := by
  unfold processDeposit at returned
  simp only [get_bind] at returned
  cases reserves : portfolio.reserves with
  | nil =>
    simp only [reserves, set_bind] at returned
    obtain ⟨owner, delta, step⟩ := creditReserve_eq_ok returned
    exact ⟨owner, delta, .openReserve _ reserves (.step step (.nil _)), fun nonempty =>
      absurd rfl nonempty⟩
  | cons reserve rest =>
    simp only [reserves, pyAssert_bind] at returned
    split_ifs at returned
    obtain ⟨owner, delta, step⟩ := creditReserve_eq_ok returned
    exact ⟨owner, delta, .step step (.nil _), fun _ => step⟩

/-- The redemption loop is a ledger run, one step per redeemed asset on its related
holder, and keeps every lookup `get_related_position` makes. -/
theorem redeemAssets_eq_ok {event : Redemption} :
    ∀ {assets : List (AssetIdentifier × Nat)} {portfolio after : Portfolio}
      {updates : List BalanceUpdate},
      redeemAssets event assets portfolio = .ok updates after →
      LedgerRun portfolio updates after ∧ after.relatedHolder? = portfolio.relatedHolder? ∧
        after.reserves.length = portfolio.reserves.length ∧
        List.Forall₂ (fun (redeemed : AssetIdentifier × Nat) update =>
          portfolio.relatedHolder? redeemed.1 = some update.holder ∧
            update.delta = -redeemed.1.convertToDecimal redeemed.2) assets updates
  | [], _, _, _, returned => by
    simp only [redeemAssets, pure_apply, EStateM.Result.ok.injEq] at returned
    obtain ⟨rfl, rfl⟩ := returned
    exact ⟨.nil _, rfl, rfl, .nil⟩
  | (asset, rawAmount) :: rest, portfolio, _, _, returned => by
    simp only [redeemAssets, bind_eq_ok, pure_apply, EStateM.Result.ok.injEq] at returned
    obtain ⟨update, middle, first, more, final, second, rfl, rfl⟩ := returned
    obtain ⟨-, related, delta, -, step⟩ := redeemAsset_eq_ok first
    obtain ⟨run, same, count, effects⟩ := redeemAssets_eq_ok second
    have kept : middle.relatedHolder? = portfolio.relatedHolder? := by
      rw [step.applied, Portfolio.relatedHolder?_recordUpdate]
    have counted : middle.reserves.length = portfolio.reserves.length := by
      rw [step.applied, Portfolio.reserves_length_recordUpdate]
    exact ⟨.step step run, same.trans kept, count.trans counted,
      .cons ⟨related, delta⟩ (kept ▸ effects)⟩

variable {s s' : State} {updates : List BalanceUpdate}

/-- Translating one event is a ledger run with that event's effect, leaving the sync
checkpoints alone; with a reserve already open it keeps the lookups
`get_related_position` makes. -/
theorem translateAndApplyEvent_eq_ok {event : EnzymeBalanceEvent}
    (returned : translateAndApplyEvent event s = .ok updates s') :
    s'.sync = s.sync ∧ LedgerRun s.portfolio updates s'.portfolio ∧
      EventEffect s.portfolio event updates ∧
      (s.portfolio.reserves ≠ [] → s'.portfolio.relatedHolder? = s.portfolio.relatedHolder? ∧
        s'.portfolio.reserves.length = s.portfolio.reserves.length) := by
  unfold translateAndApplyEvent at returned
  obtain ⟨p, inner, rfl⟩ := liftPortfolio_eq_ok.mp returned
  cases event with
  | deposit event =>
    simp only [bind_eq_ok, pure_apply, EStateM.Result.ok.injEq] at inner
    obtain ⟨update, middle, deposited, rfl, rfl⟩ := inner
    obtain ⟨owner, delta, run, step⟩ := processDeposit_eq_ok deposited
    refine ⟨rfl, run, ⟨update, rfl, owner, delta⟩, fun nonempty => ?_⟩
    rw [(step nonempty).applied]
    simp
  | redemption event =>
    obtain ⟨run, same, count, effects⟩ := redeemAssets_eq_ok inner
    exact ⟨rfl, run, effects, fun _ => ⟨same, count⟩⟩

/-- Translating a batch of events is a ledger run that leaves the sync checkpoints
alone. -/
theorem translateEvents_eq_ok :
    ∀ {events : List EnzymeBalanceEvent} {s s' : State} {updates : List BalanceUpdate},
      translateEvents events s = .ok updates s' →
      s'.sync = s.sync ∧ LedgerRun s.portfolio updates s'.portfolio
  | [], _, _, _, returned => by
    simp only [translateEvents, pure_apply, EStateM.Result.ok.injEq] at returned
    obtain ⟨rfl, rfl⟩ := returned
    exact ⟨rfl, .nil _⟩
  | _ :: _, _, _, _, returned => by
    simp only [translateEvents, bind_eq_ok, pure_apply, EStateM.Result.ok.injEq] at returned
    obtain ⟨first, middle, translated, more, final, rest, rfl, rfl⟩ := returned
    obtain ⟨synced, run, -⟩ := translateAndApplyEvent_eq_ok translated
    obtain ⟨synced', run'⟩ := translateEvents_eq_ok rest
    exact ⟨synced'.trans synced, run.append run'⟩

/-- With a reserve open, the updates of a batch are, event by event, the effects of
its events in the starting portfolio. -/
theorem translateEvents_effects :
    ∀ {events : List EnzymeBalanceEvent} {s s' : State} {updates : List BalanceUpdate},
      translateEvents events s = .ok updates s' → s.portfolio.reserves ≠ [] →
      ∃ parts, updates = parts.flatten ∧ List.Forall₂ (EventEffect s.portfolio) events parts
  | [], _, _, _, returned, _ => by
    simp only [translateEvents, pure_apply, EStateM.Result.ok.injEq] at returned
    obtain ⟨rfl, rfl⟩ := returned
    exact ⟨[], rfl, .nil⟩
  | _ :: _, s, _, _, returned, nonempty => by
    simp only [translateEvents, bind_eq_ok, pure_apply, EStateM.Result.ok.injEq] at returned
    obtain ⟨first, middle, translated, more, final, rest, rfl, rfl⟩ := returned
    obtain ⟨-, -, effect, kept⟩ := translateAndApplyEvent_eq_ok translated
    obtain ⟨same, counted⟩ := kept nonempty
    have stillOpen : middle.portfolio.reserves ≠ [] := by
      rw [← List.length_pos, counted, List.length_pos]
      exact nonempty
    obtain ⟨parts, rfl, effects⟩ := translateEvents_effects rest stillOpen
    have relabel : EventEffect middle.portfolio = EventEffect s.portfolio := by
      funext event updates
      cases event <;> simp only [EventEffect, same]
    exact ⟨first :: parts, rfl, .cons effect (relabel ▸ effects)⟩

/-- **Ledger conservation for treasury events.** Translating any batch of deposits and
redemptions in order on a portfolio with a single reserve moves every holder by
exactly the deltas of its own updates, which chain from its quantity; each event
contributes its own effect; a holder without updates does not move. -/
theorem translateEvents_conserves_ledger {events : List EnzymeBalanceEvent}
    (single : s.portfolio.reserves.length = 1)
    (returned : translateEvents events s = .ok updates s') :
    (∀ holder, s'.portfolio.holderQuantity holder = s.portfolio.holderQuantity holder +
      ((updates.filter (·.holder = holder)).map (·.delta)).sum) ∧
    (∀ holder, Chained (s.portfolio.holderQuantity holder) (updates.filter (·.holder = holder))) ∧
    (∃ parts, updates = parts.flatten ∧ List.Forall₂ (EventEffect s.portfolio) events parts) ∧
    (∀ holder, (∀ update ∈ updates, update.holder ≠ holder) →
      s'.portfolio.holderQuantity holder = s.portfolio.holderQuantity holder) := by
  obtain ⟨-, run⟩ := translateEvents_eq_ok returned
  have nonempty : s.portfolio.reserves ≠ [] := by
    rw [← List.length_pos, single]
    exact Nat.one_pos
  refine ⟨run.holderQuantity_eq, run.chained, translateEvents_effects returned nonempty, ?_⟩
  intro holder untouched
  rw [run.holderQuantity_eq, List.filter_eq_nil_iff.mpr (by simpa using untouched)]
  simp

/-- A zero-decimal stablecoin at address 1. -/
def usdcAsset : AssetIdentifier :=
  { chainId := 1, address := 1, tokenSymbol := "USDC", decimals := 0 }

/-- A vault deployed at block 2 whose only reserve holds 100 USDC. -/
def usdcVault : State :=
  { portfolio := { reserves := [{ asset := usdcAsset, quantity := 100 }] }
    sync := { deployment := { blockNumber := some 2 } } }

/-- A redemption of 50 USDC in block 3. -/
def halfRedemption : Redemption :=
  { redeemer := 0, redeemedAssets := [(usdcAsset, 50)], timestamp := 0, blockNumber := 3,
    transactionHash := 0, logIndex := 0 }

/-- Taking 50 USDC from the vault leaves its reserve positive. -/
theorem usdcVault_reserve_positive :
    0 < (usdcVault.portfolio.recordUpdate (.reserve 1) (-usdcAsset.convertToDecimal 50)).holderQuantity
      (.reserve 1) := by
  rw [Portfolio.holderQuantity_recordUpdate (by rfl)]
  norm_num [Portfolio.holderQuantity, Portfolio.holderState?, Portfolio.getReserve?, usdcVault,
    AssetIdentifier.convertToDecimal, usdcAsset]

/-- The redemption translates to one update, one ledger step on the reserve. -/
theorem translateEvents_halfRedemption : ∃ update,
    translateEvents [.redemption halfRedemption] usdcVault = .ok [update] { usdcVault with
      portfolio := usdcVault.portfolio.recordUpdate (.reserve 1) (-usdcAsset.convertToDecimal 50) } := by
  obtain ⟨update, redeemed⟩ : ∃ update, redeemAsset halfRedemption usdcAsset 50 usdcVault.portfolio =
      .ok update (usdcVault.portfolio.recordUpdate (.reserve 1) (-usdcAsset.convertToDecimal 50)) :=
    redeemAsset_eq_ok_of_positive rfl rfl usdcVault_reserve_positive
  have applied : translateAndApplyEvent (.redemption halfRedemption) usdcVault = .ok [update]
      { usdcVault with
        portfolio := usdcVault.portfolio.recordUpdate (.reserve 1) (-usdcAsset.convertToDecimal 50) } := by
    refine liftPortfolio_eq_ok.mpr ⟨_, ?_, rfl⟩
    show bind (redeemAsset _ _ _) _ _ = _
    rw [bind_of_ok redeemed]
    rfl
  exact ⟨update, by rw [translateEvents, bind_of_ok applied]; rfl⟩

/-- The ledger reading of the 50 USDC redemption. -/
theorem translateEvents_conserves_ledger_halfRedemption : ∃ updates s',
    translateEvents [.redemption halfRedemption] usdcVault = .ok updates s' ∧
    (∀ holder, s'.portfolio.holderQuantity holder = usdcVault.portfolio.holderQuantity holder +
      ((updates.filter (·.holder = holder)).map (·.delta)).sum) ∧
    (∀ holder, Chained (usdcVault.portfolio.holderQuantity holder)
      (updates.filter (·.holder = holder))) ∧
    (∃ parts, updates = parts.flatten ∧
      List.Forall₂ (EventEffect usdcVault.portfolio) [.redemption halfRedemption] parts) ∧
    (∀ holder, (∀ update ∈ updates, update.holder ≠ holder) →
      s'.portfolio.holderQuantity holder = usdcVault.portfolio.holderQuantity holder) := by
  obtain ⟨_, translated⟩ := translateEvents_halfRedemption
  exact ⟨_, _, translated, translateEvents_conserves_ledger rfl translated⟩

end EnzymeVaultSyncModel

end Enzyme

end TradeExecutor
