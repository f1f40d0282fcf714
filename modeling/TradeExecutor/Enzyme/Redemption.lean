import TradeExecutor.Enzyme.Treasury

/-! # The redemption assertion

`process_redemption` lowers the holder of each redeemed asset and only then asserts
that the holder's quantity is still positive, with the message "Position went to
negative". The check is strict: a redemption returns exactly when, applied in
order, each redeemed amount is strictly below the quantity its holder has at that
point (`TradeExecutor.Enzyme.EnzymeVaultSyncModel.processRedemption_returns_iff`).
A redemption that takes a holder to zero or below raises, after the holder has been
lowered and the balance-update id spent
(`TradeExecutor.Enzyme.EnzymeVaultSyncModel.translateAndApplyEvent_rejects_emptying`).
-/

namespace TradeExecutor

namespace Enzyme

namespace EnzymeVaultSyncModel

/-- Applied in order, every redeemed asset passes the single-reserve check, has a
related holder, and takes strictly less than that holder's quantity at that point. -/
def RedeemsBelow : Portfolio → List (AssetIdentifier × Nat) → Prop
  | _, [] => True
  | portfolio, (asset, rawAmount) :: rest => portfolio.reserves.length = 1 ∧
      ∃ holder, portfolio.relatedHolder? asset = some holder ∧
        asset.convertToDecimal rawAmount < portfolio.holderQuantity holder ∧
        RedeemsBelow (portfolio.recordUpdate holder (-asset.convertToDecimal rawAmount)) rest

variable {event : Redemption} {asset : AssetIdentifier} {rawAmount : Nat} {holder : Holder}
  {portfolio : Portfolio}

/-- The holder a redemption lowers stands at its quantity less the redeemed amount. -/
theorem holderQuantity_redeemed (related : portfolio.relatedHolder? asset = some holder) :
    (portfolio.recordUpdate holder (-asset.convertToDecimal rawAmount)).holderQuantity holder =
      portfolio.holderQuantity holder - asset.convertToDecimal rawAmount := by
  rw [Portfolio.holderQuantity_recordUpdate (Portfolio.holderState?_isSome_of_relatedHolder? related),
    if_pos rfl, sub_eq_add_neg]

/-- A redeemed asset that takes its holder to zero or below raises the assertion, with
the holder already lowered and the id spent. -/
theorem redeemAsset_eq_error_of_emptying (single : portfolio.reserves.length = 1)
    (related : portfolio.relatedHolder? asset = some holder)
    (emptying : portfolio.holderQuantity holder ≤ asset.convertToDecimal rawAmount) :
    redeemAsset event asset rawAmount portfolio = .error (.assertionError "Position went to negative")
      (portfolio.recordUpdate holder (-asset.convertToDecimal rawAmount)) := by
  have left : ¬0 < (portfolio.recordUpdate holder (-asset.convertToDecimal rawAmount)).holderQuantity
      holder := by
    rw [holderQuantity_redeemed related]
    linarith
  unfold redeemAsset
  rw [bind_of_ok (getRelatedPosition_eq_ok.mpr ⟨single, related, rfl⟩)]
  simp only [get_bind, modify_bind, pyAssert_bind]
  exact if_neg left

/-- What a returning redeemed asset did: it passed the single-reserve check, took
strictly less than its related holder's quantity, and recorded the lowering. -/
theorem redeemAsset_returns {update : BalanceUpdate} {after : Portfolio}
    (returned : redeemAsset event asset rawAmount portfolio = .ok update after) :
    portfolio.reserves.length = 1 ∧ portfolio.relatedHolder? asset = some update.holder ∧
      asset.convertToDecimal rawAmount < portfolio.holderQuantity update.holder ∧
      after = portfolio.recordUpdate update.holder (-asset.convertToDecimal rawAmount) := by
  obtain ⟨single, related, delta, positive, step⟩ := redeemAsset_eq_ok returned
  have moved : update.newQuantity =
      portfolio.holderQuantity update.holder - asset.convertToDecimal rawAmount := by
    rw [← step.past]
    linarith [show update.delta = update.newQuantity - update.pastQuantity from rfl]
  exact ⟨single, related, by linarith, delta ▸ step.applied⟩

/-- A redeemed asset that takes strictly less than its related holder's quantity
returns, with the lowering recorded. -/
theorem redeemAsset_of_below (single : portfolio.reserves.length = 1)
    (related : portfolio.relatedHolder? asset = some holder)
    (below : asset.convertToDecimal rawAmount < portfolio.holderQuantity holder) :
    ∃ update, redeemAsset event asset rawAmount portfolio =
      .ok update (portfolio.recordUpdate holder (-asset.convertToDecimal rawAmount)) := by
  have positive : 0 < (portfolio.recordUpdate holder
      (-asset.convertToDecimal rawAmount)).holderQuantity holder := by
    rw [holderQuantity_redeemed related]
    linarith
  exact redeemAsset_eq_ok_of_positive single related positive

/-- The redemption loop returns exactly when its redeemed assets redeem below their
holders' quantities, in order. -/
theorem redeemAssets_returns_iff {assets : List (AssetIdentifier × Nat)} :
    (∃ updates after, redeemAssets event assets portfolio = .ok updates after) ↔
      RedeemsBelow portfolio assets := by
  induction assets generalizing portfolio with
  | nil => exact iff_of_true ⟨[], portfolio, rfl⟩ trivial
  | cons redeemed rest ih =>
    obtain ⟨asset, rawAmount⟩ := redeemed
    constructor
    · rintro ⟨_, _, returned⟩
      obtain ⟨update, middle, first, more⟩ := bind_eq_ok.mp returned
      obtain ⟨single, related, below, rfl⟩ := redeemAsset_returns first
      obtain ⟨_, _, second, -⟩ := bind_eq_ok.mp more
      exact ⟨single, update.holder, related, below, ih.mp ⟨_, _, second⟩⟩
    · rintro ⟨single, holder, related, below, later⟩
      obtain ⟨update, first⟩ : ∃ update, redeemAsset event asset rawAmount portfolio = .ok update _ :=
        redeemAsset_of_below single related below
      obtain ⟨updates, after, second⟩ := ih.mpr later
      exact ⟨update :: updates, after, by
        simp only [redeemAssets, bind_of_ok first, bind_of_ok second, pure_apply]⟩

/-- **The redemption assertion.** `process_redemption` returns exactly when, applied in
order, each redeemed amount is strictly below the quantity of the holder
`get_related_position` picks for it at that point. -/
theorem processRedemption_returns_iff :
    (∃ updates after, processRedemption event portfolio = .ok updates after) ↔
      RedeemsBelow portfolio event.redeemedAssets :=
  redeemAssets_returns_iff

/-- A redemption whose first redeemed asset takes its holder to zero or below makes
`translate_and_apply_event` raise the "Position went to negative" assertion, with that
holder lowered and the balance-update id spent. -/
theorem translateAndApplyEvent_rejects_emptying {s : State}
    {rest : List (AssetIdentifier × Nat)} (redeemed : event.redeemedAssets = (asset, rawAmount) :: rest)
    (single : s.portfolio.reserves.length = 1)
    (related : s.portfolio.relatedHolder? asset = some holder)
    (emptying : s.portfolio.holderQuantity holder ≤ asset.convertToDecimal rawAmount) :
    translateAndApplyEvent (.redemption event) s = .error (.assertionError "Position went to negative")
      { s with portfolio := s.portfolio.recordUpdate holder (-asset.convertToDecimal rawAmount) } := by
  refine liftPortfolio_eq_error.mpr ⟨_, ?_, rfl⟩
  simp only [processRedemption, redeemed, redeemAssets]
  rw [bind_of_error (redeemAsset_eq_error_of_emptying single related emptying)]

/-- A redemption of the vault's whole reserve of 100 USDC. -/
def fullRedemption : Redemption :=
  { redeemer := 0, redeemedAssets := [(usdcAsset, 100)], timestamp := 0, blockNumber := 3,
    transactionHash := 0, logIndex := 0 }

/-- Redeeming the whole reserve, which would leave it at exactly zero, raises. -/
theorem translateAndApplyEvent_rejects_fullRedemption :
    usdcVault.portfolio.holderQuantity (.reserve 1) - usdcAsset.convertToDecimal 100 = 0 ∧
    translateAndApplyEvent (.redemption fullRedemption) usdcVault =
      .error (.assertionError "Position went to negative") { usdcVault with
        portfolio := usdcVault.portfolio.recordUpdate (.reserve 1) (-usdcAsset.convertToDecimal 100) } := by
  have reserve : usdcVault.portfolio.holderQuantity (.reserve 1) = usdcAsset.convertToDecimal 100 := by
    norm_num [Portfolio.holderQuantity, Portfolio.holderState?, Portfolio.getReserve?, usdcVault,
      AssetIdentifier.convertToDecimal, usdcAsset]
  exact ⟨sub_eq_zero.mpr reserve, translateAndApplyEvent_rejects_emptying rfl rfl rfl reserve.le⟩

end EnzymeVaultSyncModel

end Enzyme

end TradeExecutor
