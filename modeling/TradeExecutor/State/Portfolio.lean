import TradeExecutor.State.Trade
import TradeExecutor.State.Loan
import TradeExecutor.State.Keyed

/-! # Balance updates, positions and the portfolio

The portfolio owns the reserve positions and the open, frozen and closed trading
positions, and the counters from which trade and balance-update ids are
allocated. A `TradeExecutor.Holder` names the reserve or trading position a
balance update belongs to; `TradeExecutor.Portfolio.holderState?` reads a holder's
quantity and balance-update ids, and `TradeExecutor.Portfolio.applyToHolder` is the
one mutation the treasury code makes to it. The portfolio and position modules
are not part of the sources: what the vault, interest and repair code read of
them is modelled from the spec's data model.
-/

namespace TradeExecutor

/-- Whether a balance update belongs to the reserve or to a trading position. -/
inductive BalanceUpdatePositionType where
  | reserve
  | openPosition
  deriving DecidableEq, Repr

/-- What caused a balance update. -/
inductive BalanceUpdateCause where
  | deposit
  | redemption
  | interest
  deriving DecidableEq, Repr

/-- An externally observed balance change. The vault code fills `pastQuantity` and
`newQuantity`; the interest code fills `oldBalance` and `quantity`. -/
structure BalanceUpdate where
  balanceUpdateId : Nat
  positionType : BalanceUpdatePositionType
  cause : BalanceUpdateCause
  asset : AssetIdentifier
  blockMinedAt : Nat
  chainId : Nat
  pastQuantity : ℚ := 0
  newQuantity : ℚ := 0
  oldBalance : ℚ := 0
  quantity : ℚ := 0
  ownerAddress : Option Nat := none
  txHash : Option Nat := none
  logIndex : Option Nat := none
  positionId : Option Nat := none
  blockNumber : Option Nat := none
  previousUpdateAt : Option Nat := none
  deriving DecidableEq

/-- A reserve position, named by its asset's address, or a trading position, named
by its id: the keys of the portfolio's dictionaries. -/
inductive Holder where
  | reserve (address : Nat)
  | position (positionId : Nat)
  deriving DecidableEq, Repr

/-- The holder a balance update belongs to. -/
def BalanceUpdate.holder (update : BalanceUpdate) : Holder :=
  match update.positionType with
  | .reserve => .reserve update.asset.address
  | .openPosition => .position (update.positionId.getD 0)

/-- How much a treasury balance update moved its holder's quantity. -/
def BalanceUpdate.delta (update : BalanceUpdate) : ℚ :=
  update.newQuantity - update.pastQuantity

/-- The strategy's reserve currency holding. -/
structure ReservePosition where
  asset : AssetIdentifier
  quantity : ℚ
  balanceUpdates : List Nat := []
  deriving DecidableEq

/-- One trading position. `quantity` is the attribute the vault code moves on
redemptions; `TradeExecutor.TradingPosition.getQuantity` sums the trades. -/
structure TradingPosition where
  positionId : Nat
  pair : TradingPairIdentifier
  openedAt : Nat
  closedAt : Option Nat := none
  frozenAt : Option Nat := none
  trades : List TradeExecution := []
  balanceUpdates : List Nat := []
  loan : Option Loan := none
  quantity : ℚ := 0
  deriving DecidableEq

namespace TradingPosition

/-- Modelled from the spec: a position is open until it is closed. -/
def isOpen (position : TradingPosition) : Bool := position.closedAt.isNone

/-- Modelled from the spec: a position is frozen once a failed trade froze it. -/
def isFrozen (position : TradingPosition) : Bool := position.frozenAt.isSome

/-- Modelled from the spec: a position is long when its pair is. -/
def isLong (position : TradingPosition) : Bool := position.pair.isLong

/-- Modelled from the spec: the position keeps the ordered ids of its balance
updates. -/
def addBalanceUpdateEvent (position : TradingPosition) (event : BalanceUpdate) :
    TradingPosition :=
  { position with balanceUpdates := position.balanceUpdates ++ [event.balanceUpdateId] }

/-- Modelled from the spec: a position's quantity is what its trades moved. -/
def getQuantity (position : TradingPosition) : ℚ :=
  (position.trades.map (·.getPositionQuantity)).sum

end TradingPosition

/-- The portfolio of one strategy. -/
structure Portfolio where
  nextPositionId : Nat := 1
  nextTradeId : Nat := 1
  nextBalanceUpdateId : Nat := 1
  openPositions : List TradingPosition := []
  frozenPositions : List TradingPosition := []
  closedPositions : List TradingPosition := []
  reserves : List ReservePosition := []
  deriving DecidableEq

namespace Portfolio

/-- The positions whose trades and loans are still live. -/
def getOpenAndFrozenPositions (portfolio : Portfolio) : List TradingPosition :=
  portfolio.openPositions ++ portfolio.frozenPositions

/-- Modelled from the spec: look a position up by id among the open, then the
closed, then the frozen positions. -/
def getPositionById? (portfolio : Portfolio) (positionId : Nat) : Option TradingPosition :=
  match portfolio.openPositions.find? (·.positionId = positionId) with
  | some position => some position
  | none =>
    match portfolio.closedPositions.find? (·.positionId = positionId) with
    | some position => some position
    | none => portfolio.frozenPositions.find? (·.positionId = positionId)

/-- Mutate the position `getPositionById?` finds. -/
def modifyPosition (portfolio : Portfolio) (positionId : Nat)
    (f : TradingPosition → TradingPosition) : Portfolio :=
  if positionId ∈ portfolio.openPositions.map (·.positionId) then
    { portfolio with openPositions := updateByKey (·.positionId) positionId f portfolio.openPositions }
  else if positionId ∈ portfolio.closedPositions.map (·.positionId) then
    { portfolio with
      closedPositions := updateByKey (·.positionId) positionId f portfolio.closedPositions }
  else
    { portfolio with
      frozenPositions := updateByKey (·.positionId) positionId f portfolio.frozenPositions }

/-- Modelled from the spec: the open position holding `asset` as its base asset. -/
def getOpenPositionForAsset (portfolio : Portfolio) (asset : AssetIdentifier) :
    Option TradingPosition :=
  portfolio.openPositions.find? (·.pair.base.key = asset.key)

/-- The reserve position of an address, as `portfolio.reserves.get(address)`. -/
def getReserve? (portfolio : Portfolio) (address : Nat) : Option ReservePosition :=
  portfolio.reserves.find? (·.asset.address = address)

/-- Modelled from the spec: the first deposit opens the reserve position. -/
def initialiseReserves (portfolio : Portfolio) (asset : AssetIdentifier) : Portfolio :=
  { portfolio with reserves := [{ asset, quantity := 0 }] }

/-- A holder's quantity and balance-update ids, when the portfolio has it. -/
def holderState? (portfolio : Portfolio) : Holder → Option (ℚ × List Nat)
  | .reserve address => (portfolio.getReserve? address).map fun r => (r.quantity, r.balanceUpdates)
  | .position positionId =>
    (portfolio.getPositionById? positionId).map fun p => (p.quantity, p.balanceUpdates)

/-- A holder's quantity, `0` when the portfolio has no such holder. -/
def holderQuantity (portfolio : Portfolio) (holder : Holder) : ℚ :=
  ((portfolio.holderState? holder).map Prod.fst).getD 0

/-- A holder's balance-update ids, empty when the portfolio has no such holder. -/
def holderBalanceUpdates (portfolio : Portfolio) (holder : Holder) : List Nat :=
  ((portfolio.holderState? holder).map Prod.snd).getD []

/-- The treasury's mutation of a holder: move its quantity by `delta` and append a
balance-update id to it. -/
def applyToHolder (portfolio : Portfolio) (holder : Holder) (delta : ℚ) (eventId : Nat) :
    Portfolio :=
  match holder with
  | .reserve address =>
    { portfolio with
      reserves := updateByKey (·.asset.address) address
        (fun r => { r with quantity := r.quantity + delta,
                           balanceUpdates := r.balanceUpdates ++ [eventId] }) portfolio.reserves }
  | .position positionId =>
    portfolio.modifyPosition positionId fun p =>
      { p with quantity := p.quantity + delta, balanceUpdates := p.balanceUpdates ++ [eventId] }

/-- Every position of the portfolio: open, closed, then frozen. -/
def allPositions (portfolio : Portfolio) : List TradingPosition :=
  portfolio.openPositions ++ portfolio.closedPositions ++ portfolio.frozenPositions

/-- Apply one change to every position, wherever it is kept. -/
def mapPositions (portfolio : Portfolio) (f : TradingPosition → TradingPosition) : Portfolio :=
  { portfolio with
    openPositions := portfolio.openPositions.map f
    closedPositions := portfolio.closedPositions.map f
    frozenPositions := portfolio.frozenPositions.map f }

section Frame

variable {portfolio : Portfolio} {f : TradingPosition → TradingPosition}

/-- Mutating a position leaves the reserves alone. -/
@[simp] theorem modifyPosition_reserves (positionId : Nat) :
    (portfolio.modifyPosition positionId f).reserves = portfolio.reserves := by
  unfold modifyPosition
  split_ifs <;> rfl

/-- Mutating a position leaves the counters alone. -/
@[simp] theorem modifyPosition_nextBalanceUpdateId (positionId : Nat) :
    (portfolio.modifyPosition positionId f).nextBalanceUpdateId =
      portfolio.nextBalanceUpdateId := by
  unfold modifyPosition
  split_ifs <;> rfl

/-- The lookup of the mutated id sees the mutation. -/
theorem getPositionById?_modifyPosition_self (keeps : ∀ p, (f p).positionId = p.positionId)
    (positionId : Nat) :
    (portfolio.modifyPosition positionId f).getPositionById? positionId =
      (portfolio.getPositionById? positionId).map f := by
  unfold modifyPosition getPositionById?
  split_ifs with inOpen inClosed
  · obtain ⟨p, found⟩ := Option.isSome_iff_exists.mp (find?_key_isSome _ inOpen)
    simp only [find?_updateByKey_self keeps, found, Option.map_some']
  · simp only [find?_key_eq_none _ inOpen]
    obtain ⟨p, found⟩ := Option.isSome_iff_exists.mp (find?_key_isSome _ inClosed)
    simp only [find?_updateByKey_self keeps, found, Option.map_some']
  · simp only [find?_key_eq_none _ inOpen, find?_key_eq_none _ inClosed,
      find?_updateByKey_self keeps]

/-- The lookup of another id does not see the mutation. -/
theorem getPositionById?_modifyPosition_of_ne (keeps : ∀ p, (f p).positionId = p.positionId)
    {positionId other : Nat} (distinct : other ≠ positionId) :
    (portfolio.modifyPosition positionId f).getPositionById? other =
      portfolio.getPositionById? other := by
  unfold modifyPosition getPositionById?
  split_ifs <;> simp only [find?_updateByKey_of_ne keeps distinct]

/-- The holder the treasury mutates shows the move and the appended id. -/
theorem holderState?_applyToHolder_self (holder : Holder) (delta : ℚ) (eventId : Nat) :
    (portfolio.applyToHolder holder delta eventId).holderState? holder =
      (portfolio.holderState? holder).map fun (q, ids) => (q + delta, ids ++ [eventId]) := by
  cases holder with
  | reserve address =>
    simp only [applyToHolder, holderState?, getReserve?]
    rw [find?_updateByKey_self, Option.map_map, Option.map_map]
    · rfl
    · exact fun _ => rfl
  | position positionId =>
    simp only [applyToHolder, holderState?]
    rw [getPositionById?_modifyPosition_self, Option.map_map, Option.map_map]
    · rfl
    · exact fun _ => rfl

/-- Every other holder is left as it was. -/
theorem holderState?_applyToHolder_of_ne {holder other : Holder} (distinct : other ≠ holder)
    (delta : ℚ) (eventId : Nat) :
    (portfolio.applyToHolder holder delta eventId).holderState? other =
      portfolio.holderState? other := by
  cases holder with
  | reserve address =>
    cases other with
    | reserve other =>
      have : other ≠ address := fun same => distinct (same ▸ rfl)
      simp only [applyToHolder, holderState?, getReserve?]
      rw [find?_updateByKey_of_ne _ this]
      exact fun _ => rfl
    | position _ => rfl
  | position positionId =>
    cases other with
    | reserve _ => simp only [applyToHolder, holderState?, getReserve?, modifyPosition_reserves]
    | position other =>
      have : other ≠ positionId := fun same => distinct (same ▸ rfl)
      simp only [applyToHolder, holderState?]
      rw [getPositionById?_modifyPosition_of_ne _ this]
      exact fun _ => rfl

/-- The treasury's mutation leaves the balance-update counter alone. -/
@[simp] theorem applyToHolder_nextBalanceUpdateId (holder : Holder) (delta : ℚ) (eventId : Nat) :
    (portfolio.applyToHolder holder delta eventId).nextBalanceUpdateId =
      portfolio.nextBalanceUpdateId := by
  cases holder <;> simp [applyToHolder]

/-- Two mutations of one position, the first keeping its id, are one mutation. -/
theorem modifyPosition_modifyPosition {g : TradingPosition → TradingPosition}
    (keeps : ∀ p, (f p).positionId = p.positionId) (positionId : Nat) :
    (portfolio.modifyPosition positionId f).modifyPosition positionId g =
      portfolio.modifyPosition positionId (g ∘ f) := by
  unfold modifyPosition
  by_cases inOpen : positionId ∈ portfolio.openPositions.map (·.positionId)
  · simp only [inOpen, if_true, map_key_updateByKey keeps, updateByKey_updateByKey keeps]
  by_cases inClosed : positionId ∈ portfolio.closedPositions.map (·.positionId) <;>
    simp only [inOpen, inClosed, if_true, if_false, map_key_updateByKey keeps,
      updateByKey_updateByKey keeps]

/-- Changes that agree on every position change the portfolio alike. -/
theorem mapPositions_congr {g : TradingPosition → TradingPosition}
    (same : ∀ p ∈ portfolio.allPositions, f p = g p) : portfolio.mapPositions f = portfolio.mapPositions g := by
  simp only [allPositions, List.mem_append] at same
  unfold mapPositions
  congr 1 <;> exact List.map_congr_left fun p member => same p (by simp [member])

/-- Two changes of every position are their composition. -/
@[simp] theorem mapPositions_mapPositions {g : TradingPosition → TradingPosition} :
    (portfolio.mapPositions f).mapPositions g = portfolio.mapPositions (g ∘ f) := by
  simp [mapPositions]

/-- Changing positions leaves the trade id counter alone. -/
@[simp] theorem mapPositions_nextTradeId : (portfolio.mapPositions f).nextTradeId = portfolio.nextTradeId :=
  rfl

/-- The positions after a change of every position. -/
@[simp] theorem allPositions_mapPositions :
    (portfolio.mapPositions f).allPositions = portfolio.allPositions.map f := by
  simp [allPositions, mapPositions]

/-- A lookup after a change of every position that keeps ids finds the changed position. -/
theorem getPositionById?_mapPositions (keeps : ∀ p, (f p).positionId = p.positionId)
    (positionId : Nat) :
    (portfolio.mapPositions f).getPositionById? positionId =
      (portfolio.getPositionById? positionId).map f := by
  have lookup : ((fun p : TradingPosition => decide (p.positionId = positionId)) ∘ f) =
      fun p => decide (p.positionId = positionId) := funext fun p => by simp [keeps]
  simp only [getPositionById?, mapPositions, List.find?_map, lookup]
  rcases List.find? _ portfolio.openPositions with _ | _ <;>
    rcases List.find? _ portfolio.closedPositions with _ | _ <;> rfl

end Frame

section Distinct

/-! Position ids are unique across the portfolio, which makes a mutation by id a
change of every position of that id. -/

variable {portfolio : Portfolio}
  (distinct : (portfolio.allPositions.map (·.positionId)).Nodup)
include distinct

/-- Mutating the position of an id changes every position of that id. -/
theorem modifyPosition_eq_mapPositions (positionId : Nat) (f : TradingPosition → TradingPosition) :
    portfolio.modifyPosition positionId f =
      portfolio.mapPositions fun p => if p.positionId = positionId then f p else p := by
  simp only [allPositions, List.map_append, List.nodup_append, List.disjoint_append_left] at distinct
  obtain ⟨⟨openDistinct, closedDistinct, openClosed⟩, frozenDistinct, openFrozen, closedFrozen⟩ :=
    distinct
  unfold modifyPosition mapPositions
  split_ifs with inOpen inClosed
  · rw [updateByKey_eq_map openDistinct, map_ite_of_not_mem (openClosed inOpen),
      map_ite_of_not_mem (openFrozen inOpen)]
  · rw [updateByKey_eq_map closedDistinct, map_ite_of_not_mem inOpen,
      map_ite_of_not_mem (closedFrozen inClosed)]
  · rw [updateByKey_eq_map frozenDistinct, map_ite_of_not_mem inOpen, map_ite_of_not_mem inClosed]

/-- The lookup of a position's id finds that position. -/
theorem getPositionById?_of_mem {p : TradingPosition} (member : p ∈ portfolio.allPositions) :
    portfolio.getPositionById? p.positionId = some p := by
  simp only [allPositions, List.map_append, List.nodup_append, List.disjoint_append_left] at distinct
  obtain ⟨⟨openDistinct, closedDistinct, openClosed⟩, frozenDistinct, openFrozen, closedFrozen⟩ :=
    distinct
  have key : ∀ {l : List TradingPosition}, p ∈ l → p.positionId ∈ l.map (·.positionId) :=
    fun member => List.mem_map.mpr ⟨p, member, rfl⟩
  simp only [allPositions, List.mem_append] at member
  unfold getPositionById?
  rcases member with (inOpen | inClosed) | inFrozen
  · rw [find?_key_of_mem openDistinct inOpen]
  · rw [find?_key_eq_none _ fun h => openClosed h (key inClosed),
      find?_key_of_mem closedDistinct inClosed]
  · rw [find?_key_eq_none _ fun h => openFrozen h (key inFrozen),
      find?_key_eq_none _ fun h => closedFrozen h (key inFrozen),
      find?_key_of_mem frozenDistinct inFrozen]

end Distinct

end Portfolio

end TradeExecutor
