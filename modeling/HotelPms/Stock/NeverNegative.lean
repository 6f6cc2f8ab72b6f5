import HotelPms.Foundation.Transition
import HotelPms.Stock.Movements

/-!
# Stock that is never negative

Every location keeps a balance that is not negative.  The hotel-wide balance
does so as long as no location gives away what the hotel as a whole has already
given away without a location.
-/

namespace HotelPms.Stock

open Checked Transition
open Inventory hiding NeverNegative

namespace StockState

def IsOpen (state : StockState) (sessionId : Int) : Prop :=
  ((state.countSessions sessionId).any (·.status = .opened)) = true
deriving Decidable

theorem isOpen_iff {state : StockState} {sessionId : Int} :
    state.IsOpen sessionId ↔ ∃ session, state.countSessions sessionId = some session ∧
        session.status = .opened := by
  unfold IsOpen
  rw [Option.any_eq_true]
  simp only [decide_eq_true_eq]

/-- Sum of the differences between the counts of an item in a session and the
balances they are compared with. -/
def countedDifference (state : StockState) (sessionId itemId : Int) : Int :=
  (((state.counts sessionId).filter fun line =>
      line.itemId = itemId).map fun line =>
    line.countedQuantity - balance state.ledger line.itemId line.locationId).sum

end StockState

/-- A location that can cover an outbound movement finds it covered by the
hotel-wide balance too, and the counts of an open session without stale items
take off no more than that balance. -/
def CoversTotal (state : StockState) : StockCall -> Prop
  | .registerMovement request =>
    state.movementByKey request.idempotencyKey = none ->
    request.movementType ∈ [MovementType.outbound.value, MovementType.adjustmentOut.value] ->
    request.locationId ≠ none ->
    hundredths request.quantity ≤ balance state.ledger request.itemId request.locationId ->
    hundredths request.quantity ≤ balance state.ledger request.itemId none
  | .confirmStockCountSession sessionId _ _ =>
    state.IsOpen sessionId ->
    stockCountStaleItems state (state.counts sessionId) = [] ->
    ∀ itemId ∈ (state.counts sessionId).map StockCountLine.itemId,
      0 ≤ balance state.ledger itemId none + state.countedDifference sessionId itemId
  | _ => True

instance (state : StockState) (call : StockCall) : Decidable (CoversTotal state call) :=
  match call with
  | .registerMovement _ =>
    inferInstanceAs (Decidable (_ -> _ -> _ -> _ -> _))
  | .confirmStockCountSession sessionId _ _ =>
    inferInstanceAs (Decidable (_ -> _ -> ∀ _ ∈
      (state.counts sessionId).map StockCountLine.itemId, _))
  | .registerOpeningCount _ _ _ _ _ _ => .isTrue trivial
  | .transferStock _ _ _ _ _ _ _ => .isTrue trivial
  | .createStockCountSession _ _ => .isTrue trivial
  | .recordStockCount _ _ _ _ _ => .isTrue trivial
  | .cancelStockCountSession _ _ _ => .isTrue trivial

def StockState.NeverNegative (state : StockState) : Prop :=
  Inventory.NeverNegative state.ledger

/-- No balance of a location is negative. -/
def StockState.LocationsCovered (state : StockState) : Prop :=
  PlacesCovered state.ledger

theorem StockState.neverNegative_iff {state : StockState} :
    state.NeverNegative ↔ state.LocationsCovered ∧ ∀ itemId, 0 ≤ balance state.ledger itemId none :=
  Inventory.neverNegative_iff

/-! ## One call -/

section

variable {env : StockEnvironment} {state after : StockState}
  {request : MovementRequest} {movementType : MovementType}
  {uuid5 : UuidFunction}

theorem Adds.neverNegative_iff (adds : Adds env state request movementType after)
    (never : state.NeverNegative) :
    after.NeverNegative ↔ 0 ≤ balance state.ledger request.itemId none +
        (requestEntry request movementType).amount := by
  have covered : after.LocationsCovered :=
    adds.placesCovered (StockState.neverNegative_iff.mp never).1
  have own : (requestEntry request movementType).effect request.itemId none =
      (requestEntry request movementType).amount := effect_total
  rw [StockState.neverNegative_iff, and_iff_right covered, adds.ledger]
  constructor
  · intro total
    have ofItem := total request.itemId
    rwa [balance_concat, own] at ofItem
  · intro enough itemId
    rw [balance_concat]
    by_cases same : request.itemId = itemId
    · rwa [← same, own]
    · have untouched : (requestEntry request movementType).effect itemId none = 0 :=
        effect_of_item_ne same
      rw [untouched, add_zero]
      exact never itemId none

theorem Adds.neverNegative_of_inbound (adds : Adds env state request movementType after)
    (inbound : ¬movementType.IsOutbound)
    (never : state.NeverNegative) : after.NeverNegative := by
  rw [adds.neverNegative_iff never]
  unfold requestEntry
  simp only [if_neg inbound]
  exact add_nonneg (never request.itemId none) adds.positive.le

theorem isOutbound_iff_value {movementType : MovementType}
    {text : String} (isType : MovementType.ofValue text = some movementType) :
    movementType.IsOutbound ↔
      text ∈ [MovementType.outbound.value, MovementType.adjustmentOut.value] := by
  have found := List.find?_some isType
  rw [decide_eq_true_eq] at found
  subst found
  cases movementType <;> decide

theorem registerMovement_neverNegative_iff {movement : StockMovement} (never : state.NeverNegative)
    (registered : registerMovement env state request = .ok (after, movement)) :
    after.NeverNegative ↔ CoversTotal state (.registerMovement request) := by
  rcases registerMovement_eq_ok registered with
    ⟨found, -, rfl⟩ | ⟨unused, movementType, isType, -, adds⟩
  · apply iff_of_true never
    intro unused
    rw [found] at unused
    cases unused
  · have outward := isOutbound_iff_value isType
    by_cases outbound : movementType.IsOutbound
    · rw [adds.neverNegative_iff never]
      have enough := adds.covered outbound
      unfold requestEntry
      rw [if_pos outbound]
      constructor
      · intro total _ _ _ _
        simp only at total
        omega
      · intro covers
        simp only
        by_cases located : request.locationId = none
        · rw [located] at enough
          omega
        · have total := covers unused (outward.mp outbound) located enough
          omega
    · apply iff_of_true (adds.neverNegative_of_inbound outbound never)
      intro _ isOut
      exact absurd (outward.mpr isOut) outbound

theorem transferStock_neverNegative {itemId sourceLocationId destinationLocationId : Int}
    {quantity : ℚ} {reason key : String} {createdByUserId : Option Int}
    {outbound inbound : StockMovement} (never : state.NeverNegative)
    (transferred : transferStock env state uuid5 itemId sourceLocationId
      destinationLocationId quantity reason createdByUserId key = .ok (after, outbound, inbound)) :
    after.NeverNegative := by
  rcases transferStock_eq_ok transferred with rfl | ⟨middle, text, reference, out, into⟩
  · exact never
  · rw [StockState.neverNegative_iff] at never ⊢
    refine ⟨into.placesCovered (out.placesCovered never.1), ?_⟩
    intro other
    have pair : after.ledger = state.ledger ++
        [⟨itemId, some sourceLocationId, -hundredths quantity⟩,
          ⟨itemId, some destinationLocationId, hundredths quantity⟩] := by
      rw [into.ledger, out.ledger, List.append_assoc]
      rfl
    rw [pair, balance_move]
    exact never.2 other

theorem sum_differenceEntry (state : StockState) (sessionId itemId : Int) :
    ((state.counts sessionId).map fun line =>
        (differenceEntry (balancesByLocation state (state.counts sessionId)) line).effect
          itemId none).sum =
      state.countedDifference sessionId itemId := by
  unfold StockState.countedDifference
  rw [GroupSum.sum_map_filter]
  congr 1
  apply List.map_congr_left
  intro line member
  unfold Entry.effect Entry.CountsIn differenceEntry
  rw [currentOf_balancesByLocation member]
  simp

theorem ConfirmsCounts.neverNegative_iff {sessionId : Int}
    (confirms : ConfirmsCounts env state sessionId after)
    (never : state.NeverNegative) (confirmedByUserId : Int) (reason : String) :
    after.NeverNegative ↔
      CoversTotal state (.confirmStockCountSession sessionId confirmedByUserId reason) := by
  obtain ⟨middle, session, adjusts, -, -, rfl⟩ := confirms.adjusted
  show middle.NeverNegative ↔ _
  have covered : middle.LocationsCovered :=
    adjusts.covered (StockState.neverNegative_iff.mp never).1
  have moves (itemId : Int) : balance middle.ledger itemId none =
      balance state.ledger itemId none + state.countedDifference sessionId itemId := by
    rw [adjusts.moves, sum_differenceEntry]
  rw [StockState.neverNegative_iff, and_iff_right covered]
  constructor
  · intro total _ _ itemId _
    rw [← moves]
    exact total itemId
  · intro covers itemId
    rw [moves]
    by_cases counted : itemId ∈ (state.counts sessionId).map StockCountLine.itemId
    · exact covers (StockState.isOpen_iff.mpr confirms.opened)
        (stockCountStaleItems_eq_nil.mpr confirms.fresh) itemId counted
    · have none : (state.counts sessionId).filter (fun line =>
          line.itemId = itemId) = [] := by
        rw [List.filter_eq_nil_iff]
        intro line member same
        rw [decide_eq_true_eq] at same
        exact counted (same ▸ List.mem_map_of_mem member)
      rw [StockState.countedDifference, none, List.map_nil, List.sum_nil, add_zero]
      exact never itemId Option.none

/-- A successful call keeps the balances from being negative exactly when it
meets the condition. -/
theorem performCall_neverNegative_iff {call : StockCall} (never : state.NeverNegative)
    (performed : performCall uuid5 env state call = .ok after) :
    after.NeverNegative ↔ CoversTotal state call := by
  cases call with
  | registerMovement request =>
    obtain ⟨movement, registered⟩ := map_fst_eq_ok.mp performed
    exact registerMovement_neverNegative_iff never registered
  | registerOpeningCount =>
    apply iff_of_true _ trivial
    obtain ⟨movement, registered⟩ := map_fst_eq_ok.mp performed
    rcases registerOpeningCount_eq_ok registered with rfl | ⟨request, isInbound, registered⟩
    · exact never
    · rcases registerMovement_eq_ok registered with ⟨-, -, rfl⟩ | ⟨-, movementType, isType, -, adds⟩
      · exact never
      · rw [isInbound, ofValue_value] at isType
        cases isType
        exact adds.neverNegative_of_inbound (by decide) never
  | transferStock =>
    apply iff_of_true _ trivial
    obtain ⟨⟨outbound, inbound⟩, transferred⟩ := map_fst_eq_ok.mp performed
    exact transferStock_neverNegative never transferred
  | createStockCountSession =>
    apply iff_of_true _ trivial
    obtain ⟨session, created⟩ := map_fst_eq_ok.mp performed
    obtain ⟨-, -, rfl⟩ := createStockCountSession_eq_ok created
    exact never
  | recordStockCount =>
    apply iff_of_true _ trivial
    obtain ⟨line, recorded⟩ := map_fst_eq_ok.mp performed
    obtain ⟨session, -, -, ⟨-, -, rfl⟩ | ⟨earlier, -, -, -, -, -, rfl⟩⟩ :=
      (recordStockCount_eq_ok recorded).stored
    · exact never
    · exact never
  | confirmStockCountSession sessionId confirmedByUserId reason =>
    obtain ⟨stored, confirmed⟩ := map_fst_eq_ok.mp performed
    rcases confirmStockCountSession_eq_ok confirmed with
      ⟨rfl, session, isSession, already⟩ | confirms
    · apply iff_of_true never
      intro opened
      obtain ⟨other, isOther, isOpen⟩ := StockState.isOpen_iff.mp opened
      rw [isSession] at isOther
      cases isOther
      rw [already] at isOpen
      cases isOpen
    · exact confirms.neverNegative_iff never confirmedByUserId reason
  | cancelStockCountSession =>
    apply iff_of_true _ trivial
    obtain ⟨stored, cancelled⟩ := map_fst_eq_ok.mp performed
    obtain ⟨-, -, -, rfl⟩ := cancelStockCountSession_eq_ok cancelled
    exact never

/-- A successful call keeps the balance of every location from being
negative. -/
theorem performCall_locationsCovered {call : StockCall} (covered : state.LocationsCovered)
    (performed : performCall uuid5 env state call = .ok after) :
    after.LocationsCovered := by
  have register {request : MovementRequest} {movement : StockMovement}
      (registered : registerMovement env state request =
        .ok (after, movement)) : after.LocationsCovered := by
    rcases registerMovement_eq_ok registered with ⟨-, -, rfl⟩ | ⟨-, movementType, -, -, adds⟩
    · exact covered
    · exact adds.placesCovered covered
  cases call with
  | registerMovement request =>
    obtain ⟨movement, registered⟩ := map_fst_eq_ok.mp performed
    exact register registered
  | registerOpeningCount =>
    obtain ⟨movement, registered⟩ := map_fst_eq_ok.mp performed
    rcases registerOpeningCount_eq_ok registered with rfl | ⟨request, -, registered⟩
    · exact covered
    · exact register registered
  | transferStock =>
    obtain ⟨⟨outbound, inbound⟩, transferred⟩ := map_fst_eq_ok.mp performed
    rcases transferStock_eq_ok transferred with rfl | ⟨middle, text, reference, out, into⟩
    · exact covered
    · exact into.placesCovered (out.placesCovered covered)
  | createStockCountSession =>
    obtain ⟨session, created⟩ := map_fst_eq_ok.mp performed
    obtain ⟨-, -, rfl⟩ := createStockCountSession_eq_ok created
    exact covered
  | recordStockCount =>
    obtain ⟨line, recorded⟩ := map_fst_eq_ok.mp performed
    obtain ⟨session, -, -, ⟨-, -, rfl⟩ | ⟨earlier, -, -, -, -, -, rfl⟩⟩ :=
      (recordStockCount_eq_ok recorded).stored
    · exact covered
    · exact covered
  | confirmStockCountSession =>
    obtain ⟨stored, confirmed⟩ := map_fst_eq_ok.mp performed
    rcases confirmStockCountSession_eq_ok confirmed with ⟨rfl, -⟩ | confirms
    · exact covered
    · obtain ⟨middle, session, adjusts, -, -, rfl⟩ := confirms.adjusted
      exact adjusts.covered covered
  | cancelStockCountSession =>
    obtain ⟨stored, cancelled⟩ := map_fst_eq_ok.mp performed
    obtain ⟨-, -, -, rfl⟩ := cancelStockCountSession_eq_ok cancelled
    exact covered

theorem stockStep_locationsCovered {event : StockEnvironment × StockCall}
    (covered : state.LocationsCovered)
    (taken : stockStep uuid5 state event = some after) :
    after.LocationsCovered := by
  unfold stockStep at taken
  split at taken
  · next performed =>
    cases taken
    exact performCall_locationsCovered covered performed
  · cases taken
    exact covered

theorem stockStep_neverNegative {event : StockEnvironment × StockCall}
    (never : state.NeverNegative) (covers : CoversTotal state event.2)
    (taken : stockStep uuid5 state event = some after) :
    after.NeverNegative := by
  unfold stockStep at taken
  split at taken
  · next performed =>
    cases taken
    exact (performCall_neverNegative_iff never performed).mpr covers
  · cases taken
    exact never

theorem currentStock_eq_ok {itemId amount : Int} {locationId : Option Int}
    (current : state.currentStock itemId locationId = .ok amount) :
    amount = balance state.ledger itemId locationId := by
  unfold StockState.currentStock at current
  simp only [bind_eq_ok, pure_eq_ok] at current
  obtain ⟨_, -, isAmount⟩ := current
  exact isAmount.symm

/-- In every run from an empty ledger the balance of an item at a location is
never negative, and when every call meets the condition neither is the
hotel-wide balance. -/
theorem reaches_stock_nonneg {guard : StockState -> StockEnvironment × StockCall -> Prop}
    {start finish : StockState} (empty : start.movements = [])
    (reached : Reaches (stockStep uuid5) guard start finish) :
    (∀ itemId locationId amount,
        finish.currentStock itemId (some locationId) = .ok amount -> 0 ≤ amount) ∧
      ((∀ state event, guard state event -> CoversTotal state event.2) ->
        ∀ itemId amount, finish.currentStock itemId none = .ok amount -> 0 ≤ amount) := by
  have initial : start.NeverNegative := by
    intro itemId locationId
    unfold StockState.ledger
    rw [empty]
    exact le_rfl
  constructor
  · intro itemId locationId amount current
    have covered : finish.LocationsCovered :=
      reached.invariant (StockState.neverNegative_iff.mp initial).1
        fun covered _ taken => stockStep_locationsCovered covered taken
    rw [currentStock_eq_ok current]
    exact covered itemId locationId
  · intro covers itemId amount current
    have never : finish.NeverNegative :=
      reached.invariant initial fun never guarded taken =>
        stockStep_neverNegative never (covers _ _ guarded) taken
    rw [currentStock_eq_ok current]
    exact never itemId none

end

/-- A hotel that approves its own counts. -/
def quietEnvironment : StockEnvironment where
  now := 0
  hasReservation := fun _ => false
  allowStockCountSelfApproval := some true

/-- One item and two locations, without movements. -/
def emptyHotel : StockState where
  hotelId := 1
  items := fun id => if id = 1 then some { id := 1 } else none
  locations := fun id => if id = 1 ∨ id = 2 then some { id := id } else none

/-- A movement of units of the item, by the operation of its type. -/
def unitsCall (movementType : MovementType) (locationId : Option Int)
    (quantity : ℚ) : StockEnvironment × StockCall :=
  (quietEnvironment, .registerMovement
    { itemId := 1, locationId := locationId, movementType := movementType.value
      quantity := quantity })

/-- Ten units come in at location 1, four go out of it, and five go out
without a location. -/
def coveredRun : List (StockEnvironment × StockCall) :=
  [unitsCall .inbound (some 1) 10, unitsCall .outbound (some 1) 4, unitsCall .outbound none 5]

/-- One unit is left for the hotel. -/
theorem reaches_stock_nonneg_coveredRun :
    ∃ finish amount, run (stockStep id) emptyHotel coveredRun = some finish ∧
        finish.currentStock 1 none = .ok amount ∧ amount = 100 ∧
        0 ≤ amount := by
  have outcome : (run (stockStep id) emptyHotel coveredRun).map
      (·.currentStock 1 none) = some (.ok 100) := by
    decide +kernel
  obtain ⟨finish, ran, current⟩ := Option.map_eq_some_iff.mp outcome
  have guarded : Guarded (stockStep id) (fun state event => CoversTotal state event.2) emptyHotel
      coveredRun := by
    decide +kernel
  have nonneg := (reaches_stock_nonneg rfl
    (reaches_of_run guarded ran)).2 (fun _ _ covers => covers) 1 100 current
  exact ⟨finish, 100, ran, current, rfl, nonneg⟩

/-- Ten units come in at location 1, ten go out without a location, and five
more go out of location 1: the hotel is left with minus five. -/
theorem stock_negative_uncoveredRun :
    (run (stockStep id) emptyHotel [unitsCall .inbound (some 1) 10, unitsCall .outbound none 10,
          unitsCall .outbound (some 1) 5]).map
        (·.currentStock 1 none) = some (.ok (-500)) := by
  decide +kernel

end HotelPms.Stock
