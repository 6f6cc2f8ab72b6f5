import HotelPms.Allocation.CpModel
import HotelPms.Hotel.State

/-!
# Slots from the hotel tables

`buildSlotsFromDb` turns the rows of a hotel into solver slots.  Reservations
and blocks are loaded when they meet the horizon, and a loaded reservation
keeps its full stay.  The main result says which overlaps a plan for these
slots can still create once every planned reservation sits in its room.
-/

namespace HotelPms.Allocation

open HalfOpen KeySort Hotel

/-- Sorted list of the distinct values of a list. -/
def sortedSet (values : List Int) : List Int :=
  sortByKey id values.dedup

def MeetsHorizon (horizon window : Int × Int) : Prop :=
  window.1 < horizon.2 ∧ horizon.1 < window.2
deriving Decidable

section Loading

variable (state : HotelState) (horizon : Int × Int)

/-- Active reservations whose stay meets the horizon. -/
def reservationRows : List Reservation :=
  state.reservations.filter fun reservation =>
    reservation.Active ∧ MeetsHorizon horizon reservation.stay

/-- Unresolved blocks that meet the horizon. -/
def activeBlockRows : List RoomBlock :=
  state.blocks.filter (·.BlocksWindow horizon)

def compatibilityRows (sellableProductId : Option Int) : List ProductRoomCompatibility :=
  (sortByKey ProductRoomCompatibility.priority (state.compatibilities.filter
      ProductRoomCompatibility.allowsAutoAssignment)).filter fun row =>
    some row.sellableProductId = sellableProductId

def primaryRoomCategoryId (sellableProductId : Option Int) : Option Int :=
  (state.products.find? fun product =>
    some product.id = sellableProductId).bind SellableProduct.primaryRoomCategoryId

/-- Allowed categories of a reservation and their priorities. -/
structure CategoryChoice where
  allowed : List Int
  priorityByCategory : List (Int × Int)

variable (allowCategoryFallback : Bool)

def CategoryChoice.addRow (choice : CategoryChoice)
    (row : ProductRoomCompatibility) : CategoryChoice :=
  if allowCategoryFallback = false ∧ row.compatibilityKind ≠ "exact" then
    choice
  else
    { allowed :=
        if row.roomCategoryId ∈ choice.allowed then choice.allowed
        else choice.allowed ++ [row.roomCategoryId]
      priorityByCategory :=
        (row.roomCategoryId, min ((choice.priorityByCategory.lookup
            row.roomCategoryId).getD row.priority) row.priority) ::
          choice.priorityByCategory.filter (·.1 ≠ row.roomCategoryId) }

/-- The booked category, then the product's compatible ones, then its primary
category when no compatibility is configured. -/
def categoryChoice (reservation : Reservation) : CategoryChoice :=
  let booked : CategoryChoice :=
    { allowed := [reservation.categoryId], priorityByCategory := [(reservation.categoryId, 0)] }
  match compatibilityRows state reservation.sellableProductId with
  | [] =>
    match primaryRoomCategoryId state reservation.sellableProductId with
    | some primary =>
      if primary ≠ 0 ∧ primary ∉ booked.allowed then
        { allowed := booked.allowed ++ [primary]
          priorityByCategory :=
            (primary, 0) :: booked.priorityByCategory }
      else booked
    | none => booked
  | rows => rows.foldl (CategoryChoice.addRow allowCategoryFallback) booked

def avoidedRoomIdsOfGuest (guestId : Int) : List Int :=
  sortedSet ((state.avoidances.filter fun avoidance =>
    avoidance.isActive ∧ avoidance.guestId = guestId).map GuestRoomAvoidance.roomId)

/-- A completed stay of a guest: check-out date, reservation id, room and the
room's category. -/
structure CompletedStay where
  checkOutDate : Int
  reservationId : Int
  roomId : Int
  roomCategoryId : Int

/-- Completed stays of a guest that ended before the horizon does, by
check-out date and id. -/
def completedStays (guestId : Int) : List CompletedStay :=
  sortByKey (fun stay => [stay.checkOutDate, stay.reservationId])
    (state.reservations.filterMap fun reservation =>
      if reservation.guestId = guestId ∧ reservation.status = .checkedOut ∧
          reservation.checkOutDate < horizon.2 then
        reservation.roomId.bind fun roomId =>
          (state.room? roomId).map fun room =>
            { checkOutDate := reservation.checkOutDate, reservationId := reservation.id
              roomId := roomId, roomCategoryId := room.categoryId }
      else none)

/-- Room of the guest's last completed stay up to a check-in date, if it is of
the booked category and not rejected. -/
def priorStayRoomId (reservation : Reservation) : Option Int :=
  let upToCheckIn :=
    (completedStays state horizon reservation.guestId).takeWhile fun stay =>
      stay.checkOutDate ≤ reservation.checkInDate
  upToCheckIn.getLast?.bind fun stay =>
    if stay.roomCategoryId = reservation.categoryId ∧
        stay.roomId ∉ avoidedRoomIdsOfGuest state reservation.guestId then
      some stay.roomId
    else none

def reservationSlot (allowLockedMovesForReview : Bool)
    (reservation : Reservation) : ReservationSlot :=
  let choice := categoryChoice state allowCategoryFallback reservation
  let explicitlyLocked := decide (state.ExplicitlyLocked reservation)
  { reservationId := reservation.id
    categoryId := reservation.categoryId
    checkIn := reservation.checkInDate
    checkOut := reservation.checkOutDate
    currentRoomId := reservation.roomId
    isLocked := decide reservation.HasPhysicalCheckIn ||
      (explicitlyLocked && !allowLockedMovesForReview)
    explicitlyLocked := explicitlyLocked
    companyId := reservation.companyId
    channelCode := some reservation.channelCode
    source := some reservation.source
    numGuests := max 1 (reservation.numAdults + reservation.numChildren)
    mobilityRestriction := reservation.mobilityRestriction
    allowedCategoryIds := choice.allowed
    categoryPriorityById := choice.priorityByCategory
    priorStayRoomId := priorStayRoomId state horizon reservation
    avoidedRoomIds := avoidedRoomIdsOfGuest state reservation.guestId
    blockedRoomIds := sortedSet (((activeBlockRows state horizon).filter fun block =>
        block.Meets reservation.stay).map RoomBlock.roomId) }

def roomSlot (room : Room) : RoomSlot where
  roomId := room.id
  categoryId := room.categoryId
  maxOccupancy :=
    max 1 (((state.category? room.categoryId).map RoomCategory.maxOccupancy).getD 1)
  floor := room.floor
  score := room.score
  isAccessible := room.isAccessible
  allocationPriorityChannelGroups := room.allocationPriorityChannelGroups
  allocationPriorityCompanyIds := room.allocationPriorityCompanyIds

/-- Slots of the reservations that meet the horizon and of the rooms that can
be allocated. -/
def buildSlotsFromDb (allowLockedMovesForReview : Bool) : List ReservationSlot × List RoomSlot :=
  ((reservationRows state horizon).map
      (reservationSlot state horizon allowCategoryFallback allowLockedMovesForReview),
    (state.rooms.filter fun room =>
      room.deletedAt = none ∧ room.isActive = true ∧ room.status.Reservable).map (roomSlot state))

end Loading

section Slots

variable {state : HotelState} {horizon : Int × Int}
  {allowCategoryFallback allowLockedMovesForReview : Bool}

@[simp] theorem mem_sortedSet {values : List Int} {value : Int} :
    value ∈ sortedSet values ↔ value ∈ values := by
  simp [sortedSet]

theorem mem_reservationRows {reservation : Reservation} :
    reservation ∈ reservationRows state horizon ↔
      reservation ∈ state.reservations ∧ reservation.Active ∧
        MeetsHorizon horizon reservation.stay := by
  simp [reservationRows]

@[simp] theorem reservationSlot_reservationId (reservation : Reservation) :
    (reservationSlot state horizon allowCategoryFallback
      allowLockedMovesForReview reservation).reservationId = reservation.id := rfl

theorem reservationSlot_nights (reservation : Reservation) :
    0 < (reservationSlot state horizon allowCategoryFallback
      allowLockedMovesForReview reservation).nights :=
  Int.sub_pos.mpr reservation.datesOrdered

theorem mem_blockedRoomIds {reservation : Reservation} {roomId : Int} :
    roomId ∈ (reservationSlot state horizon allowCategoryFallback
        allowLockedMovesForReview reservation).blockedRoomIds ↔
      ∃ block ∈ state.blocks, block.roomId = roomId ∧
        block.BlocksWindow horizon ∧ block.Meets reservation.stay := by
  simp only [reservationSlot, mem_sortedSet, List.mem_map, List.mem_filter,
    activeBlockRows, decide_eq_true_eq]
  constructor
  · rintro ⟨block, ⟨⟨member, loaded⟩, covers⟩, rfl⟩
    exact ⟨block, member, rfl, loaded, covers⟩
  · rintro ⟨block, member, rfl, loaded, covers⟩
    exact ⟨block, ⟨⟨member, loaded⟩, covers⟩, rfl⟩

theorem buildSlots_distinctIds : ((buildSlotsFromDb state horizon allowCategoryFallback
      allowLockedMovesForReview).1.map ReservationSlot.reservationId).Nodup := by
  simp only [buildSlotsFromDb, List.map_map]
  exact (List.filter_sublist.map Reservation.id).nodup state.distinctReservations

theorem buildSlots_distinctRooms : ((buildSlotsFromDb state horizon allowCategoryFallback
      allowLockedMovesForReview).2.map RoomSlot.roomId).Nodup := by
  simp only [buildSlotsFromDb, List.map_map]
  exact (List.filter_sublist.map Room.id).nodup state.distinctRooms

theorem buildSlots_positiveNights : ∀ slot ∈ (buildSlotsFromDb state horizon allowCategoryFallback
      allowLockedMovesForReview).1, 0 < slot.nights := by
  intro slot member
  obtain ⟨reservation, _, rfl⟩ := List.mem_map.mp member
  exact reservationSlot_nights reservation

end Slots

/-! ## Plans and the horizon -/

section Plans

variable {state : HotelState} {horizon : Int × Int}
  {allowCategoryFallback allowLockedMovesForReview : Bool}
  {forbidden : ForbiddenRooms}
  {assignments : AList fun _ : Int => Int}

abbrev horizonSlots (state : HotelState) (horizon : Int × Int)
    (allowCategoryFallback allowLockedMovesForReview : Bool) :
    List ReservationSlot :=
  (buildSlotsFromDb state horizon allowCategoryFallback allowLockedMovesForReview).1

abbrev horizonRooms (state : HotelState) (horizon : Int × Int)
    (allowCategoryFallback allowLockedMovesForReview : Bool) : List RoomSlot :=
  (buildSlotsFromDb state horizon allowCategoryFallback allowLockedMovesForReview).2

/-- Vetoes the solver reads for the slots of the horizon. -/
abbrev horizonForbidden (state : HotelState) (horizon : Int × Int)
    (allowCategoryFallback allowLockedMovesForReview : Bool)
    (forbidden : ForbiddenRooms) : ForbiddenRooms :=
  combinedForbiddenRoomIds
    (horizonSlots state horizon allowCategoryFallback allowLockedMovesForReview) forbidden

variable {reservation : Reservation}

theorem slot_mem_horizonSlots (loaded : reservation ∈ reservationRows state horizon) :
    reservationSlot state horizon allowCategoryFallback allowLockedMovesForReview reservation ∈
      horizonSlots state horizon allowCategoryFallback
        allowLockedMovesForReview :=
  List.mem_map_of_mem loaded

variable {roomId : Int}

theorem blocked_room_forbidden (loaded : reservation ∈ reservationRows state horizon)
    (blocked : roomId ∈ (reservationSlot state horizon allowCategoryFallback
      allowLockedMovesForReview reservation).blockedRoomIds) :
    roomId ∈ horizonForbidden state horizon allowCategoryFallback
      allowLockedMovesForReview forbidden reservation.id := by
  refine Finset.mem_union_right _ (List.mem_toFinset.mpr (List.mem_flatMap.mpr ⟨_, ?_, blocked⟩))
  rw [List.mem_filter]
  exact ⟨slot_mem_horizonSlots loaded, by simp⟩

theorem loaded_of_planned (point : CpPoint
      (horizonSlots state horizon allowCategoryFallback allowLockedMovesForReview)
      (horizonRooms state horizon allowCategoryFallback allowLockedMovesForReview))
    (member : reservation ∈ state.reservations)
    (planned : (readAssignments point).lookup reservation.id = some roomId) :
    reservation ∈ reservationRows state horizon := by
  obtain ⟨slot, slotIn, sameId⟩ := exists_slot_of_lookup planned
  obtain ⟨loaded, loadedIn, rfl⟩ := List.mem_map.mp slotIn
  have same := state.reservation_eq_of_id_eq (mem_reservationRows.mp loadedIn).1 member sameId
  rwa [same] at loadedIn

theorem slot_mem_of_planned (point : CpPoint
      (horizonSlots state horizon allowCategoryFallback allowLockedMovesForReview)
      (horizonRooms state horizon allowCategoryFallback allowLockedMovesForReview))
    (member : reservation ∈ state.reservations)
    (planned : (readAssignments point).lookup reservation.id = some roomId) :
    reservationSlot state horizon allowCategoryFallback allowLockedMovesForReview reservation ∈
      horizonSlots state horizon allowCategoryFallback
        allowLockedMovesForReview :=
  slot_mem_horizonSlots (loaded_of_planned point member planned)

variable {point : CpPoint
    (horizonSlots state horizon allowCategoryFallback allowLockedMovesForReview)
    (horizonRooms state horizon allowCategoryFallback allowLockedMovesForReview)}

theorem planned_exclusive (constraints : HardConstraints _ _
      (horizonForbidden state horizon allowCategoryFallback
        allowLockedMovesForReview forbidden) point)
    {first second : Reservation} (firstIn : first ∈ state.reservations)
    (secondIn : second ∈ state.reservations) (different : first ≠ second)
    (firstPlanned : (readAssignments point).lookup first.id = some roomId)
    (secondPlanned : (readAssignments point).lookup second.id = some roomId) :
    ¬Overlap first.stay second.stay := by
  have plan := constraints.soundPlan buildSlots_distinctIds
    buildSlots_distinctRooms buildSlots_positiveNights
  have apart : reservationSlot state horizon allowCategoryFallback allowLockedMovesForReview first ≠
    reservationSlot state horizon allowCategoryFallback allowLockedMovesForReview second := by
    intro same
    have sameId : first.id = second.id :=
      congrArg ReservationSlot.reservationId same
    exact different (state.reservation_eq_of_id_eq firstIn secondIn sameId)
  exact plan.exclusive _ (slot_mem_of_planned point firstIn firstPlanned) _
    (slot_mem_of_planned point secondIn secondPlanned) apart _ firstPlanned
    secondPlanned

theorem planned_unblocked (constraints : HardConstraints _ _
      (horizonForbidden state horizon allowCategoryFallback
        allowLockedMovesForReview forbidden) point)
    (member : reservation ∈ state.reservations) {block : RoomBlock}
    (blockIn : block ∈ state.blocks)
    (planned : (readAssignments point).lookup reservation.id = some block.roomId)
    (blocks : block.BlocksWindow reservation.stay) : ¬block.Meets horizon := by
  intro meets
  have plan := constraints.soundPlan buildSlots_distinctIds
    buildSlots_distinctRooms buildSlots_positiveNights
  obtain ⟨room, _, sameId, eligible⟩ :=
    plan.eligible _ (slot_mem_of_planned point member planned) _ planned
  refine eligible.notForbidden ?_
  rw [sameId]
  exact blocked_room_forbidden (loaded_of_planned point member planned)
    (mem_blockedRoomIds.mpr ⟨block, blockIn, rfl, ⟨blocks.1, meets⟩, blocks.2⟩)

theorem mem_of_unplanned (member : reservation ∈ (state.assignRooms fun id =>
      (readAssignments point).lookup id).reservations)
    (unplanned : (readAssignments point).lookup reservation.id = none) :
    reservation ∈ state.reservations := by
  obtain ⟨original, originalIn, rfl⟩ := HotelState.mem_assignRooms.mp member
  rw [Reservation.inRoom_id] at unplanned
  rw [unplanned]
  exact originalIn

end Plans

/-- Once every planned reservation sits in its room, an overlap can only come
from outside the plan: from a reservation that misses the horizon or that the
plan leaves unassigned, or from a block that misses the horizon.  Stays count
with all their dates. -/
theorem planned_overlap_outside_horizon (state : HotelState)
    (noDoubleBooking : state.NoDoubleBooking)
    (horizon : Int × Int)
    (allowCategoryFallback allowLockedMovesForReview : Bool)
    (forbidden : ForbiddenRooms)
    (point : CpPoint (horizonSlots state horizon allowCategoryFallback allowLockedMovesForReview)
      (horizonRooms state horizon allowCategoryFallback allowLockedMovesForReview))
    (constraints : HardConstraints _ _ (horizonForbidden state horizon allowCategoryFallback
        allowLockedMovesForReview forbidden) point) :
    let assignments := readAssignments point
    let placed := state.assignRooms (assignments.lookup ·)
    (∀ planned ∈ placed.reservations, ∀ roomId, assignments.lookup planned.id = some roomId ->
      ∀ other ∈ placed.reservations, other.Active -> other ≠ planned ->
        other.roomId = some roomId -> Overlap planned.stay other.stay ->
          ¬MeetsHorizon horizon other.stay ∨
            ((∃ slot ∈ horizonSlots state horizon allowCategoryFallback
                allowLockedMovesForReview, slot.reservationId = other.id) ∧
              assignments.lookup other.id = none)) ∧
    Exclusive Reservation.roomId Reservation.stay {reservation | reservation ∈ placed.reservations ∧
        reservation.Active ∧ assignments.lookup reservation.id = none} ∧
    (∀ planned ∈ placed.reservations, ∀ roomId, assignments.lookup planned.id = some roomId ->
      ∀ block ∈ state.blocks, block.roomId = roomId ->
        block.BlocksWindow planned.stay -> ¬block.Meets horizon) := by
  intro assignments placed
  refine ⟨?reservations, ?unplanned, ?blocks⟩
  case reservations =>
    intro planned plannedIn roomId chosen other otherIn otherActive different otherRoom overlap
    obtain ⟨original, member, rfl⟩ := HotelState.mem_assignRooms.mp plannedIn
    obtain ⟨second, secondIn, rfl⟩ := HotelState.mem_assignRooms.mp otherIn
    cases secondChosen : assignments.lookup second.id with
    | none =>
      by_cases meets : MeetsHorizon horizon second.stay
      · refine Or.inr ⟨⟨_, slot_mem_horizonSlots
          (mem_reservationRows.mpr ⟨secondIn, otherActive, meets⟩), rfl⟩, ?_⟩
        exact secondChosen
      · exact Or.inl meets
    | some secondRoom =>
      rw [Reservation.inRoom_roomId, secondChosen] at otherRoom
      cases otherRoom
      have apart : original ≠ second := by
        rintro rfl
        exact different rfl
      have separate := planned_exclusive constraints member secondIn apart chosen secondChosen
      exact absurd overlap separate
  case unplanned =>
    exact noDoubleBooking.subset fun reservation kept =>
      ⟨mem_of_unplanned kept.1 kept.2.2, kept.2.1⟩
  case blocks =>
    rintro planned plannedIn roomId chosen block blockIn rfl blocks
    obtain ⟨original, member, rfl⟩ := HotelState.mem_assignRooms.mp plannedIn
    have unblocked := planned_unblocked constraints member blockIn chosen
    exact unblocked blocks

/-- A stay that straddles day 10, in room 7. -/
def straddlingReservation : Reservation where
  id := 1
  roomId := some 7
  categoryId := 1
  checkInDate := 8
  checkOutDate := 12
  datesOrdered := by decide

/-- A stay that begins on day 10, in room 8. -/
def laterReservation : Reservation where
  id := 2
  roomId := some 8
  categoryId := 1
  checkInDate := 10
  checkOutDate := 14
  datesOrdered := by decide

def twoRooms : List Room :=
  [{ id := 7, categoryId := 1 }, { id := 8, categoryId := 1 }]

theorem twoRooms_distinct : (twoRooms.map Room.id).Nodup := by decide

/-- Both stays in a hotel with rooms 7 and 8. -/
def straddlingState : HotelState where
  reservations := [straddlingReservation, laterReservation]
  distinctReservations := by decide
  rooms := twoRooms
  distinctRooms := twoRooms_distinct
  categories := [{ id := 1, maxOccupancy := 2 }]

def straddlingPlan : AList fun _ : Int => Int :=
  (∅ : AList fun _ : Int => Int).insert 1 8

/-- Its point in the model of the horizon up to day 10. -/
def straddlingPoint : CpPoint (horizonSlots straddlingState (0, 10) true true)
    (horizonRooms straddlingState (0, 10) true true) :=
  pointOfPlan _ _ (horizonForbidden straddlingState (0, 10) true true fun _ => ∅) (0, 10)
    straddlingPlan

theorem straddlingPlan_sound : SoundPlan (horizonSlots straddlingState (0, 10) true true)
      (horizonRooms straddlingState (0, 10) true true)
      (horizonForbidden straddlingState (0, 10) true true fun _ => ∅)
      straddlingPlan := by
  have slots : horizonSlots straddlingState (0, 10) true true =
      [reservationSlot straddlingState (0, 10) true true straddlingReservation] := rfl
  refine { eligible := ?_, exclusive := ?_, lockedPlaced := ?_, lockedKept := ?_ }
  · intro reservation member roomId found
    rw [slots, List.mem_singleton] at member
    subst member
    have inRoom : roomId = 8 := Option.some.inj (found.symm.trans rfl)
    subst inRoom
    decide
  · intro first firstIn second secondIn different
    exact absurd ((List.mem_singleton.mp firstIn).trans
      (List.mem_singleton.mp secondIn).symm) different
  · intro reservation member locked
    rw [slots, List.mem_singleton] at member
    subst member
    cases locked
  · intro reservation member locked
    rw [slots, List.mem_singleton] at member
    subst member
    cases locked

theorem straddlingPoint_constraints :
    HardConstraints _ _ (horizonForbidden straddlingState (0, 10) true true fun _ => ∅)
      straddlingPoint :=
  straddlingPlan_sound.hardConstraints buildSlots_distinctIds buildSlots_distinctRooms (0, 10)

theorem straddlingState_noDoubleBooking : straddlingState.NoDoubleBooking := by
  intro first firstIn second secondIn different roomId firstRoom secondRoom
  have apart : ∀ first ∈ straddlingState.reservations,
      ∀ second ∈ straddlingState.reservations, first ≠ second ->
        first.roomId ≠ second.roomId := by decide
  exact absurd (firstRoom.trans secondRoom.symm) (apart first firstIn.1 second secondIn.1 different)

/-- The plan satisfies every hard constraint, and yet puts the straddling stay
on top of the later one, which was never loaded. -/
theorem straddlingPlan_overlaps : straddlingState.NoDoubleBooking ∧ HardConstraints _ _
        (horizonForbidden straddlingState (0, 10) true true fun _ => ∅)
        straddlingPoint ∧
      ∃ planned ∈ (straddlingState.assignRooms fun id =>
          (readAssignments straddlingPoint).lookup id).reservations,
        (readAssignments straddlingPoint).lookup planned.id = some 8 ∧
        ∃ other ∈ (straddlingState.assignRooms fun id =>
            (readAssignments straddlingPoint).lookup id).reservations,
          other.Active ∧ other ≠ planned ∧ other.roomId = some 8 ∧
            Overlap planned.stay other.stay :=
  ⟨straddlingState_noDoubleBooking, straddlingPoint_constraints,
    straddlingReservation.inRoom (some 8), by decide, by decide,
    laterReservation, by decide, by decide, by decide, by decide, by decide⟩

/-- Whatever the straddling stay meets in room 8 misses the horizon or was left
unassigned. -/
theorem planned_overlap_outside_horizon_straddling :
    let assignments := readAssignments straddlingPoint
    let placed := straddlingState.assignRooms (assignments.lookup ·)
    ∀ other ∈ placed.reservations, other.Active -> other ≠ straddlingReservation.inRoom (some 8) ->
      other.roomId = some 8 ->
      Overlap (straddlingReservation.inRoom (some 8)).stay other.stay ->
        ¬MeetsHorizon (0, 10) other.stay ∨
          ((∃ slot ∈ horizonSlots straddlingState (0, 10) true true,
              slot.reservationId = other.id) ∧
            assignments.lookup other.id = none) :=
  (planned_overlap_outside_horizon straddlingState
    straddlingState_noDoubleBooking (0, 10) true true (fun _ => ∅)
    straddlingPoint straddlingPoint_constraints).1
      (straddlingReservation.inRoom (some 8)) (by decide) 8 (by decide)

end HotelPms.Allocation
