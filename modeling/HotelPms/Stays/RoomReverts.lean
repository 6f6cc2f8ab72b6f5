import HotelPms.Stays.RoomMoves

/-!
# Movement groups and their reverts

A grouped move and an applied allocation store the moves they made as one
group.  Reverting a group takes its moves back one at a time, the last one
first, each after a check that its original room can take the stay.
-/

namespace HotelPms.Stays

open Hotel HalfOpen Checked Booking

/-- One stored move of a reservation. -/
structure RoomMoveEvent where
  reservationId : Int
  fromRoomId : Option Int
  toRoomId : Int

/-- Moves made together, in the order they were stored. -/
structure MovementGroup where
  id : Int
  events : List RoomMoveEvent
  isReverted : Bool := false

variable (state : HotelState) (surroundings : Surroundings)

def createMovementGroup (reservation : Reservation) (toRoom : Room) (groupId : Int) :
    Except String (HotelState × MovementGroup) := do
  let moved ← createGroupedRoomMove state surroundings reservation toRoom
  pure (moved, {
    id := groupId
    events := [{
      reservationId := reservation.id
      fromRoomId := reservation.roomId
      toRoomId := toRoom.id }] })

/-- Assignments a solver proposes, one for each reservation. -/
structure AllocationResult where
  assignments : List (Int × Int)
  distinct : (assignments.map Prod.fst).Nodup
  unassigned : List Int := []
  error : Option String := none

def activeReservation? (reservationId : Int) : Option Reservation :=
  (state.reservation? reservationId).filter (·.deletedAt = none)

/-- A reservation that an allocation may not move. -/
def Protected (approvals : List Int) (reservation : Reservation) : Prop :=
  reservation.HasPhysicalCheckIn ∨ (state.ExplicitlyLocked reservation ∧ reservation.id ∉ approvals)
deriving Decidable

/-- Move of an assignment to another room than the current one. -/
def candidateMove (assignment : Int × Int) : Option RoomMoveEvent :=
  ((activeReservation? state assignment.1).filter fun reservation =>
    reservation.roomId ≠ some assignment.2).map fun reservation =>
      { reservationId := reservation.id, fromRoomId := reservation.roomId
        toRoomId := assignment.2 }

/-- Moves of the assignments, in their order. -/
def candidateMoves (result : AllocationResult) : List RoomMoveEvent :=
  result.assignments.filterMap (candidateMove state)

/-- Room a list of moves gives a reservation. -/
def roomGiven (events : List RoomMoveEvent) (reservationId : Int) : Option Int :=
  (events.find? (·.reservationId = reservationId)).map RoomMoveEvent.toRoomId

/-- Write the rooms of an allocation, all or nothing. -/
def applyAllocationResult (result : AllocationResult) (approvals : List Int)
    (groupId : Int) : Except String (HotelState × Option MovementGroup) := do
  raiseIf (result.error ≠ none) (result.error.getD "")
  let events := candidateMoves state result
  events.forM fun event => raiseIf (((state.reservation? event.reservationId).any
        (Protected state approvals ·)) = true)
      ("Reservation " ++ toString event.reservationId ++
        " is checked in or explicitly protected from reassignment")
  raiseIf (result.unassigned ≠ []) ("Sin habitaciones disponibles para las reservas: " ++
      ", ".intercalate (result.unassigned.map toString))
  pure (state.assignRooms (roomGiven events),
    if events = [] then none
    else some { id := groupId, events := events })

/-- A move that could not be taken back. -/
structure RevertConflict where
  reservationId : Int
  originalRoomId : Int
  reason : String

/-- What a revert has done so far. -/
structure RevertProgress where
  state : HotelState
  reverted : List Int := []
  conflicts : List RevertConflict := []

/-- Statuses whose moves are not taken back. -/
def unrevertedStatuses : List ReservationStatus :=
  [.checkedIn, .checkedOut, .cancelled, .noShow]

def activeReservationConflicts (roomId : Int) (window : Int × Int)
    (excludeReservationId : Int) : List Reservation :=
  state.reservations.filter fun reservation =>
    reservation.Active ∧ reservation.roomId = some roomId ∧ Overlap reservation.stay window ∧
      reservation.id ≠ excludeReservationId

/-- Why a move cannot be taken back, if it cannot. -/
def revertConflict? (event : RoomMoveEvent) (reservation : Reservation) (fromRoom : Room) :
    Option String :=
  if reservation.status ∈ unrevertedStatuses then
    some "reservation_state_changed_after_group"
  else if reservation.roomId ≠ some event.toRoomId then
    some "reservation_room_changed_after_group"
  else
    match state.category? fromRoom.categoryId with
    | none => some "original_room_category_unavailable"
    | some category =>
      if fromRoom.isActive = false ∨ fromRoom.deletedAt ≠ none ∨
          fromRoom.status = .maintenance ∨ fromRoom.status = .blocked then
        some "original_room_unavailable"
      else if validateReservationOccupancy category
          (reservationActualGuestCount surroundings reservation) 0 ≠ .ok () then
        some "original_room_capacity_insufficient"
      else if activeReservationConflicts state fromRoom.id reservation.stay reservation.id ≠ [] ∨
          checkRoomAvailability state fromRoom.id reservation.stay
            (some reservation.id) ≠ .ok true then
        some "original_room_unavailable"
      else none

/-- Take back the move of a reservation, or report why not. -/
def revertMove (progress : RevertProgress)
    (event : RoomMoveEvent) (reservation : Reservation) (fromRoom : Room) :
    RevertProgress :=
  if reservation.roomId = some fromRoom.id then
    { progress with reverted := progress.reverted ++ [reservation.id] }
  else
    match revertConflict? progress.state surroundings event reservation fromRoom with
    | some reason =>
      { progress with
        conflicts := progress.conflicts ++ [{
          reservationId := reservation.id
          originalRoomId := fromRoom.id
          reason := reason }] }
    | none =>
      { progress with
        state := progress.state.replaceReservation (movedReservation reservation fromRoom)
        reverted := progress.reverted ++ [reservation.id] }

def revertEvent (progress : RevertProgress)
    (event : RoomMoveEvent) : Except String RevertProgress :=
  match event.fromRoomId with
  | none =>
    .error "Movement without source room cannot be reverted automatically"
  | some fromRoomId =>
    match progress.state.reservation? event.reservationId with
    | none => .error "Linked reservation no longer exists"
    | some reservation =>
      match progress.state.room? fromRoomId with
      | none => .error "Original room no longer exists"
      | some fromRoom =>
        .ok (revertMove surroundings progress event reservation fromRoom)

def groupHasCompanyReservations (events : List RoomMoveEvent) : Prop :=
  ∃ event ∈ events, ((state.reservation? event.reservationId).any (·.companyId.isSome)) = true
deriving Decidable

/-- Take back the moves of a group, the last one first. -/
def revertGroup (group : MovementGroup) (canManageCompanyReservations : Bool) :
    Except String (RevertProgress × MovementGroup) := do
  raiseIf (group.isReverted = true) "Movement group is already reverted"
  raiseIf (group.events = []) "Movement group has no linked room moves"
  raiseIf (∃ event ∈ group.events, state.reservation? event.reservationId = none)
    "Linked reservation no longer exists"
  raiseIf (canManageCompanyReservations = false ∧ groupHasCompanyReservations state group.events)
    "Company reservation movement groups require company management permission"
  let progress ← group.events.reverse.foldlM (revertEvent surroundings) { state := state }
  pure (progress, { group with isReverted := decide (progress.conflicts = []) })

end HotelPms.Stays
