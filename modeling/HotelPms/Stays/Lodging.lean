import HotelPms.Foundation.Table
import HotelPms.Stays.Arrivals
import HotelPms.Stays.RoomReverts

/-!
# Guests in the house

A stay is in the house from the arrival of its first guest until it is checked
out.  Its room is occupied by the first arrival, changed by moves and by the
reverts of grouped moves, and left for cleaning by the check-out.  Calls follow
each other in any order, and a refused call changes nothing.
-/

namespace HotelPms.Stays

open Hotel Checked Booking

/-- What other tables answer when a stay is checked out. -/
structure CheckoutChecks where
  force : Bool := false
  /-- Total and adjustments, less what has been paid. -/
  operationalBalanceDue : ℚ := 0
  balanceText : String := "0.00"
  companyPaymentDeferred : Bool := false

/-- The balance is settled, or may be left open. -/
def checkCheckoutBalance (checks : CheckoutChecks)
    (reservation : Reservation) : Except String Unit :=
  raiseIf (1 / 100 < checks.operationalBalanceDue ∧ checks.force = false ∧
      ¬(reservation.companyId ≠ none ∧ checks.companyPaymentDeferred = true))
    ("No se puede hacer check-out: la reserva tiene un saldo pendiente de $"
      ++ checks.balanceText ++ ". Cobrá el saldo o forzá el check-out.")

variable (state : HotelState) (reservation : Reservation)

/-- Room a stay is checked out of. -/
def roomForCheckout : Except String Room :=
  match reservation.roomId with
  | none =>
    .error "No se puede realizar el check-out: la reserva no tiene una habitación asignada."
  | some roomId =>
    match state.room? roomId with
    | none =>
      .error "No se puede realizar el check-out: la habitación asignada no está disponible."
    | some room => .ok room

/-- An occupied room goes to cleaning; any other status is kept. -/
def roomAfterCheckout (room : Room) : HotelState :=
  if room.status = .occupied then setRoomStatus state room.id .cleaning
  else state

/-- Check out a stay. -/
def performCheckout (state : HouseState) (checks : CheckoutChecks)
    (reservationId : Int) : Except String HouseState := do
  let reservation ← loadReservation state reservationId
  raiseIf (¬InHouse reservation)
    ("No se puede realizar el check-out: la reserva está en estado '" ++ reservation.status.value ++
      "'. La reserva debe estar checked_in o partial_checkin y tener al menos un huésped alojado.")
  let room ← roomForCheckout state.toHotelState reservation
  checkCheckoutBalance checks reservation
  let status ← transitionStatus reservation.status (some .checkedOut)
  pure (withHotel state (roomAfterCheckout (state.toHotelState.replaceReservation
      { reservation with status := status }) room))

/-- The tables of the house, with the movement groups that are stored. -/
structure LodgingState where
  house : HouseState
  groups : List MovementGroup := []
  nextGroupId : Int := 1

/-- Calls that bring guests in, move them and let them out. -/
inductive LodgingCall
  | performGuestCheckin (reservationId guestId : Int)
      (checks : ArrivalChecks)
  | moveReservationRoom (reservationId : Int) (call : RoomMoveCall)
      (surroundings : Surroundings)
  | createGroupedRoomMove (reservationId toRoomId : Int)
      (surroundings : Surroundings)
  | revertGroup (groupId : Int) (canManageCompanyReservations : Bool)
      (surroundings : Surroundings)
  | performCheckout (reservationId : Int) (checks : CheckoutChecks)

section Calls

variable (state : LodgingState)

/-- The same groups over another house. -/
def withHouse (house : HouseState) : LodgingState :=
  { state with house := house }

def moveStored (reservationId : Int) (call : RoomMoveCall)
    (surroundings : Surroundings) : Except String LodgingState :=
  match state.house.reservation? reservationId with
  | none => .error "No se encontró la reserva."
  | some loaded => do
    let moved ← moveReservationRoom state.house.toHotelState surroundings call loaded
    pure (withHouse state (withHotel state.house moved))

/-- Move a stored reservation for another operation, and store the group. -/
def moveGrouped (reservationId toRoomId : Int)
    (surroundings : Surroundings) : Except String LodgingState :=
  match state.house.reservation? reservationId, state.house.room? toRoomId with
  | some reservation, some toRoom => do
    let (moved, group) ← createMovementGroup state.house.toHotelState
      surroundings reservation toRoom state.nextGroupId
    pure {
      house := withHotel state.house moved
      groups := state.groups ++ [group]
      nextGroupId := state.nextGroupId + 1 }
  | _, _ =>
    .error "Reservation and destination room must belong to the active hotel"

def revertStored (groupId : Int) (canManageCompanyReservations : Bool)
    (surroundings : Surroundings) : Except String LodgingState :=
  match Table.find MovementGroup.id groupId state.groups with
  | none => .error "Movement group not found"
  | some group => do
    let (progress, reverted) ← revertGroup state.house.toHotelState
      surroundings group canManageCompanyReservations
    pure { state with
      house := withHotel state.house progress.state
      groups := Table.replace MovementGroup.id reverted state.groups }

end Calls

def performCall (state : LodgingState) : LodgingCall -> Except String LodgingState
  | .performGuestCheckin reservationId guestId checks => do
    let house ← performGuestCheckin state.house checks reservationId guestId
    pure (withHouse state house)
  | .moveReservationRoom reservationId call surroundings =>
    moveStored state reservationId call surroundings
  | .createGroupedRoomMove reservationId toRoomId surroundings =>
    moveGrouped state reservationId toRoomId surroundings
  | .revertGroup groupId canManageCompanyReservations surroundings =>
    revertStored state groupId canManageCompanyReservations surroundings
  | .performCheckout reservationId checks => do
    let house ← performCheckout state.house checks reservationId
    pure (withHouse state house)

/-- The state after a call; a refused call changes nothing. -/
def lodgingStep (state : LodgingState) (call : LodgingCall) : Option LodgingState :=
  match performCall state call with
  | .ok next => some next
  | .error _ => some state

/-- Room of a reservation that is in the house. -/
def lodging : Option Int :=
  if InHouse reservation then reservation.roomId else none

/-- Guests whose arrival with a reservation is recorded. -/
def arrivedGuests (state : HouseState) (reservationId : Int) : List Int :=
  (arrivalsOf state reservationId).map GuestArrival.guestId

/-- Every stay in the house has an occupied room, the time of its check-in and
the arrival of a guest, each guest's once; every occupied room has such a
stay. -/
structure LodgingsMatch (state : HouseState) : Prop where
  occupied : ∀ row ∈ state.reservations, InHouse row ->
    ∃ room ∈ state.rooms, row.roomId = some room.id ∧ room.status = .occupied
  checkedIn : ∀ row ∈ state.reservations, InHouse row -> row.actualCheckIn ≠ none
  arrived : ∀ row ∈ state.reservations, InHouse row -> arrivedGuests state row.id ≠ []
  once : ∀ row ∈ state.reservations, InHouse row -> (arrivedGuests state row.id).Nodup
  inhabited : ∀ room ∈ state.rooms, room.status = .occupied ->
    ∃ row ∈ state.reservations, InHouse row ∧ row.roomId = some room.id

/-- Nobody is in the house, and no room is occupied. -/
structure EmptyHouse (state : HouseState) : Prop where
  nobody : ∀ row ∈ state.reservations, ¬InHouse row
  unoccupied : ∀ room ∈ state.rooms, room.status ≠ .occupied

/-- A stay other than one's own is in the house in a room. -/
def SharedRoom (self roomId : Int) : Prop :=
  ∃ row ∈ state.reservations, row.id ≠ self ∧ lodging row = some roomId
deriving Decidable

def HeldDuringStay (roomId : Int) : Prop :=
  ∃ other ∈ state.reservations, other.Active ∧ other.roomId = some roomId ∧
    HalfOpen.Overlap other.stay reservation.stay ∧
    other.id ≠ reservation.id
deriving Decidable

/-- The room that is left could be booked for the stay by somebody else. -/
def OriginBookable (origin : Int) : Prop :=
  (state.room? origin).any roomReservable = true ∧
    roomHasActiveBlock state origin reservation.stay = false ∧
    ¬HeldDuringStay state reservation origin
deriving Decidable

/-- A stay in the house changes rooms.  A partly arrived stay leaves the
statuses of the rooms as they are, so that both have other guests; the room a
checked-in stay leaves is released exactly when it has no other guests. -/
def MoveKeepsRooms (origin toRoomId : Int) : Prop :=
  if reservation.status = .partialCheckIn then
    SharedRoom state reservation.id origin ∧ SharedRoom state reservation.id toRoomId
  else
    (OriginBookable state reservation origin ↔ ¬SharedRoom state reservation.id origin)
deriving Decidable

/-- A move of a reservation keeps rooms and stays together. -/
def MoveMatches (reservationId toRoomId : Int) : Prop :=
  ∀ reservation ∈ state.reservation? reservationId,
    ∀ origin ∈ lodging reservation, origin ≠ toRoomId ->
      MoveKeepsRooms state reservation origin toRoomId
deriving Decidable

/-- A move that is taken back is not that of a partly arrived stay, unless
both rooms have other guests. -/
def RevertMatches (surroundings : Surroundings) (progress : RevertProgress)
    (event : RoomMoveEvent) : Prop :=
  ∀ reservation ∈ progress.state.reservation? event.reservationId,
    ∀ fromRoom ∈ event.fromRoomId.bind progress.state.room?, reservation.status = .partialCheckIn ->
      reservation.roomId ≠ some fromRoom.id ->
      revertConflict? progress.state surroundings event reservation fromRoom = none ->
      SharedRoom progress.state reservation.id event.toRoomId ∧
        SharedRoom progress.state reservation.id fromRoom.id
deriving Decidable

/-- One round of a revert, if it does not raise an error. -/
def revertStep (surroundings : Surroundings) (progress : RevertProgress)
    (event : RoomMoveEvent) : Option RevertProgress :=
  (revertEvent surroundings progress event).toOption

/-- A later arrival is of a stay whose check-in has its time. -/
def ArrivalMatches (state : HouseState) (reservationId : Int) : Prop :=
  ∀ reservation ∈ state.reservation? reservationId,
    BeforeArrival reservation.status -> arrivalsOf state reservationId ≠ [] ->
      reservation.actualCheckIn ≠ none
deriving Decidable

/-- Nobody stays behind in the room of a stay that is checked out. -/
def CheckoutMatches (reservationId : Int) : Prop :=
  ∀ reservation ∈ state.reservation? reservationId,
    ∀ origin ∈ lodging reservation, ¬SharedRoom state reservation.id origin
deriving Decidable

/-- What a call has to find for the occupied rooms and the stays in the house
to stay together. -/
def FindsLodgings (state : LodgingState) : LodgingCall -> Prop
  | .performGuestCheckin reservationId _ _ =>
    ArrivalMatches state.house reservationId
  | .moveReservationRoom reservationId call _ =>
    MoveMatches state.house.toHotelState reservationId call.toRoomId
  | .createGroupedRoomMove reservationId toRoomId _ =>
    MoveMatches state.house.toHotelState reservationId toRoomId
  | .revertGroup groupId _ surroundings =>
    ∀ group ∈ Table.find MovementGroup.id groupId state.groups,
      Transition.Guarded (revertStep surroundings)
        (RevertMatches surroundings) { state := state.house.toHotelState }
        group.events.reverse
  | .performCheckout reservationId _ =>
    CheckoutMatches state.house.toHotelState reservationId

instance (state : LodgingState) (call : LodgingCall) : Decidable (FindsLodgings state call) := by
  cases call <;> unfold FindsLodgings <;> infer_instance

/-- A call is refused, or finds what it has to. -/
def KeepsLodgings (state : LodgingState) (call : LodgingCall) : Prop :=
  (performCall state call).isOk = true -> FindsLodgings state call
deriving Decidable

end HotelPms.Stays
