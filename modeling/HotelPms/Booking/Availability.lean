import HotelPms.Foundation.Checked
import HotelPms.Hotel.State

/-!
# Room availability

The two availability reads of the booking service: one room for a date range,
and the rooms of a category that can still be booked.  Both count overlapping
active reservations and unresolved room blocks.
-/

namespace HotelPms.Booking

open Hotel HalfOpen Checked

/-- The id a request names; a missing id and zero are both falsy. -/
def truthy (id : Option Int) : Option Int :=
  id.filter (· ≠ 0)

theorem truthy_eq_some {id : Option Int} {value : Int} :
    truthy id = some value ↔ id = some value ∧ value ≠ 0 := by
  simp [truthy, Option.filter_eq_some_iff]

/-- The room itself can be booked: not deleted, active, reservable status. -/
def roomReservable (room : Room) : Bool :=
  room.deletedAt.isNone && room.isActive && decide room.status.Reservable

def roomHasActiveBlock (state : HotelState) (roomId : Int) (window : Int × Int) : Bool :=
  state.blocks.any fun block => block.roomId = roomId ∧ block.BlocksWindow window

/-- Overlapping active reservations of a room, an excluded one left out. -/
def overlappingReservations (state : HotelState) (roomId : Int) (window : Int × Int)
    (excludeReservationId : Option Int) : List Reservation :=
  state.reservations.filter fun reservation =>
    reservation.Active ∧ reservation.roomId = some roomId ∧ Overlap reservation.stay window ∧
      truthy excludeReservationId ≠ some reservation.id

def validateStayDates (window : Int × Int) : Except String Unit :=
  raiseIf (window.2 ≤ window.1) "La fecha de salida debe ser posterior a la fecha de entrada"

def checkRoomAvailability (state : HotelState) (roomId : Int) (window : Int × Int)
    (excludeReservationId : Option Int) : Except String Bool := do
  validateStayDates window
  match state.room? roomId with
  | none =>
    .error ("No se encontró la habitación con ID " ++ toString roomId)
  | some room =>
    if roomReservable room = false then pure false
    else if roomHasActiveBlock state roomId window = true then pure false
    else pure (overlappingReservations state roomId window excludeReservationId).isEmpty

/-- Rooms of a category that can be booked at all. -/
def candidateRooms (state : HotelState) (categoryId : Int) : List Room :=
  state.rooms.filter fun room => decide (room.categoryId = categoryId) && roomReservable room

def findAvailableRooms (state : HotelState) (categoryId : Int)
    (window : Int × Int) : Except String (List Room) := do
  validateStayDates window
  pure ((candidateRooms state categoryId).filter fun room =>
    !roomHasActiveBlock state room.id window &&
      (overlappingReservations state room.id window none).isEmpty)

variable {state : HotelState} {window : Int × Int} {excluded : Option Int}

variable {roomId : Int} {room : Room}

theorem roomFree_of_isEmpty
    (noOverlap : (overlappingReservations state roomId window excluded).isEmpty = true) :
    state.RoomFree roomId window excluded := by
  intro other member active notExcluded inRoom overlap
  have empty := List.filter_eq_nil_iff.mp (List.isEmpty_iff.mp noOverlap) other member
  refine empty (decide_eq_true ⟨active, inRoom, overlap, ?_⟩)
  intro same
  exact notExcluded (truthy_eq_some.mp same).1

section

variable (available : checkRoomAvailability state roomId window excluded = .ok true)
include available

theorem checkRoomAvailability_cases :
    window.1 < window.2 ∧ roomHasActiveBlock state roomId window = false ∧
      (overlappingReservations state roomId window excluded).isEmpty = true := by
  obtain ⟨_, ordered, available⟩ := bind_eq_ok.mp available
  have nonempty : window.1 < window.2 := by
    simpa [validateStayDates] using ordered
  cases found : state.room? roomId with
  | none =>
    rw [found] at available
    cases available
  | some room =>
    simp only [found] at available
    split_ifs at available with reservable blocked
    · cases pure_eq_ok.mp available
    · cases pure_eq_ok.mp available
    · exact ⟨nonempty, Bool.not_eq_true _ ▸ blocked, pure_eq_ok.mp available⟩

omit available in
theorem checkRoomAvailability_of_open
    (ordered : window.1 < window.2) (found : state.room? room.id = some room)
    (reservable : roomReservable room = true)
    (unblocked : roomHasActiveBlock state room.id window = false)
    (noOverlap : overlappingReservations state room.id window excluded = []) :
    checkRoomAvailability state room.id window excluded = .ok true := by
  have nonempty : validateStayDates window = .ok () := by
    simpa [validateStayDates] using ordered
  unfold checkRoomAvailability
  rw [nonempty, found, noOverlap]
  simp only [reservable, unblocked]
  rfl

theorem checkRoomAvailability_eq_ok : state.RoomFree roomId window excluded :=
  roomFree_of_isEmpty (checkRoomAvailability_cases available).2.2

theorem roomHasActiveBlock_of_available : roomHasActiveBlock state roomId window = false :=
  (checkRoomAvailability_cases available).2.1

end

theorem findAvailableRooms_cases {categoryId : Int} {available : List Room}
    (found : findAvailableRooms state categoryId window = .ok available)
    (member : room ∈ available) :
    roomHasActiveBlock state room.id window = false ∧ state.RoomFree room.id window none := by
  obtain ⟨-, -, filtered⟩ := bind_eq_ok.mp found
  rw [← pure_eq_ok.mp filtered, List.mem_filter] at member
  obtain ⟨unblocked, noOverlap⟩ := Bool.and_eq_true_iff.mp member.2
  exact ⟨Bool.not_eq_true' _ ▸ unblocked, roomFree_of_isEmpty noOverlap⟩

theorem findAvailableRooms_eq_ok {categoryId : Int} {available : List Room}
    (found : findAvailableRooms state categoryId window = .ok available)
    (member : room ∈ available) : state.RoomFree room.id window none :=
  (findAvailableRooms_cases found member).2

end HotelPms.Booking
