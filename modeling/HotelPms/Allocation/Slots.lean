import HotelPms.Foundation.HalfOpen
import Mathlib.Algebra.Order.Group.Int
import Mathlib.Data.Finset.Image
import Mathlib.Data.Finset.Range

/-!
# Solver slots

The lightweight reservation and room records the allocation engine works on,
the date arithmetic of a stay, and the hard eligibility rule that ties a
reservation to a room.  Calendar dates are day ordinals.
-/

namespace HotelPms.Allocation

open HalfOpen

/-- Lightweight representation of a reservation for the solver. -/
structure ReservationSlot where
  reservationId : Int
  categoryId : Int
  checkIn : Int
  checkOut : Int
  currentRoomId : Option Int
  /-- Checked-in or explicitly pinned. -/
  isLocked : Bool
  explicitlyLocked : Bool := false
  companyId : Option Int := none
  channelCode : Option String := none
  source : Option String := none
  numGuests : Int := 1
  mobilityRestriction : Bool := false
  allowedCategoryIds : List Int := []
  categoryPriorityById : List (Int × Int) := []
  priorStayRoomId : Option Int := none
  avoidedRoomIds : List Int := []
  blockedRoomIds : List Int := []
  deriving DecidableEq

/-- Lightweight representation of a room for the solver. -/
structure RoomSlot where
  roomId : Int
  categoryId : Int
  maxOccupancy : Int := 2
  floor : Int := 0
  score : Option Int := none
  isAccessible : Bool := false
  allocationPriorityChannelGroups : List String := []
  allocationPriorityCompanyIds : List Int := []

namespace ReservationSlot

variable (slot : ReservationSlot)

/-- Allowed categories, falling back to the booked one if none are listed. -/
def effectiveAllowedCategoryIds : List Int :=
  if slot.allowedCategoryIds.isEmpty then [slot.categoryId]
  else slot.allowedCategoryIds

def categoryPriority (categoryId : Int) : Int :=
  if categoryId = slot.categoryId then 0
  else (slot.categoryPriorityById.lookup categoryId).getD 10000

def nights : Int :=
  slot.checkOut - slot.checkIn

/-- Set of dates occupied, from check-in to the day before check-out. -/
def dateRange : Finset Int :=
  (Finset.range slot.nights.toNat).image fun day : Nat => slot.checkIn + day

/-- The half-open window of the stay. -/
def stay : Int × Int :=
  (slot.checkIn, slot.checkOut)

@[simp] theorem mem_dateRange (slot : ReservationSlot) (day : Int) :
    day ∈ slot.dateRange ↔ slot.checkIn ≤ day ∧ day < slot.checkOut := by
  simp only [dateRange, nights, Finset.mem_image, Finset.mem_range]
  constructor
  · rintro ⟨offset, offsetLt, rfl⟩
    omega
  · rintro ⟨afterStart, beforeEnd⟩
    exact ⟨(day - slot.checkIn).toNat, by omega, by omega⟩

end ReservationSlot

/-- Check if two reservation slots overlap in time. -/
def checkOverlap (first second : ReservationSlot) : Bool :=
  decide (first.checkIn < second.checkOut) &&
    decide (second.checkIn < first.checkOut)

theorem checkOverlap_iff (first second : ReservationSlot) :
    checkOverlap first second = true ↔ Overlap first.stay second.stay := by
  simp [checkOverlap, Overlap, ReservationSlot.stay]

variable {first second : ReservationSlot}

/-- Stays that fail the endpoint test share no night. -/
theorem dateRange_disjoint_of_not_overlap (apart : ¬Overlap first.stay second.stay) :
    Disjoint first.dateRange second.dateRange := by
  rw [Finset.disjoint_left]
  intro day inFirst inSecond
  have firstNight : day ∈ Set.Ico first.stay.1 first.stay.2 :=
    (first.mem_dateRange day).mp inFirst
  have secondNight : day ∈ Set.Ico second.stay.1 second.stay.2 :=
    (second.mem_dateRange day).mp inSecond
  exact apart (overlap_of_mem firstNight secondNight)

theorem overlap_iff_dateRange_not_disjoint (firstNights : 0 < first.nights)
    (secondNights : 0 < second.nights) :
    Overlap first.stay second.stay ↔ ¬Disjoint first.dateRange second.dateRange := by
  have firstNonempty : first.stay.1 < first.stay.2 := Int.sub_pos.mp firstNights
  have secondNonempty : second.stay.1 < second.stay.2 :=
    Int.sub_pos.mp secondNights
  rw [overlap_iff_exists_mem firstNonempty secondNonempty, Finset.not_disjoint_iff]
  simp only [ReservationSlot.mem_dateRange, ReservationSlot.stay, Set.mem_Ico]

/-- The rooms each reservation may not use.  A mapping with an empty default,
as the engine reads it with `.get(reservation_id, set())`. -/
abbrev ForbiddenRooms := Int -> Finset Int

/-- A room satisfies every rule a single reservation puts on its room. -/
structure Eligible
    (forbidden : ForbiddenRooms)
    (slot : ReservationSlot)
    (room : RoomSlot) : Prop where
  notForbidden : room.roomId ∉ forbidden slot.reservationId
  category : room.categoryId ∈ slot.effectiveAllowedCategoryIds
  capacity : slot.numGuests ≤ room.maxOccupancy
  accessible : slot.mobilityRestriction = true → room.isAccessible = true

instance (forbidden : ForbiddenRooms) (slot : ReservationSlot)
    (room : RoomSlot) : Decidable (Eligible forbidden slot room) :=
  decidable_of_iff (room.roomId ∉ forbidden slot.reservationId ∧
      room.categoryId ∈ slot.effectiveAllowedCategoryIds ∧
      slot.numGuests ≤ room.maxOccupancy ∧
      (slot.mobilityRestriction = true → room.isAccessible = true))
    ⟨fun ⟨notForbidden, category, capacity, accessible⟩ =>
        ⟨notForbidden, category, capacity, accessible⟩,
      fun eligible => ⟨eligible.notForbidden, eligible.category,
        eligible.capacity, eligible.accessible⟩⟩

def roomsById (rooms : List RoomSlot) (roomId : Int) : Option RoomSlot :=
  rooms.reverse.find? (·.roomId = roomId)

variable {rooms : List RoomSlot}

theorem roomsById_eq_some {roomId : Int} {room : RoomSlot}
    (found : roomsById rooms roomId = some room) :
    room ∈ rooms ∧ room.roomId = roomId := by
  refine ⟨List.mem_reverse.mp (List.mem_of_find?_eq_some found), ?_⟩
  simpa using List.find?_some found

theorem room_eq_of_roomId_eq (distinctRooms : (rooms.map RoomSlot.roomId).Nodup)
    {first second : RoomSlot} (firstIn : first ∈ rooms)
    (secondIn : second ∈ rooms)
    (sameId : first.roomId = second.roomId) : first = second :=
  List.inj_on_of_nodup_map distinctRooms firstIn secondIn sameId

theorem roomsById_eq_some_of_mem
    (distinctRooms : (rooms.map RoomSlot.roomId).Nodup) {room : RoomSlot}
    (member : room ∈ rooms) : roomsById rooms room.roomId = some room := by
  cases found : roomsById rooms room.roomId with
  | none =>
    have absent := List.find?_eq_none.mp found room (List.mem_reverse.mpr member)
    simp at absent
  | some other =>
    obtain ⟨otherIn, sameId⟩ := roomsById_eq_some found
    rw [room_eq_of_roomId_eq distinctRooms otherIn member sameId]

theorem slot_eq_of_reservationId_eq {reservations : List ReservationSlot}
    (distinctIds : (reservations.map ReservationSlot.reservationId).Nodup)
    (firstIn : first ∈ reservations) (secondIn : second ∈ reservations)
    (sameId : first.reservationId = second.reservationId) : first = second :=
  List.inj_on_of_nodup_map distinctIds firstIn secondIn sameId

end HotelPms.Allocation
