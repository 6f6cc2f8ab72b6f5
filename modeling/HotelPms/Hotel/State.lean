import HotelPms.Foundation.HalfOpen
import Mathlib.Data.List.Nodup

/-!
# Hotel tables

The rows of one hotel that allocation and booking read and write, with the
check constraints of the schema as fields.  Dates are day ordinals and
timestamps are integers.  Every query of the source filters on the hotel, so
the tables here are those of one hotel.
-/

namespace HotelPms.Hotel

open HalfOpen

inductive ReservationStatus
  | pending
  | depositPaid
  | fullyPaid
  | preCheckIn
  | partialCheckIn
  | checkedIn
  | checkedOut
  | cancelled
  | noShow
  deriving DecidableEq

def ReservationStatus.value : ReservationStatus -> String
  | .pending => "pending"
  | .depositPaid => "deposit_paid"
  | .fullyPaid => "fully_paid"
  | .preCheckIn => "pre_check_in"
  | .partialCheckIn => "partial_checkin"
  | .checkedIn => "checked_in"
  | .checkedOut => "checked_out"
  | .cancelled => "cancelled"
  | .noShow => "no_show"

/-- Statuses a reservation may be moved to. -/
def ReservationStatus.validTransitions : ReservationStatus -> List ReservationStatus
  | .pending =>
    [.depositPaid, .fullyPaid, .preCheckIn, .checkedIn, .partialCheckIn, .cancelled]
  | .depositPaid =>
    [.fullyPaid, .preCheckIn, .checkedIn, .partialCheckIn, .cancelled]
  | .fullyPaid =>
    [.preCheckIn, .checkedIn, .partialCheckIn, .cancelled, .noShow]
  | .preCheckIn => [.checkedIn, .partialCheckIn, .cancelled]
  | .partialCheckIn => [.checkedIn, .checkedOut]
  | .checkedIn => [.checkedOut]
  | .checkedOut => []
  | .cancelled => []
  | .noShow => []

structure Reservation where
  id : Int
  guestId : Int := 0
  roomId : Option Int
  categoryId : Int
  companyId : Option Int := none
  sellableProductId : Option Int := none
  checkInDate : Int
  checkOutDate : Int
  datesOrdered : checkInDate < checkOutDate
  actualCheckIn : Option Int := none
  status : ReservationStatus := .pending
  channelCode : String := "other_direct"
  source : String := "direct"
  allocationLocked : Bool := false
  mobilityRestriction : Bool := false
  numAdults : Int := 1
  numChildren : Int := 0
  deletedAt : Option Int := none
  version : Int := 0
  deriving DecidableEq

namespace Reservation

variable (reservation : Reservation)

/-- Half-open window of the stay. -/
def stay : Int × Int :=
  (reservation.checkInDate, reservation.checkOutDate)

/-- Not deleted, not cancelled and not checked out. -/
def Active : Prop :=
  reservation.deletedAt = none ∧ reservation.status ≠ .cancelled ∧ reservation.status ≠ .checkedOut
deriving Decidable

/-- At least one registered guest has arrived. -/
def HasPhysicalCheckIn : Prop :=
  reservation.status = .partialCheckIn ∨ reservation.status = .checkedIn ∨
    reservation.actualCheckIn ≠ none
deriving Decidable

/-- The same reservation in another room. -/
def inRoom (roomId : Option Int) : Reservation :=
  { reservation with roomId := roomId }

@[simp] theorem inRoom_id (reservation : Reservation)
    (roomId : Option Int) : (reservation.inRoom roomId).id = reservation.id :=
  rfl

@[simp] theorem inRoom_roomId (reservation : Reservation)
    (roomId : Option Int) : (reservation.inRoom roomId).roomId = roomId := rfl

@[simp] theorem inRoom_stay (reservation : Reservation) (roomId : Option Int) :
    (reservation.inRoom roomId).stay = reservation.stay := rfl

end Reservation

inductive RoomStatus
  | available
  | occupied
  | maintenance
  | blocked
  | cleaning
  deriving DecidableEq

/-- Statuses in which a room can be allocated. -/
def RoomStatus.Reservable (status : RoomStatus) : Prop :=
  status = .available ∨ status = .occupied ∨ status = .cleaning
deriving Decidable

structure Room where
  id : Int
  roomNumber : String := ""
  categoryId : Int
  floor : Int := 0
  score : Option Int := none
  isAccessible : Bool := false
  isActive : Bool := true
  status : RoomStatus := .available
  allocationPriorityChannelGroups : List String := []
  allocationPriorityCompanyIds : List Int := []
  deletedAt : Option Int := none
  deriving DecidableEq

structure RoomCategory where
  id : Int
  name : String := ""
  maxOccupancy : Int
  deriving DecidableEq

/-- A date-ranged block of a room, indefinite without an end. -/
structure RoomBlock where
  roomId : Int
  startsAt : Int
  endsAt : Option Int
  datesOrdered : ∀ finish, endsAt = some finish → startsAt < finish
  resolvedAt : Option Int := none

namespace RoomBlock

/-- The block window meets a half-open window. -/
def Meets (block : RoomBlock) (window : Int × Int) : Prop :=
  block.startsAt < window.2 ∧
    (block.endsAt = none ∨ ∃ finish, block.endsAt = some finish ∧ window.1 < finish)

instance (block : RoomBlock) (window : Int × Int) : Decidable (block.Meets window) :=
  match ends : block.endsAt with
  | none => decidable_of_iff (block.startsAt < window.2) (by simp [Meets, ends])
  | some finish => decidable_of_iff (block.startsAt < window.2 ∧ window.1 < finish)
      (by simp [Meets, ends])

def BlocksWindow (block : RoomBlock) (window : Int × Int) : Prop :=
  block.resolvedAt = none ∧ block.Meets window
deriving Decidable

end RoomBlock

/-- A manual pin of a reservation to its room. -/
structure ReservationAllocationLock where
  reservationId : Int
  lockedRoomId : Option Int
  isActive : Bool := true

/-- A category a product may be assigned to. -/
structure ProductRoomCompatibility where
  sellableProductId : Int
  roomCategoryId : Int
  priority : Int
  compatibilityKind : String
  allowsAutoAssignment : Bool := true

structure SellableProduct where
  id : Int
  primaryRoomCategoryId : Option Int
  deriving DecidableEq

structure GuestRoomAvoidance where
  guestId : Int
  roomId : Int
  isActive : Bool := true

/-- Currency settings stored with every proposal. -/
structure FxConfigurationSnapshot where
  defaultCurrency : String := "ARS"
  fxConversionRateType : String := "oficial"
  fxUsdToArsRateType : String := "oficial"
  fxUsdToArsRateSide : String := "venta"
  fxArsToUsdRateType : String := "oficial"
  fxArsToUsdRateSide : String := "venta"
  fxRoundingPolicy : String := "exact"
  deriving DecidableEq

structure HotelState where
  reservations : List Reservation
  distinctReservations : (reservations.map Reservation.id).Nodup
  rooms : List Room
  distinctRooms : (rooms.map Room.id).Nodup
  categories : List RoomCategory := []
  blocks : List RoomBlock := []
  locks : List ReservationAllocationLock := []
  compatibilities : List ProductRoomCompatibility := []
  products : List SellableProduct := []
  avoidances : List GuestRoomAvoidance := []
  hasElevator : Option Bool := none
  activePolicyVersionId : Int := 0
  fxConfiguration : FxConfigurationSnapshot := {}

namespace HotelState

/-- No two active reservations hold one room at overlapping stays. -/
def NoDoubleBooking (state : HotelState) : Prop :=
  Exclusive Reservation.roomId Reservation.stay
    {reservation | reservation ∈ state.reservations ∧ reservation.Active}

/-- Reservation row with an id. -/
def reservation? (state : HotelState) (id : Int) : Option Reservation :=
  state.reservations.find? (·.id = id)

/-- Room row with an id. -/
def room? (state : HotelState) (id : Int) : Option Room :=
  state.rooms.find? (·.id = id)

def category? (state : HotelState) (id : Int) : Option RoomCategory :=
  state.categories.find? (·.id = id)

/-- An active pin exists for a reservation. -/
def hasActiveLock (state : HotelState) (reservationId : Int) : Bool :=
  state.locks.any fun lock => lock.isActive && decide (lock.reservationId = reservationId)

/-- The reservation carries the lock flag or an active pin. -/
def ExplicitlyLocked (state : HotelState) (reservation : Reservation) : Prop :=
  reservation.allocationLocked = true ∨ state.hasActiveLock reservation.id = true
deriving Decidable

variable {state : HotelState} {reservation : Reservation}

variable {id : Int} {row : Reservation}

theorem reservation?_eq_some (found : state.reservation? id = some reservation) :
    reservation ∈ state.reservations ∧ reservation.id = id := by
  refine ⟨List.mem_of_find?_eq_some found, ?_⟩
  simpa using List.find?_some found

/-- Distinct ids identify a reservation row. -/
theorem reservation_eq_of_id_eq (state : HotelState)
    {first second : Reservation} (firstIn : first ∈ state.reservations)
    (secondIn : second ∈ state.reservations)
    (sameId : first.id = second.id) : first = second :=
  List.inj_on_of_nodup_map state.distinctReservations firstIn secondIn sameId

theorem reservation?_eq_some_of_mem (state : HotelState)
    (member : reservation ∈ state.reservations) :
    state.reservation? reservation.id = some reservation := by
  cases found : state.reservation? reservation.id with
  | none =>
    have absent := List.find?_eq_none.mp found reservation member
    simp at absent
  | some other =>
    obtain ⟨otherIn, sameId⟩ := reservation?_eq_some found
    rw [state.reservation_eq_of_id_eq otherIn member sameId]

/-- Give every reservation the room chosen for it, where one is chosen. -/
def assignRooms (state : HotelState) (chosen : Int → Option Int) : HotelState :=
  { state with
    reservations := state.reservations.map fun reservation =>
      match chosen reservation.id with
      | some roomId => reservation.inRoom (some roomId)
      | none => reservation
    distinctReservations := by
      have sameIds : (state.reservations.map fun reservation =>
          match chosen reservation.id with
          | some roomId => reservation.inRoom (some roomId)
          | none => reservation).map Reservation.id =
          state.reservations.map Reservation.id := by
        rw [List.map_map]
        refine List.map_congr_left fun reservation _ => ?_
        simp only [Function.comp]
        split <;> rfl
      rw [sameIds]
      exact state.distinctReservations }

theorem mem_assignRooms {chosen : Int → Option Int} :
    reservation ∈ (state.assignRooms chosen).reservations ↔
      ∃ original ∈ state.reservations, reservation = original.inRoom
          ((chosen original.id).or original.roomId) := by
  simp only [assignRooms, List.mem_map]
  constructor
  · rintro ⟨original, member, rfl⟩
    refine ⟨original, member, ?_⟩
    cases chosen original.id with
    | none => rfl
    | some roomId => rfl
  · rintro ⟨original, member, rfl⟩
    refine ⟨original, member, ?_⟩
    cases chosen original.id with
    | none => rfl
    | some roomId => rfl

/-- Insert a reservation under a fresh id. -/
def addReservation (state : HotelState) (reservation : Reservation)
    (fresh : reservation.id ∉ state.reservations.map Reservation.id) :
    HotelState :=
  { state with
    reservations := reservation :: state.reservations
    distinctReservations :=
      List.nodup_cons.mpr ⟨fresh, state.distinctReservations⟩ }

/-- Overwrite the row with a reservation's id. -/
def replaceReservation (state : HotelState) (reservation : Reservation) : HotelState :=
  { state with
    reservations := state.reservations.map fun row =>
      if row.id = reservation.id then reservation else row
    distinctReservations := by
      have sameIds : (state.reservations.map fun row =>
          if row.id = reservation.id then reservation else row).map
            Reservation.id = state.reservations.map Reservation.id := by
        rw [List.map_map]
        refine List.map_congr_left fun row _ => ?_
        simp only [Function.comp]
        split_ifs with same
        · exact same.symm
        · rfl
      rw [sameIds]
      exact state.distinctReservations }

theorem mem_replaceReservation {reservation : Reservation}
    (member : row ∈ (state.replaceReservation reservation).reservations) :
    row = reservation ∨ (row ∈ state.reservations ∧ row.id ≠ reservation.id) := by
  simp only [replaceReservation, List.mem_map] at member
  obtain ⟨original, originalIn, rfl⟩ := member
  split_ifs with same
  · exact .inl rfl
  · exact .inr ⟨originalIn, same⟩

theorem mem_replaceReservation_self {old : Reservation}
    (stored : old ∈ state.reservations) (sameId : row.id = old.id) :
    row ∈ (state.replaceReservation row).reservations := by
  have written : (if old.id = row.id then row else old) ∈
      (state.replaceReservation row).reservations :=
    List.mem_map_of_mem stored
  rwa [if_pos sameId.symm] at written

theorem mem_replaceReservation_of_ne {other : Reservation}
    (stored : other ∈ state.reservations) (different : other.id ≠ row.id) :
    other ∈ (state.replaceReservation row).reservations := by
  have kept : (if other.id = row.id then row else other) ∈
      (state.replaceReservation row).reservations :=
    List.mem_map_of_mem stored
  rwa [if_neg different] at kept

theorem reservation?_addReservation {reservation current : Reservation}
    {fresh : reservation.id ∉ state.reservations.map Reservation.id}
    (found : state.reservation? id = some current) :
    (state.addReservation reservation fresh).reservation? id = some current := by
  obtain ⟨member, rfl⟩ := reservation?_eq_some found
  exact reservation?_eq_some_of_mem _ (List.mem_cons_of_mem _ member)

theorem reservation?_replaceReservation {reservation current : Reservation}
    (found : state.reservation? id = some current) :
    (state.replaceReservation reservation).reservation? id =
      some (if id = reservation.id then reservation else current) := by
  obtain ⟨member, rfl⟩ := reservation?_eq_some found
  have stored : (if current.id = reservation.id then reservation
      else current) ∈ (state.replaceReservation reservation).reservations :=
    List.mem_map_of_mem member
  split_ifs at stored ⊢ with same
  · rw [same]
    exact reservation?_eq_some_of_mem _ stored
  · exact reservation?_eq_some_of_mem _ stored

theorem reservation?_replaceReservation_eq_none (absent : state.reservation? id = none) :
    (state.replaceReservation reservation).reservation? id = none := by
  refine List.find?_eq_none.mpr fun row member => ?_
  obtain ⟨original, originalIn, rfl⟩ := List.mem_map.mp member
  have other := List.find?_eq_none.mp absent original originalIn
  rw [decide_eq_true_iff] at other ⊢
  split_ifs with same
  · exact fun sameId => other (same.trans sameId)
  · exact other

theorem reservation?_overwritten (newRow : Reservation)
    (stored : state.reservation? row.id = some row)
    (sameId : newRow.id = row.id) (id : Int) :
    (state.replaceReservation newRow).reservation? id =
      if id = row.id then some newRow else state.reservation? id := by
  split_ifs with same
  · rw [same, reservation?_replaceReservation stored, if_pos sameId.symm]
  · cases found : state.reservation? id with
    | none => exact reservation?_replaceReservation_eq_none found
    | some other =>
      rw [reservation?_replaceReservation found, if_neg]
      exact fun equal => same (equal.trans sameId)

/-- No active reservation other than `self` holds the room in the window. -/
def RoomFree (state : HotelState) (roomId : Int) (window : Int × Int) (self : Option Int) : Prop :=
  ∀ other ∈ state.reservations, other.Active -> self ≠ some other.id ->
    other.roomId = some roomId -> ¬Overlap other.stay window

theorem NoDoubleBooking.addReservation
    {fresh : reservation.id ∉ state.reservations.map Reservation.id}
    (safe : state.NoDoubleBooking)
    (free : ∀ roomId, reservation.roomId = some roomId ->
      state.RoomFree roomId reservation.stay none) :
    (state.addReservation reservation fresh).NoDoubleBooking := by
  refine Exclusive.of_changed {reservation} safe ?_ (fun _ _ _ _ => id) (fun _ _ _ _ => id) ?_
  · rintro item ⟨member, active⟩ unchanged
    rcases List.mem_cons.mp member with same | old
    · exact absurd same unchanged
    · exact ⟨old, active⟩
  · rintro item - rfl other ⟨member, active⟩ different held itemHolds otherHolds overlap
    rcases List.mem_cons.mp member with same | old
    · exact different same.symm
    · exact free held itemHolds other old active (by simp) otherHolds overlap.symm

theorem NoDoubleBooking.replaceReservation (safe : state.NoDoubleBooking)
    (free : ∀ roomId, reservation.roomId = some roomId -> reservation.Active ->
      state.RoomFree roomId reservation.stay (some reservation.id)) :
    (state.replaceReservation reservation).NoDoubleBooking := by
  refine Exclusive.of_changed {reservation} safe ?_ (fun _ _ _ _ => id) (fun _ _ _ _ => id) ?_
  · rintro item ⟨member, active⟩ unchanged
    rcases mem_replaceReservation member with same | ⟨old, -⟩
    · exact absurd same unchanged
    · exact ⟨old, active⟩
  · rintro item ⟨-, itemActive⟩ rfl other ⟨member, active⟩ different held
      itemHolds otherHolds overlap
    rcases mem_replaceReservation member with same | ⟨old, otherId⟩
    · exact different same.symm
    · refine free held itemHolds itemActive other old active ?_ otherHolds overlap.symm
      intro sameId
      exact otherId (Option.some.inj sameId).symm

end HotelState
end HotelPms.Hotel
