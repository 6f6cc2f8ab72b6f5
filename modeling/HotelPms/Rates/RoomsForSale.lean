import HotelPms.Booking.Availability
import HotelPms.Foundation.DayCounts

/-!
# Rooms for sale

The rate calendar offers, for each day, the rooms of a category less its
reservations in four of the statuses and the rooms with a state event.  The
rooms that can be sold are those an availability read allows, less the
reservations without a room.
-/

namespace HotelPms.Rates

open Hotel Booking Checked DayCounts

/-- A period in which a room is out of order, in seconds. -/
structure RoomStateEvent where
  roomId : Int
  startedAt : Int
  endedAt : Option Int := none

structure CalendarTables extends HotelState where
  roomStateEvents : List RoomStateEvent := []

def secondsPerDay : Int := 86400

def dateOf (moment : Int) : Int := moment / secondsPerDay

def calendarStatuses : List ReservationStatus :=
  [.pending, .depositPaid, .fullyPaid, .checkedIn]

structure CalendarDay where
  date : Int
  totalRooms : Nat
  reserved : Nat
  blocked : Nat
  forSale : Int
  isOpen : Bool
  deriving DecidableEq

section Calendar

variable (tables : CalendarTables) (categoryId dateFrom dateTo : Int)

/-- Active rooms of the category. -/
def calendarRooms : List Room :=
  tables.rooms.filter fun room =>
    room.deletedAt = none ∧ room.categoryId = categoryId ∧ room.isActive = true

def calendarReservations : List Reservation :=
  tables.reservations.filter fun reservation =>
    reservation.deletedAt = none ∧ reservation.categoryId = categoryId ∧
      reservation.status ∈ calendarStatuses ∧
      reservation.checkInDate ≤ dateTo ∧ dateFrom < reservation.checkOutDate

/-- State events of the rooms that meet the days of the calendar. -/
def calendarEvents : List RoomStateEvent :=
  tables.roomStateEvents.filter fun event =>
    event.roomId ∈ (calendarRooms tables categoryId).map Room.id ∧
      event.startedAt < (dateTo + 1) * secondsPerDay ∧
      ∀ ended ∈ event.endedAt, dateFrom * secondsPerDay < ended

def reservationsByDay : List Int :=
  (calendarReservations tables categoryId dateFrom dateTo).flatMap fun reservation =>
      loopDays (max dateFrom reservation.checkInDate) (min (dateTo + 1) reservation.checkOutDate)

/-- Day after the last one an event blocks. -/
def eventEndExclusive (event : RoomStateEvent) : Int :=
  match event.endedAt with
  | none => dateTo + 1
  | some ended => min (dateTo + 1) (dateOf ended)

def blockedRoomsByDay : List (Int × Int) :=
  (calendarEvents tables categoryId dateFrom dateTo).flatMap fun event =>
    (loopDays (max dateFrom (dateOf event.startedAt))
      (eventEndExclusive dateTo event)).map fun day => (day, event.roomId)

def blockedRooms (day : Int) : List Int :=
  (((blockedRoomsByDay tables categoryId dateFrom dateTo).filter (·.1 = day)).map Prod.snd).dedup

def calendarDay (day : Int) : CalendarDay :=
  let totalRooms := (calendarRooms tables categoryId).length
  let reserved :=
    (reservationsByDay tables categoryId dateFrom dateTo).count day
  let blocked := (blockedRooms tables categoryId dateFrom dateTo day).length
  let forSale : Int := max (totalRooms - reserved - blocked : Int) 0
  { date := day, totalRooms := totalRooms, reserved := reserved, blocked := blocked
    forSale := forSale, isOpen := decide (0 < forSale) }

/-- Rooms of a category for each day of a range. -/
def getDailyCalendar : Except String (List CalendarDay) := do
  raiseIf (dateTo < dateFrom) "date_to must be greater than or equal to date_from"
  raiseIf (366 < dateTo - dateFrom) "Date range cannot exceed 366 days"
  raiseIf (tables.category? categoryId = none) "Category not found"
  pure ((loopDays dateFrom (dateTo + 1)).map (calendarDay tables categoryId dateFrom dateTo))

end Calendar

section Specification

variable (tables : CalendarTables) (categoryId day : Int)

variable (reservation : Reservation) (room : Room)

/-- An availability read allows the room for the night of a day. -/
def Sellable : Prop :=
  checkRoomAvailability tables.toHotelState room.id (day, day + 1) none = .ok true
deriving Decidable

/-- A stay covers the night of a day. -/
def Covers : Prop :=
  reservation.checkInDate ≤ day ∧ day < reservation.checkOutDate
deriving Decidable

/-- An active reservation of the category over a day. -/
def OfCategory : Prop :=
  reservation.Active ∧ reservation.categoryId = categoryId ∧ Covers day reservation
deriving Decidable

/-- Rooms of the category that can be sold on a day. -/
def sellableRooms : Nat :=
  (calendarRooms tables categoryId).countP (Sellable tables day ·)

/-- Reservations of the category over a day without a room. -/
def unassignedReservations : Nat :=
  tables.reservations.countP fun reservation =>
    OfCategory categoryId day reservation ∧ reservation.roomId = none

/-- A day of the calendar offers no room that cannot be sold. -/
structure OffersSellable (entry : CalendarDay) : Prop where
  atMost : entry.forSale ≤ max (sellableRooms tables categoryId day -
      unassignedReservations tables categoryId day : Int) 0
  sellable : entry.isOpen = true →
    ∃ room ∈ calendarRooms tables categoryId, Sellable tables day room

def InCalendarStatus : Prop :=
  reservation.status ∈ calendarStatuses
deriving Decidable

/-- An event blocks a room on a day. -/
def HasEvent : Prop :=
  ∃ event ∈ tables.roomStateEvents, event.roomId = room.id ∧ dateOf event.startedAt ≤ day ∧
    ∀ ended ∈ event.endedAt, day < dateOf ended
deriving Decidable

/-- A reservation that the calendar counts is in the room. -/
def HoldsCounted : Prop :=
  ∃ reservation ∈ tables.reservations,
    OfCategory categoryId day reservation ∧ InCalendarStatus reservation ∧
      reservation.roomId = some room.id
deriving Decidable

/-- Rooms that cannot be sold, though they have no event and no reservation
that the calendar counts. -/
def missedRooms : Nat :=
  (calendarRooms tables categoryId).countP fun room =>
    ¬Sellable tables day room ∧ ¬HasEvent tables day room ∧ ¬HoldsCounted tables categoryId day room

/-- Reservations without a room in a status the calendar does not count. -/
def missedReservations : Nat :=
  tables.reservations.countP fun reservation => OfCategory categoryId day reservation ∧
      reservation.roomId = none ∧ ¬InCalendarStatus reservation

/-- Rooms with an event that can be sold. -/
def spareRooms : Nat :=
  (calendarRooms tables categoryId).countP fun room =>
    Sellable tables day room ∧ HasEvent tables day room

/-- Counted reservations with a room, beyond the first of each room of the
category without an event. -/
def spareReservations : Nat :=
  (tables.reservations.countP fun reservation => OfCategory categoryId day reservation ∧
      InCalendarStatus reservation ∧ reservation.roomId ≠ none) -
  (calendarRooms tables categoryId).countP fun room =>
    ¬HasEvent tables day room ∧ HoldsCounted tables categoryId day room

def countedReservations : Nat :=
  tables.reservations.countP fun reservation =>
    OfCategory categoryId day reservation ∧ InCalendarStatus reservation

def eventRooms : Nat :=
  (calendarRooms tables categoryId).countP (HasEvent tables day ·)

/-- The counted reservations and the rooms with an event take all rooms; or
what the calendar misses is no more than what it counts twice or in vain. -/
def MissesNoMore : Prop :=
  (calendarRooms tables categoryId).length ≤
      countedReservations tables categoryId day + eventRooms tables categoryId day ∨
    missedRooms tables categoryId day + missedReservations tables categoryId day ≤
      spareReservations tables categoryId day + spareRooms tables categoryId day
deriving Decidable

end Specification

end HotelPms.Rates
