import HotelPms.Rates.RoomsForSale

/-!
# When the rooms for sale can be sold

The rooms of a category split by whether they can be sold, have an event and
hold a counted reservation; its reservations split by status and by whether
they have a room.  The two counts of a day compare part by part.
-/

namespace HotelPms.Rates

open Hotel Booking Checked DayCounts HalfOpen

section Counts

variable {tables : CalendarTables} {categoryId dateFrom dateTo day : Int}

theorem active_of_inCalendarStatus {reservation : Reservation}
    (counted : InCalendarStatus reservation)
    (present : reservation.deletedAt = none) : reservation.Active := by
  refine ⟨present, fun cancelled => ?_, fun checkedOut => ?_⟩
  · unfold InCalendarStatus at counted
    rw [cancelled] at counted
    revert counted
    decide
  · unfold InCalendarStatus at counted
    rw [checkedOut] at counted
    revert counted
    decide

theorem count_reservationsByDay (inWindow : dateFrom ≤ day ∧ day ≤ dateTo) :
    (reservationsByDay tables categoryId dateFrom dateTo).count day =
      countedReservations tables categoryId day := by
  unfold reservationsByDay calendarReservations
  rw [count_flatMap_loopDays, List.countP_filter]
  refine List.countP_congr fun reservation _ => ?_
  simp only [Bool.and_eq_true, decide_eq_true_eq]
  constructor
  · rintro ⟨covered, present, ofCategory, counted, -⟩
    refine ⟨⟨active_of_inCalendarStatus counted present, ofCategory, ?_⟩, counted⟩
    unfold Covers
    omega
  · rintro ⟨⟨active, ofCategory, covers⟩, counted⟩
    unfold Covers at covers
    refine ⟨?_, active.1, ofCategory, counted, ?_⟩ <;> omega

theorem lt_of_lt_dateOf {moment : Int} (before : day < dateOf moment) :
    day * secondsPerDay < moment := by
  unfold dateOf secondsPerDay at *
  omega

theorem lt_of_dateOf_le {moment : Int} (started : dateOf moment ≤ day) :
    moment < (day + 1) * secondsPerDay := by
  unfold dateOf secondsPerDay at *
  omega

theorem mem_blockedRooms {roomId : Int} :
    roomId ∈ ((blockedRoomsByDay tables categoryId dateFrom dateTo).filter
        (·.1 = day)).map Prod.snd ↔
      ∃ event ∈ calendarEvents tables categoryId dateFrom dateTo, event.roomId = roomId ∧
          max dateFrom (dateOf event.startedAt) ≤ day ∧
          day < eventEndExclusive dateTo event := by
  unfold blockedRoomsByDay
  simp only [List.mem_map, List.mem_filter, List.mem_flatMap, mem_loopDays, decide_eq_true_eq]
  constructor
  · rintro ⟨entry, ⟨⟨event, member, visited, covered, rfl⟩, rfl⟩, rfl⟩
    exact ⟨event, member, rfl, covered⟩
  · rintro ⟨event, member, rfl, covered⟩
    exact ⟨(day, event.roomId), ⟨⟨event, member, day, covered, rfl⟩, rfl⟩, rfl⟩

theorem lt_eventEndExclusive_iff (inWindow : day ≤ dateTo) {event : RoomStateEvent} :
    day < eventEndExclusive dateTo event ↔ ∀ ended ∈ event.endedAt, day < dateOf ended := by
  unfold eventEndExclusive
  cases event.endedAt with
  | none =>
    simp only [Option.not_mem_none, false_implies, implies_true, iff_true]
    omega
  | some ended =>
    simp only [Option.mem_some_iff, forall_eq']
    omega

theorem mem_blockedRooms_iff (inWindow : dateFrom ≤ day ∧ day ≤ dateTo)
    {room : Room} (member : room ∈ calendarRooms tables categoryId) :
    room.id ∈ ((blockedRoomsByDay tables categoryId dateFrom dateTo).filter
        (·.1 = day)).map Prod.snd ↔
      HasEvent tables day room := by
  rw [mem_blockedRooms]
  constructor
  · rintro ⟨event, eventIn, inRoom, started, unfinished⟩
    exact ⟨event, List.mem_of_mem_filter eventIn, inRoom, by omega,
      (lt_eventEndExclusive_iff inWindow.2).mp unfinished⟩
  · rintro ⟨event, stored, inRoom, started, unfinished⟩
    refine ⟨event, List.mem_filter.mpr ⟨stored, decide_eq_true ?_⟩, inRoom,
      by omega, (lt_eventEndExclusive_iff inWindow.2).mpr unfinished⟩
    refine ⟨inRoom ▸ List.mem_map_of_mem member, ?_, ?_⟩
    · have soon := lt_of_dateOf_le started
      unfold secondsPerDay at *
      omega
    · intro ended ends
      have later := lt_of_lt_dateOf (unfinished ended ends)
      unfold secondsPerDay at *
      omega

theorem length_blockedRooms (inWindow : dateFrom ≤ day ∧ day ≤ dateTo) :
    (blockedRooms tables categoryId dateFrom dateTo day).length =
      eventRooms tables categoryId day := by
  have distinct : ((calendarRooms tables categoryId).map Room.id).Nodup :=
    tables.distinctRooms.sublist (List.Sublist.map _ List.filter_sublist)
  unfold blockedRooms
  rw [length_dedup_eq_countP distinct]
  · exact countP_congr_prop fun room member => mem_blockedRooms_iff inWindow member
  · intro roomId blocked
    obtain ⟨event, eventIn, rfl, -⟩ := mem_blockedRooms.mp blocked
    exact (of_decide_eq_true (List.mem_filter.mp eventIn).2).1

theorem not_sellable_of_holdsCounted
    {room : Room} (holds : HoldsCounted tables categoryId day room) :
    ¬Sellable tables day room := by
  intro sellable
  obtain ⟨reservation, member, ofCategory, -, inRoom⟩ := holds
  obtain ⟨active, -, started, unfinished⟩ := ofCategory
  refine checkRoomAvailability_eq_ok sellable reservation member active
    (by simp) inRoom ⟨?_, unfinished⟩
  show reservation.checkInDate < day + 1
  omega

end Counts

section Parts

variable (tables : CalendarTables) (categoryId day : Int)

theorem heldRooms_le : ((calendarRooms tables categoryId).countP fun room =>
        ¬HasEvent tables day room ∧ HoldsCounted tables categoryId day room) ≤
      tables.reservations.countP fun reservation => decide (OfCategory categoryId day reservation ∧
          InCalendarStatus reservation ∧ reservation.roomId ≠ none) := by
  have distinct : ((calendarRooms tables categoryId).map Room.id).Nodup :=
    tables.distinctRooms.sublist (List.Sublist.map _ List.filter_sublist)
  refine countP_le_of_keys (fun room : Room => some room.id) Reservation.roomId ?_ ?_
  · have optional := distinct.map (Option.some_injective Int)
    rwa [List.map_map] at optional
  · rintro room - ⟨-, reservation, member, ofCategory, counted, inRoom⟩
    exact ⟨reservation, member, ⟨ofCategory, counted, by simp [inRoom]⟩, inRoom⟩

theorem countP_not_sellable : ((calendarRooms tables categoryId).countP fun room =>
        ¬Sellable tables day room) + spareRooms tables categoryId day =
      missedRooms tables categoryId day + eventRooms tables categoryId day +
        (calendarRooms tables categoryId).countP fun room =>
          decide (¬HasEvent tables day room ∧ HoldsCounted tables categoryId day room) := by
  have byEvent := countP_split (calendarRooms tables categoryId)
    (¬Sellable tables day ·) (HasEvent tables day)
  have byHeld := countP_split (calendarRooms tables categoryId)
    (fun room => ¬Sellable tables day room ∧ ¬HasEvent tables day room)
    (HoldsCounted tables categoryId day)
  have bySale := countP_split (calendarRooms tables categoryId)
    (HasEvent tables day) (Sellable tables day)
  have held : ((calendarRooms tables categoryId).countP fun room =>
        (¬Sellable tables day room ∧ ¬HasEvent tables day room) ∧
          HoldsCounted tables categoryId day room) =
      (calendarRooms tables categoryId).countP fun room =>
        decide (¬HasEvent tables day room ∧ HoldsCounted tables categoryId day room) :=
    countP_congr_prop fun room _ => ⟨fun all => ⟨all.1.2, all.2⟩,
      fun both => ⟨⟨not_sellable_of_holdsCounted both.2, both.1⟩, both.2⟩⟩
  unfold spareRooms missedRooms eventRooms
  simp only [and_comm, and_assoc, and_left_comm] at *
  omega

theorem unassigned_add_assigned :
    unassignedReservations tables categoryId day + (tables.reservations.countP fun reservation =>
          OfCategory categoryId day reservation ∧
            InCalendarStatus reservation ∧ reservation.roomId ≠ none) =
      missedReservations tables categoryId day + countedReservations tables categoryId day := by
  have byStatus := countP_split tables.reservations
    (fun reservation => OfCategory categoryId day reservation ∧
      reservation.roomId = none) InCalendarStatus
  have byRoom := countP_split tables.reservations
    (fun reservation => OfCategory categoryId day reservation ∧ InCalendarStatus reservation)
    (·.roomId = none)
  unfold unassignedReservations missedReservations countedReservations
  simp only [ne_eq, and_comm, and_assoc, and_left_comm] at *
  omega

theorem sellableRooms_add :
    sellableRooms tables categoryId day + ((calendarRooms tables categoryId).countP fun room =>
          ¬Sellable tables day room) =
      (calendarRooms tables categoryId).length := by
  unfold sellableRooms
  have split := countP_split (calendarRooms tables categoryId) (fun _ => True) (Sellable tables day)
  simp only [decide_true, List.countP_true, true_and] at split
  omega

end Parts

section Main

variable {tables : CalendarTables} {categoryId dateFrom dateTo day : Int}

theorem mem_getDailyCalendar {days : List CalendarDay} {entry : CalendarDay}
    (listed : getDailyCalendar tables categoryId dateFrom dateTo = .ok days)
    (member : entry ∈ days) :
    (dateFrom ≤ entry.date ∧ entry.date ≤ dateTo) ∧
      entry = calendarDay tables categoryId dateFrom dateTo entry.date := by
  obtain ⟨_, -, listed⟩ := bind_eq_ok.mp listed
  obtain ⟨_, -, listed⟩ := bind_eq_ok.mp listed
  obtain ⟨_, -, listed⟩ := bind_eq_ok.mp listed
  rw [← pure_eq_ok.mp listed] at member
  obtain ⟨day, visited, rfl⟩ := List.mem_map.mp member
  have bounds := mem_loopDays.mp visited
  refine ⟨?_, rfl⟩
  show dateFrom ≤ day ∧ day ≤ dateTo
  omega

/-- A day of the calendar offers no room that cannot be sold, exactly when the
calendar misses no more than it counts in vain. -/
theorem getDailyCalendar_offersSellable_iff {days : List CalendarDay} {entry : CalendarDay}
    (listed : getDailyCalendar tables categoryId dateFrom dateTo = .ok days)
    (member : entry ∈ days) :
    OffersSellable tables categoryId entry.date entry ↔
      MissesNoMore tables categoryId entry.date := by
  obtain ⟨inWindow, ofDay⟩ := mem_getDailyCalendar listed member
  generalize entry.date = day at *
  subst ofDay
  have rooms := sellableRooms_add tables categoryId day
  have unsold := countP_not_sellable tables categoryId day
  have assigned := unassigned_add_assigned tables categoryId day
  have heldBelow := heldRooms_le tables categoryId day
  have forSale : (calendarDay tables categoryId dateFrom dateTo day).forSale =
      max ((calendarRooms tables categoryId).length - countedReservations tables categoryId day -
        eventRooms tables categoryId day : Int) 0 := by
    unfold calendarDay
    rw [count_reservationsByDay inWindow, length_blockedRooms inWindow]
  have bound : MissesNoMore tables categoryId day ↔
      (calendarDay tables categoryId dateFrom dateTo day).forSale ≤
        max (sellableRooms tables categoryId day -
          unassignedReservations tables categoryId day : Int) 0 := by
    unfold MissesNoMore spareReservations
    omega
  rw [bound]
  refine ⟨OffersSellable.atMost, fun atMost => ⟨atMost, fun opened => ?_⟩⟩
  have offered : 0 < (calendarDay tables categoryId dateFrom dateTo day).forSale :=
    of_decide_eq_true opened
  have some : 0 < sellableRooms tables categoryId day := by omega
  obtain ⟨room, member, sellable⟩ := List.countP_pos_iff.mp some
  exact ⟨room, member, of_decide_eq_true sellable⟩

end Main

section Example

def onlyRoom : Room where
  id := 1
  categoryId := 1

/-- A stay of the night of day 10 in the room. -/
def tonight (status : ReservationStatus) : Reservation where
  id := 1
  roomId := some 1
  categoryId := 1
  checkInDate := 10
  checkOutDate := 11
  datesOrdered := by decide
  status := status

/-- A hotel of one room with that stay. -/
def tonightTables (status : ReservationStatus) : CalendarTables where
  reservations := [tonight status]
  distinctReservations := List.nodup_singleton _
  rooms := [onlyRoom]
  distinctRooms := List.nodup_singleton _
  categories := [{ id := 1, maxOccupancy := 2 }]

/-- A paid stay takes the room from the calendar. -/
theorem getDailyCalendar_offersSellable_paid : OffersSellable (tonightTables .fullyPaid) 1 10
      (calendarDay (tonightTables .fullyPaid) 1 10 10 10) := by
  have listed : getDailyCalendar (tonightTables .fullyPaid) 1 10 10 =
      .ok [calendarDay (tonightTables .fullyPaid) 1 10 10 10] := by
    decide
  exact (getDailyCalendar_offersSellable_iff listed (List.mem_singleton.mpr rfl)).mpr (by decide)

/-- With the guest registered the calendar offers the room again. -/
theorem not_offersSellable_preCheckIn : getDailyCalendar (tonightTables .preCheckIn) 1 10 10 =
        .ok [calendarDay (tonightTables .preCheckIn) 1 10 10 10] ∧
      ¬OffersSellable (tonightTables .preCheckIn) 1 10
        (calendarDay (tonightTables .preCheckIn) 1 10 10 10) := by
  refine ⟨by decide, fun offers => ?_⟩
  exact absurd offers.atMost (by decide)

end Example

end HotelPms.Rates
