import HotelPms.Foundation.Holdings
import HotelPms.Stays.Lodging

/-!
# Stays in the house occupy their rooms

The stays in the house hold their rooms, and the occupied rooms are marked.
Each call is shown to keep the marks exact when it finds the other guests of
the rooms it touches as it should, and with it the rows of the stays in the
house.
-/

namespace HotelPms.Stays

open Hotel HalfOpen Checked Booking Holdings

/-- Room of the reservation with an id, while it is in the house. -/
def lodgingOf (state : HotelState) (id : Int) : Option Int :=
  (state.reservation? id).bind lodging

def occupiedRooms (state : HotelState) : Set Int :=
  {roomId | ∃ room ∈ state.rooms, room.id = roomId ∧ room.status = .occupied}

section Tables

variable {state : HotelState} {row newRow : Reservation}

variable {roomId : Int}

theorem lodging_eq_some : lodging row = some roomId ↔ InHouse row ∧ row.roomId = some roomId := by
  unfold lodging
  split_ifs with inside
  · simp [inside]
  · simp [inside]

theorem lodgingOf_stored (stored : state.reservation? row.id = some row) :
    lodgingOf state row.id = lodging row := by
  unfold lodgingOf
  rw [stored, Option.bind_some]

theorem lodgingOf_of_mem (member : row ∈ state.reservations) :
    lodgingOf state row.id = lodging row :=
  lodgingOf_stored (state.reservation?_eq_some_of_mem member)

theorem lodgingOf_eq_some {id : Int} : lodgingOf state id = some roomId ↔
      ∃ row ∈ state.reservations, row.id = id ∧ lodging row = some roomId := by
  constructor
  · intro lodged
    obtain ⟨row, found, lodged⟩ := Option.bind_eq_some_iff.mp lodged
    obtain ⟨member, sameId⟩ := HotelState.reservation?_eq_some found
    exact ⟨row, member, sameId, lodged⟩
  · rintro ⟨row, member, rfl, lodged⟩
    rw [lodgingOf_of_mem member, lodged]

theorem sharedRoom_iff {self : Int} :
    SharedRoom state self roomId ↔ roomId ∈ heldByOthers (lodgingOf state) self := by
  constructor
  · rintro ⟨row, member, other, lodged⟩
    exact ⟨row.id, other, lodgingOf_eq_some.mpr ⟨row, member, rfl, lodged⟩⟩
  · rintro ⟨id, other, lodged⟩
    obtain ⟨row, member, rfl, inRoom⟩ := lodgingOf_eq_some.mp lodged
    exact ⟨row, member, other, inRoom⟩

theorem lodgingOf_replaceReservation (stored : state.reservation? row.id = some row)
    (sameId : newRow.id = row.id) :
    lodgingOf (state.replaceReservation newRow) =
      Function.update (lodgingOf state) row.id (lodging newRow) := by
  funext id
  unfold lodgingOf
  rw [HotelState.reservation?_overwritten newRow stored sameId, Function.update_apply]
  split_ifs
  · rfl
  · rfl

@[simp] theorem occupiedRooms_replaceReservation :
    occupiedRooms (state.replaceReservation row) = occupiedRooms state := rfl

theorem occupiedRooms_occupy {room : Room} (member : room ∈ state.rooms) :
    occupiedRooms (setRoomStatus state room.id .occupied) =
      insert room.id (occupiedRooms state) := by
  ext roomId
  constructor
  · rintro ⟨written, writtenIn, rfl, occupied⟩
    obtain ⟨old, oldIn, rfl⟩ := List.mem_map.mp writtenIn
    split_ifs at occupied ⊢ with target
    · exact .inl target
    · exact .inr ⟨old, oldIn, rfl, occupied⟩
  · rintro (rfl | ⟨old, oldIn, rfl, occupied⟩)
    · refine ⟨{ room with status := .occupied }, ?_, rfl, rfl⟩
      exact List.mem_map.mpr ⟨room, member, if_pos rfl⟩
    · by_cases target : old.id = room.id
      · refine ⟨{ old with status := .occupied }, ?_, rfl, rfl⟩
        exact List.mem_map.mpr ⟨old, oldIn, if_pos target⟩
      · refine ⟨old, ?_, rfl, occupied⟩
        exact List.mem_map.mpr ⟨old, oldIn, if_neg target⟩

theorem occupiedRooms_free {status : RoomStatus} (free : status ≠ .occupied) :
    occupiedRooms (setRoomStatus state roomId status) = occupiedRooms state \ {roomId} := by
  ext other
  constructor
  · rintro ⟨written, writtenIn, rfl, occupied⟩
    obtain ⟨old, oldIn, rfl⟩ := List.mem_map.mp writtenIn
    split_ifs at occupied ⊢ with target
    · exact absurd occupied free
    · exact ⟨⟨old, oldIn, rfl, occupied⟩, target⟩
  · rintro ⟨⟨old, oldIn, rfl, occupied⟩, different⟩
    refine ⟨old, ?_, rfl, occupied⟩
    exact List.mem_map.mpr ⟨old, oldIn, if_neg different⟩

theorem room?_eq_some {room : Room} (found : state.room? roomId = some room) :
    room ∈ state.rooms ∧ room.id = roomId := by
  refine ⟨List.mem_of_find?_eq_some found, ?_⟩
  simpa using List.find?_some found

/-- Other rooms are found as they were. -/
theorem room?_setRoomStatus_of_ne {target : Int} {status : RoomStatus}
    (different : roomId ≠ target) :
    (setRoomStatus state target status).room? roomId = state.room? roomId := by
  unfold HotelState.room? setRoomStatus
  rw [List.find?_map]
  have sameIds : ((fun room : Room => decide (room.id = roomId)) ∘
      fun room : Room => if room.id = target then
        { room with status := status } else room) =
      fun room => decide (room.id = roomId) := by
    funext room
    simp only [Function.comp]
    split_ifs <;> rfl
  rw [sameIds]
  cases found : state.rooms.find? fun room => decide (room.id = roomId) with
  | none => rfl
  | some room =>
    have sameId := List.find?_some found
    rw [decide_eq_true_iff] at sameId
    rw [Option.map_some, if_neg (sameId ▸ different)]

end Tables

/-- A stay in the house has a room, the time of its check-in and an
arrival. -/
structure Settled (arrivals : List GuestArrival) (row : Reservation) :
    Prop where
  hasRoom : row.roomId ≠ none
  checkedIn : row.actualCheckIn ≠ none
  arrived : ∃ arrival ∈ arrivals, arrival.reservationId = row.id

/-- The occupied rooms are those of the stays in the house, and each of these
is settled. -/
structure Lodged (arrivals : List GuestArrival) (state : HotelState) :
    Prop where
  exact : Exact (occupiedRooms state) (lodgingOf state)
  settled : ∀ row ∈ state.reservations, InHouse row -> Settled arrivals row

section Invariant

variable {arrivals more : List GuestArrival} {state after : HotelState} {row : Reservation}

theorem Lodged.mono (lodged : Lodged arrivals state)
    (kept : ∀ arrival ∈ arrivals, arrival ∈ more) : Lodged more state := by
  refine ⟨lodged.exact, fun row member inside => ?_⟩
  have settled := lodged.settled row member inside
  obtain ⟨arrival, recorded, sameId⟩ := settled.arrived
  exact ⟨settled.hasRoom, settled.checkedIn, arrival, kept arrival recorded, sameId⟩

theorem Lodged.of_replaced (lodged : Lodged arrivals state) (newRow : Reservation)
    (stored : state.reservation? row.id = some row)
    (sameId : newRow.id = row.id)
    (rows : after.reservations = (state.replaceReservation newRow).reservations)
    (exact : Exact (occupiedRooms after)
      (Function.update (lodgingOf state) row.id (lodging newRow)))
    (written : InHouse newRow -> Settled arrivals newRow) :
    Lodged arrivals after := by
  constructor
  · have sameLodgings : lodgingOf after = lodgingOf (state.replaceReservation newRow) := by
      unfold lodgingOf HotelState.reservation?
      rw [rows]
    rw [sameLodgings, lodgingOf_replaceReservation stored sameId]
    exact exact
  · intro other member inside
    rw [rows] at member
    rcases HotelState.mem_replaceReservation member with rfl | ⟨old, -⟩
    · exact written inside
    · exact lodged.settled other old inside

theorem Lodged.of_same_lodging (lodged : Lodged arrivals state) (newRow : Reservation)
    (stored : state.reservation? row.id = some row)
    (sameId : newRow.id = row.id)
    (rows : after.reservations = (state.replaceReservation newRow).reservations)
    (rooms : occupiedRooms after = occupiedRooms state)
    (same : lodging newRow = lodging row)
    (written : InHouse newRow -> Settled arrivals newRow) :
    Lodged arrivals after := by
  refine lodged.of_replaced newRow stored sameId rows ?_ written
  rw [rooms, same, ← lodgingOf_stored stored, Function.update_eq_self]
  exact lodged.exact

end Invariant

section Arrivals

variable {state next : HouseState} {checks : ArrivalChecks} {reservationId guestId : Int}

theorem transitionStatus_eq_ok {before target after : ReservationStatus}
    (transition : transitionStatus before (some target) = .ok after) :
    after = target := by
  obtain ⟨-, -, taken⟩ := bind_eq_ok.mp transition
  exact (pure_eq_ok.mp taken).symm

theorem inHouse_of_arrival {policy : String} {first complete : Prop} [Decidable first]
    [Decidable complete] {before after : ReservationStatus}
    (arriving : before ∈ arrivalStatuses)
    (transition : transitionStatus before
      (arrivalTarget policy first complete before) = .ok after) :
    after = .partialCheckIn ∨ after = .checkedIn := by
  unfold arrivalTarget at transition
  split_ifs at transition with onFirst atComplete early
  · exact .inr (transitionStatus_eq_ok transition)
  · exact .inr (transitionStatus_eq_ok transition)
  · exact .inl (transitionStatus_eq_ok transition)
  · cases transition
    cases before <;>
      simp [arrivalStatuses, BeforeArrival] at arriving early ⊢

variable {row : Reservation}

variable {room : Room}

theorem activeRoom?_eq_some (found : activeRoom? state row = some room) :
    row.roomId = some room.id ∧ room ∈ state.rooms := by
  obtain ⟨assigned, -⟩ := Option.filter_eq_some_iff.mp found
  obtain ⟨roomId, hasRoom, foundRoom⟩ := Option.bind_eq_some_iff.mp assigned
  obtain ⟨member, rfl⟩ := room?_eq_some foundRoom
  exact ⟨hasRoom, member⟩

theorem loadReadyRoom_eq_ok (ready : loadReadyRoom state row checks = .ok room) :
    activeRoom? state row = some room ∧ room.status = .available := by
  unfold loadReadyRoom at ready
  split at ready
  · cases ready
  · next found assigned =>
    obtain ⟨-, -, ready⟩ := bind_eq_ok.mp ready
    obtain ⟨-, -, ready⟩ := bind_eq_ok.mp ready
    obtain ⟨_, isAvailable, ready⟩ := bind_eq_ok.mp ready
    obtain ⟨-, -, same⟩ := bind_eq_ok.mp ready
    cases same
    rw [raiseIf_eq_ok, not_not] at isAvailable
    exact ⟨assigned, isAvailable⟩

theorem loadOccupiedRoom_eq_ok (ready : loadOccupiedRoom state row = .ok room) :
    activeRoom? state row = some room ∧ room.status = .occupied := by
  unfold loadOccupiedRoom at ready
  split at ready
  · cases ready
  · split at ready
    · cases ready
    · next found assigned =>
      obtain ⟨_, isOccupied, same⟩ := bind_eq_ok.mp ready
      cases same
      rw [raiseIf_eq_ok, not_not] at isOccupied
      exact ⟨assigned, isOccupied⟩

theorem Lodged.recordFirstArrival {policy : String} {status : ReservationStatus}
    (lodged : Lodged state.arrivals state.toHotelState)
    (stored : state.reservation? row.id = some row)
    (assigned : row.roomId = some room.id) (member : room ∈ state.rooms)
    (outside : ¬InHouse row)
    (inside : status = .partialCheckIn ∨ status = .checkedIn)
    (arrived : ∃ arrival ∈ state.arrivals, arrival.reservationId = row.id) (arrivedAt : Int) :
    Lodged (Stays.recordFirstArrival state row room policy status arrivedAt).arrivals
      (Stays.recordFirstArrival state row room policy status arrivedAt).toHotelState := by
  have written : lodging { row with
      status := status
      actualCheckIn := some arrivedAt } = some room.id :=
    lodging_eq_some.mpr ⟨inside, assigned⟩
  have noRoom : lodgingOf state.toHotelState row.id = none := by
    rw [lodgingOf_stored stored, lodging, if_neg outside]
  refine lodged.of_replaced { row with
    status := status
    actualCheckIn := some arrivedAt } stored rfl rfl ?_ ?_
  · show Exact (occupiedRooms (setRoomStatus
        (state.toHotelState.replaceReservation _) room.id .occupied)) _
    rw [occupiedRooms_occupy, written]
    · exact lodged.exact.take noRoom
    · exact member
  · exact fun _ => ⟨by simp [assigned], by simp, arrived⟩

theorem Lodged.recordLaterArrival {status : ReservationStatus}
    (lodged : Lodged state.arrivals state.toHotelState)
    (stored : state.reservation? row.id = some row)
    (assigned : row.roomId = some room.id) (member : room ∈ state.rooms)
    (occupied : room.status = .occupied)
    (inside : status = .partialCheckIn ∨ status = .checkedIn)
    (checkedIn : row.actualCheckIn ≠ none)
    (arrived : ∃ arrival ∈ state.arrivals, arrival.reservationId = row.id) :
    Lodged (Stays.recordLaterArrival state row status).arrivals
      (Stays.recordLaterArrival state row status).toHotelState := by
  have written : lodging { row with status := status } = some room.id :=
    lodging_eq_some.mpr ⟨inside, assigned⟩
  refine lodged.of_replaced { row with status := status } stored rfl rfl ?_ ?_
  · rw [written]
    by_cases before : InHouse row
    · have holding : lodgingOf state.toHotelState row.id = some room.id := by
        rw [lodgingOf_stored stored]
        exact lodging_eq_some.mpr ⟨before, assigned⟩
      rw [← holding, Function.update_eq_self]
      exact lodged.exact
    · have noRoom : lodgingOf state.toHotelState row.id = none := by
        rw [lodgingOf_stored stored, lodging, if_neg before]
      exact lodged.exact.join noRoom ⟨room, member, rfl, occupied⟩
  · exact fun _ => ⟨by simp [assigned], checkedIn, arrived⟩

theorem beforeArrival_or_inHouse (arriving : row.status ∈ arrivalStatuses) :
    BeforeArrival row.status ∨ InHouse row := by
  unfold InHouse
  cases status : row.status <;> rw [status] at arriving <;>
    simp [arrivalStatuses, BeforeArrival] at arriving ⊢

theorem Lodged.performGuestCheckin (lodged : Lodged state.arrivals state.toHotelState)
    (finds : ArrivalMatches state reservationId)
    (performed : Stays.performGuestCheckin state checks reservationId guestId = .ok next) :
    Lodged next.arrivals next.toHotelState := by
  obtain ⟨row, loaded, rfl | ⟨fresh, recorded⟩⟩ := performGuestCheckin_cases performed
  · exact lodged
  obtain ⟨stored, -⟩ := loadReservation_eq_ok loaded
  obtain ⟨member, rfl⟩ := HotelState.reservation?_eq_some stored
  obtain ⟨policy, status, room, record⟩ := recordArrival_eq_ok recorded
  have inside := inHouse_of_arrival record.arriving record.transition
  have before := beforeArrival_or_inHouse record.arriving
  have more : Lodged (addArrival state
      { reservationId := row.id, guestId := guestId, arrivedAt := checks.arrivedAt } fresh).arrivals
      state.toHotelState :=
    lodged.mono fun _ => List.mem_cons_of_mem _
  by_cases first : (arrivalsOf state row.id).length = 0
  · obtain ⟨ready, rfl⟩ := record.first first
    obtain ⟨assigned, roomIn⟩ := activeRoom?_eq_some (loadReadyRoom_eq_ok ready).1
    have outside : ¬InHouse row := by
      intro inHouse
      obtain ⟨arrival, arrivalIn, sameId⟩ := (lodged.settled row member inHouse).arrived
      have nobody := List.length_eq_zero_iff.mp first
      refine List.filter_eq_nil_iff.mp nobody arrival arrivalIn ?_
      exact decide_eq_true sameId
    exact more.recordFirstArrival stored assigned roomIn outside inside
      ⟨_, List.mem_cons_self, rfl⟩ _
  · obtain ⟨ready, rfl⟩ := record.later first
    obtain ⟨found, occupied⟩ := loadOccupiedRoom_eq_ok ready
    obtain ⟨assigned, roomIn⟩ := activeRoom?_eq_some found
    have checkedIn : row.actualCheckIn ≠ none := by
      rcases before with before | inHouse
      · exact finds row stored before (List.length_eq_zero_iff.not.mp first)
      · exact (lodged.settled row member inHouse).checkedIn
    exact more.recordLaterArrival stored assigned roomIn occupied inside
      checkedIn ⟨_, List.mem_cons_self, rfl⟩

end Arrivals

section Checkout

variable {state next : HouseState} {checks : CheckoutChecks} {reservationId : Int}

theorem roomForCheckout_eq_ok {state : HotelState} {row : Reservation}
    {room : Room} (found : roomForCheckout state row = .ok room) :
    row.roomId = some room.id ∧ room ∈ state.rooms := by
  unfold roomForCheckout at found
  split at found
  · cases found
  · next roomId assigned =>
    split at found
    · cases found
    · next other foundRoom =>
      cases found
      obtain ⟨member, rfl⟩ := room?_eq_some foundRoom
      exact ⟨assigned, member⟩

theorem Lodged.occupied {arrivals : List GuestArrival} {state : HotelState} {row : Reservation}
    {room : Room} (lodged : Lodged arrivals state)
    (holding : lodgingOf state row.id = some room.id)
    (member : room ∈ state.rooms) : room.status = .occupied := by
  obtain ⟨other, otherIn, sameId, occupied⟩ := lodged.exact.mem holding
  obtain rfl := List.inj_on_of_nodup_map state.distinctRooms otherIn member sameId
  exact occupied

theorem Lodged.performCheckout (lodged : Lodged state.arrivals state.toHotelState)
    (finds : CheckoutMatches state.toHotelState reservationId)
    (performed : Stays.performCheckout state checks reservationId = .ok next) :
    Lodged next.arrivals next.toHotelState := by
  obtain ⟨row, loaded, performed⟩ := bind_eq_ok.mp performed
  obtain ⟨_, inside, performed⟩ := bind_eq_ok.mp performed
  obtain ⟨room, found, performed⟩ := bind_eq_ok.mp performed
  obtain ⟨-, -, performed⟩ := bind_eq_ok.mp performed
  obtain ⟨status, transition, performed⟩ := bind_eq_ok.mp performed
  cases performed
  obtain rfl := transitionStatus_eq_ok transition
  rw [raiseIf_eq_ok, not_not] at inside
  obtain ⟨stored, -⟩ := loadReservation_eq_ok loaded
  obtain ⟨-, rfl⟩ := HotelState.reservation?_eq_some stored
  obtain ⟨assigned, roomIn⟩ := roomForCheckout_eq_ok found
  have lodging : lodging row = some room.id :=
    lodging_eq_some.mpr ⟨inside, assigned⟩
  have holding : lodgingOf state.toHotelState row.id = some room.id :=
    (lodgingOf_stored stored).trans lodging
  have alone := finds row stored room.id lodging
  rw [sharedRoom_iff] at alone
  have outside : ¬InHouse { row with status := .checkedOut } := by
    simp [InHouse]
  unfold roomAfterCheckout
  rw [if_pos (lodged.occupied holding roomIn)]
  refine lodged.of_replaced { row with status := .checkedOut } stored rfl rfl ?_ (absurd · outside)
  show Exact (occupiedRooms (setRoomStatus
    (state.toHotelState.replaceReservation _) room.id .cleaning)) _
  rw [occupiedRooms_free (by decide), Stays.lodging, if_neg outside]
  exact lodged.exact.leave holding alone

end Checkout

/-! ## Moves -/

section Moves

variable {arrivals : List GuestArrival} {state moved : HotelState}
  {surroundings : Surroundings} {row : Reservation} {room : Room}

theorem checkRoomAvailability_eq {roomId : Int} {window : Int × Int} {excluded : Option Int}
    (ordered : window.1 < window.2) (found : state.room? roomId = some room) :
    checkRoomAvailability state roomId window excluded =
      .ok (roomReservable room && !roomHasActiveBlock state roomId window &&
        (overlappingReservations state roomId window excluded).isEmpty) := by
  have nonempty : validateStayDates window = .ok () := by
    simpa [validateStayDates] using ordered
  unfold checkRoomAvailability
  rw [nonempty, found]
  cases reservable : roomReservable room <;>
    cases blocked : roomHasActiveBlock state roomId window <;>
      simp [reservable, bind, Except.bind, pure, Except.pure]

/-- The tables a checked-in stay is moved with, before its old room is
freed. -/
def withOccupied (state : HotelState) (row : Reservation) (room : Room) :
    HotelState :=
  setRoomStatus (state.replaceReservation (movedReservation row room)) room.id .occupied

variable {origin : Int}

theorem overlappingReservations_withOccupied_isEmpty (different : origin ≠ room.id) :
    (overlappingReservations (withOccupied state row room) origin row.stay
        (some row.id)).isEmpty = true ↔
      ¬HeldDuringStay state row origin := by
  unfold overlappingReservations
  rw [List.isEmpty_iff, List.filter_eq_nil_iff]
  constructor
  · rintro nobody ⟨other, member, active, inOrigin, overlap, otherId⟩
    refine nobody other ?_ (decide_eq_true ⟨active, inOrigin, overlap, ?_⟩)
    · exact HotelState.mem_replaceReservation_of_ne member otherId
    · intro excluded
      exact otherId (Option.some.inj (truthy_eq_some.mp excluded).1).symm
  · intro free other member held
    obtain ⟨active, inOrigin, overlap, -⟩ := of_decide_eq_true held
    rcases HotelState.mem_replaceReservation member with rfl | ⟨old, otherId⟩
    · exact different (Option.some.inj inOrigin).symm
    · exact free ⟨other, old, active, inOrigin, overlap, otherId⟩

theorem room?_withOccupied_of_ne (different : origin ≠ room.id) :
    (withOccupied state row room).room? origin = state.room? origin :=
  room?_setRoomStatus_of_ne different

theorem releaseOriginRoom_cases {disposition : Option String} (different : origin ≠ room.id)
    (released : releaseOriginRoom (withOccupied state row room) surroundings
      row origin room.id disposition = .ok moved) :
    (OriginBookable state row origin ∧ moved = setRoomStatus (withOccupied state row room) origin
          (dispositionStatus disposition)) ∨
      (¬OriginBookable state row origin ∧ moved = withOccupied state row room) := by
  unfold releaseOriginRoom at released
  rw [room?_withOccupied_of_ne different] at released
  split_ifs at released with unknown
  · obtain absent := unknown.resolve_left different
    refine .inr ⟨?_, (Except.ok.inj released).symm⟩
    rintro ⟨bookable, -⟩
    rw [absent] at bookable
    cases bookable
  · obtain ⟨left, found⟩ := Option.ne_none_iff_exists'.mp (not_or.mp unknown).2
    obtain ⟨free, read, released⟩ := bind_eq_ok.mp released
    rw [checkRoomAvailability_eq row.datesOrdered
      ((room?_withOccupied_of_ne different).trans found)] at read
    have isFree : free = true ↔ OriginBookable state row origin := by
      unfold OriginBookable
      rw [← Except.ok.inj read, found, Bool.and_eq_true, Bool.and_eq_true,
        overlappingReservations_withOccupied_isEmpty different, Bool.not_eq_true', and_assoc]
      rfl
    split_ifs at released with available
    · obtain ⟨-, -, same⟩ := bind_eq_ok.mp released
      exact .inl ⟨isFree.mp available, (pure_eq_ok.mp same).symm⟩
    · exact .inr ⟨isFree.not.mp available, (pure_eq_ok.mp released).symm⟩

theorem dispositionStatus_ne_occupied (disposition : Option String) :
    dispositionStatus disposition ≠ .occupied := by
  unfold dispositionStatus
  split <;> decide

theorem lodging_movedReservation (inside : InHouse row) :
    lodging (movedReservation row room) = some room.id :=
  lodging_eq_some.mpr ⟨inside, rfl⟩

theorem lodging_movedReservation_outside (outside : ¬InHouse row) :
    lodging (movedReservation row room) = lodging row := by
  have movedOutside : ¬InHouse (movedReservation row room) := outside
  rw [lodging, lodging, if_neg outside, if_neg movedOutside]

theorem Settled.movedReservation (settled : Settled arrivals row) :
    Settled arrivals (Stays.movedReservation row room) :=
  ⟨by simp, settled.checkedIn, settled.arrived⟩

section

variable (lodged : Lodged arrivals state) (stored : state.reservation? row.id = some row)
include lodged stored

theorem Lodged.changed {origin : Int} (inside : InHouse row) (inOrigin : row.roomId = some origin)
    (rows : moved.reservations =
      (state.replaceReservation (movedReservation row room)).reservations)
    (marked : room.id ∈ occupiedRooms moved)
    (released : origin ≠ room.id -> (origin ∈ occupiedRooms moved ↔ SharedRoom state row.id origin))
    (rest : ∀ roomId, roomId ≠ origin -> roomId ≠ room.id ->
      (roomId ∈ occupiedRooms moved ↔ roomId ∈ occupiedRooms state)) :
    Lodged arrivals moved := by
  have member := (HotelState.reservation?_eq_some stored).1
  refine lodged.of_replaced (movedReservation row room) stored rfl rows ?_
    fun _ => (lodged.settled row member inside).movedReservation
  have holding : lodgingOf state row.id = some origin :=
    (lodgingOf_stored stored).trans (lodging_eq_some.mpr ⟨inside, inOrigin⟩)
  rw [lodging_movedReservation inside]
  exact lodged.exact.change holding marked
    (fun different => (released different).trans sharedRoom_iff) rest

theorem Lodged.movedAlone (shared : ∀ origin ∈ lodging row, origin ≠ room.id ->
      SharedRoom state row.id origin ∧ SharedRoom state row.id room.id) :
    Lodged arrivals (state.replaceReservation (movedReservation row room)) := by
  have member := (HotelState.reservation?_eq_some stored).1
  by_cases inside : InHouse row
  · have settled := lodged.settled row member inside
    obtain ⟨origin, inOrigin⟩ := Option.ne_none_iff_exists'.mp settled.hasRoom
    have lodging : lodging row = some origin :=
      lodging_eq_some.mpr ⟨inside, inOrigin⟩
    have holding := (lodgingOf_stored stored).trans lodging
    refine lodged.of_replaced (movedReservation row room) stored rfl rfl ?_
      fun _ => settled.movedReservation
    rw [lodging_movedReservation inside, occupiedRooms_replaceReservation]
    by_cases same : origin = room.id
    · rw [← same, ← holding, Function.update_eq_self]
      exact lodged.exact
    · obtain ⟨first, second⟩ := shared origin lodging same
      exact lodged.exact.move holding (sharedRoom_iff.mp first) (sharedRoom_iff.mp second)
  · exact lodged.of_same_lodging (movedReservation row room) stored rfl rfl
      rfl (lodging_movedReservation_outside inside)
      (absurd · inside)

/-- A checked-in stay leaves its room to cleaning, unless others are in it,
and occupies the new one. -/
theorem Lodged.movedCheckedIn {disposition : Option String} {origin : Int}
    (inside : InHouse row) (inOrigin : row.roomId = some origin)
    (roomIn : room ∈ state.rooms)
    (bookable : origin ≠ room.id -> (OriginBookable state row origin ↔
      ¬SharedRoom state row.id origin))
    (released : releaseOriginRoom (withOccupied state row room) surroundings
      row origin room.id disposition = .ok moved) :
    Lodged arrivals moved := by
  have occupied : occupiedRooms (withOccupied state row room) =
      insert room.id (occupiedRooms state) :=
    occupiedRooms_occupy roomIn
  have holding : lodgingOf state row.id = some origin :=
    (lodgingOf_stored stored).trans (lodging_eq_some.mpr ⟨inside, inOrigin⟩)
  have originMarked := lodged.exact.mem holding
  by_cases same : origin = room.id
  · have unchanged : moved = withOccupied state row room := by
      unfold releaseOriginRoom at released
      rw [if_pos (.inl same)] at released
      exact (Except.ok.inj released).symm
    subst unchanged
    refine lodged.changed stored inside inOrigin rfl ?_ (absurd same) ?_
    · exact occupied ▸ Set.mem_insert _ _
    · intro roomId _ notTarget
      rw [occupied, Set.mem_insert_iff]
      simp [notTarget]
  · rcases releaseOriginRoom_cases same released with ⟨free, rfl⟩ | ⟨held, rfl⟩
    · have marks : occupiedRooms (setRoomStatus (withOccupied state row room) origin
          (dispositionStatus disposition)) =
          occupiedRooms (withOccupied state row room) \ {origin} :=
        occupiedRooms_free (dispositionStatus_ne_occupied disposition)
      refine lodged.changed stored inside inOrigin rfl ?_ ?_ ?_
      · rw [marks, occupied]
        simp [Ne.symm same]
      · rw [marks]
        simp [(bookable same).mp free]
      · intro roomId notOrigin notTarget
        rw [marks, occupied]
        simp [notOrigin, notTarget]
    · refine lodged.changed stored inside inOrigin rfl ?_ ?_ ?_
      · exact occupied ▸ Set.mem_insert _ _
      · rw [occupied]
        have shared := not_not.mp fun alone => held ((bookable same).mpr alone)
        simp [originMarked, shared]
      · intro roomId _ notTarget
        rw [occupied]
        simp [notTarget]

theorem Lodged.syncRoomStatusesAfterMove {disposition : Option String} {override : Bool}
    (roomIn : room ∈ state.rooms) (finds : MoveMatches state row.id room.id)
    (synced : Stays.syncRoomStatusesAfterMove
      (state.replaceReservation (movedReservation row room)) surroundings
      row row.roomId room.id disposition override = .ok moved) :
    Lodged arrivals moved := by
  have keeps := finds row stored
  unfold Stays.syncRoomStatusesAfterMove at synced
  split_ifs at synced with notFull
  · rw [← Except.ok.inj synced]
    refine lodged.movedAlone stored fun origin lodging different => ?_
    have early : row.status = .partialCheckIn :=
      (lodging_eq_some.mp lodging).1.resolve_right notFull
    have matched := keeps origin lodging different
    rwa [MoveKeepsRooms, if_pos early] at matched
  · obtain ⟨-, -, synced⟩ := bind_eq_ok.mp synced
    obtain ⟨-, -, synced⟩ := bind_eq_ok.mp synced
    have full := not_not.mp notFull
    have inside : InHouse row := .inr full
    obtain ⟨origin, inOrigin⟩ := Option.ne_none_iff_exists'.mp
      (lodged.settled row (HotelState.reservation?_eq_some stored).1 inside).hasRoom
    rw [inOrigin] at synced
    refine lodged.movedCheckedIn stored inside inOrigin roomIn ?_ synced
    intro different
    have matched := keeps origin (lodging_eq_some.mpr ⟨inside, inOrigin⟩) different
    rwa [MoveKeepsRooms, if_neg (by simp [full])] at matched

end

theorem moveToLockedRoom_synced {call : RoomMoveCall}
    (performed : moveToLockedRoom state surroundings call row room = .ok moved) :
    ∃ override, Stays.syncRoomStatusesAfterMove
      (state.replaceReservation (movedReservation row room)) surroundings
      row row.roomId room.id call.originRoomDisposition override = .ok moved := by
  obtain ⟨_, -, performed⟩ := bind_eq_ok.mp performed
  obtain ⟨_, -, performed⟩ := bind_eq_ok.mp performed
  obtain ⟨_, -, performed⟩ := bind_eq_ok.mp performed
  obtain ⟨override, -, performed⟩ := bind_eq_ok.mp performed
  obtain ⟨_, -, performed⟩ := bind_eq_ok.mp performed
  obtain ⟨_, -, synced⟩ := bind_eq_ok.mp performed
  exact ⟨override, synced⟩

theorem createGroupedRoomMove_synced
    (performed : createGroupedRoomMove state surroundings row room = .ok moved) :
    Stays.syncRoomStatusesAfterMove
      (state.replaceReservation (movedReservation row room)) surroundings
      row row.roomId room.id none false = .ok moved := by
  obtain ⟨_, -, performed⟩ := bind_eq_ok.mp performed
  split at performed
  · cases performed
  · obtain ⟨_, -, synced⟩ := bind_eq_ok.mp performed
    exact synced

theorem Lodged.moveReservationRoom {call : RoomMoveCall} (lodged : Lodged arrivals state)
    (stored : state.reservation? row.id = some row)
    (finds : MoveMatches state row.id call.toRoomId)
    (performed : Stays.moveReservationRoom state surroundings call row =
      .ok moved) : Lodged arrivals moved := by
  obtain ⟨-, -, room, found, locked⟩ := moveReservationRoom_eq_ok performed
  obtain ⟨roomIn, sameId⟩ := room?_eq_some found
  obtain ⟨override, synced⟩ := moveToLockedRoom_synced locked
  exact lodged.syncRoomStatusesAfterMove stored roomIn (sameId ▸ finds) synced

theorem Lodged.createGroupedRoomMove (lodged : Lodged arrivals state)
    (stored : state.reservation? row.id = some row)
    (roomIn : room ∈ state.rooms) (finds : MoveMatches state row.id room.id)
    (performed : Stays.createGroupedRoomMove state surroundings row room =
      .ok moved) : Lodged arrivals moved :=
  lodged.syncRoomStatusesAfterMove stored roomIn finds (createGroupedRoomMove_synced performed)

end Moves

section Reverts

variable {arrivals : List GuestArrival} {surroundings : Surroundings}
  {progress next : RevertProgress} {event : RoomMoveEvent}

/-- A move that is taken back is of a stay that is not checked in, and that is
where the move left it. -/
theorem revertConflict?_eq_none_cases {state : HotelState} {row : Reservation} {fromRoom : Room}
    (clear : revertConflict? state surroundings event row fromRoom = none) :
    row.status ∉ unrevertedStatuses ∧ row.roomId = some event.toRoomId := by
  unfold revertConflict? at clear
  split at clear
  · cases clear
  next changed =>
  split at clear
  · cases clear
  next elsewhere => exact ⟨changed, not_not.mp elsewhere⟩

/-- The rooms and the stays are together between the rounds of a revert. -/
def RevertProgress.IsLodged (arrivals : List GuestArrival) (progress : RevertProgress) : Prop :=
  Lodged arrivals progress.state

theorem RevertProgress.IsLodged.revertEvent (lodged : progress.IsLodged arrivals)
    (finds : RevertMatches surroundings progress event)
    (reverted : Stays.revertEvent surroundings progress event = .ok next) :
    next.IsLodged arrivals := by
  unfold Stays.revertEvent at reverted
  split at reverted
  · cases reverted
  next fromRoomId source =>
  split at reverted
  · cases reverted
  next row stored =>
  split at reverted
  · cases reverted
  next fromRoom foundRoom =>
  cases reverted
  obtain ⟨-, sameId⟩ := HotelState.reservation?_eq_some stored
  unfold revertMove
  split_ifs with inPlace
  · exact lodged
  · cases clear : revertConflict? progress.state surroundings event row fromRoom with
    | some reason => exact lodged
    | none =>
      obtain ⟨changed, inRoom⟩ := revertConflict?_eq_none_cases clear
      refine Lodged.movedAlone lodged (sameId ▸ stored) ?_
      intro origin lodging _
      obtain ⟨inside, inOrigin⟩ := lodging_eq_some.mp lodging
      obtain rfl := Option.some.inj (inRoom.symm.trans inOrigin)
      have early : row.status = .partialCheckIn :=
        inside.resolve_right fun full => changed (by simp [unrevertedStatuses, full])
      refine finds row stored fromRoom ?_ early inPlace clear
      rw [source, Option.bind_some]
      exact foundRoom

/-- A revert whose rounds find the rooms shared keeps them together. -/
theorem Lodged.revertGroup {state : HotelState} {group reverted : MovementGroup}
    {canManage : Bool} (lodged : Lodged arrivals state)
    (finds : Transition.Guarded (revertStep surroundings)
      (RevertMatches surroundings) { state := state } group.events.reverse)
    (performed : Stays.revertGroup state surroundings group canManage =
      .ok (progress, reverted)) : Lodged arrivals progress.state := by
  obtain ⟨_, -, performed⟩ := bind_eq_ok.mp performed
  obtain ⟨_, -, performed⟩ := bind_eq_ok.mp performed
  obtain ⟨_, -, performed⟩ := bind_eq_ok.mp performed
  obtain ⟨_, -, performed⟩ := bind_eq_ok.mp performed
  obtain ⟨final, folded, performed⟩ := bind_eq_ok.mp performed
  obtain ⟨rfl, -⟩ := Prod.mk.inj (pure_eq_ok.mp performed)
  have start : RevertProgress.IsLodged arrivals { state := state } := lodged
  have reached := Transition.reaches_of_run finds (Transition.run_of_foldlM_eq_ok folded)
  have lodgedAfter : final.IsLodged arrivals :=
    reached.invariant start fun before guarded taken =>
      before.revertEvent guarded (toOption_eq_some taken)
  exact lodgedAfter

end Reverts

section Runs

variable {state next start finish : LodgingState} {call : LodgingCall}

/-- The rooms and the stays of a house are together. -/
def LodgingState.IsLodged (state : LodgingState) : Prop :=
  Lodged state.house.arrivals state.house.toHotelState

theorem EmptyHouse.lodged {house : HouseState} (empty : EmptyHouse house) :
    Lodged house.arrivals house.toHotelState := by
  refine ⟨fun roomId => ?_, fun row member inside => absurd inside (empty.nobody row member)⟩
  constructor
  · rintro ⟨room, member, -, occupied⟩
    exact absurd occupied (empty.unoccupied room member)
  · rintro ⟨id, lodged⟩
    obtain ⟨row, member, -, lodged⟩ := lodgingOf_eq_some.mp lodged
    exact absurd (lodging_eq_some.mp lodged).1 (empty.nobody row member)

variable {surroundings : Surroundings}

theorem LodgingState.IsLodged.moveStored {reservationId : Int} {move : RoomMoveCall}
    (lodged : state.IsLodged)
    (finds : MoveMatches state.house.toHotelState reservationId move.toRoomId)
    (performed : Stays.moveStored state reservationId move surroundings =
      .ok next) : next.IsLodged := by
  unfold Stays.moveStored at performed
  split at performed
  · cases performed
  next row stored =>
  obtain ⟨moved, performs, written⟩ := bind_eq_ok.mp performed
  cases written
  obtain ⟨-, rfl⟩ := HotelState.reservation?_eq_some stored
  exact Lodged.moveReservationRoom lodged stored finds performs

theorem LodgingState.IsLodged.moveGrouped {reservationId toRoomId : Int} (lodged : state.IsLodged)
    (finds : MoveMatches state.house.toHotelState reservationId toRoomId)
    (performed : Stays.moveGrouped state reservationId toRoomId
      surroundings = .ok next) : next.IsLodged := by
  unfold Stays.moveGrouped at performed
  split at performed
  · next row room stored found =>
    obtain ⟨⟨moved, group⟩, creates, written⟩ := bind_eq_ok.mp performed
    cases written
    obtain ⟨grouped, performs, stores⟩ := bind_eq_ok.mp creates
    cases stores
    obtain ⟨-, rfl⟩ := HotelState.reservation?_eq_some stored
    obtain ⟨roomIn, rfl⟩ := room?_eq_some found
    exact Lodged.createGroupedRoomMove lodged stored roomIn finds performs
  · cases performed

theorem LodgingState.IsLodged.revertStored {groupId : Int} {canManage : Bool}
    (lodged : state.IsLodged)
    (finds : FindsLodgings state (.revertGroup groupId canManage surroundings))
    (performed : Stays.revertStored state groupId canManage surroundings =
      .ok next) : next.IsLodged := by
  unfold Stays.revertStored at performed
  split at performed
  · cases performed
  next group found =>
  obtain ⟨⟨progress, reverted⟩, performs, written⟩ := bind_eq_ok.mp performed
  cases written
  exact Lodged.revertGroup lodged (finds group found) performs

theorem LodgingState.IsLodged.performCall
    (lodged : state.IsLodged) (finds : FindsLodgings state call)
    (performed : Stays.performCall state call = .ok next) : next.IsLodged := by
  cases call with
  | performGuestCheckin reservationId guestId checks =>
    obtain ⟨house, arrived, written⟩ := bind_eq_ok.mp performed
    cases written
    exact Lodged.performGuestCheckin lodged finds arrived
  | moveReservationRoom reservationId move surroundings =>
    exact lodged.moveStored finds performed
  | createGroupedRoomMove reservationId toRoomId surroundings =>
    exact lodged.moveGrouped finds performed
  | revertGroup groupId canManage surroundings =>
    exact lodged.revertStored finds performed
  | performCheckout reservationId checks =>
    obtain ⟨house, left, written⟩ := bind_eq_ok.mp performed
    cases written
    exact Lodged.performCheckout lodged finds left

theorem LodgingState.IsLodged.lodgingStep
    (lodged : state.IsLodged) (keeps : KeepsLodgings state call)
    (taken : Stays.lodgingStep state call = some next) : next.IsLodged := by
  unfold Stays.lodgingStep at taken
  split at taken
  · next after performed =>
    cases taken
    refine lodged.performCall (keeps ?_) performed
    rw [performed]
    rfl
  · cases taken
    exact lodged

theorem nodup_arrivedGuests (house : HouseState) (reservationId : Int) :
    (arrivedGuests house reservationId).Nodup := by
  have kept : (arrivalsOf house reservationId).Sublist house.arrivals :=
    List.filter_sublist
  have distinct := (kept.map GuestArrival.key).nodup house.distinctArrivals
  have ofReservation : ∀ arrival ∈ arrivalsOf house reservationId,
      arrival.reservationId = reservationId :=
    fun arrival member => of_decide_eq_true (List.mem_filter.mp member).2
  refine List.Nodup.map_on ?_ (List.Nodup.of_map _ distinct)
  intro first firstIn second secondIn sameGuest
  refine List.inj_on_of_nodup_map distinct firstIn secondIn ?_
  exact Prod.ext ((ofReservation first firstIn).trans
    (ofReservation second secondIn).symm) sameGuest

/-- What the marks and the settled stays say of the rows. -/
theorem LodgingState.IsLodged.lodgingsMatch (lodged : state.IsLodged) :
    LodgingsMatch state.house where
  occupied := by
    intro row member inside
    obtain ⟨roomId, hasRoom⟩ := Option.ne_none_iff_exists'.mp
      (lodged.settled row member inside).hasRoom
    have holding := (lodgingOf_of_mem member).trans (lodging_eq_some.mpr ⟨inside, hasRoom⟩)
    obtain ⟨room, roomIn, rfl, occupied⟩ := lodged.exact.mem holding
    exact ⟨room, roomIn, hasRoom, occupied⟩
  checkedIn := fun row member inside => (lodged.settled row member inside).checkedIn
  arrived := by
    intro row member inside nobody
    obtain ⟨arrival, recorded, sameId⟩ := (lodged.settled row member inside).arrived
    have listed : arrival.guestId ∈ arrivedGuests state.house row.id :=
      List.mem_map_of_mem (List.mem_filter.mpr ⟨recorded, decide_eq_true sameId⟩)
    exact List.ne_nil_of_mem listed nobody
  once := fun row _ _ => nodup_arrivedGuests state.house row.id
  inhabited := by
    intro room member occupied
    obtain ⟨id, lodging⟩ := (lodged.exact room.id).mp ⟨room, member, rfl, occupied⟩
    obtain ⟨row, rowIn, -, lodging⟩ := lodgingOf_eq_some.mp lodging
    exact ⟨row, rowIn, lodging_eq_some.mp lodging⟩

end Runs

section Example

theorem pairStay_datesOrdered : (10 : Int) < 12 := by decide

/-- A paid stay of two guests in room 1. -/
def pairStay : Reservation where
  id := 1
  guestId := 1
  roomId := some 1
  categoryId := 1
  checkInDate := 10
  checkOutDate := 12
  datesOrdered := pairStay_datesOrdered
  status := .fullyPaid
  numAdults := 2

theorem pairHouse_distinctReservations : ([pairStay].map Reservation.id).Nodup := by
  decide

theorem pairHouse_distinctRooms : (([{ id := 1, categoryId := 1 }, { id := 2, categoryId := 1 }] :
      List Room).map Room.id).Nodup := by
  decide

theorem pairHouse_distinctGuests : ([1, 2] : List Int).Nodup := by
  decide

theorem pairHouse_distinctArrivals : (([] : List GuestArrival).map GuestArrival.key).Nodup := by
  decide

/-- A hotel of two rooms with the stay and its registered guests. -/
def pairHouse : HouseState where
  reservations := [pairStay]
  distinctReservations := pairHouse_distinctReservations
  rooms := [{ id := 1, categoryId := 1 }, { id := 2, categoryId := 1 }]
  distinctRooms := pairHouse_distinctRooms
  categories := [{ id := 1, maxOccupancy := 2 }]
  guests := [1, 2]
  distinctGuests := pairHouse_distinctGuests
  additionalGuests := [(1, 2)]
  arrivals := []
  distinctArrivals := pairHouse_distinctArrivals

theorem pairHouse_empty : EmptyHouse pairHouse where
  nobody := by decide
  unoccupied := by decide

/-- The stay is moved to room 2, and room 1 goes to cleaning. -/
def pairMove : LodgingCall :=
  .moveReservationRoom 1
    { toRoomId := 2, clientVersion := some 0, reasonCode := some "noise"
      originRoomDisposition := some "cleaning" } {}

/-- Both guests arrive, are moved, and leave. -/
def pairVisit : List LodgingCall :=
  [.performGuestCheckin 1 1 {}, .performGuestCheckin 1 2 {}, pairMove, .performCheckout 1 {}]

/-- One guest arrives, and the stay is moved before the other does. -/
def partialMove : List LodgingCall :=
  [.performGuestCheckin 1 1 {}, pairMove]

/-- A stay in the house is in a room that is not occupied. -/
def InUnoccupiedRoom (house : HouseState) : Prop :=
  ∃ row ∈ house.reservations, InHouse row ∧
    ∀ room ∈ house.rooms, row.roomId = some room.id -> room.status ≠ .occupied
deriving Decidable

theorem LodgingsMatch.not_inUnoccupiedRoom {house : HouseState}
    (matched : LodgingsMatch house) : ¬InUnoccupiedRoom house := by
  rintro ⟨row, member, inside, unoccupied⟩
  obtain ⟨room, roomIn, inRoom, occupied⟩ := matched.occupied row member inside
  exact unoccupied room roomIn inRoom occupied

end Example

end HotelPms.Stays
