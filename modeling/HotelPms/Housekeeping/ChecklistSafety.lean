import HotelPms.Housekeeping.Checklists

/-!
# Checklists gate rooms

No room gets a second open checklist, and a room with an open one is neither
released nor called clean, and occupied by the override alone.  A checked-in
stay can be checked out exactly while its room has no open checklist.  So every
check-out goes through in runs that put no checked-in guest into a room with an
open checklist, and leave none in the room of a check-out.
-/

namespace HotelPms.Housekeeping

open Hotel Checked Booking Stays

namespace CleaningState

variable {state : CleaningState} {roomId : Int}

theorem openChecklistExists_eq_false : state.openChecklistExists roomId = false ↔
      ∀ checklist ∈ state.checklists, checklist.status = .opened -> checklist.roomId ≠ roomId := by
  unfold openChecklistExists
  rw [List.any_eq_false]
  constructor
  · intro none checklist member isOpen isRoom
    exact none checklist member (decide_eq_true ⟨isRoom, isOpen⟩)
  · intro none checklist member found
    obtain ⟨isRoom, isOpen⟩ := of_decide_eq_true found
    exact none checklist member isOpen isRoom

theorem openChecklistExists_congr {after : CleaningState}
    (same : after.checklists = state.checklists) :
    after.openChecklistExists = state.openChecklistExists := by
  unfold openChecklistExists
  rw [same]

end CleaningState

section Writes

variable {state after : CleaningState} {roomId other : Int} {change : RoomStateChange}

theorem writeRoomState_reservations :
    (writeRoomState state roomId change).house.reservations = state.house.reservations := by
  unfold writeRoomState
  cases change.status with
  | none => rfl
  | some status => rfl

/-- A row of a room keeps its number. -/
theorem room?_setRoomStatus (hotel : HotelState) (status : RoomStatus) :
    (setRoomStatus hotel roomId status).room? other = (hotel.room? other).map fun room =>
        if room.id = roomId then { room with status := status }
        else room := by
  unfold HotelState.room? setRoomStatus
  simp only
  induction hotel.rooms with
  | nil => rfl
  | cons first rooms ih =>
    have sameId : (if first.id = roomId then
        { first with status := status } else first).id = first.id := by
      split_ifs <;> rfl
    rw [List.map_cons, List.find?_cons, List.find?_cons, sameId]
    by_cases found : first.id = other
    · rw [decide_eq_true found]
      rfl
    · rw [decide_eq_false found]
      exact ih

theorem roomStatus?_writeRoomState : (writeRoomState state roomId change).roomStatus? other =
      if other = roomId ∧ change.status.isSome = true then
        (state.house.room? other).bind fun _ => change.status
      else state.roomStatus? other := by
  unfold writeRoomState CleaningState.roomStatus?
  cases isStatus : change.status with
  | none => simp
  | some status =>
    show ((setRoomStatus state.house.toHotelState roomId status).room? other).map Room.status = _
    rw [room?_setRoomStatus]
    cases found : state.house.room? other with
    | none => simp
    | some room =>
      have isId : room.id = other := (Table.find_eq_some found).2
      rw [Option.map_some, Option.map_some, isId]
      by_cases same : other = roomId
      · simp [same]
      · simp [same]

theorem housekeeping_writeRoomState : (writeRoomState state roomId change).housekeeping other =
      if other = roomId then if change.status = some .cleaning then .dirty
        else change.housekeepingStatus.getD (state.housekeeping other)
      else state.housekeeping other := by
  unfold writeRoomState
  by_cases same : other = roomId
  · subst same
    by_cases cleaning : change.status = some .cleaning
    · simp [cleaning]
    · cases change.housekeepingStatus with
      | none => simp [cleaning]
      | some status => simp [cleaning]
  · by_cases cleaning : change.status = some .cleaning
    · simp [cleaning, same]
    · cases change.housekeepingStatus with
      | none => simp [cleaning, same]
      | some status => simp [cleaning, same]

theorem mutateRoomState_eq_ok (mutated : mutateRoomState state roomId change = .ok after) :
    (change.allowOpenChecklistOccupancyOverride = true ->
        change.status = some .occupied ∧ ¬blank change.checklistOverrideReason) ∧
      (change.ReleaseOrOccupancy ∨ change.HousekeepingReady ->
        state.openChecklistExists roomId = true ->
          change.allowOpenChecklistOccupancyOverride = true) ∧
      after = writeRoomState state roomId change := by
  unfold mutateRoomState at mutated
  simp only [bind_eq_ok, raiseIf_eq_ok, pure_eq_ok] at mutated
  obtain ⟨_, -, _, -, _, isOverride, _, allowed, rfl⟩ := mutated
  refine ⟨?_, ?_, rfl⟩
  · intro overrides
    by_contra wrong
    apply isOverride
    refine ⟨overrides, ?_⟩
    by_cases occupied : change.status = some .occupied
    · right
      by_contra reasoned
      exact wrong ⟨occupied, reasoned⟩
    · exact .inl occupied
  · intro restricted isOpen
    by_contra refused
    exact allowed ⟨restricted, isOpen, by simpa using refused⟩

theorem mutateRoomState_unrestricted (found : state.house.room? roomId ≠ none)
    (asks : change.housekeepingStatus ≠ none)
    (noOverride : change.allowOpenChecklistOccupancyOverride = false)
    (unrestricted : ¬(change.ReleaseOrOccupancy ∨
      change.HousekeepingReady)) :
    mutateRoomState state roomId change = .ok (writeRoomState state roomId change) := by
  unfold mutateRoomState
  simp only [bind_eq_ok, raiseIf_eq_ok, pure_eq_ok]
  refine ⟨(), found, (), ?_, (), ?_, (), ?_, trivial⟩
  · exact (asks ·.2.1)
  · rw [noOverride]
    exact (Bool.false_ne_true ·.1)
  · exact (unrestricted ·.1)

end Writes

/-- A room whose checklist is open after a change has been neither released
nor called clean by it, and has been occupied by an override alone. -/
def Gated (overrides : Int -> Prop) (before after : CleaningState) : Prop :=
  ∀ roomId, after.openChecklistExists roomId = true ->
    (after.roomStatus? roomId = some .available -> before.roomStatus? roomId = some .available) ∧
    (after.housekeeping roomId = .clean -> before.housekeeping roomId = .clean) ∧
    (after.housekeeping roomId = .inspected -> before.housekeeping roomId = .inspected) ∧
    (after.roomStatus? roomId = some .occupied ->
      before.roomStatus? roomId = some .occupied ∨ overrides roomId)

section Gates

variable {overrides : Int -> Prop} {before middle after : CleaningState}
  {roomId : Int} {change : RoomStateChange}

theorem Gated.of_sameRooms (sameStatus : after.roomStatus? = before.roomStatus?)
    (sameCleaning : after.housekeeping = before.housekeeping) :
    Gated overrides before after := by
  intro roomId _
  rw [sameStatus, sameCleaning]
  exact ⟨id, id, id, .inl⟩

theorem Gated.trans (first : Gated overrides before middle) (second : Gated overrides middle after)
    (sameLists : after.checklists = middle.checklists) :
    Gated overrides before after := by
  intro roomId isOpen
  have wasOpen : middle.openChecklistExists roomId = true := by
    rw [← CleaningState.openChecklistExists_congr sameLists]
    exact isOpen
  obtain ⟨released, cleaned, inspected, occupied⟩ := second roomId isOpen
  obtain ⟨released', cleaned', inspected', occupied'⟩ := first roomId wasOpen
  refine ⟨released' ∘ released, cleaned' ∘ cleaned, inspected' ∘ inspected, ?_⟩
  intro isOccupied
  rcases occupied isOccupied with already | overridden
  · exact occupied' already
  · exact .inr overridden

theorem gated_mutateRoomState (mutated : mutateRoomState before roomId change = .ok after)
    (allowed : change.allowOpenChecklistOccupancyOverride = true -> overrides roomId)
    (leaves : change.allowOpenChecklistOccupancyOverride = true ->
      before.openChecklistExists roomId = true ->
        ¬change.HousekeepingReady) : Gated overrides before after := by
  obtain ⟨isOverride, isAllowed, rfl⟩ := mutateRoomState_eq_ok mutated
  intro other isOpen
  by_cases same : other = roomId
  · subst same
    have wasOpen : before.openChecklistExists other = true := isOpen
    have notReady : ¬change.HousekeepingReady := by
      intro ready
      exact leaves (isAllowed (.inr ready) wasOpen) wasOpen ready
    rw [roomStatus?_writeRoomState, housekeeping_writeRoomState, if_pos rfl]
    refine ⟨?_, ?_, ?_, ?_⟩
    · intro released
      split_ifs at released with writes
      · -- an override cannot release the room
        have isReleased := (Option.bind_eq_some_iff.mp released).choose_spec.2
        have overridden := isAllowed (.inl (.inl isReleased)) wasOpen
        rw [(isOverride overridden).1] at isReleased
        cases isReleased
      · exact released
    · intro cleaned
      split_ifs at cleaned with cleaning
      cases isStatus : change.housekeepingStatus with
      | none =>
        rw [isStatus, Option.getD_none] at cleaned
        exact cleaned
      | some status =>
        rw [isStatus, Option.getD_some] at cleaned
        exact absurd (.inl (cleaned ▸ isStatus)) notReady
    · intro inspected
      split_ifs at inspected with cleaning
      cases isStatus : change.housekeepingStatus with
      | none =>
        rw [isStatus, Option.getD_none] at inspected
        exact inspected
      | some status =>
        rw [isStatus, Option.getD_some] at inspected
        exact absurd (.inr (inspected ▸ isStatus)) notReady
    · intro occupied
      split_ifs at occupied with writes
      · have isOccupied := (Option.bind_eq_some_iff.mp occupied).choose_spec.2
        exact .inr (allowed (isAllowed (.inl (.inr isOccupied)) wasOpen))
      · exact .inl occupied
  · rw [roomStatus?_writeRoomState, housekeeping_writeRoomState, if_neg same, if_neg (same ·.1)]
    exact ⟨id, id, id, .inl⟩

end Gates

/-! ## What the calls write -/

structure RoomsAlone (before after : CleaningState) : Prop where
  checklists : after.checklists = before.checklists
  nextChecklistId : after.nextChecklistId = before.nextChecklistId
  reservations : after.house.reservations = before.house.reservations

section Facts

variable {overrides : Int -> Prop} {before middle after : CleaningState}

theorem RoomsAlone.refl (state : CleaningState) : RoomsAlone state state :=
  ⟨rfl, rfl, rfl⟩

theorem RoomsAlone.trans (first : RoomsAlone before middle)
    (second : RoomsAlone middle after) : RoomsAlone before after := by
  constructor
  · rw [second.checklists, first.checklists]
  · rw [second.nextChecklistId, first.nextChecklistId]
  · rw [second.reservations, first.reservations]

variable {roomId reservationId : Int} {surroundings : Surroundings}
  {call : RoomMoveCall} {room : Room}

theorem roomsAlone_mutateRoomState {change : RoomStateChange}
    (mutated : mutateRoomState before roomId change = .ok after) :
    RoomsAlone before after := by
  obtain ⟨-, -, rfl⟩ := mutateRoomState_eq_ok mutated
  exact ⟨rfl, rfl, writeRoomState_reservations⟩

theorem gated_of_noOverride {change : RoomStateChange}
    (mutated : mutateRoomState before roomId change = .ok after)
    (noOverride : change.allowOpenChecklistOccupancyOverride = false) :
    Gated overrides before after := by
  have never : change.allowOpenChecklistOccupancyOverride ≠ true := by
    rw [noOverride]
    exact Bool.false_ne_true
  apply gated_mutateRoomState mutated
  · intro overridden
    exact absurd overridden never
  · intro overridden
    exact absurd overridden never

variable {reservation : Reservation}

theorem releaseOriginRoom_writes {fromRoomId toRoomId : Int} {disposition : Option String}
    (released : releaseOriginRoom before reservation fromRoomId toRoomId disposition = .ok after) :
    RoomsAlone before after ∧ Gated overrides before after := by
  unfold releaseOriginRoom at released
  split_ifs at released with same
  · rw [← Except.ok.inj released]
    exact ⟨.refl _, .of_sameRooms rfl rfl⟩
  · obtain ⟨free, -, released⟩ := bind_eq_ok.mp released
    split_ifs at released
    · exact ⟨roomsAlone_mutateRoomState released, gated_of_noOverride released rfl⟩
    · rw [← pure_eq_ok.mp released]
      exact ⟨.refl _, .of_sameRooms rfl rfl⟩

theorem syncRoomStatusesAfterMove_writes
    {fromRoomId : Option Int} {toRoomId : Int} {disposition : Option String}
    {allowChecklistOverride : Bool} {overrideReason : Option String}
    (allowed : allowChecklistOverride = true -> overrides toRoomId)
    (synced : syncRoomStatusesAfterMove before reservation fromRoomId toRoomId
      disposition allowChecklistOverride overrideReason = .ok after) :
    RoomsAlone before after ∧ Gated overrides before after := by
  unfold syncRoomStatusesAfterMove at synced
  split_ifs at synced with status
  · rw [← Except.ok.inj synced]
    exact ⟨.refl _, .of_sameRooms rfl rfl⟩
  · obtain ⟨_, -, synced⟩ := bind_eq_ok.mp synced
    obtain ⟨occupied, isOccupied, synced⟩ := bind_eq_ok.mp synced
    have alone := roomsAlone_mutateRoomState isOccupied
    have gated : Gated overrides before occupied := by
      apply gated_mutateRoomState isOccupied allowed
      rintro - - (ready | ready) <;> cases ready
    cases fromRoomId with
    | none =>
      rw [← pure_eq_ok.mp synced]
      exact ⟨alone, gated⟩
    | some origin =>
      obtain ⟨aloneLater, gatedLater⟩ := @releaseOriginRoom_writes overrides _ _ _ _ _ _ synced
      exact ⟨alone.trans aloneLater, gated.trans gatedLater aloneLater.checklists⟩

theorem checkChecklist_needs {override : Bool}
    (checked : checkChecklist surroundings call reservation room =
      .ok override) (inHouse : InHouse reservation)
    (isOpen : surroundings.openChecklist room.id = true) : override = true := by
  unfold checkChecklist at checked
  rw [if_pos ⟨inHouse, isOpen⟩] at checked
  simp only [bind_eq_ok, pure_eq_ok] at checked
  obtain ⟨_, -, _, -, _, -, isTrue⟩ := checked
  exact isTrue.symm

theorem checkChecklist_override
    (checked : checkChecklist surroundings call reservation room = .ok true) :
    ¬blank call.notes ∧ surroundings.granted .roomDirtyOverride = true := by
  unfold checkChecklist at checked
  split_ifs at checked
  · obtain ⟨_, noted, checked⟩ := bind_eq_ok.mp checked
    obtain ⟨_, -, checked⟩ := bind_eq_ok.mp checked
    obtain ⟨_, granted, -⟩ := bind_eq_ok.mp checked
    rw [raiseIf_eq_ok] at noted granted
    exact ⟨noted, by simpa using granted⟩
  · cases Except.ok.inj checked

theorem moveReservationRoom_writes {loaded : Reservation} (allowed : ¬blank call.notes ->
      surroundings.granted .roomDirtyOverride = true -> overrides call.toRoomId)
    (moved : moveReservationRoom before surroundings call loaded = .ok after) :
    ∃ room : Room, room.id = call.toRoomId ∧
      RoomsAlone (before.writeReservation (movedReservation loaded room))
        after ∧ Gated overrides before after ∧
      (InHouse loaded -> before.openChecklistExists room.id = true ->
        ¬blank call.notes ∧ surroundings.granted .roomDirtyOverride = true) := by
  obtain ⟨_, -, moved⟩ := bind_eq_ok.mp moved
  obtain ⟨_, -, moved⟩ := bind_eq_ok.mp moved
  obtain ⟨_, -, moved⟩ := bind_eq_ok.mp moved
  split at moved
  · cases moved
  · next room found =>
    have isRoom : room.id = call.toRoomId := (Table.find_eq_some found).2
    obtain ⟨categories, -, moved⟩ := bind_eq_ok.mp moved
    obtain ⟨available, -, moved⟩ := bind_eq_ok.mp moved
    obtain ⟨_, -, moved⟩ := bind_eq_ok.mp moved
    obtain ⟨override, checked, moved⟩ := bind_eq_ok.mp moved
    obtain ⟨_, -, moved⟩ := bind_eq_ok.mp moved
    obtain ⟨_, -, synced⟩ := bind_eq_ok.mp moved
    have isAllowed : override = true -> overrides room.id := by
      rintro rfl
      obtain ⟨noted, granted⟩ := checkChecklist_override checked
      rw [isRoom]
      exact allowed noted granted
    obtain ⟨alone, gated⟩ := syncRoomStatusesAfterMove_writes isAllowed synced
    have rewritten : Gated overrides before
        (before.writeReservation (movedReservation loaded room)) :=
      .of_sameRooms rfl rfl
    refine ⟨room, isRoom, alone, rewritten.trans gated alone.checklists, ?_⟩
    intro inHouse isOpen
    obtain rfl := checkChecklist_needs checked inHouse isOpen
    have overridden := checkChecklist_override checked
    exact overridden

theorem createCheckoutChecklist_eq_ok {actorUserId : Option Int} :
    createCheckoutChecklist before roomId reservationId actorUserId = .ok after ↔
      before.openChecklistExists roomId = false ∧
        reservationId ∉ before.checklists.map HousekeepingChecklist.reservationId ∧
        after = before.addChecklist
          (checkoutChecklist before roomId reservationId actorUserId) := by
  unfold createCheckoutChecklist
  simp only [bind_eq_ok, raiseIf_eq_ok, pure_eq_ok]
  constructor
  · rintro ⟨_, closed, _, fresh, rfl⟩
    exact ⟨Bool.not_eq_true _ ▸ closed, fresh, rfl⟩
  · rintro ⟨closed, fresh, rfl⟩
    exact ⟨(), by rw [closed]; exact Bool.false_ne_true, (), fresh, rfl⟩

def checkedOutReservation (reservation : Reservation) : Reservation :=
  { reservation with status := .checkedOut }

/-- A check-out of a stay whose room has no open checklist. -/
structure CheckedOut (overrides : Int -> Prop)
    (before after : CleaningState) (checks : CheckoutChecks)
    (reservationId : Int) where
  reservation : Reservation
  room : Room
  actorUserId : Option Int
  loaded : loadReservation before.house reservationId = .ok reservation
  stored : before.house.reservation? reservation.id = some reservation
  inHouse : InHouse reservation
  balance : (checkCheckoutBalance checks reservation).isOk = true
  inRoom : reservation.roomId = some room.id
  closed : before.openChecklistExists room.id = false
  checklists : after.checklists = before.checklists ++
    [checkoutChecklist before room.id reservation.id actorUserId]
  nextChecklistId : after.nextChecklistId = before.nextChecklistId + 1
  reservations : after.house.reservations = (before.house.toHotelState.replaceReservation
      (checkedOutReservation reservation)).reservations
  gated : Gated overrides before after

theorem roomForCheckout_eq_ok {hotel : HotelState}
    (found : roomForCheckout hotel reservation = .ok room) :
    reservation.roomId = some room.id ∧ hotel.room? room.id = some room := by
  unfold roomForCheckout at found
  split at found
  · cases found
  · next roomId isRoom =>
    split at found
    · cases found
    · next stored isStored =>
      cases found
      rw [(Table.find_eq_some isStored).2]
      exact ⟨isRoom, isStored⟩

theorem transitionStatus_checkedOut {status next : ReservationStatus}
    (moved : transitionStatus status (some .checkedOut) = .ok next) :
    next = .checkedOut := by
  unfold transitionStatus at moved
  simp only [bind_eq_ok, pure_eq_ok] at moved
  obtain ⟨_, -, rfl⟩ := moved
  rfl

theorem stored_of_loadReservation {house : HouseState}
    (loaded : loadReservation house reservationId = .ok reservation) :
    house.reservation? reservation.id = some reservation := by
  have stored := (loadReservation_eq_ok loaded).1
  rw [(Table.find_eq_some stored).2]
  exact stored

theorem performCheckout_writes {checks : CheckoutChecks} {actorUserId : Option Int}
    (left : performCheckout before checks reservationId actorUserId = .ok after) :
    Nonempty (CheckedOut overrides before after checks reservationId) := by
  obtain ⟨reservation, loaded, left⟩ := bind_eq_ok.mp left
  obtain ⟨_, inHouse, left⟩ := bind_eq_ok.mp left
  obtain ⟨room, found, left⟩ := bind_eq_ok.mp left
  obtain ⟨_, balance, left⟩ := bind_eq_ok.mp left
  obtain ⟨status, moved, left⟩ := bind_eq_ok.mp left
  obtain ⟨listed, isListed, mutated⟩ := bind_eq_ok.mp left
  rw [raiseIf_eq_ok, not_not] at inHouse
  obtain rfl := transitionStatus_checkedOut moved
  obtain ⟨closed, -, isState⟩ := createCheckoutChecklist_eq_ok.mp isListed
  have alone := roomsAlone_mutateRoomState mutated
  have first : Gated overrides before listed := by
    rw [isState]
    exact .of_sameRooms rfl rfl
  have second : Gated overrides listed after :=
    gated_of_noOverride mutated rfl
  have gated := first.trans second alone.checklists
  rw [isState] at alone
  exact ⟨{
    reservation := reservation
    room := room
    actorUserId := actorUserId
    loaded := loaded
    stored := stored_of_loadReservation loaded
    inHouse := inHouse
    balance := by
      rw [balance]
      rfl
    inRoom := (roomForCheckout_eq_ok found).1
    closed := closed
    checklists := alone.checklists
    nextChecklistId := alone.nextChecklistId
    reservations := alone.reservations
    gated := gated }⟩

/-- A point of an open checklist is completed. -/
structure ItemCompleted (overrides : Int → Prop)
    (before after : CleaningState) where
  old : HousekeepingChecklist
  row : HousekeepingChecklist
  stored : old ∈ before.checklists
  wasOpen : old.status = .opened
  id : row.id = old.id
  roomId : row.roomId = old.roomId
  reservationId : row.reservationId = old.reservationId
  checklists : after.checklists = Table.replace HousekeepingChecklist.id row before.checklists
  nextChecklistId : after.nextChecklistId = before.nextChecklistId
  reservations : after.house.reservations = before.house.reservations
  gated : Gated overrides before after

theorem itemCompleted_of_written {old row : HousekeepingChecklist}
    (alone : RoomsAlone (before.writeChecklist row) after)
    (gated : Gated overrides (before.writeChecklist row) after)
    (stored : old ∈ before.checklists) (wasOpen : old.status = .opened)
    (id : row.id = old.id) (roomId : row.roomId = old.roomId)
    (reservationId : row.reservationId = old.reservationId) :
    Nonempty (ItemCompleted overrides before after) := by
  have rewritten : Gated overrides before (before.writeChecklist row) :=
    .of_sameRooms rfl rfl
  exact ⟨{
    old := old
    row := row
    stored := stored
    wasOpen := wasOpen
    id := id
    roomId := roomId
    reservationId := reservationId
    checklists := alone.checklists
    nextChecklistId := alone.nextChecklistId
    reservations := alone.reservations
    gated := rewritten.trans gated alone.checklists }⟩

theorem completeOpenItem_writes {checklist : HousekeepingChecklist}
    {code : ItemCode} {actorUserId : Int}
    {answer : ChecklistCompletion} (stored : checklist ∈ before.checklists)
    (isOpen : checklist.status = .opened)
    (done : completeOpenItem before checklist room code actorUserId = .ok (after, answer)) :
    Nonempty (ItemCompleted overrides before after) := by
  unfold completeOpenItem at done
  simp only at done
  split at done
  · obtain ⟨released, mutated, done⟩ := bind_eq_ok.mp done
    cases done
    exact itemCompleted_of_written (roomsAlone_mutateRoomState mutated)
      (gated_of_noOverride mutated rfl) stored isOpen rfl rfl rfl
  · split at done
    · obtain ⟨started, isStarted, done⟩ := bind_eq_ok.mp done
      cases done
      rw [← pure_eq_ok.mp isStarted]
      exact itemCompleted_of_written (.refl _) (.of_sameRooms rfl rfl) stored isOpen rfl rfl rfl
    · obtain ⟨started, mutated, done⟩ := bind_eq_ok.mp done
      cases done
      exact itemCompleted_of_written (roomsAlone_mutateRoomState mutated)
        (gated_of_noOverride mutated rfl) stored isOpen rfl rfl rfl

theorem completeChecklistItem_writes {checklistId : Int} {code : ItemCode}
    {actorUserId : Int} {answer : ChecklistCompletion}
    (done : completeChecklistItem before checklistId code actorUserId = .ok (after, answer)) :
    after = before ∨ Nonempty (ItemCompleted overrides before after) := by
  unfold completeChecklistItem at done
  split at done
  · cases done
  · next checklist found =>
    split at done
    · cases done
    · split at done
      · cases done
      · split at done
        · exact .inl (Prod.mk.inj (Except.ok.inj done)).1.symm
        · next pending =>
          obtain ⟨_, -, done⟩ := bind_eq_ok.mp done
          have isOpen : checklist.status = .opened := by
            cases isStatus : checklist.status with
            | opened => rfl
            | completed => exact absurd (.inr isStatus) pending
          exact .inr (completeOpenItem_writes (Table.find_eq_some found).1 isOpen done)

end Facts

section House

variable {before after : CleaningState}

end House

/-- Stored checklists: numbered, one open in a room, and each of a stay that
has been checked out. -/
structure Listed (state : CleaningState) : Prop where
  numbered : Table.Numbered HousekeepingChecklist.id state.nextChecklistId state.checklists
  oneOpen : Table.UniqueWhere HousekeepingChecklist.roomId (·.status = .opened) state.checklists
  departed : ∀ checklist ∈ state.checklists,
    ∃ reservation, state.house.reservation? checklist.reservationId =
      some reservation ∧ reservation.status = .checkedOut

/-- No checked-in guest is in a room with an open checklist. -/
def GuestsFree (state : CleaningState) : Prop :=
  ∀ reservation ∈ state.house.reservations,
    reservation.deletedAt = none -> reservation.status = .checkedIn ->
      ∀ roomId, reservation.roomId = some roomId -> state.openChecklistExists roomId = false

section Kept

variable {overrides : Int -> Prop} {before after : CleaningState}

/-- Rows of reservations decide what is stored under a number. -/
theorem reservation?_congr {first second : HotelState}
    (same : first.reservations = second.reservations) :
    first.reservation? = second.reservation? := by
  unfold HotelState.reservation?
  rw [same]

theorem departed_replaceReservation {hotel : HotelState} {loaded row : Reservation}
    (stored : hotel.reservation? loaded.id = some loaded)
    (sameId : row.id = loaded.id)
    (keeps : row.status = loaded.status ∨ row.status = .checkedOut)
    {id : Int} {reservation : Reservation}
    (found : hotel.reservation? id = some reservation)
    (left : reservation.status = .checkedOut) :
    ∃ after, (hotel.replaceReservation row).reservation? id = some after ∧
      after.status = .checkedOut := by
  rw [HotelState.reservation?_overwritten row stored sameId]
  split_ifs with isRow
  · refine ⟨row, rfl, ?_⟩
    rcases keeps with same | out
    · rw [isRow, stored] at found
      rw [same, Option.some.inj found]
      exact left
    · exact out
  · exact ⟨reservation, found, left⟩

theorem Listed.of_sameLists (listed : Listed before)
    (sameLists : after.checklists = before.checklists)
    (sameNext : after.nextChecklistId = before.nextChecklistId)
    (keeps : ∀ id reservation, before.house.reservation? id = some reservation ->
      reservation.status = .checkedOut ->
      ∃ row, after.house.reservation? id = some row ∧ row.status = .checkedOut) : Listed after := by
  constructor
  · rw [sameLists, sameNext]
    exact listed.numbered
  · rw [sameLists]
    exact listed.oneOpen
  · intro checklist member
    rw [sameLists] at member
    obtain ⟨reservation, found, left⟩ := listed.departed checklist member
    exact keeps _ reservation found left

theorem Listed.roomsAlone (listed : Listed before)
    (alone : RoomsAlone before after) : Listed after := by
  apply listed.of_sameLists alone.checklists alone.nextChecklistId
  intro id reservation found left
  rw [reservation?_congr alone.reservations]
  exact ⟨reservation, found, left⟩

/-- A completed point leaves at most the open checklists there were. -/
theorem Listed.itemCompleted (listed : Listed before)
    (done : ItemCompleted overrides before after) : Listed after := by
  have isOld : ∀ other ∈ before.checklists, other.id = done.row.id → other = done.old := by
    intro other member same
    exact Table.eq_of_key listed.numbered.distinct member done.stored (same.trans done.id)
  constructor
  · rw [done.checklists, done.nextChecklistId]
    exact listed.numbered.of_map_key_eq Table.map_key_replace
  · rw [done.checklists]
    apply listed.oneOpen.replace
    intro other member same _
    rw [isOld other member same]
    exact ⟨done.wasOpen, done.roomId.symm⟩
  · intro checklist member
    rw [reservation?_congr done.reservations]
    rw [done.checklists] at member
    rcases Table.mem_replace member with rfl | ⟨old, -⟩
    · rw [done.reservationId]
      exact listed.departed done.old done.stored
    · exact listed.departed checklist old

theorem GuestsFree.itemCompleted (free : GuestsFree before)
    (done : ItemCompleted overrides before after) : GuestsFree after := by
  intro reservation member present status roomId inRoom
  rw [done.reservations] at member
  have closed := CleaningState.openChecklistExists_eq_false.mp
    (free reservation member present status roomId inRoom)
  apply CleaningState.openChecklistExists_eq_false.mpr
  intro checklist listed isOpen
  rw [done.checklists] at listed
  rcases Table.mem_replace listed with rfl | ⟨old, -⟩
  · rw [done.roomId]
    exact closed done.old done.stored done.wasOpen
  · exact closed checklist old isOpen

theorem GuestsFree.roomsAlone (free : GuestsFree before)
    (alone : RoomsAlone before after) : GuestsFree after := by
  intro reservation member present status roomId inRoom
  rw [alone.reservations] at member
  rw [CleaningState.openChecklistExists_congr alone.checklists]
  exact free reservation member present status roomId inRoom

theorem GuestsFree.moved {loaded : Reservation} {room : Room} (free : GuestsFree before)
    (closed : loaded.status = .checkedIn -> before.openChecklistExists room.id = false) :
    GuestsFree (before.writeReservation (movedReservation loaded room)) := by
  intro reservation member present status roomId inRoom
  rcases HotelState.mem_replaceReservation member with rfl | ⟨old, -⟩
  · cases inRoom
    exact closed status
  · exact free reservation old present status roomId inRoom

/-- A check-out adds the only open checklist of its room. -/
theorem Listed.checkedOut {checks : CheckoutChecks} {reservationId : Int} (listed : Listed before)
    (left : CheckedOut overrides before after checks reservationId) :
    Listed after := by
  have closed := CleaningState.openChecklistExists_eq_false.mp left.closed
  have stored := left.stored
  have keeps := @departed_replaceReservation before.house.toHotelState
    left.reservation (checkedOutReservation left.reservation) stored rfl
    (.inr rfl)
  have sameRows := reservation?_congr left.reservations
  constructor
  · rw [left.checklists, left.nextChecklistId]
    exact listed.numbered.append rfl
  · rw [left.checklists]
    apply listed.oneOpen.append
    intro other member isOpen
    exact closed other member isOpen
  · intro checklist member
    rw [sameRows]
    rw [left.checklists] at member
    rcases List.mem_added.mp member with old | rfl
    · obtain ⟨reservation, found, out⟩ := listed.departed checklist old
      exact keeps found out
    · refine ⟨checkedOutReservation left.reservation, ?_, rfl⟩
      rw [HotelState.reservation?_overwritten (checkedOutReservation left.reservation) stored rfl]
      exact if_pos rfl

theorem GuestsFree.checkedOut {checks : CheckoutChecks}
    {reservationId : Int} (free : GuestsFree before)
    (left : CheckedOut overrides before after checks reservationId)
    (alone : ∀ other ∈ before.house.reservations,
      other.id ≠ left.reservation.id -> other.deletedAt = none -> other.status = .checkedIn ->
          other.roomId ≠ left.reservation.roomId) : GuestsFree after := by
  intro reservation member present status roomId inRoom
  rw [left.reservations] at member
  rcases HotelState.mem_replaceReservation member with rfl | ⟨old, differs⟩
  · cases status
  · have closed := CleaningState.openChecklistExists_eq_false.mp
      (free reservation old present status roomId inRoom)
    apply CleaningState.openChecklistExists_eq_false.mpr
    intro checklist listed isOpen
    rw [left.checklists] at listed
    rcases List.mem_added.mp listed with oldList | rfl
    · exact closed checklist oldList isOpen
    · intro sameRoom
      apply alone reservation old differs present status
      rw [inRoom, left.inRoom, ← sameRoom]
      rfl

end Kept

def OverridesChecklist : CleaningCall -> Int -> Prop
  | .mutateRoomState target change, roomId =>
    target = roomId ∧ change.allowOpenChecklistOccupancyOverride = true ∧
      change.status = some .occupied ∧
      ¬blank change.checklistOverrideReason
  | .moveReservationRoom _ call surroundings, roomId =>
    call.toRoomId = roomId ∧ ¬blank call.notes ∧ surroundings.granted .roomDirtyOverride = true
  | .completeChecklistItem .., _ | .performCheckout .., _ => False

instance decidableOverridesChecklist : ∀ call roomId, Decidable (OverridesChecklist call roomId)
  | .mutateRoomState .., _ => inferInstanceAs (Decidable (_ ∧ _ ∧ _ ∧ _))
  | .moveReservationRoom .., _ => inferInstanceAs (Decidable (_ ∧ _ ∧ _))
  | .completeChecklistItem .., _ | .performCheckout .., _ => .isFalse id

/-- The stay may be checked out, but for its room. -/
def Leaving (checks : CheckoutChecks) (reservation : Reservation) : Prop :=
  reservation.deletedAt = none ∧ InHouse reservation ∧
    (checkCheckoutBalance checks reservation).isOk = true
deriving Decidable

/-- Another guest is checked in where a guest leaves. -/
def SharesRoom (leaving other : Reservation) : Prop :=
  other.id ≠ leaving.id ∧ other.deletedAt = none ∧
    other.status = .checkedIn ∧ other.roomId = leaving.roomId
deriving Decidable

/-- No override calls a room clean or moves a checked-in guest into a room with
an open checklist, and nobody else is checked in where a guest leaves. -/
def RespectsGate (state : CleaningState) : CleaningCall -> Prop
  | .mutateRoomState roomId change =>
    ¬(OverridesChecklist (.mutateRoomState roomId change) roomId ∧
      change.HousekeepingReady ∧ state.openChecklistExists roomId = true)
  | .completeChecklistItem .. => True
  | .moveReservationRoom reservationId call surroundings =>
    ((state.house.reservation? reservationId).all fun loaded =>
      decide ¬(loaded.status = .checkedIn ∧ state.openChecklistExists call.toRoomId = true ∧
        OverridesChecklist (.moveReservationRoom reservationId call surroundings)
          call.toRoomId)) = true
  | .performCheckout reservationId checks _ =>
    ((state.house.reservation? reservationId).all fun leaving =>
      state.house.reservations.all fun other =>
        decide ¬(Leaving checks leaving ∧ SharesRoom leaving other)) = true

instance decidableRespectsGate (state : CleaningState) : ∀ call, Decidable (RespectsGate state call)
  | .mutateRoomState .. => inferInstanceAs (Decidable (¬_))
  | .completeChecklistItem .. => .isTrue trivial
  | .moveReservationRoom .. | .performCheckout .. =>
    inferInstanceAs (Decidable (_ = true))

section Calls

variable {before after : CleaningState} {call : CleaningCall}

theorem completeChecklistItem_of_map {checklistId : Int} {code : ItemCode} {actorUserId : Int}
    (done : (completeChecklistItem before checklistId code actorUserId).map Prod.fst = .ok after) :
    ∃ answer, completeChecklistItem before checklistId code actorUserId = .ok (after, answer) :=
  map_fst_eq_ok.mp done

theorem moved_of_performCall {reservationId : Int} {call : RoomMoveCall}
    {surroundings : Surroundings}
    (performed : performCall before
      (.moveReservationRoom reservationId call surroundings) = .ok after) :
    ∃ loaded, before.house.reservation? reservationId = some loaded ∧ loaded.id = reservationId ∧
      moveReservationRoom before surroundings call loaded = .ok after := by
  simp only [performCall] at performed
  split at performed
  · cases performed
  · next loaded stored =>
    exact ⟨loaded, stored, (Table.find_eq_some stored).2, performed⟩

theorem listed_performCall (listed : Listed before)
    (performed : performCall before call = .ok after) : Listed after := by
  cases call with
  | mutateRoomState roomId change =>
    exact listed.roomsAlone (roomsAlone_mutateRoomState performed)
  | completeChecklistItem checklistId code actorUserId =>
    obtain ⟨answer, done⟩ := completeChecklistItem_of_map performed
    have writes : after = before ∨ Nonempty (ItemCompleted (fun _ => True)
        before after) := completeChecklistItem_writes done
    rcases writes with rfl | isCompleted
    · exact listed
    · obtain ⟨completed⟩ := isCompleted
      exact listed.itemCompleted completed
  | moveReservationRoom reservationId call surroundings =>
    obtain ⟨loaded, stored, isId, moved⟩ := moved_of_performCall performed
    obtain ⟨room, -, alone, -, -⟩ := @moveReservationRoom_writes
      (fun _ => True) _ _ _ _ _ (fun _ _ => trivial) moved
    rw [← isId] at stored
    have rewritten : Listed (before.writeReservation (movedReservation loaded room)) := by
      refine listed.of_sameLists rfl rfl ?_
      intro id reservation found left
      have kept := @departed_replaceReservation before.house.toHotelState
        loaded (movedReservation loaded room) stored rfl (.inl rfl)
      exact kept found left
    exact rewritten.roomsAlone alone
  | performCheckout reservationId checks actorUserId =>
    obtain ⟨left⟩ := @performCheckout_writes (fun _ => True) _ _ _ _ _ performed
    exact listed.checkedOut left

theorem gated_performCall (respects : RespectsGate before call)
    (performed : performCall before call = .ok after) :
    Gated (OverridesChecklist call) before after := by
  cases call with
  | mutateRoomState roomId change =>
    have isOverride := (mutateRoomState_eq_ok performed).1
    apply gated_mutateRoomState performed
    · intro overridden
      exact ⟨rfl, overridden, isOverride overridden⟩
    · intro overridden isOpen ready
      exact respects ⟨⟨rfl, overridden, isOverride overridden⟩, ready, isOpen⟩
  | completeChecklistItem checklistId code actorUserId =>
    obtain ⟨answer, done⟩ := completeChecklistItem_of_map performed
    have writes : after = before ∨ Nonempty (ItemCompleted (fun _ => False)
        before after) := completeChecklistItem_writes done
    rcases writes with rfl | isCompleted
    · exact .of_sameRooms rfl rfl
    · obtain ⟨completed⟩ := isCompleted
      exact completed.gated
  | moveReservationRoom reservationId call surroundings =>
    obtain ⟨loaded, -, -, moved⟩ := moved_of_performCall performed
    have allowed : ¬blank call.notes → surroundings.granted .roomDirtyOverride = true →
          OverridesChecklist (.moveReservationRoom reservationId call surroundings)
            call.toRoomId := fun noted granted => ⟨rfl, noted, granted⟩
    obtain ⟨room, -, -, gated, -⟩ := moveReservationRoom_writes allowed moved
    exact gated
  | performCheckout reservationId checks actorUserId =>
    obtain ⟨left⟩ := performCheckout_writes performed
    exact left.gated

theorem free_performCall (free : GuestsFree before) (respects : RespectsGate before call)
    (performed : performCall before call = .ok after) : GuestsFree after := by
  cases call with
  | mutateRoomState roomId change =>
    exact free.roomsAlone (roomsAlone_mutateRoomState performed)
  | completeChecklistItem checklistId code actorUserId =>
    obtain ⟨answer, done⟩ := completeChecklistItem_of_map performed
    have writes : after = before ∨ Nonempty (ItemCompleted (fun _ => True)
        before after) := completeChecklistItem_writes done
    rcases writes with rfl | isCompleted
    · exact free
    · obtain ⟨completed⟩ := isCompleted
      exact free.itemCompleted completed
  | moveReservationRoom reservationId call surroundings =>
    obtain ⟨loaded, stored, -, moved⟩ := moved_of_performCall performed
    obtain ⟨room, isRoom, alone, -, needs⟩ := @moveReservationRoom_writes
      (fun _ => True) _ _ _ _ _ (fun _ _ => trivial) moved
    simp only [RespectsGate] at respects
    rw [stored, Option.all_some, decide_eq_true_eq] at respects
    have closed : loaded.status = .checkedIn → before.openChecklistExists room.id = false := by
      intro status
      by_contra isOpen
      rw [Bool.not_eq_false] at isOpen
      have overridden := needs (.inr status) isOpen
      exact respects ⟨status, isRoom ▸ isOpen, rfl, overridden⟩
    exact (free.moved closed).roomsAlone alone
  | performCheckout reservationId checks actorUserId =>
    obtain ⟨left⟩ := @performCheckout_writes (fun _ => True) _ _ _ _ _ performed
    obtain ⟨stored, isPresent⟩ := loadReservation_eq_ok left.loaded
    simp only [RespectsGate] at respects
    rw [stored, Option.all_some, List.all_eq_true] at respects
    apply free.checkedOut left
    intro other otherIn differs present status sameRoom
    exact of_decide_eq_true (respects other otherIn)
      ⟨⟨isPresent, left.inHouse, left.balance⟩, differs, present, status, sameRoom⟩

end Calls

/-- A checked-in stay in a room of the hotel, with its balance settled. -/
structure MayLeave (state : CleaningState) (checks : CheckoutChecks)
    (reservation : Reservation) : Prop where
  present : reservation.deletedAt = none
  status : reservation.status = .checkedIn
  room : ∃ room, reservation.roomId = some room.id ∧ state.house.room? room.id = some room
  balance : checkCheckoutBalance checks reservation = .ok ()

theorem checkout_succeeds_iff {state : CleaningState}
    {checks : CheckoutChecks} {reservation : Reservation}
    (listed : Listed state) (member : reservation ∈ state.house.reservations)
    (mayLeave : MayLeave state checks reservation) (actorUserId : Option Int) :
    (∃ after, performCheckout state checks reservation.id actorUserId = .ok after) ↔
      ∀ roomId, reservation.roomId = some roomId -> state.openChecklistExists roomId = false := by
  have stored := HotelState.reservation?_eq_some_of_mem state.house.toHotelState member
  constructor
  · rintro ⟨after, performed⟩ roomId inRoom
    obtain ⟨left⟩ := @performCheckout_writes (fun _ => True) _ _ _ _ _ performed
    have isSame := (loadReservation_eq_ok left.loaded).1
    rw [stored] at isSame
    have sameRoom := left.inRoom
    rw [← Option.some.inj isSame, inRoom] at sameRoom
    cases sameRoom
    exact left.closed
  · intro closed
    obtain ⟨room, inRoom, found⟩ := mayLeave.room
    have isClosed := closed room.id inRoom
    have loaded : loadReservation state.house reservation.id = .ok reservation := by
      unfold loadReservation
      rw [stored, Option.filter_some_pos]
      rw [mayLeave.present]
      rfl
    have isInHouse : InHouse reservation := .inr mayLeave.status
    have isRoom : roomForCheckout state.house.toHotelState reservation = .ok room := by
      unfold roomForCheckout
      rw [inRoom]
      simp only
      rw [found]
    have moves : transitionStatus reservation.status (some .checkedOut) = .ok .checkedOut := by
      rw [mayLeave.status]
      rfl
    have isFresh : reservation.id ∉ state.checklists.map HousekeepingChecklist.reservationId := by
      intro known
      obtain ⟨checklist, listedIn, isId⟩ := List.mem_map.mp known
      obtain ⟨other, isStored, out⟩ := listed.departed checklist listedIn
      rw [isId, stored] at isStored
      rw [← Option.some.inj isStored, mayLeave.status] at out
      cases out
    let out := state.writeReservation (checkedOutReservation reservation)
    have checklisted := (@createCheckoutChecklist_eq_ok out _ room.id
      reservation.id actorUserId).mpr ⟨isClosed, isFresh, rfl⟩
    have isKnown : (out.addChecklist (checkoutChecklist out room.id
        reservation.id actorUserId)).house.room? room.id ≠ none := by
      show state.house.room? room.id ≠ none
      rw [found]
      exact Option.some_ne_none room
    have unrestricted : ¬((checkoutChange room).ReleaseOrOccupancy ∨
        (checkoutChange room).HousekeepingReady) := by
      unfold RoomStateChange.ReleaseOrOccupancy RoomStateChange.HousekeepingReady checkoutChange
      split_ifs <;> simp
    have dirtied := mutateRoomState_unrestricted isKnown (Option.some_ne_none _) rfl unrestricted
    refine ⟨writeRoomState (out.addChecklist (checkoutChecklist out room.id
      reservation.id actorUserId)) room.id (checkoutChange room), ?_⟩
    unfold performCheckout
    simp only [bind_eq_ok]
    refine ⟨reservation, loaded, (), ?_, room, isRoom, (), mayLeave.balance,
      .checkedOut, moves, _, checklisted, dirtied⟩
    rw [raiseIf_eq_ok]
    exact not_not.mpr isInHouse

/-- One open checklist in a room; calls that respect the gate are gated, and
checked-in stays can be checked out. -/
structure CleaningState.GatesRooms (state : CleaningState) : Prop where
  oneOpen : Table.UniqueWhere HousekeepingChecklist.roomId (·.status = .opened) state.checklists
  gated : ∀ call after, RespectsGate state call -> performCall state call = .ok after ->
      Gated (OverridesChecklist call) state after
  leaves : ∀ reservation ∈ state.house.reservations,
    ∀ checks actorUserId, MayLeave state checks reservation ->
      ∃ after, performCheckout state checks reservation.id actorUserId = .ok after

/-- What a call leaves, also when it is refused. -/
theorem cleaningStep_cases {before after : CleaningState}
    {call : CleaningCall} (taken : cleaningStep before call = some after) :
    performCall before call = .ok after ∨ after = before := by
  unfold cleaningStep at taken
  split at taken
  · next performed =>
    cases taken
    exact .inl performed
  · exact .inr (Option.some.inj taken).symm

/-- In every run, whatever it overrides, a room has one open checklist. -/
theorem listed_of_reaches {guard : CleaningState -> CleaningCall -> Prop}
    {start finish : CleaningState} (begins : start.checklists = [])
    (reached : Transition.Reaches cleaningStep guard start finish) :
    Listed finish := by
  apply reached.invariant
  · constructor
    · rw [begins]
      exact .nil _ _
    · rw [begins]
      exact .nil _ _
    · intro checklist member
      rw [begins] at member
      cases member
  · intro before call after listed _ taken
    rcases cleaningStep_cases taken with performed | rfl
    · exact listed_performCall listed performed
    · exact listed

/-- In every run that respects the gate, rooms have one open checklist each
and are gated by it, and every checked-in stay can be checked out. -/
theorem checklists_gate_rooms {start finish : CleaningState} (begins : start.checklists = [])
    (reached : Transition.Reaches cleaningStep RespectsGate start finish) :
    finish.GatesRooms := by
  have listed := listed_of_reaches begins reached
  have free : GuestsFree finish := by
    apply reached.invariant
    · intro reservation _ _ _ roomId _
      unfold CleaningState.openChecklistExists
      rw [begins]
      rfl
    · intro before call after free respects taken
      rcases cleaningStep_cases taken with performed | rfl
      · exact free_performCall free respects performed
      · exact free
  constructor
  · exact listed.oneOpen
  · intro call after respects performed
    exact gated_performCall respects performed
  · intro reservation member checks actorUserId mayLeave
    apply (checkout_succeeds_iff listed member mayLeave actorUserId).mpr
    intro roomId inRoom
    exact free reservation member mayLeave.present mayLeave.status roomId inRoom

theorem guestInRoom_datesOrdered : (10 : Int) < 12 := by
  decide

def guestInRoom (number : Int) : Reservation where
  id := number
  guestId := number
  roomId := some number
  categoryId := 1
  checkInDate := 10
  checkOutDate := 12
  datesOrdered := guestInRoom_datesOrdered
  status := .checkedIn

theorem guestsInRooms_distinct : ([guestInRoom 1, guestInRoom 2].map Reservation.id).Nodup := by
  decide

def occupiedRoom (number : Int) : Room where
  id := number
  categoryId := 1
  status := .occupied

theorem occupiedRooms_distinct : ([occupiedRoom 1, occupiedRoom 2].map Room.id).Nodup := by
  decide

/-- Two checked-in guests in two occupied rooms. -/
def guestHouse : HouseState where
  reservations := [guestInRoom 1, guestInRoom 2]
  distinctReservations := guestsInRooms_distinct
  rooms := [occupiedRoom 1, occupiedRoom 2]
  distinctRooms := occupiedRooms_distinct
  categories := [{ id := 1, maxOccupancy := 2 }]
  guests := []
  distinctGuests := List.nodup_nil
  arrivals := []
  distinctArrivals := List.nodup_nil

def moveToFirstRoom : CleaningCall :=
  .moveReservationRoom 2
    { toRoomId := 1, clientVersion := some 0, reasonCode := some "noise", notes := some "urgente"
      originRoomDisposition := some "cleaning" } {}

/-- The first room is cleaned after its guest, and the second guest moves
there and leaves. -/
theorem checklists_gate_rooms_cleaned :
    ∃ finish : CleaningState, finish.checklists.map HousekeepingChecklist.status =
          [.completed, .opened] ∧ finish.GatesRooms := by
  let calls : List CleaningCall :=
    [.performCheckout 1 {} none, .mutateRoomState 1 { status := some .available },
      .completeChecklistItem 1 .changeSheets 7,
      .completeChecklistItem 1 .cleanBathroom 7,
      .completeChecklistItem 1 .replenishTowels 7,
      .completeChecklistItem 1 .emptyWaste 7,
      .completeChecklistItem 1 .checkAmenities 7,
      moveToFirstRoom,
      .performCheckout 2 {} none]
  have results : (Transition.run cleaningStep { house := guestHouse }
      calls).map (·.checklists.map HousekeepingChecklist.status) =
      some [.completed, .opened] := by
    decide +kernel
  have guarded : Transition.Guarded cleaningStep RespectsGate { house := guestHouse } calls := by
    decide +kernel
  obtain ⟨finish, ran, isListed⟩ := Option.map_eq_some_iff.mp results
  exact ⟨finish, isListed, checklists_gate_rooms rfl (Transition.reaches_of_run guarded ran)⟩

/-- A guest who is moved into a room that is still to be cleaned cannot be
checked out. -/
theorem moved_guest_cannot_leave :
    ¬∀ (start finish : CleaningState) (calls : List CleaningCall), start.checklists = [] ->
      Transition.run cleaningStep start calls = some finish ->
      ∀ reservation ∈ finish.house.reservations,
        ∀ checks actorUserId, MayLeave finish checks reservation ->
          ∃ after, performCheckout finish checks reservation.id actorUserId = .ok after := by
  intro claimed
  let calls : List CleaningCall :=
    [.performCheckout 1 {} none, moveToFirstRoom]
  have results : (Transition.run cleaningStep { house := guestHouse }
      calls).map (fun finish => (finish.house.reservation? 2, finish.house.room? 1,
          (performCheckout finish {} 2 none).isOk)) =
      some (some (movedReservation (guestInRoom 2) (occupiedRoom 1)),
        some (occupiedRoom 1), false) := by
    decide +kernel
  obtain ⟨finish, ran, isFinish⟩ := Option.map_eq_some_iff.mp results
  obtain ⟨stored, isRest⟩ := Prod.mk.inj isFinish
  obtain ⟨isRoom, refused⟩ := Prod.mk.inj isRest
  have member := (HotelState.reservation?_eq_some stored).1
  have settled : checkCheckoutBalance {}
      (movedReservation (guestInRoom 2) (occupiedRoom 1)) = .ok () := by
    decide +kernel
  have mayLeave : MayLeave finish {} (movedReservation (guestInRoom 2) (occupiedRoom 1)) :=
    { present := rfl, status := rfl, room := ⟨occupiedRoom 1, rfl, isRoom⟩, balance := settled }
  obtain ⟨after, left⟩ := claimed { house := guestHouse } finish calls rfl ran
    _ member {} none mayLeave
  have isTwo : (movedReservation (guestInRoom 2) (occupiedRoom 1)).id = 2 :=
    rfl
  rw [isTwo] at left
  rw [left] at refused
  cases refused

end HotelPms.Housekeeping
