import HotelPms.Booking.Concurrency

/-!
# Double booking under concurrency

A creation and a room change read availability under the lock of the room they
take, and hold that lock until they commit.  A date change that submits no
room reads availability of its room without locking it.  The invariant below
says what each open transaction can rely on; every step keeps it as long as
the unlocked date changes are undisturbed, and one interleaving of a date
change with a creation shows that nothing else forces them to be.
-/

namespace HotelPms.Booking

open Hotel HalfOpen Checked Transition

/-- The reservation is stored, and an unchanged version means an unchanged
row. -/
def VersionCurrent (state : HotelState) (loaded : Reservation) : Prop :=
  ∃ current, state.reservation? loaded.id = some current ∧ loaded.version ≤ current.version ∧
    (current.version = loaded.version -> current = loaded)

variable {state : HotelState}

variable {reservation : Reservation}

theorem VersionCurrent.addReservation {loaded : Reservation}
    {fresh : reservation.id ∉ state.reservations.map Reservation.id}
    (current : VersionCurrent state loaded) :
    VersionCurrent (state.addReservation reservation fresh) loaded := by
  obtain ⟨row, found, versions⟩ := current
  exact ⟨row, HotelState.reservation?_addReservation found, versions⟩

theorem VersionCurrent.replaceReservation {loaded old row : Reservation}
    (stored : state.reservation? old.id = some old) (sameId : row.id = old.id)
    (newer : row.version = old.version + 1)
    (current : VersionCurrent state loaded) :
    VersionCurrent (state.replaceReservation row) loaded := by
  obtain ⟨before, found, atMost, unchanged⟩ := current
  refine ⟨_, HotelState.reservation?_replaceReservation found, ?_⟩
  split_ifs with same
  · rw [same, sameId, stored] at found
    cases found
    exact ⟨by omega, by omega⟩
  · exact ⟨atMost, unchanged⟩

theorem roomFree_addReservation {roomId : Int} {window : Int × Int} {self : Option Int}
    {fresh : reservation.id ∉ state.reservations.map Reservation.id}
    (elsewhere : reservation.roomId ≠ some roomId)
    (free : state.RoomFree roomId window self) :
    (state.addReservation reservation fresh).RoomFree roomId window self := by
  intro other member active different inRoom
  rcases List.mem_cons.mp member with rfl | old
  · exact absurd inRoom elsewhere
  · exact free other old active different inRoom

theorem roomFree_replaceReservation {roomId : Int} {window : Int × Int} {self : Option Int}
    (compatible : reservation.Active -> reservation.roomId = some roomId ->
      self ≠ some reservation.id -> ¬Overlap reservation.stay window)
    (free : state.RoomFree roomId window self) :
    (state.replaceReservation reservation).RoomFree roomId window self := by
  intro other member active different inRoom
  rcases HotelState.mem_replaceReservation member with rfl | ⟨old, -⟩
  · exact compatible active inRoom different
  · exact free other old active different inRoom

structure RespectsLocks
    {τ : Type}
    (locks : LockTable LockedRow τ)
    (before after : HotelState)
    (session : τ) : Prop where
  versions : ∀ loaded, VersionCurrent before loaded -> VersionCurrent after loaded
  lockedRows : ∀ id row, locks.holder (.reservation id) = some session ->
    before.reservation? id = some row -> after.reservation? id = some row
  lockedRooms : ∀ roomId window self, locks.holder (.room roomId) = some session ->
    before.RoomFree roomId window self -> after.RoomFree roomId window self

theorem RespectsLocks.refl {τ : Type} {locks : LockTable LockedRow τ}
    {session : τ} : RespectsLocks locks state state session where
  versions := fun _ current => current
  lockedRows := fun _ _ _ found => found
  lockedRooms := fun _ _ _ _ free => free

section Holds

variable {τ : Type} (state : HotelState) (locks : LockTable LockedRow τ) (session : τ)

/-- The date check is behind. -/
def UpdateStage.DatesRead (stage : UpdateStage) : Prop :=
  stage = .datesChecked ∨ stage = .roomLocked ∨ stage = .roomChecked

/-- What an edit has established so far. -/
structure UpdateHolds
    (call : UpdateCall)
    (loaded : Reservation)
    (seen : List Reservation)
    (stage : UpdateStage) : Prop where
  current : VersionCurrent state loaded
  versionLocked : stage ≠ .loaded -> call.clientVersion ≠ none ->
    locks.holder (.reservation loaded.id) = some session ∧
      state.reservation? loaded.id = some loaded
  datesFree : stage.DatesRead -> call.data.changesDates = true ->
    ∃ stay, call.data.newStay? loaded = some stay ∧
      ∀ roomId, truthy (call.data.targetRoomId loaded) = some roomId ->
        ∀ other ∈ seen, other.Active -> other.id ≠ loaded.id ->
          other.roomId = some roomId -> ¬Overlap other.stay stay
  roomLocked : stage = .roomLocked ∨ stage = .roomChecked ->
    ∀ roomId, call.data.submittedRoom? = some roomId -> locks.holder (.room roomId) = some session
  roomFree : stage = .roomChecked -> ∀ roomId, call.data.submittedRoom? = some roomId ->
      state.RoomFree roomId (call.data.stayAfter loaded) (some loaded.id)

/-- What an open transaction has established so far. -/
def Session.Holds : Session -> Prop
  | .idle => True
  | .creating _ => True
  | .readyToInsert data roomId => ∀ chosen, roomId = some chosen ->
      locks.holder (.room chosen) = some session ∧ state.RoomFree chosen data.stay none
  | .updating call loaded seen stage =>
    UpdateHolds state locks session call loaded seen stage

variable {state locks session}

theorem Session.Holds.transfer
    {after : HotelState} {locks' : LockTable LockedRow τ} {open' : Session}
    (holds : open'.Holds state locks session)
    (kept : ∀ row, locks.holder row = some session -> locks'.holder row = some session)
    (respects : RespectsLocks locks state after session) :
    open'.Holds after locks' session := by
  cases open' with
  | idle => trivial
  | creating data => trivial
  | readyToInsert data roomId =>
    intro chosen isChosen
    obtain ⟨held, free⟩ := holds chosen isChosen
    exact ⟨kept _ held, respects.lockedRooms _ _ _ held free⟩
  | updating call loaded seen stage =>
    have update : UpdateHolds state locks session call loaded seen stage :=
      holds
    refine
      { current := respects.versions _ update.current
        versionLocked := fun past given => ?_
        datesFree := update.datesFree
        roomLocked := fun past roomId submitted => kept _ (update.roomLocked past roomId submitted)
        roomFree := fun past roomId submitted => ?_ }
    · obtain ⟨held, found⟩ := update.versionLocked past given
      exact ⟨kept _ held, respects.lockedRows _ _ held found⟩
    · exact respects.lockedRooms _ _ _ (update.roomLocked (.inr past) roomId submitted)
        (update.roomFree past roomId submitted)

end Holds

namespace ReservationCreate

variable {data : ReservationCreate} {state : HotelState}

theorem mem_lockTargets_of_requested {roomId : Int} {choice : Option Int}
    (requested : truthy data.roomId = some roomId)
    (checked : data.requestedRoom state roomId = .ok choice) :
    choice = some roomId ∧ roomId ∈ data.lockTargets state ∧
      state.RoomFree roomId data.stay none := by
  unfold requestedRoom at checked
  cases found : state.room? roomId with
  | none =>
    rw [found] at checked
    cases checked
  | some room =>
    simp only [found, bind_eq_ok, raiseIf_eq_ok, pure_eq_ok] at checked
    obtain ⟨-, -, available, read, -, isAvailable, rfl⟩ := checked
    have sameId : room.id = roomId := by
      simpa using List.find?_some found
    rw [Bool.not_eq_false] at isAvailable
    rw [isAvailable] at read
    refine ⟨rfl, ?_, checkRoomAvailability_eq_ok read⟩
    simp [lockTargets, requested, found, sameId]

theorem mem_roomChoices {allowOverbooking : Bool} {choices : List (Option Int)} {roomId : Int}
    (read : data.roomChoices state allowOverbooking = .ok choices)
    (member : some roomId ∈ choices) :
    roomId ∈ data.lockTargets state ∧ state.RoomFree roomId data.stay none := by
  unfold roomChoices at read
  cases requested : truthy data.roomId with
  | some requestedId =>
    simp only [requested, bind_eq_ok, pure_eq_ok] at read
    obtain ⟨choice, checked, rfl⟩ := read
    obtain ⟨rfl, locked, free⟩ := mem_lockTargets_of_requested requested checked
    obtain rfl : roomId = requestedId := by simpa using member
    exact ⟨locked, free⟩
  | none =>
    simp only [requested] at read
    split_ifs at read with waitListed
    · cases read
      simp at member
    · obtain ⟨available, found, chosen⟩ := bind_eq_ok.mp read
      split_ifs at chosen with nothing
      · obtain ⟨-, -, none⟩ := bind_eq_ok.mp chosen
        cases none
        simp at member
      · cases chosen
        obtain ⟨room, roomIn, sameRoom⟩ := List.mem_map.mp member
        obtain rfl : room.id = roomId := by simpa using sameRoom
        refine ⟨?_, findAvailableRooms_eq_ok found roomIn⟩
        obtain ⟨-, -, filtered⟩ := bind_eq_ok.mp found
        rw [← pure_eq_ok.mp filtered] at roomIn
        simp only [lockTargets, requested, waitListed]
        exact List.mem_map_of_mem (List.mem_of_mem_filter roomIn)

end ReservationCreate

namespace ReservationUpdate

variable {data : ReservationUpdate} {loaded : Reservation} {state : HotelState}

theorem newStay?_of_not_changesDates (unchanged : ¬data.changesDates = true) :
    data.newStay? loaded = some loaded.stay := by
  simp only [changesDates, Bool.or_eq_true, not_or, Bool.not_eq_true, Option.isSome_eq_false_iff,
    Option.isNone_iff_eq_none] at unchanged
  simp [newStay?, unchanged.1, unchanged.2, Reservation.stay]

theorem checkDates_eq_ok {done : Unit} (passed : data.checkDates loaded state = .ok done)
    (changes : data.changesDates = true) :
    ∃ stay, data.newStay? loaded = some stay ∧
      ∀ roomId, truthy (data.targetRoomId loaded) = some roomId ->
        state.RoomFree roomId stay (some loaded.id) := by
  obtain ⟨-, -, passed⟩ := bind_eq_ok.mp passed
  rw [if_pos changes] at passed
  cases newStay : data.newStay? loaded with
  | none =>
    rw [newStay] at passed
    cases passed
  | some stay =>
    refine ⟨stay, rfl, fun roomId target => ?_⟩
    simp only [newStay, target, bind_eq_ok, raiseIf_eq_ok] at passed
    obtain ⟨-, -, available, read, isAvailable⟩ := passed
    rw [Bool.not_eq_false] at isAvailable
    rw [isAvailable] at read
    exact checkRoomAvailability_eq_ok read

theorem checkNewRoom_eq_ok {roomId : Int} {done : Unit}
    (passed : data.checkNewRoom loaded roomId state = .ok done) :
    state.RoomFree roomId (data.stayAfter loaded) (some loaded.id) := by
  unfold checkNewRoom at passed
  cases found : state.room? roomId with
  | none =>
    rw [found] at passed
    cases passed
  | some room =>
    simp only [found, bind_eq_ok, raiseIf_eq_ok] at passed
    obtain ⟨-, -, available, read, isAvailable⟩ := passed
    rw [Bool.not_eq_false] at isAvailable
    rw [isAvailable] at read
    exact checkRoomAvailability_eq_ok read

theorem column_self {α : Type} [DecidableEq α] (old new : α) : column old new old = new := by
  unfold column
  split_ifs with same
  · exact same.symm
  · rfl

/-- What an edit writes over the row it loaded. -/
structure Written
    (data : ReservationUpdate) (loaded row : Reservation) : Prop where
  id : row.id = loaded.id
  active : row.Active ↔ loaded.Active
  roomId : row.roomId = data.newRoomId loaded
  stay : row.stay = data.stayAfter loaded
  version : row.version = loaded.version + 1

theorem flush_eq_ok {row : Reservation} (flushed : data.flush loaded loaded = .ok row) :
    Written data loaded row := by
  unfold flush at flushed
  simp only [bind_eq_ok, column_self] at flushed
  obtain ⟨-, -, -, -, -, -, flushed⟩ := flushed
  split_ifs at flushed with ordered
  cases flushed
  exact ⟨rfl, Iff.rfl, rfl, rfl, rfl⟩

end ReservationUpdate

namespace BookingSystem

variable {τ : Type} [DecidableEq τ] {system : BookingSystem τ} {session : τ}

/-- Nothing is double booked and every open transaction can rely on what it
has established. -/
structure Invariant (system : BookingSystem τ) : Prop where
  noDoubleBooking : system.hotel.NoDoubleBooking
  sessions : ∀ session, (system.sessions session).Holds system.hotel system.locks session

section

variable (invariant : system.Invariant)
include invariant

variable {next : Session}

theorem Invariant.advance (holds : next.Holds system.hotel system.locks session) :
    (system.advance session next).Invariant where
  noDoubleBooking := invariant.noDoubleBooking
  sessions := by
    intro other
    by_cases same : other = session
    · subst same
      simpa [BookingSystem.advance] using holds
    · simpa [BookingSystem.advance, same] using invariant.sessions other

theorem Invariant.lock {row : LockedRow} (available : system.locks.Available row session)
    (holds : next.Holds system.hotel (system.locks.acquire row session) session) :
    (system.lock session row next).Invariant where
  noDoubleBooking := invariant.noDoubleBooking
  sessions := by
    intro other
    by_cases same : other = session
    · subst same
      simpa [BookingSystem.lock, BookingSystem.advance] using holds
    · have kept := (invariant.sessions other).transfer
        (fun _ held => available.acquire_eq_some held) .refl
      simpa [BookingSystem.lock, BookingSystem.advance, same] using kept

theorem Invariant.commit {hotel : HotelState} (safe : hotel.NoDoubleBooking)
    (respects : ∀ other, other ≠ session -> RespectsLocks system.locks system.hotel hotel other) :
    (system.commit session hotel).Invariant where
  noDoubleBooking := safe
  sessions := by
    intro other
    by_cases same : other = session
    · subst same
      simp [BookingSystem.commit, BookingSystem.advance, Session.Holds]
    · have kept : (system.sessions other).Holds hotel (system.locks.release session) other :=
        (invariant.sessions other).transfer (fun _ held => LockTable.release_eq_some held same)
          (respects other same)
      simpa [BookingSystem.commit, BookingSystem.advance, same] using kept

theorem Invariant.rollback : (system.rollback session).Invariant :=
  invariant.commit invariant.noDoubleBooking fun _ _ => .refl

theorem Invariant.guardWith {checks : Except String Unit}
    (holds : ∀ done, checks = .ok done -> next.Holds system.hotel system.locks session) :
    (system.guardWith session checks next).Invariant := by
  cases passed : checks with
  | error error => exact invariant.rollback
  | ok done => exact invariant.advance (holds done passed)

/-! ## Commits -/

variable {after : BookingSystem τ}

theorem Invariant.insertReservation {data : ReservationCreate} {roomId : Option Int} {id : Int}
    (holds : (Session.readyToInsert data roomId).Holds system.hotel system.locks session)
    (taken : system.insertReservation session data roomId id = some after) :
    after.Invariant := by
  unfold BookingSystem.insertReservation at taken
  split_ifs at taken with fresh ordered
  · cases taken
    refine invariant.commit ?_ fun other different => ?_
    · refine invariant.noDoubleBooking.addReservation fun chosen isChosen => ?_
      exact (holds chosen isChosen).2
    · refine
        { versions := fun loaded => ?_
          lockedRows := fun _ _ _ found => HotelState.reservation?_addReservation found
          lockedRooms := fun otherRoom window self held free => roomFree_addReservation ?_ free }
      · exact VersionCurrent.addReservation
      · intro sameRoom
        have own := (holds otherRoom sameRoom).1
        rw [held] at own
        exact different (Option.some.inj own)
  · cases taken
    exact invariant.rollback

end

/-- No write of another session has come between the date check and now: the
room's row is not locked by another session, and every active booking of the
room was among the rows the check read. -/
def Undisturbed (system : BookingSystem τ) (session : τ) (loaded : Reservation)
    (seen : List Reservation) (roomId : Int) : Prop :=
  system.locks.Available (.room roomId) session ∧
    ∀ other ∈ system.hotel.reservations, other.Active ->
      other.id ≠ loaded.id -> other.roomId = some roomId -> other ∈ seen

/-- The new stay lies inside the loaded one. -/
def KeepsInside (call : UpdateCall) (loaded : Reservation) : Prop :=
  loaded.checkInDate ≤ (call.data.stayAfter loaded).1 ∧
    (call.data.stayAfter loaded).2 ≤ loaded.checkOutDate

/-- The commit of an edit is guarded.  The edit sends the client's version or
finds its reservation as it loaded it; and it submits a room, or holds none,
or keeps inside its old stay, or leaves the room out of the payload while no
other session disturbs its date check. -/
def CommitGuarded (system : BookingSystem τ) (session : τ) (call : UpdateCall)
    (loaded : Reservation) (seen : List Reservation) : Prop :=
  (call.clientVersion ≠ none ∨ system.hotel.reservation? loaded.id = some loaded) ∧
  (call.data.submittedRoom? ≠ none ∨ ¬loaded.Active ∨ loaded.roomId = none ∨
    KeepsInside call loaded ∨
    (call.data.roomId = none ∧ ∀ roomId, loaded.roomId = some roomId ->
      roomId ≠ 0 ∧ system.Undisturbed session loaded seen roomId))

def StepGuarded (system : BookingSystem τ) (event : τ × BookingStep) : Prop :=
  event.2 = .commitUpdate ->
    match system.sessions event.1 with
    | .updating call loaded seen _ =>
      system.CommitGuarded event.1 call loaded seen
    | _ => True

variable {call : UpdateCall} {loaded : Reservation} {seen : List Reservation} {stage : UpdateStage}

omit [DecidableEq τ] in
theorem CommitGuarded.current (guarded : system.CommitGuarded session call loaded seen)
    (holds : UpdateHolds system.hotel system.locks session call loaded seen stage)
    (past : stage.DatesRead) :
    system.hotel.reservation? loaded.id = some loaded := by
  rcases guarded.1 with given | unchanged
  · refine (holds.versionLocked ?_ given).2
    rintro rfl
    rcases past with stage | stage | stage <;> cases stage
  · exact unchanged

variable {roomId : Int}

theorem roomFree_of_keepsInside {state : HotelState} (safe : state.NoDoubleBooking)
    (stored : state.reservation? loaded.id = some loaded)
    (active : loaded.Active) (held : loaded.roomId = some roomId)
    (inside : KeepsInside call loaded) :
    state.RoomFree roomId (call.data.stayAfter loaded) (some loaded.id) := by
  intro other member otherActive different otherRoom overlap
  have loadedIn := (HotelState.reservation?_eq_some stored).1
  refine safe loaded ⟨loadedIn, active⟩ other ⟨member, otherActive⟩ ?_ roomId
    held otherRoom (overlap.symm.mono inside.1 inside.2)
  rintro rfl
  exact different rfl

omit [DecidableEq τ] in
theorem roomFree_of_undisturbed
    (holds : UpdateHolds system.hotel system.locks session call loaded seen stage)
    (past : stage.DatesRead) (changes : call.data.changesDates = true)
    (left : call.data.roomId = none) (held : loaded.roomId = some roomId)
    (nonzero : roomId ≠ 0)
    (undisturbed : system.Undisturbed session loaded seen roomId) :
    system.hotel.RoomFree roomId (call.data.stayAfter loaded) (some loaded.id) := by
  obtain ⟨stay, newStay, free⟩ := holds.datesFree past changes
  have after : call.data.stayAfter loaded = stay := by
    simp [ReservationUpdate.stayAfter, newStay]
  have target : truthy (call.data.targetRoomId loaded) = some roomId := by
    apply truthy_eq_some.mpr
    refine ⟨?_, nonzero⟩
    simpa [ReservationUpdate.targetRoomId, left] using held
  rw [after]
  intro other member otherActive different otherRoom
  have otherId : other.id ≠ loaded.id := by
    intro same
    exact different (congrArg some same.symm)
  exact free roomId target other
    (undisturbed.2 other member otherActive otherId otherRoom) otherActive
    otherId otherRoom

section

variable (invariant : system.Invariant)
include invariant

omit [DecidableEq τ] in
theorem CommitGuarded.roomFree (guarded : system.CommitGuarded session call loaded seen)
    (holds : UpdateHolds system.hotel system.locks session call loaded seen stage)
    (ready : stage = .roomChecked ∨ (stage = .datesChecked ∧ call.data.submittedRoom? = none))
    (past : stage.DatesRead) (active : loaded.Active)
    (endsIn : call.data.newRoomId loaded = some roomId) :
    system.hotel.RoomFree roomId (call.data.stayAfter loaded) (some loaded.id) ∧
      (system.locks.Available (.room roomId) session ∨
        (loaded.roomId = some roomId ∧ KeepsInside call loaded)) := by
  have stored := guarded.current holds past
  cases submitted : call.data.submittedRoom? with
  | some chosen =>
    have checked : stage = .roomChecked := by
      simpa [submitted] using ready
    obtain rfl : chosen = roomId := by
      simpa [ReservationUpdate.newRoomId, submitted] using endsIn
    exact ⟨holds.roomFree checked chosen submitted,
      .inl (.inr (holds.roomLocked (.inr checked) chosen submitted))⟩
  | none =>
    have held : loaded.roomId = some roomId := by
      simpa [ReservationUpdate.newRoomId, submitted] using endsIn
    have keeps (inside : KeepsInside call loaded) :=
      roomFree_of_keepsInside invariant.noDoubleBooking stored active held inside
    rcases guarded.2 with given | inactive | roomless | inside | ⟨left, undisturbed⟩
    · exact absurd submitted given
    · exact absurd active inactive
    · rw [roomless] at held
      cases held
    · exact ⟨keeps inside, .inr ⟨held, inside⟩⟩
    · obtain ⟨nonzero, available⟩ := undisturbed roomId held
      refine ⟨?_, .inl available.1⟩
      by_cases changes : call.data.changesDates = true
      · exact roomFree_of_undisturbed holds past changes left held nonzero available
      · have same : call.data.stayAfter loaded = loaded.stay := by
          simp [ReservationUpdate.stayAfter, ReservationUpdate.newStay?_of_not_changesDates changes]
        apply keeps
        rw [KeepsInside, same]
        exact ⟨le_refl _, le_refl _⟩

omit [DecidableEq τ] in
theorem CommitGuarded.respectsLocks {loaded row : Reservation} {other : τ}
    (guarded : system.CommitGuarded session call loaded seen)
    (holds : UpdateHolds system.hotel system.locks session call loaded seen stage)
    (ready : stage = .roomChecked ∨ (stage = .datesChecked ∧ call.data.submittedRoom? = none))
    (past : stage.DatesRead)
    (available : system.locks.Available (.reservation loaded.id) session)
    (written : ReservationUpdate.Written call.data loaded row)
    (different : other ≠ session) :
    RespectsLocks system.locks system.hotel (system.hotel.replaceReservation row) other := by
  have stored := guarded.current holds past
  have notOwn {lockedRow : LockedRow} (free : system.locks.Available lockedRow session)
      (held : system.locks.holder lockedRow = some other) : False :=
    different (free.eq_of_held held)
  refine { versions := ?_, lockedRows := ?_, lockedRooms := ?_ }
  · intro another current
    exact current.replaceReservation stored written.id written.version
  · intro id current held found
    rw [HotelState.reservation?_replaceReservation found, if_neg]
    rintro rfl
    rw [written.id] at held
    exact notOwn available held
  · intro roomId window self held free
    apply roomFree_replaceReservation _ free
    intro rowActive inRoom notSelf overlap
    have active := written.active.mp rowActive
    rw [written.roomId] at inRoom
    rcases (guarded.roomFree invariant holds ready past active inRoom).2 with
      unlocked | ⟨before, inside⟩
    · exact notOwn unlocked held
    · have loadedIn := (HotelState.reservation?_eq_some stored).1
      rw [written.id] at notSelf
      rw [written.stay] at overlap
      exact free loaded loadedIn active notSelf before (overlap.mono inside.1 inside.2)

theorem Invariant.commitUpdate (guarded : system.CommitGuarded session call loaded seen)
    (holds : UpdateHolds system.hotel system.locks session call loaded seen stage)
    (ready : stage = .roomChecked ∨ (stage = .datesChecked ∧ call.data.submittedRoom? = none))
    (taken : system.commitUpdate session call loaded = some after) :
    after.Invariant := by
  have past : stage.DatesRead := by
    rcases ready with checked | ⟨checked, -⟩
    · exact .inr (.inr checked)
    · exact .inl checked
  have stored := guarded.current holds past
  unfold BookingSystem.commitUpdate at taken
  split_ifs at taken with available
  cases taken
  simp only [stored]
  cases flushed : call.data.flush loaded loaded with
  | error error =>
    exact invariant.rollback
  | ok row =>
    have written := ReservationUpdate.flush_eq_ok flushed
    refine invariant.commit ?_ fun other different =>
      guarded.respectsLocks invariant holds ready past available written different
    refine invariant.noDoubleBooking.replaceReservation fun roomId inRoom active => ?_
    rw [written.roomId] at inRoom
    rw [written.stay, written.id]
    exact (guarded.roomFree invariant holds ready past (written.active.mp active) inRoom).1

theorem Invariant.lockReservationVersion
    (holds : UpdateHolds system.hotel system.locks session call loaded seen .loaded)
    (taken : system.lockReservationVersion session call loaded = some after) :
    after.Invariant := by
  unfold BookingSystem.lockReservationVersion at taken
  split_ifs at taken with available
  cases taken
  obtain ⟨current, found, atMost, unchanged⟩ := holds.current
  simp only [found]
  split_ifs with stale
  · exact invariant.rollback
  · have sameVersion : current.version = loaded.version := by
      by_contra different
      exact stale (.inr (.inl (Ne.symm different)))
    obtain rfl := unchanged sameVersion
    exact invariant.lock available
      { current := holds.current
        versionLocked := fun _ _ => ⟨LockTable.acquire_self, found⟩
        datesFree := fun past => by
          rcases past with past | past | past <;> cases past
        roomLocked := fun past => by
          rcases past with past | past <;> cases past
        roomFree := fun past => by cases past }

/-- An edit starts from the stored reservation. -/
theorem Invariant.beginUpdate {reservationId : Int}
    (found : system.hotel.reservation? reservationId = some loaded) :
    (system.advance session (.updating call loaded [] .loaded)).Invariant := by
  obtain ⟨-, rfl⟩ := HotelState.reservation?_eq_some found
  exact invariant.advance
    { current := ⟨loaded, found, le_refl _, fun _ => rfl⟩
      versionLocked := (absurd rfl ·)
      datesFree := fun past => by
        rcases past with past | past | past <;> cases past
      roomLocked := fun past => by
        rcases past with past | past <;> cases past
      roomFree := fun past => by cases past }

theorem Invariant.checkDates
    (holds : UpdateHolds system.hotel system.locks session call loaded seen stage)
    (ready : stage = .versionLocked ∨ (stage = .loaded ∧ call.clientVersion = none)) :
    (system.guardWith session (call.data.checkDates loaded system.hotel)
      (.updating call loaded system.hotel.reservations .datesChecked)).Invariant := by
  refine invariant.guardWith fun done passed =>
    { current := holds.current
      versionLocked := fun _ given => ?_
      datesFree := fun _ changes => ?_
      roomLocked := fun past => by
        rcases past with past | past <;> cases past
      roomFree := fun past => by cases past }
  · rcases ready with rfl | ⟨-, notGiven⟩
    · exact holds.versionLocked (by simp) given
    · exact absurd notGiven given
  · obtain ⟨stay, newStay, free⟩ := ReservationUpdate.checkDates_eq_ok passed changes
    refine ⟨stay, newStay, fun roomId target other member active otherId => ?_⟩
    apply free roomId target other member active
    intro same
    exact otherId (Option.some.inj same).symm

theorem Invariant.lockNewRoom
    (holds : UpdateHolds system.hotel system.locks session call loaded seen .datesChecked)
    (submitted : call.data.submittedRoom? = some roomId)
    (available : system.locks.Available (.room roomId) session) :
    (system.lock session (.room roomId) (.updating call loaded seen .roomLocked)).Invariant := by
  refine invariant.lock available
    { current := holds.current
      versionLocked := fun _ given => ?_
      datesFree := fun _ => holds.datesFree (.inl rfl)
      roomLocked := fun _ other otherSubmitted => ?_
      roomFree := fun past => by cases past }
  · obtain ⟨held, found⟩ := holds.versionLocked (by simp) given
    exact ⟨available.acquire_eq_some held, found⟩
  · obtain rfl : roomId = other := by
      rw [submitted] at otherSubmitted
      exact Option.some.inj otherSubmitted
    exact LockTable.acquire_self

theorem Invariant.checkNewRoom
    (holds : UpdateHolds system.hotel system.locks session call loaded seen .roomLocked)
    (submitted : call.data.submittedRoom? = some roomId) :
    (system.guardWith session (call.data.checkNewRoom loaded roomId system.hotel)
      (.updating call loaded seen .roomChecked)).Invariant := by
  refine invariant.guardWith fun done passed =>
    { current := holds.current
      versionLocked := fun _ => holds.versionLocked (by simp)
      datesFree := fun _ => holds.datesFree (.inr (.inl rfl))
      roomLocked := fun _ => holds.roomLocked (.inl rfl)
      roomFree := fun _ other otherSubmitted => ?_ }
  obtain rfl : roomId = other := by
    rw [submitted] at otherSubmitted
    exact Option.some.inj otherSubmitted
  exact ReservationUpdate.checkNewRoom_eq_ok passed

theorem Invariant.step {event : τ × BookingStep} (guarded : system.StepGuarded event)
    (taken : system.step event = some after) : after.Invariant := by
  obtain ⟨session, bookingStep⟩ := event
  have holds := invariant.sessions session
  unfold BookingSystem.step at taken
  simp only at taken
  split at taken
  case h_1 data opened =>
    cases taken
    exact invariant.guardWith fun _ _ => trivial
  case h_2 data roomId opened =>
    split_ifs at taken with ready
    cases taken
    exact invariant.lock ready.2 trivial
  case h_3 data roomId opened =>
    split_ifs at taken with locked
    split at taken
    · cases taken
      exact invariant.rollback
    · next choices read =>
      split_ifs at taken with choice
      cases taken
      refine invariant.advance fun chosen isChosen => ?_
      rw [isChosen] at choice
      obtain ⟨target, free⟩ := ReservationCreate.mem_roomChoices read choice
      exact ⟨locked chosen target, free⟩
  case h_4 data roomId id opened =>
    rw [opened] at holds
    exact invariant.insertReservation holds taken
  case h_5 call reservationId opened =>
    obtain ⟨loaded, found, rfl⟩ := Option.map_eq_some_iff.mp taken
    exact invariant.beginUpdate found
  case h_6 call loaded seen opened =>
    rw [opened] at holds
    split_ifs at taken
    exact invariant.lockReservationVersion holds taken
  case h_7 call loaded seen stage opened =>
    rw [opened] at holds
    split_ifs at taken with ready
    cases taken
    exact invariant.checkDates holds ready
  case h_8 call loaded seen opened =>
    rw [opened] at holds
    obtain ⟨roomId, submitted, taken⟩ := Option.bind_eq_some_iff.mp taken
    split_ifs at taken with missing available
    · cases taken
      exact invariant.rollback
    · cases taken
      exact invariant.lockNewRoom holds submitted available
  case h_9 call loaded seen opened =>
    rw [opened] at holds
    obtain ⟨roomId, submitted, rfl⟩ := Option.map_eq_some_iff.mp taken
    exact invariant.checkNewRoom holds submitted
  case h_10 call loaded seen stage opened =>
    rw [opened] at holds
    split_ifs at taken with ready
    have commitGuarded := guarded rfl
    simp only [opened] at commitGuarded
    exact invariant.commitUpdate commitGuarded holds ready taken
  case h_11 =>
    cases taken
    exact invariant.rollback
  case h_12 => cases taken

end

/-- Every session is idle. -/
def Quiet (system : BookingSystem τ) : Prop :=
  ∀ session, system.sessions session = .idle

/-- In every interleaving whose commits are guarded, nothing is double
booked in any state reached. -/
theorem guarded_interleavings_no_double_booking {start finish : BookingSystem τ}
    (quiet : start.Quiet) (safe : start.hotel.NoDoubleBooking)
    (reached : Reaches BookingSystem.step StepGuarded start finish) :
    finish.hotel.NoDoubleBooking := by
  have initial : start.Invariant :=
    { noDoubleBooking := safe
      sessions := by
        intro session
        rw [quiet session]
        trivial }
  exact (reached.invariant initial fun invariant guarded taken =>
    invariant.step guarded taken).noDoubleBooking

/-- One room and one stay of two nights in it. -/
def raceStart : BookingSystem (Fin 2) where
  hotel :=
    { reservations :=
        [{ id := 10, roomId := some 1, categoryId := 1, checkInDate := 10,
           checkOutDate := 12, datesOrdered := by decide, version := 3 }]
      distinctReservations := by decide
      rooms := [{ id := 1, categoryId := 1 }]
      distinctRooms := by decide
      categories := [{ id := 1, maxOccupancy := 2 }] }
  sessions := fun _ => .idle

/-- A new stay of the room from the day the stored one ends. -/
def nextStay : ReservationCreate where
  categoryId := 1
  roomId := some 1
  checkInDate := 12
  checkOutDate := 14

/-- The stored stay is prolonged by two nights; the room may be submitted. -/
def prolong (roomId : Option (Option Int)) : UpdateCall where
  data := { roomId := roomId, checkOutDate := some (some 14) }
  clientVersion := some 3

/-- The date check of the edit comes before the creation, its commit after
it. -/
def raceEvents : List (Fin 2 × BookingStep) :=
  [(0, .beginUpdate (prolong none) 10), (0, .lockReservationVersion),
    (0, .checkDates), (1, .beginCreate nextStay), (1, .lockRoom 1),
    (1, .chooseRoom (some 1)), (1, .insertReservation 11), (0, .commitUpdate)]

theorem raceStart_noDoubleBooking : raceStart.hotel.NoDoubleBooking := by
  rintro first ⟨firstIn, -⟩ second ⟨secondIn, -⟩ different
  rw [List.mem_singleton.mp firstIn, List.mem_singleton.mp secondIn] at different
  exact absurd rfl different

theorem dateChange_races_creation : raceStart.Quiet ∧ raceStart.hotel.NoDoubleBooking ∧
      ∃ finish, run BookingSystem.step raceStart raceEvents = some finish ∧
        ¬finish.hotel.NoDoubleBooking := by
  refine ⟨fun _ => rfl, raceStart_noDoubleBooking, _, rfl, ?_⟩
  intro safe
  refine safe _ ⟨List.mem_cons_self, ?_⟩ _
    ⟨List.mem_cons_of_mem _ List.mem_cons_self, ?_⟩ ?_ 1 ?_ ?_ ?_
  all_goals decide

/-- The same edit with its room submitted locks the room until it commits. -/
def lockedEvents : List (Fin 2 × BookingStep) :=
  [(0, .beginUpdate (prolong (some (some 1))) 10),
    (0, .lockReservationVersion), (0, .checkDates), (0, .lockNewRoom),
    (1, .beginCreate nextStay), (0, .checkNewRoom), (0, .commitUpdate),
    (1, .lockRoom 1), (1, .chooseRoom (some 1))]

theorem guarded_interleavings_no_double_booking_sample :
    ∃ finish, run BookingSystem.step raceStart lockedEvents = some finish ∧
      finish.hotel.NoDoubleBooking := by
  refine ⟨_, rfl, ?_⟩
  refine guarded_interleavings_no_double_booking (fun _ => rfl)
    raceStart_noDoubleBooking (reaches_of_run ?_ (rfl :
      run BookingSystem.step raceStart lockedEvents = some _))
  have unguarded {system : BookingSystem (Fin 2)}
      {event : Fin 2 × BookingStep} (other : event.2 ≠ .commitUpdate) :
      system.StepGuarded event := (absurd · other)
  have submits : (prolong (some (some 1))).data.submittedRoom? ≠ none := by
    decide
  have versioned : (prolong (some (some 1))).clientVersion ≠ none := by
    decide
  exact And.intro (unguarded (by decide)) <| And.intro (unguarded (by decide)) <|
    And.intro (unguarded (by decide)) <|
    And.intro (unguarded (by decide)) <|
    And.intro (unguarded (by decide)) <|
    And.intro (unguarded (by decide)) <|
    And.intro (fun _ => And.intro (.inl versioned) (.inl submits)) <|
    And.intro (unguarded (by decide)) <|
    And.intro (unguarded (by decide)) trivial

end BookingSystem
end HotelPms.Booking
