import HotelPms.Blocks.TransactionFacts

/-!
# Interleaved transactions keep stays and blocks apart

Each statement of a transaction adds what it has read to the facts of its
session, and each commit follows from them.  In every interleaving, stays and
blocks of a room therefore stay apart, as long as no indefinite block joins a
block of the last day of the calendar.
-/

namespace HotelPms.Blocks

open Hotel HalfOpen Checked Transition Stays
open Booking (ReservationCreate VersionCurrent roomFree_of_isEmpty)

namespace HotelSystem

variable {τ : Type} [DecidableEq τ] {system after : HotelSystem τ} {session : τ}

/-- Nothing collides, and every open transaction can rely on what it
knows. -/
structure Invariant (system : HotelSystem τ) : Prop where
  collisionFree : CollisionFree system.blocked
  sessions : ∀ session, Knows system.blocked system.locks session (system.sessions session).facts

section

variable (invariant : system.Invariant)
include invariant

theorem Invariant.advance {next : Session}
    (knows : Knows system.blocked system.locks session next.facts) :
    (system.advance session next).Invariant where
  collisionFree := invariant.collisionFree
  sessions := by
    intro other
    by_cases same : other = session
    · subst same
      simpa [HotelSystem.advance] using knows
    · simpa [HotelSystem.advance, same] using invariant.sessions other

variable {row : HotelRow} {ε : Type} {roomId : Int}

omit [DecidableEq τ] in
theorem Invariant.lockRow (available : system.locks.Available row session) :
    (system.lockRow session row).Invariant where
  collisionFree := invariant.collisionFree
  sessions := fun other => (invariant.sessions other).acquire available

variable {blocked : BlockedHotel}

theorem Invariant.commit (commits : Commits system.locks system.blocked blocked session) :
    (system.commit session blocked).Invariant where
  collisionFree := commits.collisionFree
  sessions := by
    intro other
    by_cases same : other = session
    · subst same
      simpa [HotelSystem.commit, Session.facts] using knows_nil
    · have kept : Knows blocked (system.locks.release session) other
          (system.sessions other).facts :=
        (invariant.sessions other).transfer (fun _ held => LockTable.release_eq_some held same)
          (commits.respects other same)
      simpa [HotelSystem.commit, same] using kept

theorem Invariant.rollback : (system.rollback session).Invariant :=
  invariant.commit ⟨invariant.collisionFree, fun _ _ => .refl⟩

/-- A check that passes adds what it has read. -/
theorem Invariant.check {checks : Except ε Unit} {next : Session}
    (knows : checks = .ok () -> Knows system.blocked system.locks session next.facts) :
    (system.check session checks next).Invariant := by
  cases passed : checks with
  | error error => exact invariant.rollback
  | ok done => exact invariant.advance (knows passed)

theorem Invariant.waitLock {read : Except ε Session}
    (knows : ∀ next, system.locks.Available row session -> read = .ok next ->
      Knows system.blocked (system.locks.acquire row session) session next.facts)
    (taken : system.waitLock session row read = some after) :
    after.Invariant := by
  unfold HotelSystem.waitLock at taken
  split_ifs at taken with available
  cases taken
  cases found : read with
  | error error => exact invariant.rollback
  | ok next =>
    exact (invariant.lockRow available).advance (knows next available found)

theorem Invariant.lockNoWait {read : Except ε Session}
    (knows : ∀ next, system.locks.Available row session -> read = .ok next ->
      Knows system.blocked (system.locks.acquire row session) session next.facts)
    (taken : system.lockNoWait session row read = some after) :
    after.Invariant := by
  unfold HotelSystem.lockNoWait at taken
  split_ifs at taken
  · exact invariant.waitLock knows taken
  · cases taken
    exact invariant.rollback

theorem Invariant.write {written : Except ε BlockedHotel}
    (commits : ∀ blocked, written = .ok blocked ->
      Commits system.locks system.blocked blocked session) :
    (system.write session written).Invariant := by
  cases outcome : written with
  | error error => exact invariant.rollback
  | ok blocked => exact invariant.commit (commits blocked outcome)

omit invariant in
theorem roomFree_of_checkReservations {data : RoomBlockCreate} (valid : data.validateRange = .ok ())
    (passed : blocked.checkReservations data = .ok ()) :
    blocked.tables.RoomFree data.roomId data.queryWindow none := by
  have noConflict := raiseForConflicts_eq_ok passed
  rw [conflictEnd_of_validateRange valid] at noConflict
  intro other member active _ assigned
  exact overlappingReservationsForBlock_eq_nil noConflict other member active assigned

omit invariant in
theorem roomUnblocked_of_roomHasActiveBlock {start finish : Int}
    (unblocked : Booking.roomHasActiveBlock blocked.hotel roomId (start, finish) = false) :
    RoomUnblocked blocked roomId (openEnded start (some finish)) none :=
  fun row member inRoom _ inForce =>
    BlockedHotel.roomHasActiveBlock_eq_false.mp unblocked row member inRoom inForce

theorem Invariant.nextCreateBlock {data : RoomBlockCreate} {stage : CreateBlockStage}
    (knows : Knows system.blocked system.locks session (stage.facts data))
    (seesEvery : stage = .blocksRead -> Blocks.SeesEveryBlock system.blocked data)
    (taken : system.nextCreateBlock session data stage = some after) :
    after.Invariant := by
  cases stage with
  | prechecked =>
    refine invariant.waitLock ?_ taken
    intro next available read
    obtain ⟨-, -, read⟩ := bind_eq_ok.mp read
    cases read
    exact (knows.acquire available).cons LockTable.acquire_self
  | roomLocked =>
    cases taken
    refine invariant.check fun passed => ?_
    have held := knows _ (.head _)
    obtain ⟨valid, -⟩ := knows _ (.tail _ (.head _))
    exact knows.cons ⟨held, roomFree_of_checkReservations valid passed⟩
  | staysRead =>
    cases taken
    refine invariant.check fun passed => ?_
    have held := (knows _ (.head _)).1
    unfold BlockedHotel.checkNoActiveBlock at passed
    rw [raiseIf_eq_ok, Bool.not_eq_true] at passed
    exact knows.cons ⟨held, roomUnblocked_of_roomHasActiveBlock passed⟩
  | blocksRead =>
    cases taken
    exact invariant.write fun blocked written =>
      commits_writeBlock invariant.collisionFree knows (seesEvery rfl) written

theorem Invariant.nextExtendBlock {blockId endsAt : Int} {stage : ExtendBlockStage}
    (knows : Knows system.blocked system.locks session (stage.facts endsAt roomId))
    (taken : system.nextExtendBlock session blockId endsAt roomId stage =
      some after) : after.Invariant := by
  cases stage with
  | located =>
    refine invariant.waitLock ?_ taken
    intro next available read
    obtain ⟨-, -, read⟩ := bind_eq_ok.mp read
    cases read
    exact (knows.acquire available).cons LockTable.acquire_self
  | roomLocked =>
    refine invariant.waitLock ?_ taken
    intro next available read
    obtain ⟨found, locked, read⟩ := bind_eq_ok.mp read
    cases read
    unfold HotelSystem.lockedBlock at locked
    split at locked
    · cases locked
    · next row stored =>
      obtain ⟨_, sameRoom, locked⟩ := bind_eq_ok.mp locked
      obtain ⟨previousEndsAt, previous, locked⟩ := bind_eq_ok.mp locked
      cases locked
      rw [raiseIf_eq_ok, not_not] at sameRoom
      obtain rfl := (BlockedHotel.blockRow?_eq_some stored).2
      refine Knows.cons (Knows.cons (knows.acquire available) ?_) ?_
      · exact ⟨LockTable.acquire_self, stored⟩
      · exact ⟨sameRoom, previousEnd_eq_ok previous⟩
  | blockLocked row previousEndsAt =>
    cases taken
    refine invariant.check fun passed => ?_
    obtain ⟨sameRoom, -⟩ := knows _ (.head _)
    have held := knows _ (.tail _ (.tail _ (.head _)))
    rw [raiseIf_eq_ok, not_not] at passed
    refine knows.cons ⟨held, ?_⟩
    intro other member inRoom otherId
    exact otherBlocks_eq_nil passed other member (inRoom.trans sameRoom.symm)
      fun same => otherId (congrArg some same.symm)
  | blocksRead row previousEndsAt =>
    cases taken
    refine invariant.check fun passed => ?_
    have held := (knows _ (.head _)).1
    obtain ⟨sameRoom, -⟩ := knows _ (.tail _ (.head _))
    rw [raiseIf_eq_ok, not_not] at passed
    refine knows.cons ⟨held, ?_⟩
    intro other member active _ assigned
    exact overlappingReservationsForBlock_eq_nil passed other member active
      (assigned.trans (congrArg some sameRoom.symm))
  | staysRead row previousEndsAt =>
    cases taken
    exact invariant.write fun blocked written =>
      commits_writeEnd invariant.collisionFree knows written

omit invariant in
/-- What the first part of an availability read has found. -/
theorem checkUnblocked_eq_ok {room : Room} {window : Int × Int}
    (passed : checkUnblocked blocked.hotel room window = .ok ()) :
    RoomUnblocked blocked room.id (openEnded window.1 (some window.2))
      none := by
  obtain ⟨-, -, passed⟩ := bind_eq_ok.mp passed
  rw [raiseIf_eq_ok, not_or, Bool.not_eq_true] at passed
  exact roomUnblocked_of_roomHasActiveBlock passed.2

omit invariant in
/-- And the second. -/
theorem checkUnoccupied_eq_ok {window : Int × Int} {excluded : Option Int}
    (passed : checkUnoccupied blocked.hotel roomId window excluded =
      .ok ()) : blocked.tables.RoomFree roomId window excluded := by
  unfold checkUnoccupied at passed
  rw [raiseIf_eq_ok, Bool.not_eq_false] at passed
  exact roomFree_of_isEmpty passed

theorem Invariant.nextBooking {data : ReservationCreate} {id : Int} {stage : BookingStage}
    (knows : Knows system.blocked system.locks session (stage.facts data roomId))
    (taken : system.nextBooking session data roomId id stage = some after) :
    after.Invariant := by
  cases stage with
  | validated =>
    refine invariant.waitLock ?_ taken
    intro next available read
    split at read
    · cases read
    · next room found =>
      obtain ⟨-, -, read⟩ := bind_eq_ok.mp read
      cases read
      have sameId : room.id = roomId := by
        simpa using List.find?_some found
      refine Knows.cons (Knows.cons (knows.acquire available) ?_) sameId
      exact LockTable.acquire_self
  | roomLocked room =>
    cases taken
    refine invariant.check fun passed => ?_
    obtain rfl := knows _ (.head _)
    have held := knows _ (.tail _ (.head _))
    exact knows.tail.cons ⟨held, checkUnblocked_eq_ok passed⟩
  | blocksRead =>
    cases taken
    refine invariant.check fun passed => ?_
    exact knows.cons ⟨(knows _ (.head _)).1, checkUnoccupied_eq_ok passed⟩
  | staysRead =>
    cases taken
    refine invariant.write fun blocked written => ?_
    unfold writeBooking at written
    split_ifs at written
    cases written
    exact commits_addReservation invariant.collisionFree knows

variable {loaded : Reservation}

omit invariant in
theorem stored_of_lockReservationVersion {clientVersion : Option Int}
    (current : VersionCurrent blocked.tables loaded)
    (locked : lockReservationVersion blocked.hotel loaded clientVersion = .ok ()) :
    blocked.tables.reservation? loaded.id = some loaded ∧ loaded.deletedAt = none := by
  obtain ⟨stored, found, present, sameVersion, -⟩ := lockReservationVersion_eq_ok locked
  obtain ⟨row, foundRow, -, unchanged⟩ := current
  have sameRow : some stored = some row := found.symm.trans foundRow
  cases sameRow
  obtain rfl := unchanged sameVersion.symm
  exact ⟨foundRow, present⟩

theorem Invariant.writeMove {call : RoomMoveCall} {surroundings : Surroundings}
    {room : Room} {current destination : RoomCategory}
    (knows : Knows system.blocked system.locks session (MoveStage.destinationRead loaded room)) :
    (system.write session (system.writeMove call surroundings loaded room
      current destination)).Invariant := by
  refine invariant.write fun blocked written => ?_
  have locked := knows _ (.tail _ (.tail _ (.tail _ (.head _))))
  unfold HotelSystem.writeMove at written
  rw [locked.2] at written
  obtain ⟨override, -, written⟩ := bind_eq_ok.mp written
  obtain ⟨-, -, written⟩ := bind_eq_ok.mp written
  obtain ⟨-, -, written⟩ := bind_eq_ok.mp written
  obtain ⟨tables, synced, written⟩ := bind_eq_ok.mp written
  cases written
  exact (commits_movedReservation invariant.collisionFree knows).congr
    (syncRoomStatusesAfterMove_eq_ok synced).1

theorem Invariant.nextMove {call : RoomMoveCall} {surroundings : Surroundings} {stage : MoveStage}
    (knows : Knows system.blocked system.locks session (stage.facts loaded))
    (taken : system.nextMove session call surroundings loaded stage =
      some after) : after.Invariant := by
  cases stage with
  | loaded =>
    refine invariant.waitLock ?_ taken
    intro next available read
    obtain ⟨_, version, read⟩ := bind_eq_ok.mp read
    obtain ⟨-, -, read⟩ := bind_eq_ok.mp read
    cases read
    have stored := stored_of_lockReservationVersion (knows _ (.head _)) version
    exact knows_nil.cons ⟨LockTable.acquire_self, stored.1⟩
  | versionLocked =>
    refine invariant.lockNoWait ?_ taken
    intro next available read
    split at read
    · cases read
    · next room found =>
      cases read
      have sameId : room.id = call.toRoomId := by
        simpa using List.find?_some found
      refine Knows.cons (knows.acquire available) ?_
      rw [← sameId]
      exact LockTable.acquire_self
  | roomLocked room =>
    simp only [HotelSystem.nextMove] at taken
    split at taken
    · cases taken
      exact invariant.rollback
    · cases taken
      exact invariant.advance knows
  | permitted room current destination =>
    cases taken
    refine invariant.check fun passed => ?_
    exact knows.cons ⟨knows _ (.head _), checkUnblocked_eq_ok passed⟩
  | blocksRead room current destination =>
    cases taken
    refine invariant.check fun passed => ?_
    exact knows.cons ⟨(knows _ (.head _)).1, checkUnoccupied_eq_ok passed⟩
  | staysRead room current destination =>
    simp only [HotelSystem.nextMove] at taken
    split at taken
    · cases taken
      exact invariant.advance knows
    · split_ifs at taken
      · refine invariant.lockNoWait ?_ taken
        intro next available read
        cases read
        exact knows.acquire available
      · cases taken
        exact invariant.advance knows
  | originLocked room current destination =>
    cases taken
    exact invariant.writeMove knows

omit invariant in
theorem roomFree_of_extensionConflicts {newCheckoutDate : Int}
    (noneFound : Stays.extensionConflicts blocked.hotel loaded newCheckoutDate = [])
    (assigned : loaded.roomId = some roomId) :
    blocked.tables.RoomFree roomId (loaded.checkOutDate, newCheckoutDate) (some loaded.id) := by
  intro other member active notSelf inRoom overlap
  have listed : other ∈ Stays.extensionConflicts blocked.hotel loaded
      newCheckoutDate := by
    refine mem_extensionConflicts.mpr ⟨member, ?_, inRoom.trans assigned.symm, ?_, active, overlap⟩
    · rw [assigned]
      simp
    · intro same
      exact notSelf (congrArg some same.symm)
  rw [noneFound] at listed
  cases listed

theorem Invariant.writeExtendedStay {call : ExtensionCall} {surroundings : ExtensionSurroundings}
    (knows : Knows system.blocked system.locks session (ExtendStage.cleared call loaded)) :
    (system.write session (system.writeExtendedStay call surroundings loaded)).Invariant := by
  refine invariant.write fun blocked written => ?_
  have versioned := knows.ofRoom.2.ofRoom.2.ofRoom.2
  have locked := versioned _ (.head _)
  unfold HotelSystem.writeExtendedStay at written
  rw [locked.2] at written
  obtain ⟨status, -, written⟩ := bind_eq_ok.mp written
  split_ifs at written with later
  cases written
  exact commits_extendedReservation invariant.collisionFree knows

theorem Invariant.nextExtend {call : ExtensionCall} {surroundings : ExtensionSurroundings}
    {stage : ExtendStage}
    (knows : Knows system.blocked system.locks session (stage.facts call loaded))
    (taken : system.nextExtend session call surroundings loaded stage =
      some after) : after.Invariant := by
  cases stage with
  | loaded =>
    simp only [HotelSystem.nextExtend] at taken
    split at taken
    · cases taken
      exact invariant.check fun _ => knows
    · refine invariant.waitLock ?_ taken
      intro next available read
      obtain ⟨-, -, read⟩ := bind_eq_ok.mp read
      cases read
      exact knows.acquire available
  | companyLocked =>
    refine invariant.waitLock ?_ taken
    intro next available read
    obtain ⟨_, version, read⟩ := bind_eq_ok.mp read
    obtain ⟨_, extendable, read⟩ := bind_eq_ok.mp read
    obtain ⟨_, later, read⟩ := bind_eq_ok.mp read
    cases read
    rw [raiseIf_eq_ok, not_le] at later
    obtain ⟨stored, present⟩ := stored_of_lockReservationVersion (knows _ (.head _)) version
    have ends := knows _ (.tail _ (.head _))
    refine Knows.cons (Knows.cons (Knows.cons knows_nil ?_) ?_) ?_
    · exact ⟨later, ends⟩
    · exact active_of_checkExtendable present extendable
    · exact ⟨LockTable.acquire_self, stored⟩
  | versionLocked =>
    simp only [HotelSystem.nextExtend] at taken
    split at taken
    · next noRoom =>
      cases taken
      refine invariant.advance (knows.withRoom fun roomId assigned => ?_)
      rw [noRoom] at assigned
      cases assigned
    · next roomId assigned =>
      refine invariant.waitLock ?_ taken
      intro next available read
      obtain ⟨-, -, read⟩ := bind_eq_ok.mp read
      cases read
      refine (knows.acquire available).withRoom fun held inRoom => ?_
      obtain rfl := Option.some.inj (assigned.symm.trans inRoom)
      exact LockTable.acquire_self
  | roomLocked =>
    cases taken
    refine invariant.check fun passed => ?_
    rw [raiseIf_eq_ok, Bool.not_eq_true] at passed
    refine knows.withRoom fun roomId assigned => ?_
    refine ⟨knows.ofRoom.1 roomId assigned, ?_⟩
    unfold rootRoomBlocked at passed
    rw [assigned] at passed
    exact roomUnblocked_of_roomHasActiveBlock passed
  | rootRead =>
    cases taken
    refine invariant.check fun passed => ?_
    rw [raiseIf_eq_ok, not_or, not_not] at passed
    refine knows.withRoom fun roomId assigned => ?_
    exact ⟨(knows.ofRoom.1 roomId assigned).1, roomFree_of_extensionConflicts passed.1 assigned⟩
  | conflictsRead =>
    cases taken
    exact invariant.check fun _ => knows
  | blocksRead =>
    cases taken
    exact invariant.check fun _ => knows
  | staysRead =>
    cases taken
    exact invariant.writeExtendedStay knows

omit invariant in
theorem versionCurrent_of_found {state : HotelState} {id : Int}
    (found : state.reservation? id = some loaded) :
    VersionCurrent state loaded := by
  obtain ⟨-, rfl⟩ := HotelState.reservation?_eq_some found
  exact ⟨loaded, found, le_refl _, fun _ => rfl⟩

theorem Invariant.begin_ {request : Request}
    (taken : system.begin_ session request = some after) : after.Invariant := by
  cases request with
  | createBlock data inCalendar =>
    cases taken
    refine invariant.check fun passed => ?_
    obtain ⟨_, valid, -⟩ := bind_eq_ok.mp passed
    exact knows_nil.cons ⟨valid, inCalendar⟩
  | extendBlock blockId endsAt =>
    unfold HotelSystem.begin_ at taken
    simp only at taken
    split at taken
    · cases taken
      exact invariant.rollback
    · cases taken
      exact invariant.advance knows_nil
  | createReservation data id inCalendar otherChecks =>
    obtain ⟨roomId, -, rfl⟩ := Option.map_eq_some_iff.mp taken
    exact invariant.check fun _ => knows_nil.cons inCalendar
  | moveReservationRoom reservationId call surroundings =>
    obtain ⟨loaded, found, rfl⟩ := Option.map_eq_some_iff.mp taken
    exact invariant.check fun _ => knows_nil.cons (versionCurrent_of_found found)
  | extendReservationStay reservationId call inCalendar surroundings =>
    obtain ⟨loaded, found, rfl⟩ := Option.map_eq_some_iff.mp taken
    refine invariant.advance (Knows.cons (Knows.cons knows_nil ?_) ?_)
    · exact inCalendar
    · exact versionCurrent_of_found found

theorem Invariant.step {event : τ × Statement} (seesEvery : system.SeesEveryBlock event)
    (taken : system.step event = some after) : after.Invariant := by
  obtain ⟨session, statement⟩ := event
  have knows := invariant.sessions session
  unfold HotelSystem.step at taken
  simp only at taken
  split at taken
  case h_1 request opened => exact invariant.begin_ taken
  case h_2 data stage opened =>
    rw [opened] at knows
    refine invariant.nextCreateBlock knows ?_ taken
    rintro rfl
    unfold HotelSystem.SeesEveryBlock at seesEvery
    simpa only [opened] using seesEvery
  case h_3 blockId endsAt roomId stage opened =>
    rw [opened] at knows
    exact invariant.nextExtendBlock knows taken
  case h_4 data roomId id stage opened =>
    rw [opened] at knows
    exact invariant.nextBooking knows taken
  case h_5 call surroundings loaded stage opened =>
    rw [opened] at knows
    exact invariant.nextMove knows taken
  case h_6 call surroundings loaded stage opened =>
    rw [opened] at knows
    exact invariant.nextExtend knows taken
  case h_7 =>
    cases taken
    exact invariant.rollback
  case h_8 => cases taken

end

/-- In every interleaving in which no indefinite block is written to a room
with a block of the last day, the committed stays and blocks of a room never
overlap. -/
theorem interleavings_collisionFree {start : CalendarHotel} {finish : HotelSystem τ}
    (noDoubleBooking : start.tables.NoDoubleBooking) (excludes : start.Excludes)
    (reached : Reaches step SeesEveryBlock (initial start.toBlockedHotel) finish) :
    finish.blocked.tables.NoDoubleBooking ∧ Excluding finish.blocked := by
  have beginning : (initial start.toBlockedHotel : HotelSystem τ).Invariant :=
    { collisionFree := ⟨noDoubleBooking, excludes, start.inCalendar⟩
      sessions := fun _ => knows_nil }
  have final := reached.invariant beginning fun invariant seesEvery taken =>
    invariant.step seesEvery taken
  exact ⟨final.collisionFree.noDoubleBooking, final.collisionFree.excluding⟩

theorem emptyHotel_noDoubleBooking : emptyHotel.tables.NoDoubleBooking :=
  fun first member => by cases member.1

theorem threeNights_inCalendar : threeNights.checkOutDate ≤ dateMax := by
  decide

/-- A block of the first room from the second of the three nights on. -/
def secondNight : RoomBlockCreate where
  roomId := 1
  startsAt := 739686
  endsAt := some 739687

theorem secondNight_inCalendar : secondNight.startsAt ≤ dateMax := by
  decide

def secondRoom : RoomBlockCreate where
  roomId := 2
  startsAt := 739686
  isIndefinite := true

theorem secondRoom_inCalendar : secondRoom.startsAt ≤ dateMax := by
  decide

/-- A booking and a block of the same room are both begun before either holds
the room; the booking gets its lock first, and another room is blocked
meanwhile. -/
def raceForRoom : List (Fin 3 × Statement) :=
  [(0, .begin_ (.createReservation threeNights 1 threeNights_inCalendar (.ok ()))),
    (1, .begin_ (.createBlock secondNight secondNight_inCalendar)),
    (2, .begin_ (.createBlock secondRoom secondRoom_inCalendar)),
    (0, .next), (2, .next), (0, .next), (2, .next), (0, .next), (2, .next),
    (0, .next), (1, .next), (2, .next), (1, .next)]

/-- The block that lost the race is refused. -/
theorem interleavings_collisionFree_raceForRoom : ∃ finish : HotelSystem (Fin 3),
      run step (initial emptyHotel.toBlockedHotel) raceForRoom = some finish ∧
        occupation finish.blocked = ([(2, 739686, none)], [(some 1, 739685, 739688)]) ∧
        finish.blocked.tables.NoDoubleBooking ∧ Excluding finish.blocked := by
  have outcome : (run step (initial emptyHotel.toBlockedHotel : HotelSystem (Fin 3))
      raceForRoom).map (occupation ·.blocked) =
      some ([(2, 739686, none)], [(some 1, 739685, 739688)]) := by
    decide +kernel
  obtain ⟨finish, ran, occupied⟩ := Option.map_eq_some_iff.mp outcome
  have guarded : Guarded step SeesEveryBlock
      (initial emptyHotel.toBlockedHotel : HotelSystem (Fin 3))
      raceForRoom := by
    decide +kernel
  exact ⟨finish, ran, occupied, interleavings_collisionFree emptyHotel_noDoubleBooking
      emptyHotel_excludes (reaches_of_run guarded ran)⟩

/-- One session blocks the room from 31 December 9999 on, another from
10 March 2026 on; both commit. -/
theorem not_excluding_lastDayTransactions :
    emptyHotel.tables.NoDoubleBooking ∧ emptyHotel.Excludes ∧ ∃ finish : HotelSystem (Fin 2),
        run step (initial emptyHotel.toBlockedHotel) [(0, .begin_ (.createBlock
              { roomId := 1, startsAt := dateMax, isIndefinite := true }
              (by decide))),
            (1, .begin_ (.createBlock
              { roomId := 1, startsAt := 739685, isIndefinite := true }
              (by decide))),
            (0, .next), (0, .next), (0, .next), (0, .next),
            (1, .next), (1, .next), (1, .next), (1, .next)] =
          some finish ∧ ¬Excluding finish.blocked := by
  refine ⟨emptyHotel_noDoubleBooking, emptyHotel_excludes, _, rfl, ?_⟩
  intro excluding
  refine excluding.blocks
    { roomId := 1, startsAt := dateMax, endsAt := none, id := 1,
      datesOrdered := by simp } ⟨.head _, rfl⟩
    { roomId := 1, startsAt := 739685, endsAt := none, id := 2,
      datesOrdered := by simp } ⟨.tail _ (.head _), rfl⟩ ?_ 1 rfl rfl ?_
  · intro same
    exact absurd (congrArg RoomBlockRow.id same) (by decide)
  · exact overlap_openEnded.mpr ⟨by simp, by simp⟩

end HotelSystem
end HotelPms.Blocks
