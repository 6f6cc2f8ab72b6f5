import HotelPms.Booking.ConcurrencySafety
import HotelPms.Blocks.Transactions

/-!
# What an open transaction relies on

Every transaction holds the lock of the room it writes to from before its
reads until its commit.  What it has read of that room therefore stays true:
another session writes to rooms, reservations and blocks of its own only.
Each stage of each transaction has its list of facts; one lemma carries a fact
over the commit of another session, and the facts before a commit show that it
collides with nothing.
-/

namespace HotelPms.Blocks

open Hotel HalfOpen Checked Transition Stays
open Booking (ReservationCreate VersionCurrent roomFree_addReservation
  roomFree_replaceReservation roomFree_of_isEmpty overlappingReservations)

/-- No unresolved block of the room, but for one, overlaps a window. -/
def RoomUnblocked (blocked : BlockedHotel) (roomId : Int)
    (window : WithTop Int × WithTop Int) (self : Option Int) : Prop :=
  ∀ row ∈ blocked.blockRows, row.roomId = roomId -> self ≠ some row.id ->
    row.Unresolved -> ¬Overlap row.window window

/-- Something an open transaction knows. -/
inductive Fact
  /-- A checked property of the request. -/
  | given (checked : Prop)
  /-- A reservation was loaded without a lock. -/
  | loaded (reservation : Reservation)
  /-- A reservation row is locked, as it was loaded. -/
  | reservationLocked (reservation : Reservation)
  | blockLocked (row : RoomBlockRow)
  | roomLocked (roomId : Int)
  | roomFree (roomId : Int) (window : Int × Int) (self : Option Int)
  | roomUnblocked (roomId : Int) (window : WithTop Int × WithTop Int)
      (self : Option Int)

/-- The fact is true, under the lock that keeps it so. -/
def Fact.Holds {τ : Type} (blocked : BlockedHotel)
    (locks : LockTable HotelRow τ) (session : τ) : Fact -> Prop
  | .given checked => checked
  | .loaded reservation => VersionCurrent blocked.tables reservation
  | .reservationLocked reservation =>
    locks.holder (.reservation reservation.id) = some session ∧
      blocked.tables.reservation? reservation.id = some reservation
  | .blockLocked row =>
    locks.holder (.block row.id) = some session ∧ blocked.blockRow? row.id = some row
  | .roomLocked roomId => locks.holder (.room roomId) = some session
  | .roomFree roomId window self =>
    locks.holder (.room roomId) = some session ∧ blocked.tables.RoomFree roomId window self
  | .roomUnblocked roomId window self =>
    locks.holder (.room roomId) = some session ∧ RoomUnblocked blocked roomId window self

structure RespectsLocks {τ : Type} (locks : LockTable HotelRow τ)
    (before after : BlockedHotel) (session : τ) : Prop where
  versions : ∀ reservation, VersionCurrent before.tables reservation ->
    VersionCurrent after.tables reservation
  reservations : ∀ id row, locks.holder (.reservation id) = some session ->
    before.tables.reservation? id = some row -> after.tables.reservation? id = some row
  blocks : ∀ id row, locks.holder (.block id) = some session ->
    before.blockRow? id = some row -> after.blockRow? id = some row
  freeRooms : ∀ roomId window self, locks.holder (.room roomId) = some session ->
    before.tables.RoomFree roomId window self -> after.tables.RoomFree roomId window self
  unblockedRooms : ∀ roomId window self, locks.holder (.room roomId) = some session ->
    RoomUnblocked before roomId window self -> RoomUnblocked after roomId window self

theorem RespectsLocks.refl {τ : Type} {locks : LockTable HotelRow τ}
    {blocked : BlockedHotel} {session : τ} :
    RespectsLocks locks blocked blocked session where
  versions := fun _ current => current
  reservations := fun _ _ _ found => found
  blocks := fun _ _ _ found => found
  freeRooms := fun _ _ _ _ free => free
  unblockedRooms := fun _ _ _ _ unblocked => unblocked

theorem Fact.Holds.transfer {τ : Type} {before after : BlockedHotel}
    {locks later : LockTable HotelRow τ} {session : τ} {fact : Fact}
    (holds : fact.Holds before locks session)
    (kept : ∀ row, locks.holder row = some session -> later.holder row = some session)
    (respects : RespectsLocks locks before after session) :
    fact.Holds after later session := by
  cases fact with
  | given checked => exact holds
  | loaded reservation => exact respects.versions _ holds
  | reservationLocked reservation =>
    exact ⟨kept _ holds.1, respects.reservations _ _ holds.1 holds.2⟩
  | blockLocked row =>
    exact ⟨kept _ holds.1, respects.blocks _ _ holds.1 holds.2⟩
  | roomLocked roomId => exact kept _ holds
  | roomFree roomId window self =>
    exact ⟨kept _ holds.1, respects.freeRooms _ _ _ holds.1 holds.2⟩
  | roomUnblocked roomId window self =>
    exact ⟨kept _ holds.1, respects.unblockedRooms _ _ _ holds.1 holds.2⟩

def blockRequest (data : RoomBlockCreate) : Fact :=
  .given (data.validateRange = .ok () ∧ data.startsAt ≤ dateMax)

/-- A new block lies in the calendar, and its room is locked; then its stays
and its blocks have been read. -/
def CreateBlockStage.facts (data : RoomBlockCreate) : CreateBlockStage -> List Fact
  | .prechecked => [blockRequest data]
  | .roomLocked => [.roomLocked data.roomId, blockRequest data]
  | .staysRead =>
    [.roomFree data.roomId data.queryWindow none, .roomLocked data.roomId, blockRequest data]
  | .blocksRead =>
    [.roomUnblocked data.roomId (openEnded data.startsAt (some (data.endsAt.getD dateMax))) none,
      .roomFree data.roomId data.queryWindow none, .roomLocked data.roomId,
      blockRequest data]

/-- The block under its lock can be extended. -/
def Extensible (row : RoomBlockRow) (roomId previousEndsAt endsAt : Int) : Prop :=
  row.roomId = roomId ∧ row.endsAt = some previousEndsAt ∧ row.Unresolved ∧ previousEndsAt < endsAt

/-- Room and block are locked; then the blocks and the stays of the added
window have been read. -/
def ExtendBlockStage.facts (endsAt roomId : Int) : ExtendBlockStage -> List Fact
  | .located => []
  | .roomLocked => [.roomLocked roomId]
  | .blockLocked row previousEndsAt =>
    [.given (Extensible row roomId previousEndsAt endsAt), .blockLocked row, .roomLocked roomId]
  | .blocksRead row previousEndsAt =>
    [.roomUnblocked roomId (openEnded previousEndsAt (some endsAt)) (some row.id),
      .given (Extensible row roomId previousEndsAt endsAt),
      .blockLocked row, .roomLocked roomId]
  | .staysRead row previousEndsAt =>
    [.roomFree roomId (previousEndsAt, endsAt) none,
      .roomUnblocked roomId (openEnded previousEndsAt (some endsAt)) (some row.id),
      .given (Extensible row roomId previousEndsAt endsAt),
      .blockLocked row, .roomLocked roomId]

/-- The room is locked; then its blocks and its stays have been read. -/
def BookingStage.facts (data : ReservationCreate) (roomId : Int) : BookingStage -> List Fact
  | .validated => [.given (data.checkOutDate ≤ dateMax)]
  | .roomLocked room =>
    [.given (room.id = roomId), .roomLocked roomId, .given (data.checkOutDate ≤ dateMax)]
  | .blocksRead =>
    [.roomUnblocked roomId (openEnded data.checkInDate (some data.checkOutDate)) none,
      .roomLocked roomId, .given (data.checkOutDate ≤ dateMax)]
  | .staysRead =>
    [.roomFree roomId data.stay none,
      .roomUnblocked roomId (openEnded data.checkInDate (some data.checkOutDate)) none,
      .roomLocked roomId, .given (data.checkOutDate ≤ dateMax)]

variable (call : ExtensionCall) (loaded : Reservation)

def MoveStage.destinationRead (room : Room) : List Fact :=
  [.roomFree room.id loaded.stay (some loaded.id), .roomUnblocked room.id (stayWindow loaded) none,
    .roomLocked room.id, .reservationLocked loaded]

/-- The reservation and its destination are locked; then the destination has
been read. -/
def MoveStage.facts : MoveStage -> List Fact
  | .loaded => [.loaded loaded]
  | .versionLocked => [.reservationLocked loaded]
  | .roomLocked room => [.roomLocked room.id, .reservationLocked loaded]
  | .permitted room _ _ => [.roomLocked room.id, .reservationLocked loaded]
  | .blocksRead room _ _ =>
    [.roomUnblocked room.id (stayWindow loaded) none,
      .roomLocked room.id, .reservationLocked loaded]
  | .staysRead room _ _ => MoveStage.destinationRead loaded room
  | .originLocked room _ _ => MoveStage.destinationRead loaded room

/-- A fact about the room of a reservation, if it has one. -/
def ofRoom (fact : Int -> Fact) : List Fact :=
  loaded.roomId.toList.map fact

/-- Facts of an extension once the version of the stay is locked. -/
def ExtendStage.versioned : List Fact :=
  [.reservationLocked loaded, .given loaded.Active,
    .given (loaded.checkOutDate < call.newCheckoutDate ∧ call.newCheckoutDate ≤ dateMax)]

/-- The room of the stay, which is locked. -/
def ExtendStage.roomHeld : List Fact :=
  ofRoom loaded .roomLocked ++ ExtendStage.versioned call loaded

/-- It has no block in the added nights. -/
def ExtendStage.unblocked : List Fact :=
  ofRoom loaded (fun roomId => .roomUnblocked roomId
      (openEnded loaded.checkOutDate (some call.newCheckoutDate)) none) ++
    ExtendStage.roomHeld call loaded

/-- Nor has it another stay. -/
def ExtendStage.cleared : List Fact :=
  ofRoom loaded (fun roomId => .roomFree roomId
      (loaded.checkOutDate, call.newCheckoutDate) (some loaded.id)) ++
    ExtendStage.unblocked call loaded

/-- The stay and its room are locked; then the blocks and the stays of the
added nights have been read. -/
def ExtendStage.facts : ExtendStage -> List Fact
  | .loaded => [.loaded loaded, .given (call.newCheckoutDate ≤ dateMax)]
  | .companyLocked =>
    [.loaded loaded, .given (call.newCheckoutDate ≤ dateMax)]
  | .versionLocked => ExtendStage.versioned call loaded
  | .roomLocked => ExtendStage.roomHeld call loaded
  | .rootRead => ExtendStage.unblocked call loaded
  | .conflictsRead => ExtendStage.cleared call loaded
  | .blocksRead => ExtendStage.cleared call loaded
  | .staysRead => ExtendStage.cleared call loaded

def Session.facts : Session -> List Fact
  | .idle => []
  | .creatingBlock data stage => stage.facts data
  | .extendingBlock _ endsAt roomId stage => stage.facts endsAt roomId
  | .booking data roomId _ stage => stage.facts data roomId
  | .moving _ _ loaded stage => stage.facts loaded
  | .extending call _ loaded stage => stage.facts call loaded

section Knows

variable {τ : Type} {blocked : BlockedHotel} {locks : LockTable HotelRow τ} {session : τ}

/-- A session can rely on every fact of a list. -/
def Knows (blocked : BlockedHotel) (locks : LockTable HotelRow τ)
    (session : τ) (facts : List Fact) : Prop :=
  ∀ fact ∈ facts, fact.Holds blocked locks session

theorem knows_nil : Knows blocked locks session [] := by
  intro fact member
  cases member

variable {facts : List Fact}

theorem Knows.cons {fact : Fact} (knows : Knows blocked locks session facts)
    (holds : fact.Holds blocked locks session) :
    Knows blocked locks session (fact :: facts) :=
  List.forall_mem_cons.mpr ⟨holds, knows⟩

theorem Knows.tail {fact : Fact} (knows : Knows blocked locks session (fact :: facts)) :
    Knows blocked locks session facts :=
  (List.forall_mem_cons.mp knows).2

theorem Knows.withRoom {loaded : Reservation} {fact : Int -> Fact}
    (knows : Knows blocked locks session facts)
    (holds : ∀ roomId, loaded.roomId = some roomId -> (fact roomId).Holds blocked locks session) :
    Knows blocked locks session (ofRoom loaded fact ++ facts) := by
  intro other member
  rcases List.mem_append.mp member with new | old
  · obtain ⟨roomId, assigned, rfl⟩ := List.mem_map.mp new
    exact holds roomId (Option.mem_toList.mp assigned)
  · exact knows other old

theorem Knows.ofRoom {loaded : Reservation} {fact : Int -> Fact}
    (knows : Knows blocked locks session (ofRoom loaded fact ++ facts)) :
    (∀ roomId, loaded.roomId = some roomId -> (fact roomId).Holds blocked locks session) ∧
      Knows blocked locks session facts := by
  constructor
  · intro roomId assigned
    exact knows _ (List.mem_append_left _ (List.mem_map_of_mem (Option.mem_toList.mpr assigned)))
  · exact fun other member => knows other (List.mem_append_right _ member)

theorem Knows.transfer {after : BlockedHotel} {later : LockTable HotelRow τ}
    (knows : Knows blocked locks session facts)
    (kept : ∀ row, locks.holder row = some session -> later.holder row = some session)
    (respects : RespectsLocks locks blocked after session) :
    Knows after later session facts :=
  fun fact member => (knows fact member).transfer kept respects

theorem Knows.acquire {row : HotelRow} {owner : τ} (knows : Knows blocked locks session facts)
    (available : locks.Available row owner) :
    Knows blocked (locks.acquire row owner) session facts :=
  knows.transfer (fun _ held => available.acquire_eq_some held) .refl

end Knows

section Writes

variable {τ : Type} {locks : LockTable HotelRow τ} {session other : τ} {blocked : BlockedHotel}

theorem RespectsLocks.congr {before after : BlockedHotel} {tables : HotelState}
    (respects : RespectsLocks locks before after other)
    (same : tables.reservations = after.tables.reservations) :
    RespectsLocks locks before (after.withTables tables) other where
  versions := by
    intro reservation current
    have kept := respects.versions reservation current
    unfold VersionCurrent HotelState.reservation? at kept ⊢
    rwa [BlockedHotel.withTables_tables, same]
  reservations := by
    intro id row held found
    have kept := respects.reservations id row held found
    unfold HotelState.reservation? at kept ⊢
    rwa [BlockedHotel.withTables_tables, same]
  blocks := respects.blocks
  freeRooms := by
    intro roomId window self held free
    have kept := respects.freeRooms roomId window self held free
    unfold HotelState.RoomFree at kept ⊢
    rwa [BlockedHotel.withTables_tables, same]
  unblockedRooms := respects.unblockedRooms

theorem respectsLocks_addReservation {reservation : Reservation}
    {fresh : reservation.id ∉ blocked.tables.reservations.map Reservation.id}
    (roomLocked : ∀ roomId, reservation.roomId = some roomId ->
      locks.holder (.room roomId) = some session)
    (different : other ≠ session) :
    RespectsLocks locks blocked (blocked.withTables
      (blocked.tables.addReservation reservation fresh)) other where
  versions := by
    intro loaded current
    rw [BlockedHotel.withTables_tables]
    exact current.addReservation
  reservations := by
    intro id row _ found
    rw [BlockedHotel.withTables_tables]
    exact HotelState.reservation?_addReservation found
  blocks := fun _ _ _ found => found
  freeRooms := by
    intro roomId window self held free
    have elsewhere : reservation.roomId ≠ some roomId := by
      intro inRoom
      have own := roomLocked roomId inRoom
      rw [held] at own
      exact different (Option.some.inj own)
    rw [BlockedHotel.withTables_tables]
    exact roomFree_addReservation elsewhere free
  unblockedRooms := fun _ _ _ _ unblocked => unblocked

theorem respectsLocks_replaceReservation {old row : Reservation}
    (locked : Fact.Holds blocked locks session (.reservationLocked old))
    (sameId : row.id = old.id) (newer : row.version = old.version + 1)
    (roomLocked : ∀ roomId, row.roomId = some roomId -> locks.holder (.room roomId) = some session)
    (different : other ≠ session) :
    RespectsLocks locks blocked (blocked.withTables
      (blocked.tables.replaceReservation row)) other where
  versions := fun _ current => current.replaceReservation locked.2 sameId newer
  reservations := by
    intro id current held found
    refine (HotelState.reservation?_replaceReservation found).trans ?_
    rw [if_neg]
    rintro rfl
    rw [sameId, locked.1] at held
    exact different (Option.some.inj held).symm
  blocks := fun _ _ _ found => found
  freeRooms := by
    intro roomId window self held free
    refine roomFree_replaceReservation ?_ free
    intro _ inRoom
    have own := roomLocked roomId inRoom
    rw [held] at own
    exact absurd (Option.some.inj own) different
  unblockedRooms := fun _ _ _ _ unblocked => unblocked

theorem respectsLocks_insertBlock {block : RoomBlock}
    (roomLocked : locks.holder (.room block.roomId) = some session)
    (different : other ≠ session) :
    RespectsLocks locks blocked (blocked.insertBlock block) other where
  versions := fun _ current => current
  reservations := fun _ _ _ found => found
  blocks := by
    intro id row _ found
    exact Table.find_append_eq_some found
  freeRooms := fun _ _ _ _ free => free
  unblockedRooms := by
    intro roomId window self held unblocked row member inRoom
    rcases BlockedHotel.mem_insertBlock.mp member with old | rfl
    · exact unblocked row old inRoom
    · subst inRoom
      rw [roomLocked] at held
      exact absurd (Option.some.inj held).symm different

theorem respectsLocks_replaceBlock {row : RoomBlockRow}
    (roomLocked : locks.holder (.room row.roomId) = some session)
    (blockLocked : locks.holder (.block row.id) = some session)
    (different : other ≠ session) :
    RespectsLocks locks blocked (blocked.replaceBlock row) other where
  versions := fun _ current => current
  reservations := fun _ _ _ found => found
  blocks := by
    intro id current held found
    refine (Table.find_replace_of_ne ?_).trans found
    rintro rfl
    rw [blockLocked] at held
    exact different (Option.some.inj held).symm
  freeRooms := fun _ _ _ _ free => free
  unblockedRooms := by
    intro roomId window self held unblocked item member inRoom
    rcases Table.mem_replace member with rfl | ⟨old, -⟩
    · subst inRoom
      rw [roomLocked] at held
      exact absurd (Option.some.inj held).symm different
    · exact unblocked item old inRoom

end Writes

/-- No stays of a room overlap, blocks and stays exclude each other, and all
dates lie in the calendar. -/
structure CollisionFree (blocked : BlockedHotel) : Prop where
  noDoubleBooking : blocked.tables.NoDoubleBooking
  excluding : Excluding blocked
  inCalendar : InCalendar blocked

section CollisionFree

variable {blocked after : BlockedHotel}

theorem CollisionFree.congr {tables : HotelState} (free : CollisionFree after)
    (same : tables.reservations = after.tables.reservations) :
    CollisionFree (after.withTables tables) where
  noDoubleBooking := by
    have kept := free.noDoubleBooking
    unfold HotelState.NoDoubleBooking at kept ⊢
    rwa [BlockedHotel.withTables_tables, same]
  excluding := free.excluding.withTables (same ▸ free.excluding.stays)
  inCalendar := ⟨free.inCalendar.blocks, same ▸ free.inCalendar.stays⟩

variable {reservation : Reservation}

theorem CollisionFree.addReservation
    {fresh : reservation.id ∉ blocked.tables.reservations.map Reservation.id}
    (free : CollisionFree blocked)
    (inCalendar : reservation.checkOutDate ≤ dateMax)
    (roomFree : ∀ roomId, reservation.roomId = some roomId ->
      blocked.tables.RoomFree roomId reservation.stay none)
    (clear : ClearOfBlocks blocked.blockRows reservation) :
    CollisionFree (blocked.withTables (blocked.tables.addReservation reservation fresh)) where
  noDoubleBooking := by
    rw [BlockedHotel.withTables_tables]
    exact free.noDoubleBooking.addReservation roomFree
  excluding := free.excluding.withTables (free.excluding.stays.addReservation clear)
  inCalendar := by
    refine ⟨free.inCalendar.blocks, fun other member => ?_⟩
    rcases List.mem_cons.mp member with rfl | old
    · exact inCalendar
    · exact free.inCalendar.stays other old

theorem CollisionFree.replaceReservation (free : CollisionFree blocked)
    (inCalendar : reservation.checkOutDate ≤ dateMax)
    (roomFree : ∀ roomId, reservation.roomId = some roomId -> reservation.Active ->
      blocked.tables.RoomFree roomId reservation.stay (some reservation.id))
    (clear : reservation.Active -> ClearOfBlocks blocked.blockRows reservation) :
    CollisionFree (blocked.withTables (blocked.tables.replaceReservation reservation)) where
  noDoubleBooking := free.noDoubleBooking.replaceReservation roomFree
  excluding := free.excluding.withTables (free.excluding.stays.replaceReservation clear)
  inCalendar := ⟨free.inCalendar.blocks, forall_replaceReservation free.inCalendar.stays inCalendar⟩

theorem ClearOfBlocks.of_roomUnblocked {roomId : Int} (assigned : reservation.roomId = some roomId)
    (unblocked : RoomUnblocked blocked roomId (stayWindow reservation) none) :
    ClearOfBlocks blocked.blockRows reservation := by
  intro row member inForce inRoom
  rw [assigned] at inRoom
  exact unblocked row member (Option.some.inj inRoom).symm (by simp) inForce

end CollisionFree

/-- A commit collides with nothing, and respects the locks of every other
session. -/
structure Commits {τ : Type} (locks : LockTable HotelRow τ)
    (before after : BlockedHotel) (session : τ) : Prop where
  collisionFree : CollisionFree after
  respects : ∀ other, other ≠ session -> RespectsLocks locks before after other

section Commits

variable {τ : Type} {locks : LockTable HotelRow τ} {session : τ} {blocked after : BlockedHotel}

theorem Commits.congr {tables : HotelState} (commits : Commits locks blocked after session)
    (same : tables.reservations = after.tables.reservations) :
    Commits locks blocked (after.withTables tables) session where
  collisionFree := commits.collisionFree.congr same
  respects := fun other different => (commits.respects other different).congr same

theorem commits_writeBlock {data : RoomBlockCreate} (free : CollisionFree blocked)
    (knows : Knows blocked locks session (CreateBlockStage.facts data .blocksRead))
    (seesEvery : SeesEveryBlock blocked data)
    (written : blocked.writeBlock data = .ok after) :
    Commits locks blocked after session := by
  have unblocked := knows _ (.head _)
  have roomFree := knows _ (.tail _ (.head _))
  obtain ⟨valid, starts⟩ := knows _ (.tail _ (.tail _ (.tail _ (.head _))))
  unfold BlockedHotel.writeBlock at written
  split_ifs at written with ordered
  cases written
  constructor
  · refine
      { noDoubleBooking := free.noDoubleBooking
        excluding := free.excluding.insertBlock free.inCalendar seesEvery rfl
          rfl rfl ?_ ?_
        inCalendar := ⟨?_, free.inCalendar.stays⟩ }
    · intro reservation member active assigned
      exact roomFree.2 reservation member active (by simp) assigned
    · intro row member inRoom inForce
      exact unblocked.2 row member inRoom (by simp) inForce
    · intro row member
      rcases BlockedHotel.mem_insertBlock.mp member with old | rfl
      · exact free.inCalendar.blocks row old
      · exact starts
  · intro other different
    exact respectsLocks_insertBlock unblocked.1 different

/-- Nothing was found in the window that is added to a block. -/
theorem commits_writeEnd {endsAt roomId previousEndsAt : Int} {row : RoomBlockRow}
    (free : CollisionFree blocked)
    (knows : Knows blocked locks session
      (ExtendBlockStage.facts endsAt roomId (.staysRead row previousEndsAt)))
    (written : blocked.writeEnd row endsAt = .ok after) :
    Commits locks blocked after session := by
  have roomFree := knows _ (.head _)
  have unblocked := knows _ (.tail _ (.head _))
  obtain ⟨rfl, oldEnd, inForce, later⟩ := knows _ (.tail _ (.tail _ (.head _)))
  have blockLocked := knows _ (.tail _ (.tail _ (.tail _ (.head _))))
  have stored : row ∈ blocked.blockRows :=
    (BlockedHotel.blockRow?_eq_some blockLocked.2).1
  have extension : ClearedExtension blocked row previousEndsAt endsAt :=
    { stored := stored
      unresolved := inForce
      oldEnd := oldEnd
      later := later
      noBlock := fun other member sameRoom otherId otherInForce => unblocked.2 other member sameRoom
          (fun same => otherId (Option.some.inj same).symm) otherInForce
      noStay := fun reservation member active assigned =>
        roomFree.2 reservation member active (by simp) assigned }
  have excluding := free.excluding.writeEnd extension written
  unfold BlockedHotel.writeEnd at written
  split_ifs at written with ordered
  cases written
  constructor
  · refine ⟨free.noDoubleBooking, excluding, ?_, free.inCalendar.stays⟩
    intro other member
    rcases Table.mem_replace member with rfl | ⟨old, -⟩
    · exact free.inCalendar.blocks row stored
    · exact free.inCalendar.blocks other old
  · intro other different
    exact respectsLocks_replaceBlock roomFree.1 blockLocked.1 different

theorem commits_addReservation {data : ReservationCreate} {roomId id : Int}
    {ordered : data.checkInDate < data.checkOutDate}
    {fresh : id ∉ blocked.tables.reservations.map Reservation.id}
    (free : CollisionFree blocked)
    (knows : Knows blocked locks session (BookingStage.facts data roomId .staysRead)) :
    Commits locks blocked (blocked.withTables
      (blocked.tables.addReservation (data.row id (some roomId) ordered) fresh)) session := by
  have roomFree := knows _ (.head _)
  have unblocked := knows _ (.tail _ (.head _))
  have ends := knows _ (.tail _ (.tail _ (.tail _ (.head _))))
  constructor
  · refine free.addReservation ends ?_ (ClearOfBlocks.of_roomUnblocked rfl unblocked.2)
    intro held assigned
    obtain rfl : roomId = held := Option.some.inj assigned
    exact roomFree.2
  · intro other different
    refine respectsLocks_addReservation ?_ different
    intro held assigned
    obtain rfl : roomId = held := Option.some.inj assigned
    exact roomFree.1

theorem commits_movedReservation {loaded : Reservation} {room : Room} (free : CollisionFree blocked)
    (knows : Knows blocked locks session (MoveStage.destinationRead loaded room)) :
    Commits locks blocked (blocked.withTables
      (blocked.tables.replaceReservation (movedReservation loaded room)))
      session := by
  have roomFree := knows _ (.head _)
  have unblocked := knows _ (.tail _ (.head _))
  have locked := knows _ (.tail _ (.tail _ (.tail _ (.head _))))
  have stored := (HotelState.reservation?_eq_some locked.2).1
  constructor
  · refine free.replaceReservation (free.inCalendar.stays loaded stored) ?_
      fun _ => ClearOfBlocks.of_roomUnblocked rfl unblocked.2
    intro held assigned _
    obtain rfl : room.id = held := Option.some.inj assigned
    exact roomFree.2
  · intro other different
    refine respectsLocks_replaceReservation locked rfl rfl ?_ different
    intro held assigned
    obtain rfl : room.id = held := Option.some.inj assigned
    exact roomFree.1

/-- The room of an extended stay is free in the old nights, which were its
own, and in the added ones, which were found free. -/
theorem commits_extendedReservation
    {call : ExtensionCall} {loaded : Reservation} {status : ReservationStatus}
    {later : loaded.checkOutDate < call.newCheckoutDate}
    (free : CollisionFree blocked)
    (knows : Knows blocked locks session (ExtendStage.cleared call loaded)) :
    Commits locks blocked (blocked.withTables (blocked.tables.replaceReservation
        (extendedReservation loaded call.newCheckoutDate status later)))
      session := by
  obtain ⟨roomFree, knows⟩ := Knows.ofRoom knows
  obtain ⟨unblocked, knows⟩ := Knows.ofRoom knows
  obtain ⟨-, knows⟩ := Knows.ofRoom knows
  have locked := knows _ (.head _)
  have active := knows _ (.tail _ (.head _))
  obtain ⟨-, ends⟩ := knows _ (.tail _ (.tail _ (.head _)))
  have stored := (HotelState.reservation?_eq_some locked.2).1
  constructor
  · refine free.replaceReservation ends ?_ ?_
    · intro roomId assigned _ other member otherActive notSelf inRoom overlap
      have nonempty : other.stay.1 < other.stay.2 := other.datesOrdered
      rcases overlap.symm.of_grown nonempty with before | added
      · refine free.noDoubleBooking loaded ⟨stored, active⟩ other
          ⟨member, otherActive⟩ ?_ roomId assigned inRoom before
        rintro rfl
        exact notSelf rfl
      · exact (roomFree roomId assigned).2 other member otherActive notSelf inRoom added.symm
    · intro _ row member inForce assigned overlap
      have grown : Overlap (stayWindow loaded) row.window ∨
          Overlap (openEnded loaded.checkOutDate (some call.newCheckoutDate)) row.window :=
        Overlap.of_grown_openEnded row.datesOrdered overlap.symm
      rcases grown with before | added
      · exact free.excluding.stays loaded stored active row member inForce assigned before.symm
      · exact (unblocked row.roomId assigned).2 row member rfl (by simp) inForce added.symm
  · intro other different
    exact respectsLocks_replaceReservation locked rfl rfl
      (fun roomId assigned => (roomFree roomId assigned).1) different

end Commits

end HotelPms.Blocks
