import HotelPms.Blocks.State

/-!
# Creating, extending and resolving room blocks

A block is refused while a stay of the room or another block overlaps it.  A
creation or an extension may accept a stored plan that moves the overlapping
stays to other rooms; the plan, the checks after it and the write of the block
succeed or fail together.
-/

namespace HotelPms.Blocks

open Hotel HalfOpen Checked KeySort Allocation

inductive RoomBlockError
  | roomBlock (reason : String)
  | protectedReservationConflict (reservationIds : List Int)
  | reservationConflict (reservationIds : List Int)
  | alreadyExists (reason : String)
  | extensionConflict (reservationCount protectedReservationCount
      overlappingBlockCount : Nat)
  | releaseConflict (reservationIds otherBlockIds : List Int)
      (reason : String)

/-- Ids in increasing order. -/
def sortedIds (ids : List Int) : List Int := sortByKey (fun key => key) ids

/-- Payload of a new block. -/
structure RoomBlockCreate where
  roomId : Int
  startsAt : Int
  endsAt : Option Int := none
  isIndefinite : Bool := false

namespace RoomBlockCreate

variable (data : RoomBlockCreate)

def validateRange : Except RoomBlockError Unit := do
  raiseIf (data.endsAt = none ∧ data.isIndefinite = false)
    (.roomBlock "ends_at is required unless the block is indefinite")
  raiseIf (∃ finish ∈ data.endsAt, finish ≤ data.startsAt)
    (.roomBlock "ends_at must be after starts_at")
  raiseIf (data.isIndefinite = true ∧ data.endsAt ≠ none)
    (.roomBlock "indefinite room blocks cannot have ends_at")

/-- End passed to the reservation queries. -/
def conflictEnd : Option Int :=
  if data.isIndefinite then none else data.endsAt

/-- Window of the block queries; an indefinite block ends it on the last
day. -/
def queryWindow : Int × Int := (data.startsAt, data.endsAt.getD dateMax)

/-- The block as the constraints of a plan name it. -/
def proposedBlock : ProposedBlock :=
  .roomBlock data.roomId data.startsAt data.endsAt data.isIndefinite

end RoomBlockCreate

namespace BlockedHotel

variable (blocked : BlockedHotel)

variable (roomId : Int) (startsAt : Int) (data : RoomBlockCreate)

/-- Active stays of the room in the window; a window without end is cut at
the last day. -/
def overlappingReservationsForBlock (endsAt : Option Int) : List Reservation :=
  blocked.tables.reservations.filter fun reservation =>
    reservation.Active ∧ reservation.roomId = some roomId ∧
      Overlap reservation.stay (startsAt, endsAt.getD dateMax)

def overlappingReservationIdsForBlock (endsAt : Option Int) : List Int :=
  sortedIds ((blocked.overlappingReservationsForBlock roomId startsAt endsAt).map Reservation.id)

/-- Checked in, or pinned to its room. -/
def Protected (reservation : Reservation) : Prop :=
  reservation.HasPhysicalCheckIn ∨ blocked.tables.ExplicitlyLocked reservation
deriving Decidable

def protectedReservationIdsForBlock (endsAt : Option Int) : List Int :=
  sortedIds (((blocked.overlappingReservationsForBlock roomId startsAt
    endsAt).filter (blocked.Protected ·)).map Reservation.id)

/-- Refuse a block that some reservation is in the way of. -/
def raiseForConflicts (conflicts protectedIds : List Int) : Except RoomBlockError Unit := do
  raiseIf (∃ id ∈ conflicts, id ∈ protectedIds) (.protectedReservationConflict conflicts)
  raiseIf (conflicts ≠ []) (.reservationConflict conflicts)

def checkReservations : Except RoomBlockError Unit :=
  raiseForConflicts
    (blocked.overlappingReservationIdsForBlock data.roomId data.startsAt data.conflictEnd)
    (blocked.protectedReservationIdsForBlock data.roomId data.startsAt data.conflictEnd)

def checkRoomExists : Except RoomBlockError Unit :=
  raiseIf (blocked.tables.room? roomId = none) (.roomBlock "Room not found")

def checkNoActiveBlock : Except RoomBlockError Unit :=
  raiseIf (Booking.roomHasActiveBlock blocked.hotel data.roomId data.queryWindow = true)
    (.alreadyExists "An active room block already overlaps this window")

/-- Write the block, while the schema's check constraint allows it. -/
def writeBlock : Except RoomBlockError BlockedHotel :=
  if ordered : ∀ finish ∈ data.endsAt, data.startsAt < finish then
    .ok (blocked.insertBlock
      { roomId := data.roomId, startsAt := data.startsAt, endsAt := data.endsAt
        datesOrdered := ordered })
  else .error (.roomBlock "ck_room_block_dates")

/-- Checks made under the lock of the room, and the write. -/
def createLockedBlock : Except RoomBlockError BlockedHotel := do
  blocked.checkRoomExists data.roomId
  blocked.checkReservations data
  blocked.checkNoActiveBlock data
  blocked.writeBlock data

/-- Fail quickly for occupied nights, then check again under the lock. -/
def createBlock : Except RoomBlockError BlockedHotel := do
  data.validateRange
  blocked.checkRoomExists data.roomId
  blocked.checkReservations data
  blocked.createLockedBlock data

def getBlockConflictingReservationIds : Except RoomBlockError (List Int) := do
  data.validateRange
  blocked.checkRoomExists data.roomId
  blocked.checkNoActiveBlock data
  pure (blocked.overlappingReservationIdsForBlock data.roomId data.startsAt data.conflictEnd)

end BlockedHotel

namespace StoredRun

variable (stored : StoredRun)

/-- Expected conflicts that the plan moves to another room. -/
def movableConflicts (roomId : Int) (expected : List Int) : Finset Int :=
  ((stored.run.assignments.filter fun row => row.reservationId ∈ expected ∧ row.status = .proposed ∧
      row.roomId ≠ none ∧ row.roomId ≠ some roomId).map
    AllocationAssignment.reservationId).toFinset

/-- Expected conflicts that the plan does not move. -/
def unmovedConflicts (roomId : Int) (expected : List Int) : List Int :=
  sortedIds (expected.dedup.filter (· ∉ stored.movableConflicts roomId expected))

end StoredRun

namespace BlockedHotel

variable (fingerprint : ReservationStatePayload -> String) (blocked : BlockedHotel)

/-- The stored plan of a new block: made for this block and these conflicts,
and moving every one of them. -/
def roomBlockPlan (data : RoomBlockCreate) (conflicts : List Int)
    (allocationRunId : Int) : Except RoomBlockError StoredRun :=
  match blocked.run? allocationRunId with
  | none =>
    .error (.roomBlock "Allocation run is not a room-block proposal")
  | some stored =>
    match stored.context with
    | .missing =>
      .error (.roomBlock "Allocation run is not a room-block proposal")
    | .invalid =>
      .error (.roomBlock "Allocation run has invalid room-block proposal context")
    | .details block expected => do
      raiseIf (stored.run.contextKind ≠ some "room_block" ∨ block ≠ some data.proposedBlock)
        (.roomBlock "Allocation proposal does not match this room block")
      raiseIf (expected = [] ∨ conflicts.toFinset ≠ expected.toFinset) (.reservationConflict
          (if conflicts = [] then sortedIds expected.dedup
            else conflicts))
      raiseIf (stored.movableConflicts data.roomId expected ≠ expected.toFinset)
        (.reservationConflict (stored.unmovedConflicts data.roomId expected))
      pure stored

def acceptPlan (stored : StoredRun) (userId : Option Int) : Except RoomBlockError BlockedHotel :=
  match acceptAllocationRun fingerprint blocked.hotel stored.run ∅ userId true with
  | .error reason => .error (.roomBlock reason)
  | .ok (final, accepted) =>
    .ok { blocked.withTables final with
      runs := Table.replace StoredRun.id { stored with run := accepted } blocked.runs }

def createBlockWithAllocationPlan (data : RoomBlockCreate)
    (createdByUserId : Option Int) (allocationRunId : Option Int) :
    Except RoomBlockError BlockedHotel := do
  data.validateRange
  let conflicts ← blocked.getBlockConflictingReservationIds data
  match allocationRunId with
  | none => do
    raiseForConflicts conflicts
      (blocked.protectedReservationIdsForBlock data.roomId data.startsAt data.conflictEnd)
    blocked.createBlock data
  | some runId => do
    let stored ← blocked.roomBlockPlan data conflicts runId
    let moved ← blocked.acceptPlan fingerprint stored createdByUserId
    moved.createBlock data

variable (blockId : Int) (row : RoomBlockRow) (previousEndsAt : Int) (endsAt : Int)

def lockRoomThenBlock : Except RoomBlockError RoomBlockRow :=
  match blocked.blockRow? blockId with
  | none => .error (.roomBlock "Room block not found")
  | some row => do
    raiseIf (blocked.tables.room? row.roomId = none)
      (.roomBlock "La habitación del bloqueo ya no está disponible")
    pure row

def otherBlocks (window : Int × Int) : List RoomBlockRow :=
  blocked.blockRows.filter fun other =>
    other.roomId = row.roomId ∧ other.id ≠ row.id ∧ other.BlocksWindow window

def previousEnd : Except RoomBlockError Int :=
  match row.endsAt with
  | none =>
    .error (.roomBlock "Solo se pueden extender bloqueos activos con fecha de fin")
  | some previousEndsAt => do
    raiseIf (¬row.Unresolved)
      (.roomBlock "Solo se pueden extender bloqueos activos con fecha de fin")
    raiseIf (endsAt ≤ previousEndsAt)
      (.roomBlock "La nueva fecha debe ser posterior a la fecha de fin actual")
    pure previousEndsAt

/-- Stays and blocks in the added window. -/
structure ExtensionConflicts where
  reservationIds : List Int
  protectedIds : List Int
  otherBlockIds : List Int

def extensionConflicts : ExtensionConflicts where
  reservationIds := blocked.overlappingReservationIdsForBlock row.roomId
    previousEndsAt (some endsAt)
  protectedIds := blocked.protectedReservationIdsForBlock row.roomId previousEndsAt (some endsAt)
  otherBlockIds := (blocked.otherBlocks row (previousEndsAt, endsAt)).map RoomBlockRow.id

/-- No other block and no protected stay lies in the added window. -/
def checkExtension (found : ExtensionConflicts) : Except RoomBlockError Unit := do
  raiseIf (found.otherBlockIds ≠ []) (.extensionConflict found.reservationIds.length
      found.protectedIds.length found.otherBlockIds.length)
  raiseIf (∃ id ∈ found.reservationIds, id ∈ found.protectedIds)
    (.extensionConflict found.reservationIds.length (found.protectedIds.filter fun id =>
        id ∈ found.reservationIds).length 0)

/-- The stored plan of an extension, as `roomBlockPlan` is that of a new
block. -/
def extensionPlan (found : ExtensionConflicts) (allocationRunId : Int) :
    Except RoomBlockError StoredRun :=
  let stale : RoomBlockError := .extensionConflict
    found.reservationIds.length found.protectedIds.length 0
  match blocked.run? allocationRunId with
  | none => .error stale
  | some stored =>
    match stored.context with
    | .missing => .error stale
    | .invalid => .error stale
    | .details block expected => do
      raiseIf (stored.run.contextKind ≠ some "room_block_extension" ∨
          block ≠ some (.extension row.id row.roomId previousEndsAt endsAt) ∨
          expected = [] ∨
          expected.toFinset ≠ found.reservationIds.toFinset)
        stale
      raiseIf (stored.movableConflicts row.roomId expected ≠ expected.toFinset)
        (.extensionConflict (stored.unmovedConflicts row.roomId expected).length
          found.protectedIds.length 0)
      pure stored

/-- Clear the added window of stays: there are none, or the plan moves them
all. -/
def clearExtension (found : ExtensionConflicts) (createdByUserId : Option Int)
    (allocationRunId : Option Int) : Except RoomBlockError BlockedHotel :=
  match allocationRunId with
  | none => do
    raiseIf (found.reservationIds ≠ [])
      (.extensionConflict found.reservationIds.length found.protectedIds.length 0)
    pure blocked
  | some runId => do
    let stored ← blocked.extensionPlan row previousEndsAt endsAt found runId
    let moved ← blocked.acceptPlan fingerprint stored createdByUserId
    let remaining := moved.overlappingReservationIdsForBlock row.roomId previousEndsAt (some endsAt)
    raiseIf (remaining ≠ []) (.extensionConflict remaining.length 0 0)
    pure moved

/-- Write the new end, while the schema's check constraint allows it. -/
def writeEnd : Except RoomBlockError BlockedHotel :=
  if ordered : row.startsAt < endsAt then
    .ok (blocked.replaceBlock { row with
        endsAt := some endsAt
        datesOrdered := fun _ same => Option.some.inj same ▸ ordered })
  else .error (.roomBlock "ck_room_block_dates")

def extendBlockWithAllocationPlan (allocationRunId createdByUserId : Option Int) :
    Except RoomBlockError BlockedHotel := do
  let row ← blocked.lockRoomThenBlock blockId
  let previousEndsAt ← previousEnd row endsAt
  let found := blocked.extensionConflicts row previousEndsAt endsAt
  checkExtension found
  let cleared ← blocked.clearExtension fingerprint row previousEndsAt endsAt
    found createdByUserId allocationRunId
  cleared.writeEnd row endsAt

/-- Reservations a release would expose: no-shows do not count, and deleted
rows are not left out. -/
def affectedReservations : List Reservation :=
  blocked.tables.reservations.filter fun reservation => reservation.roomId = some row.roomId ∧
      (reservation.status ≠ .cancelled ∧ reservation.status ≠ .checkedOut ∧
        reservation.status ≠ .noShow) ∧
      Overlap reservation.stay (row.startsAt, row.endsAt.getD dateMax)

def validateBlockResolution (room : Room) (row : RoomBlockRow)
    (pendingMaintenance : Bool) : Except RoomBlockError Unit := do
  raiseIf (room.deletedAt ≠ none) (.roomBlock "La habitación del bloqueo ya no está disponible")
  raiseIf (room.status ≠ .available) (.releaseConflict [] []
      "La habitación debe estar disponible y lista para vender antes de liberar el bloqueo")
  let others := blocked.otherBlocks row (row.startsAt, row.endsAt.getD dateMax)
  raiseIf (others.map RoomBlockRow.id ≠ [])
    (.releaseConflict [] (sortedIds (others.map RoomBlockRow.id))
      "La habitación todavía tiene otro bloqueo operativo superpuesto")
  raiseIf (pendingMaintenance = true) (.releaseConflict [] []
      "La incidencia de mantenimiento debe quedar resuelta antes de liberar la habitación")
  let affected := (blocked.affectedReservations row).map Reservation.id
  raiseIf (affected ≠ []) (.releaseConflict (sortedIds affected) []
      "La habitación tiene reservas afectadas; reasignalas antes de liberarla")

def resolveBlock (now : Int) (pendingMaintenance : Bool) : Except RoomBlockError BlockedHotel :=
  match blocked.blockRow? blockId with
  | none => .error (.roomBlock "Room block not found")
  | some row =>
    if row.Unresolved then
      match blocked.tables.room? row.roomId with
      | none =>
        .error (.roomBlock "La habitación del bloqueo ya no está disponible")
      | some room => do
        blocked.validateBlockResolution room row pendingMaintenance
        pure (blocked.replaceBlock { row with resolvedAt := some now })
    else .ok blocked

end BlockedHotel
end HotelPms.Blocks
