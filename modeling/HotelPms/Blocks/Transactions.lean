import HotelPms.Blocks.Runs

/-!
# Concurrent block and stay transactions

Creating and extending a block, booking an explicit room, moving a reservation
and extending a stay without reassigning anyone, cut into their statements:
every row lock, every read and the commit.  A read sees the committed rows; a
transaction has written nothing before its reads.  A check that fails, and a
lock that is not waited for, ends the transaction without a write.
-/

namespace HotelPms.Blocks

open Hotel HalfOpen Checked Transition Stays
open Booking (ReservationCreate roomReservable roomHasActiveBlock
  overlappingReservations validateReservationOccupancy)

/-- Rows these transactions lock. -/
inductive HotelRow
  | room (id : Int)
  | reservation (id : Int)
  | block (id : Int)
  | company (id : Int)
  deriving DecidableEq

/-- A transaction a client asks for, with dates of the calendar. -/
inductive Request
  | createBlock (data : RoomBlockCreate)
      (inCalendar : data.startsAt ≤ dateMax)
  | extendBlock (blockId endsAt : Int)
  | createReservation (data : ReservationCreate) (id : Int)
      (inCalendar : data.checkOutDate ≤ dateMax)
      (otherChecks : Except String Unit)
  | moveReservationRoom (reservationId : Int) (call : RoomMoveCall)
      (surroundings : Surroundings)
  | extendReservationStay (reservationId : Int) (call : ExtensionCall)
      (inCalendar : call.newCheckoutDate ≤ dateMax)
      (surroundings : ExtensionSurroundings)

/-- How far the creation of a block has come. -/
inductive CreateBlockStage
  | prechecked
  | roomLocked
  | staysRead
  | blocksRead

/-- How far the extension of a block has come, with the block row as it was
read under its lock. -/
inductive ExtendBlockStage
  | located
  | roomLocked
  | blockLocked (row : RoomBlockRow) (previousEndsAt : Int)
  | blocksRead (row : RoomBlockRow) (previousEndsAt : Int)
  | staysRead (row : RoomBlockRow) (previousEndsAt : Int)

/-- How far a booking has come. -/
inductive BookingStage
  | validated
  | roomLocked (room : Room)
  | blocksRead
  | staysRead

/-- How far a move has come, with the room as it was read under its lock. -/
inductive MoveStage
  | loaded
  | versionLocked
  | roomLocked (room : Room)
  | permitted (room : Room) (current destination : RoomCategory)
  | blocksRead (room : Room) (current destination : RoomCategory)
  | staysRead (room : Room) (current destination : RoomCategory)
  | originLocked (room : Room) (current destination : RoomCategory)

/-- How far the extension of a stay has come. -/
inductive ExtendStage
  | loaded
  | companyLocked
  | versionLocked
  | roomLocked
  | rootRead
  | conflictsRead
  | blocksRead
  | staysRead

/-- What a session is doing.  A move and an extension remember the
reservation as they loaded it. -/
inductive Session
  | idle
  | creatingBlock (data : RoomBlockCreate) (stage : CreateBlockStage)
  | extendingBlock (blockId endsAt roomId : Int) (stage : ExtendBlockStage)
  | booking (data : ReservationCreate) (roomId id : Int)
      (stage : BookingStage)
  | moving (call : RoomMoveCall) (surroundings : Surroundings)
      (loaded : Reservation) (stage : MoveStage)
  | extending (call : ExtensionCall) (surroundings : ExtensionSurroundings)
      (loaded : Reservation) (stage : ExtendStage)

/-- A session begins a transaction, takes its next statement, or ends it
without a write. -/
inductive Statement
  | begin_ (request : Request)
  | next
  | rollback

/-- The committed rows, the row locks and the open transactions. -/
structure HotelSystem (τ : Type) where
  blocked : BlockedHotel
  locks : LockTable HotelRow τ := .empty
  sessions : τ -> Session

namespace HotelSystem

variable {τ : Type} [DecidableEq τ] (system : HotelSystem τ) (session : τ)

/-- No transaction is open. -/
def initial (blocked : BlockedHotel) : HotelSystem τ where
  blocked := blocked
  sessions := fun _ => .idle

/-- Let one session go on without a write. -/
def advance (next : Session) : HotelSystem τ :=
  { system with sessions := Function.update system.sessions session next }

/-- End a transaction: its writes are committed and its locks given back. -/
def commit (blocked : BlockedHotel) : HotelSystem τ :=
  { blocked := blocked, locks := system.locks.release session
    sessions := Function.update system.sessions session .idle }

def rollback : HotelSystem τ := system.commit session system.blocked

/-- Go on when a read passes its check, otherwise end the transaction. -/
def check {ε : Type} (checks : Except ε Unit) (next : Session) : HotelSystem τ :=
  match checks with
  | .ok _ => system.advance session next
  | .error _ => system.rollback session

def lockRow (row : HotelRow) : HotelSystem τ :=
  { system with locks := system.locks.acquire row session }

def waitLock (row : HotelRow) {ε : Type} (read : Except ε Session) : Option (HotelSystem τ) :=
  if system.locks.Available row session then
    some (match read with
      | .ok next => (system.lockRow session row).advance session next
      | .error _ => system.rollback session)
  else none

def lockNoWait (row : HotelRow) {ε : Type} (read : Except ε Session) : Option (HotelSystem τ) :=
  if system.locks.Available row session then
    system.waitLock session row read
  else some (system.rollback session)

/-- Commit what a write returns, unless it fails. -/
def write {ε : Type} (written : Except ε BlockedHotel) : HotelSystem τ :=
  match written with
  | .ok blocked => system.commit session blocked
  | .error _ => system.rollback session

/-! ## The statements of each transaction -/

/-- First part of an availability read: the dates, the room and its
blocks. -/
def checkUnblocked (hotel : HotelState) (room : Room) (window : Int × Int) :
    Except String Unit := do
  Booking.validateStayDates window
  raiseIf (roomReservable room = false ∨ roomHasActiveBlock hotel room.id window = true)
    ("La habitación " ++ room.roomNumber ++ " no está disponible para las fechas solicitadas")

/-- Second part of an availability read: the reservations of the room. -/
def checkUnoccupied (hotel : HotelState) (roomId : Int)
    (window : Int × Int) (excludeReservationId : Option Int) :
    Except String Unit :=
  raiseIf ((overlappingReservations hotel roomId window excludeReservationId).isEmpty = false)
    "La habitación no está disponible para las fechas solicitadas"

/-- A creation fails quickly, locks the room, and reads reservations and
blocks again. -/
def nextCreateBlock (data : RoomBlockCreate) : CreateBlockStage -> Option (HotelSystem τ)
  | .prechecked =>
    system.waitLock session (.room data.roomId) do
      system.blocked.checkRoomExists data.roomId
      pure (.creatingBlock data .roomLocked)
  | .roomLocked =>
    some (system.check session (system.blocked.checkReservations data)
      (.creatingBlock data .staysRead))
  | .staysRead =>
    some (system.check session (system.blocked.checkNoActiveBlock data)
      (.creatingBlock data .blocksRead))
  | .blocksRead =>
    some (system.write session (system.blocked.writeBlock data))

/-- The block row under its lock: still in the room that was locked, and
extensible. -/
def lockedBlock (blockId endsAt roomId : Int) : Except RoomBlockError (RoomBlockRow × Int) :=
  match system.blocked.blockRow? blockId with
  | none => .error (.roomBlock "Room block not found")
  | some row => do
    raiseIf (row.roomId ≠ roomId)
      (.roomBlock "La habitación del bloqueo cambió; reintentá la operación")
    let previousEndsAt ← BlockedHotel.previousEnd row endsAt
    pure (row, previousEndsAt)

/-- An extension locks the room and then the block, and reads the other blocks
and the reservations of the added window. -/
def nextExtendBlock (blockId endsAt roomId : Int) : ExtendBlockStage -> Option (HotelSystem τ)
  | .located =>
    system.waitLock session (.room roomId) do
      raiseIf (system.blocked.tables.room? roomId = none)
        (RoomBlockError.roomBlock "La habitación del bloqueo ya no está disponible")
      pure (.extendingBlock blockId endsAt roomId .roomLocked)
  | .roomLocked =>
    system.waitLock session (.block blockId) do
      let found ← system.lockedBlock blockId endsAt roomId
      pure (.extendingBlock blockId endsAt roomId (.blockLocked found.1 found.2))
  | .blockLocked row previousEndsAt =>
    some (system.check session (raiseIf (system.blocked.otherBlocks row (previousEndsAt, endsAt) ≠
        []) (RoomBlockError.extensionConflict 0 0 1))
      (.extendingBlock blockId endsAt roomId (.blocksRead row previousEndsAt)))
  | .blocksRead row previousEndsAt =>
    some (system.check session (raiseIf (system.blocked.overlappingReservationIdsForBlock row.roomId
        previousEndsAt (some endsAt) ≠ [])
        (RoomBlockError.extensionConflict 1 0 0))
      (.extendingBlock blockId endsAt roomId (.staysRead row previousEndsAt)))
  | .staysRead row _ =>
    some (system.write session (system.blocked.writeEnd row endsAt))

/-- Insert a booking under a fresh id. -/
def writeBooking (data : ReservationCreate) (roomId id : Int) : Except String BlockedHotel :=
  if ordered : data.checkInDate < data.checkOutDate then
    if fresh : id ∉ system.blocked.tables.reservations.map Reservation.id then
      .ok (system.blocked.withTables (system.blocked.tables.addReservation
        (data.row id (some roomId) ordered) fresh))
    else .error "uq_reservation_id"
  else .error "ck_reservation_dates"

/-- A booking locks its room and reads its availability. -/
def nextBooking (data : ReservationCreate) (roomId id : Int) :
    BookingStage -> Option (HotelSystem τ)
  | .validated =>
    system.waitLock session (.room roomId) (match system.blocked.tables.room? roomId with
      | none =>
        .error ("No se encontró la habitación con ID " ++ toString roomId)
      | some room => do
        raiseIf (room.categoryId ≠ data.categoryId) ("La habitación " ++ room.roomNumber ++
            " pertenece a la categoría " ++ toString room.categoryId ++
            ", no a la categoría " ++ toString data.categoryId)
        pure (.booking data roomId id (.roomLocked room)))
  | .roomLocked room =>
    some (system.check session (checkUnblocked system.blocked.hotel room data.stay)
      (.booking data roomId id .blocksRead))
  | .blocksRead =>
    some (system.check session (checkUnoccupied system.blocked.hotel roomId data.stay none)
      (.booking data roomId id .staysRead))
  | .staysRead =>
    some (system.write session (system.writeBooking data roomId id))

/-- Flush a move over the stored row. -/
def writeMove (call : RoomMoveCall) (surroundings : Surroundings)
    (loaded : Reservation) (room : Room)
    (current destination : RoomCategory) : Except String BlockedHotel :=
  match system.blocked.tables.reservation? loaded.id with
  | none => .error "StaleDataError"
  | some stored => do
    let override ← checkChecklist surroundings call loaded room
    validateReservationOccupancy destination (reservationActualGuestCount surroundings loaded) 0
    checkMovePrice surroundings call loaded current destination
    let tables ← syncRoomStatusesAfterMove
      (system.blocked.hotel.replaceReservation (movedReservation stored room))
      surroundings loaded loaded.roomId room.id call.originRoomDisposition
      override
    pure (system.blocked.withTables tables)

/-- A move locks the version of the reservation and the destination room,
reads its availability, and locks the origin of a checked-in reservation. -/
def nextMove (call : RoomMoveCall) (surroundings : Surroundings)
    (loaded : Reservation) : MoveStage -> Option (HotelSystem τ)
  | .loaded =>
    system.waitLock session (.reservation loaded.id) do
      lockReservationVersion system.blocked.hotel loaded call.clientVersion
      checkMoveInput call loaded
      pure (.moving call surroundings loaded .versionLocked)
  | .versionLocked =>
    system.lockNoWait session (.room call.toRoomId)
      (match system.blocked.tables.room? call.toRoomId with
      | none => .error "La habitacion destino no existe para este hotel"
      | some room =>
        .ok (.moving call surroundings loaded (.roomLocked room)))
  | .roomLocked room =>
    match enforceRoomMovePermission system.blocked.hotel surroundings loaded room with
    | .error _ => some (system.rollback session)
    | .ok (current, destination) =>
      some (system.advance session (.moving call surroundings loaded
        (.permitted room current destination)))
  | .permitted room current destination =>
    some (system.check session (checkUnblocked system.blocked.hotel room loaded.stay)
      (.moving call surroundings loaded (.blocksRead room current destination)))
  | .blocksRead room current destination =>
    some (system.check session
      (checkUnoccupied system.blocked.hotel room.id loaded.stay (some loaded.id))
      (.moving call surroundings loaded (.staysRead room current destination)))
  | .staysRead room current destination =>
    match loaded.roomId with
    | none =>
      some (system.advance session (.moving call surroundings loaded
        (.originLocked room current destination)))
    | some origin =>
      if loaded.status = .checkedIn then
        system.lockNoWait session (.room origin) (.ok (.moving call surroundings loaded
            (.originLocked room current destination)) :
            Except String Session)
      else
        some (system.advance session (.moving call surroundings loaded
          (.originLocked room current destination)))
  | .originLocked room current destination =>
    some (system.write session (system.writeMove call surroundings loaded room current destination))

/-- Flush an extension over the stored row. -/
def writeExtendedStay (call : ExtensionCall)
    (surroundings : ExtensionSurroundings) (loaded : Reservation) :
    Except String BlockedHotel :=
  match system.blocked.tables.reservation? loaded.id with
  | none => .error "StaleDataError"
  | some stored => do
    let status ← surroundings.settlement loaded
    if later : stored.checkOutDate < call.newCheckoutDate then
      pure (system.blocked.withTables (system.blocked.tables.replaceReservation
          (extendedReservation stored call.newCheckoutDate status later)))
    else throw "ck_reservation_dates"

def extensionRoom? (loaded : Reservation) : Option Room :=
  (Booking.truthy loaded.roomId).bind system.blocked.tables.room?

/-- An extension locks the company, the version of the reservation and its
room, and reads the blocks and the reservations of the added nights.  Where it
would have to reassign a reservation it ends here. -/
def nextExtend (call : ExtensionCall)
    (surroundings : ExtensionSurroundings) (loaded : Reservation) :
    ExtendStage -> Option (HotelSystem τ)
  | .loaded =>
    let read : Except String Session := do
      surroundings.accountChecks
      pure (.extending call surroundings loaded .companyLocked)
    match loaded.companyId with
    | none =>
      some (system.check session surroundings.accountChecks
        (.extending call surroundings loaded .companyLocked))
    | some companyId => system.waitLock session (.company companyId) read
  | .companyLocked =>
    system.waitLock session (.reservation loaded.id) do
      lockReservationVersion system.blocked.hotel loaded call.clientVersion
      checkExtendable loaded
      raiseIf (call.newCheckoutDate ≤ loaded.checkOutDate)
        "La nueva fecha de salida debe ser posterior a la fecha de salida actual"
      pure (.extending call surroundings loaded .versionLocked)
  | .versionLocked =>
    match loaded.roomId with
    | none =>
      some (system.advance session (.extending call surroundings loaded .roomLocked))
    | some roomId =>
      system.waitLock session (.room roomId) do
        checkExtensionRoomExists system.blocked.hotel loaded
        pure (.extending call surroundings loaded .roomLocked)
  | .roomLocked =>
    some (system.check session (raiseIf (rootRoomBlocked system.blocked.hotel loaded call = true)
        "La habitación no está disponible para la extensión")
      (.extending call surroundings loaded .rootRead))
  | .rootRead =>
    some (system.check session
      (raiseIf (extensionConflicts system.blocked.hotel loaded call.newCheckoutDate ≠ [] ∨
        call.confirmedImpactFingerprint ≠ none) "impact_plan_stale")
      (.extending call surroundings loaded .conflictsRead))
  | .conflictsRead =>
    some (system.check session (match system.extensionRoom? loaded with
      | none => .ok ()
      | some room => checkUnblocked system.blocked.hotel room
          (loaded.checkOutDate, call.newCheckoutDate))
      (.extending call surroundings loaded .blocksRead))
  | .blocksRead =>
    some (system.check session (match system.extensionRoom? loaded with
      | none => .ok ()
      | some room => checkUnoccupied system.blocked.hotel room.id
          (loaded.checkOutDate, call.newCheckoutDate) (some loaded.id))
      (.extending call surroundings loaded .staysRead))
  | .staysRead =>
    some (system.write session (system.writeExtendedStay call surroundings loaded))

/-- First statement of a transaction, before any lock. -/
def begin_ : Request -> Option (HotelSystem τ)
  | .createBlock data _ =>
    some (system.check session (do
        data.validateRange
        system.blocked.checkRoomExists data.roomId
        system.blocked.checkReservations data)
      (.creatingBlock data .prechecked))
  | .extendBlock blockId endsAt =>
    match system.blocked.blockRow? blockId with
    | none => some (system.rollback session)
    | some row =>
      some (system.advance session (.extendingBlock blockId endsAt row.roomId .located))
  | .createReservation data id _ otherChecks =>
    (Booking.truthy data.roomId).map fun roomId =>
      system.check session (do
          data.validate system.blocked.hotel
          otherChecks)
        (.booking data roomId id .validated)
  | .moveReservationRoom reservationId call surroundings =>
    (system.blocked.tables.reservation? reservationId).map fun loaded => system.check session
        (raiseIf (loaded.companyId ≠ none ∧ surroundings.granted .companyManage = false)
          "Para mover una reserva de empresa necesitás el permiso 'Administrar empresas'.")
        (.moving call surroundings loaded .loaded)
  | .extendReservationStay reservationId call _ surroundings =>
    (system.blocked.tables.reservation? reservationId).map fun loaded =>
      system.advance session (.extending call surroundings loaded .loaded)

/-- One statement of one session; `none` where it is not its turn or it waits
for a lock. -/
def step (event : τ × Statement) : Option (HotelSystem τ) :=
  match system.sessions event.1, event.2 with
  | .idle, .begin_ request => system.begin_ event.1 request
  | .creatingBlock data stage, .next =>
    system.nextCreateBlock event.1 data stage
  | .extendingBlock blockId endsAt roomId stage, .next =>
    system.nextExtendBlock event.1 blockId endsAt roomId stage
  | .booking data roomId id stage, .next =>
    system.nextBooking event.1 data roomId id stage
  | .moving call surroundings loaded stage, .next =>
    system.nextMove event.1 call surroundings loaded stage
  | .extending call surroundings loaded stage, .next =>
    system.nextExtend event.1 call surroundings loaded stage
  | _, .rollback => some (system.rollback event.1)
  | _, _ => none

/-- A block that is about to be written does not join one of the last day. -/
def SeesEveryBlock (event : τ × Statement) : Prop :=
  match system.sessions event.1 with
  | .creatingBlock data .blocksRead =>
    Blocks.SeesEveryBlock system.blocked data
  | _ => True

instance (event : τ × Statement) : Decidable (system.SeesEveryBlock event) := by
  unfold SeesEveryBlock
  split <;> infer_instance

end HotelSystem
end HotelPms.Blocks
