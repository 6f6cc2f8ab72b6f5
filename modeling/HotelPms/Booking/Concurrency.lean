import HotelPms.Booking.Availability
import HotelPms.Foundation.RowLocks
import HotelPms.Foundation.Transition

/-!
# Concurrent booking transactions

Creating a reservation and editing its dates or room, cut at the points where
transactions of other sessions can come in between: every row lock, every
availability read and the commit.  A read sees the committed rows; a
transaction has written nothing before its availability reads that they count,
since an edit leaves its own reservation out.  A validation that raises ends
the transaction without a write.
-/

namespace HotelPms.Booking

open Hotel HalfOpen Checked Transition

/-- Payload of a new reservation, with the product pricing resolved. -/
structure ReservationCreate where
  guestId : Int := 0
  categoryId : Int
  roomId : Option Int := none
  allocationLocked : Bool := false
  sellableProductId : Option Int := none
  companyId : Option Int := none
  checkInDate : Int
  checkOutDate : Int
  numAdults : Int := 1
  numChildren : Int := 0
  channelCode : String := "other_direct"
  source : String := "direct"
  mobilityRestriction : Bool := false
  isWaitListed : Bool := false
  deriving DecidableEq

/-- Payload of an edit.  A field left out is `none`; a room or a date can also
be submitted as null, which is `some none`. -/
structure ReservationUpdate where
  roomId : Option (Option Int) := none
  allocationLocked : Option Bool := none
  checkInDate : Option (Option Int) := none
  checkOutDate : Option (Option Int) := none
  numAdults : Option Int := none
  numChildren : Option Int := none
  mobilityRestriction : Option Bool := none
  deriving DecidableEq

/-- An edit with the version its client last saw, if it sends one. -/
structure UpdateCall where
  data : ReservationUpdate
  clientVersion : Option Int := none
  deriving DecidableEq

/-- Guests of a stay fit its category. -/
def validateReservationOccupancy (category : RoomCategory) (numAdults numChildren : Int) :
    Except String Unit := do
  raiseIf (numAdults + numChildren < 1)
    ("La reserva debe tener al menos 1 huésped; se solicitaron " ++
      toString (numAdults + numChildren) ++ ".")
  raiseIf (category.maxOccupancy < numAdults + numChildren)
    ("La categoría admite hasta " ++ toString category.maxOccupancy ++
      " huéspedes; se solicitaron " ++ toString (numAdults + numChildren) ++
      ".")

namespace ReservationCreate

variable (data : ReservationCreate) (state : HotelState)

def stay : Int × Int := (data.checkInDate, data.checkOutDate)

/-- Category and guests are valid. -/
def validate : Except String Unit :=
  match state.category? data.categoryId with
  | none =>
    .error ("No se encontró la categoría de habitación con ID " ++ toString data.categoryId)
  | some category =>
    validateReservationOccupancy category data.numAdults data.numChildren

/-- Room rows the creation locks before it reads availability. -/
def lockTargets : List Int :=
  match truthy data.roomId with
  | some roomId => ((state.room? roomId).map Room.id).toList
  | none =>
    if data.isWaitListed then []
    else (candidateRooms state data.categoryId).map Room.id

def requestedRoom (roomId : Int) : Except String (Option Int) :=
  match state.room? roomId with
  | none =>
    .error ("No se encontró la habitación con ID " ++ toString roomId)
  | some room => do
    raiseIf (room.categoryId ≠ data.categoryId)
      ("La habitación " ++ room.roomNumber ++ " pertenece a la categoría " ++
        toString room.categoryId ++ ", no a la categoría " ++
        toString data.categoryId)
    let available ← checkRoomAvailability state roomId data.stay none
    raiseIf (available = false) ("La habitación " ++ room.roomNumber ++
        " no está disponible para las fechas solicitadas")
    pure (some roomId)

/-- Rooms the creation may take once its locks are held: `none` stands for a
wait-listed reservation. -/
def roomChoices (allowOverbooking : Bool) : Except String (List (Option Int)) :=
  match truthy data.roomId with
  | some roomId => do
    let room ← data.requestedRoom state roomId
    pure [room]
  | none =>
    if data.isWaitListed then pure [none]
    else do
      let available ← findAvailableRooms state data.categoryId data.stay
      if available = [] then
        raiseIf (allowOverbooking = false) ("No hay habitaciones disponibles en la categoría " ++
            ((state.category? data.categoryId).map RoomCategory.name).getD "" ++
            " para las fechas solicitadas")
        pure [none]
      else
        -- The rooms come in no fixed order and the first one is taken.
        pure (available.map (some ·.id))

/-- The row written for the chosen room. -/
def row (id : Int) (roomId : Option Int)
    (datesOrdered : data.checkInDate < data.checkOutDate) : Reservation where
  id := id
  guestId := data.guestId
  roomId := roomId
  categoryId := data.categoryId
  companyId := data.companyId
  sellableProductId := data.sellableProductId
  checkInDate := data.checkInDate
  checkOutDate := data.checkOutDate
  datesOrdered := datesOrdered
  status := .pending
  channelCode := data.channelCode
  source := data.source
  allocationLocked := data.allocationLocked
  mobilityRestriction := data.mobilityRestriction
  numAdults := data.numAdults
  numChildren := data.numChildren

end ReservationCreate

namespace ReservationUpdate

variable (data : ReservationUpdate) (loaded : Reservation)

def changesDates : Bool :=
  data.checkInDate.isSome || data.checkOutDate.isSome

/-- Dates after the edit; a date submitted as null cannot be compared. -/
def newStay? : Option (Int × Int) := do
  let checkIn ← data.checkInDate.getD (some loaded.checkInDate)
  let checkOut ← data.checkOutDate.getD (some loaded.checkOutDate)
  pure (checkIn, checkOut)

/-- Dates after the edit, once a null date is ruled out. -/
def stayAfter : Int × Int := (data.newStay? loaded).getD loaded.stay

/-- Room whose availability a date change reads. -/
def targetRoomId : Option Int := data.roomId.getD loaded.roomId

/-- Room the edit moves the reservation to, if it submits one. -/
def submittedRoom? : Option Int := data.roomId.getD none

/-- Room after the edit: a room submitted as null leaves it as it was. -/
def newRoomId : Option Int := data.submittedRoom?.or loaded.roomId

/-- Guest counts are validated when one of them is submitted. -/
def validateOccupancy (state : HotelState) : Except String Unit :=
  if data.numAdults = none ∧ data.numChildren = none then pure ()
  else match state.category? loaded.categoryId with
    | none =>
      .error ("No se encontró la categoría de habitación con ID " ++ toString loaded.categoryId)
    | some category =>
      validateReservationOccupancy category (data.numAdults.getD loaded.numAdults)
        (data.numChildren.getD loaded.numChildren)

/-- Checks of a date change, made before any room row is locked. -/
def checkDates (state : HotelState) : Except String Unit := do
  data.validateOccupancy loaded state
  if data.changesDates then
    match data.newStay? loaded with
    | none => throw "TypeError"
    | some stay =>
      raiseIf (stay.2 ≤ stay.1) "La fecha de salida debe ser posterior a la fecha de entrada"
      match truthy (data.targetRoomId loaded) with
      | none => pure ()
      | some roomId =>
        let available ← checkRoomAvailability state roomId stay (some loaded.id)
        raiseIf (available = false) "La habitación no está disponible para las nuevas fechas"

def checkNewRoom (roomId : Int) (state : HotelState) : Except String Unit := do
  match state.room? roomId with
  | none => throw "No se encontró la habitación"
  | some room =>
    raiseIf (room.categoryId ≠ loaded.categoryId)
      "La nueva habitación debe pertenecer a la misma categoría"
    let available ← checkRoomAvailability state roomId (data.stayAfter loaded) (some loaded.id)
    raiseIf (available = false) "La nueva habitación no está disponible para esas fechas"

/-- A flush writes the attributes that differ from the loaded ones. -/
def column {α : Type} [DecidableEq α] (old new current : α) : α :=
  if new = old then current else new

/-- The stored row after the flush of the edit over the committed one, while
the schema's check constraints allow it. -/
def flush (current : Reservation) : Except String Reservation := do
  raiseIf (data.allocationLocked = some true ∧ data.roomId.getD (data.newRoomId loaded) = none)
    "Asigná una habitación antes de bloquear su reasignación."
  let stay := data.stayAfter loaded
  let checkIn := column loaded.checkInDate stay.1 current.checkInDate
  let checkOut := column loaded.checkOutDate stay.2 current.checkOutDate
  let numAdults := column loaded.numAdults (data.numAdults.getD loaded.numAdults) current.numAdults
  let numChildren := column loaded.numChildren
    (data.numChildren.getD loaded.numChildren) current.numChildren
  raiseIf (numAdults ≤ 0) "ck_reservation_adults_positive"
  raiseIf (numChildren < 0) "ck_reservation_children_positive"
  if ordered : checkIn < checkOut then
    pure { current with
      roomId := column loaded.roomId (data.newRoomId loaded) current.roomId
      checkInDate := checkIn
      checkOutDate := checkOut
      datesOrdered := ordered
      allocationLocked := column loaded.allocationLocked
        (data.allocationLocked.getD loaded.allocationLocked)
        current.allocationLocked
      numAdults := numAdults
      numChildren := numChildren
      mobilityRestriction := column loaded.mobilityRestriction
        (data.mobilityRestriction.getD loaded.mobilityRestriction)
        current.mobilityRestriction
      version := loaded.version + 1 }
  else throw "ck_reservation_dates"

end ReservationUpdate

inductive LockedRow
  | room (id : Int)
  | reservation (id : Int)
  deriving DecidableEq

/-- How far an edit has come. -/
inductive UpdateStage
  | loaded
  | versionLocked
  | datesChecked
  | roomLocked
  | roomChecked
  deriving DecidableEq

/-- What a session is doing.  An edit remembers the reservation as it loaded
it and the rows its date check read. -/
inductive Session
  | idle
  | creating (data : ReservationCreate)
  | readyToInsert (data : ReservationCreate) (roomId : Option Int)
  | updating (call : UpdateCall) (loaded : Reservation)
      (seen : List Reservation) (stage : UpdateStage)

/-- Steps of a session between two points of interleaving. -/
inductive BookingStep
  | beginCreate (data : ReservationCreate)
  | lockRoom (roomId : Int)
  | chooseRoom (roomId : Option Int)
  | insertReservation (id : Int)
  | beginUpdate (call : UpdateCall) (reservationId : Int)
  | lockReservationVersion
  | checkDates
  | lockNewRoom
  | checkNewRoom
  | commitUpdate
  | rollback
  deriving DecidableEq

/-- The committed tables, the row locks and the open transactions. -/
structure BookingSystem (τ : Type) where
  hotel : HotelState
  allowOverbooking : Bool := false
  locks : LockTable LockedRow τ := .empty
  sessions : τ → Session

namespace BookingSystem

variable {τ : Type} [DecidableEq τ]

variable (system : BookingSystem τ) (session : τ)

/-- Let one session go on without a write to the tables. -/
def advance (next : Session) : BookingSystem τ :=
  { system with sessions := Function.update system.sessions session next }

/-- Take a row lock and go on. -/
def lock (row : LockedRow) (next : Session) : BookingSystem τ :=
  { system.advance session next with locks := system.locks.acquire row session }

/-- End a transaction: its writes are committed and its locks given back. -/
def commit (hotel : HotelState) : BookingSystem τ :=
  { system.advance session .idle with hotel := hotel, locks := system.locks.release session }

/-- End a transaction without a write. -/
def rollback : BookingSystem τ :=
  system.commit session system.hotel

/-- Go on when the checks pass, otherwise end the transaction. -/
def guardWith (checks : Except String Unit) (next : Session) : BookingSystem τ :=
  match checks with
  | .ok _ => system.advance session next
  | .error _ => system.rollback session

/-- Insert the new reservation under a fresh id. -/
def insertReservation (data : ReservationCreate) (roomId : Option Int)
    (id : Int) : Option (BookingSystem τ) :=
  if fresh : id ∉ system.hotel.reservations.map Reservation.id then
    if ordered : data.checkInDate < data.checkOutDate then
      some (system.commit session (system.hotel.addReservation (data.row id roomId ordered) fresh))
    else some (system.rollback session)
  else none

/-- Compare the client's version with the row it has just locked. -/
def lockReservationVersion (call : UpdateCall) (loaded : Reservation) : Option (BookingSystem τ) :=
  if system.locks.Available (.reservation loaded.id) session then
    some (match system.hotel.reservation? loaded.id with
      | none => system.rollback session
      | some current =>
        if current.deletedAt ≠ none ∨ loaded.version ≠ current.version ∨
            some current.version ≠ call.clientVersion then
          system.rollback session
        else system.lock session (.reservation loaded.id) (.updating call loaded [] .versionLocked))
  else none

/-- Flush and commit an edit; the write waits for the reservation's lock. -/
def commitUpdate (call : UpdateCall) (loaded : Reservation) : Option (BookingSystem τ) :=
  if system.locks.Available (.reservation loaded.id) session then
    some (match system.hotel.reservation? loaded.id with
      | none => system.rollback session
      | some current =>
        match call.data.flush loaded current with
        | .error _ => system.rollback session
        | .ok row =>
          system.commit session (system.hotel.replaceReservation row))
  else none

/-- One step of one session; `none` where it is not its turn or it waits for
a lock. -/
def step (event : τ × BookingStep) : Option (BookingSystem τ) :=
  let session := event.1
  match system.sessions session, event.2 with
  | .idle, .beginCreate data =>
    some (system.guardWith session (data.validate system.hotel) (.creating data))
  | .creating data, .lockRoom roomId =>
    if roomId ∈ data.lockTargets system.hotel ∧ system.locks.Available (.room roomId) session then
      some (system.lock session (.room roomId) (.creating data))
    else none
  | .creating data, .chooseRoom roomId =>
    if ∀ target ∈ data.lockTargets system.hotel,
        system.locks.holder (.room target) = some session then
      match data.roomChoices system.hotel system.allowOverbooking with
      | .error _ => some (system.rollback session)
      | .ok choices =>
        if roomId ∈ choices then
          some (system.advance session (.readyToInsert data roomId))
        else none
    else none
  | .readyToInsert data roomId, .insertReservation id =>
    system.insertReservation session data roomId id
  | .idle, .beginUpdate call reservationId =>
    (system.hotel.reservation? reservationId).map fun loaded =>
      system.advance session (.updating call loaded [] .loaded)
  | .updating call loaded _ .loaded, .lockReservationVersion =>
    if call.clientVersion = none then none
    else system.lockReservationVersion session call loaded
  | .updating call loaded _ stage, .checkDates =>
    if stage = .versionLocked ∨ (stage = .loaded ∧ call.clientVersion = none) then
      some (system.guardWith session (call.data.checkDates loaded system.hotel)
        (.updating call loaded system.hotel.reservations .datesChecked))
    else none
  | .updating call loaded seen .datesChecked, .lockNewRoom =>
    call.data.submittedRoom?.bind fun roomId =>
      if system.hotel.room? roomId = none then
        some (system.rollback session)
      else if system.locks.Available (.room roomId) session then
        some (system.lock session (.room roomId) (.updating call loaded seen .roomLocked))
      else none
  | .updating call loaded seen .roomLocked, .checkNewRoom =>
    call.data.submittedRoom?.map fun roomId =>
      system.guardWith session (call.data.checkNewRoom loaded roomId system.hotel)
        (.updating call loaded seen .roomChecked)
  | .updating call loaded _ stage, .commitUpdate =>
    if stage = .roomChecked ∨ (stage = .datesChecked ∧ call.data.submittedRoom? = none) then
      system.commitUpdate session call loaded
    else none
  | _, .rollback => some (system.rollback session)
  | _, _ => none

end BookingSystem
end HotelPms.Booking
