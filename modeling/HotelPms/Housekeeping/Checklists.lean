import HotelPms.Foundation.UniqueIndex
import HotelPms.Stays.Lodging

/-!
# Cleaning checklists

A check-out leaves a checklist of five points in the room.  While it is open
the room is neither released nor called clean, and a guest enters only by an
authorised move.  Completing the last point closes the checklist and releases
the room.
-/

namespace HotelPms.Housekeeping

open Hotel Checked Booking Stays

inductive RoomHousekeepingStatus
  | dirty
  | inProgress
  | clean
  | inspected
  deriving DecidableEq

/-- Points of a checklist. -/
inductive ItemCode
  | changeSheets
  | cleanBathroom
  | replenishTowels
  | emptyWaste
  | checkAmenities
  deriving DecidableEq

/-- The points a checklist is created with, and their labels. -/
def requiredChecklistItems : List (ItemCode × String) :=
  [(.changeSheets, "Cambiar sábanas"), (.cleanBathroom, "Limpiar baño"),
    (.replenishTowels, "Reponer toallas"),
    (.emptyWaste, "Vaciar residuos"),
    (.checkAmenities, "Revisar amenities")]

structure ChecklistItem where
  code : ItemCode
  label : String
  completed : Bool := false
  completedByUserId : Option Int := none

inductive ChecklistStatus
  | opened
  | completed
  deriving DecidableEq

/-- The checklist a check-out leaves in a room. -/
structure HousekeepingChecklist where
  id : Int
  roomId : Int
  reservationId : Int
  status : ChecklistStatus := .opened
  version : Int := 1
  items : List ChecklistItem
  createdByUserId : Option Int := none
  completedByUserId : Option Int := none

/-- The house with the checklists of its rooms. -/
structure CleaningState where
  house : HouseState
  housekeeping : Int -> RoomHousekeepingStatus := fun _ => .clean
  roomNotes : Int -> Option String := fun _ => none
  checklists : List HousekeepingChecklist := []
  nextChecklistId : Int := 1

namespace CleaningState

variable (state : CleaningState)

def roomStatus? (roomId : Int) : Option RoomStatus :=
  (state.house.room? roomId).map Room.status

def openChecklistExists (roomId : Int) : Bool :=
  state.checklists.any fun checklist => checklist.roomId = roomId ∧ checklist.status = .opened

def writeReservation (reservation : Reservation) : CleaningState :=
  { state with
    house := withHotel state.house (state.house.toHotelState.replaceReservation reservation) }

def writeChecklist (checklist : HousekeepingChecklist) : CleaningState :=
  { state with
    checklists :=
      Table.replace HousekeepingChecklist.id checklist state.checklists }

def addChecklist (checklist : HousekeepingChecklist) : CleaningState :=
  { state with
    checklists := state.checklists ++ [checklist]
    nextChecklistId := state.nextChecklistId + 1 }

/-- The hotel's answers, with the checklists of this state. -/
def answers (surroundings : Surroundings) : Surroundings :=
  { surroundings with openChecklist := state.openChecklistExists }

end CleaningState

structure RoomStateChange where
  status : Option RoomStatus := none
  housekeepingStatus : Option RoomHousekeepingStatus := none
  notes : Option String := none
  allowOpenChecklistOccupancyOverride : Bool := false
  checklistOverrideReason : Option String := none

namespace RoomStateChange

variable (change : RoomStateChange)

/-- The room is released or occupied. -/
def ReleaseOrOccupancy : Prop :=
  change.status = some .available ∨ change.status = some .occupied
deriving Decidable

/-- The room is called clean. -/
def HousekeepingReady : Prop :=
  change.housekeepingStatus = some .clean ∨
    change.housekeepingStatus = some .inspected
deriving Decidable

/-- Error of a change that an open checklist forbids. -/
def checklistDetail : String :=
  if change.ReleaseOrOccupancy then
    "No se puede liberar ni ocupar la habitación mientras tenga un checklist de limpieza pendiente."
  else
    "Completá los cinco puntos del checklist antes de marcar la habitación como limpia."

end RoomStateChange

variable (state : CleaningState) (roomId : Int)

def writeRoomState (change : RoomStateChange) : CleaningState :=
  { state with
    house :=
      match change.status with
      | none => state.house
      | some status => withHotel state.house (setRoomStatus state.house.toHotelState roomId status)
    housekeeping :=
      if change.status = some .cleaning then
        Function.update state.housekeeping roomId .dirty
      else
        match change.housekeepingStatus with
        | none => state.housekeeping
        | some status => Function.update state.housekeeping roomId status
    roomNotes :=
      match change.notes with
      | none => state.roomNotes
      | some text => Function.update state.roomNotes roomId (some text) }

/-- Change a room, unless its open checklist forbids it. -/
def mutateRoomState (change : RoomStateChange) : Except String CleaningState := do
  raiseIf (state.house.room? roomId = none) "La habitación no pertenece al hotel solicitado."
  raiseIf (change.status = none ∧ change.housekeepingStatus = none ∧
      change.notes = none)
    "Se requiere un cambio de estado de habitación."
  raiseIf (change.allowOpenChecklistOccupancyOverride = true ∧
      (change.status ≠ some .occupied ∨ blank change.checklistOverrideReason))
    "El override de checklist requiere ocupar la habitación y registrar un motivo."
  raiseIf ((change.ReleaseOrOccupancy ∨ change.HousekeepingReady) ∧
      state.openChecklistExists roomId = true ∧
      change.allowOpenChecklistOccupancyOverride = false)
    change.checklistDetail
  pure (writeRoomState state roomId change)

/-- The checklist of a check-out: the required points, none of them
completed. -/
def checkoutChecklist (reservationId : Int) (actorUserId : Option Int) : HousekeepingChecklist where
  id := state.nextChecklistId
  roomId := roomId
  reservationId := reservationId
  items := requiredChecklistItems.map fun item =>
    { code := item.1, label := item.2 }
  createdByUserId := actorUserId

/-- Add the checklist of a check-out, under the unique keys of the table. -/
def createCheckoutChecklist (reservationId : Int) (actorUserId : Option Int) :
    Except String CleaningState := do
  raiseIf (state.openChecklistExists roomId = true)
    "IntegrityError: uq_housekeeping_checklists_one_open_per_room"
  raiseIf (reservationId ∈ state.checklists.map HousekeepingChecklist.reservationId)
    "IntegrityError: uq_housekeeping_checklists_reservation"
  pure (state.addChecklist (checkoutChecklist state roomId reservationId actorUserId))

/-- Complete the points with a code. -/
def completeItems (items : List ChecklistItem) (code : ItemCode)
    (actorUserId : Int) : List ChecklistItem :=
  items.map fun item =>
    if item.code = code then
      { item with completed := true, completedByUserId := some actorUserId }
    else item

/-- Just the required points, and all of them completed. -/
def AllComplete (items : List ChecklistItem) : Prop :=
  items.length = requiredChecklistItems.length ∧
    (∀ required ∈ requiredChecklistItems, required.1 ∈ items.map ChecklistItem.code) ∧
    ∀ item ∈ items, item.completed = true
deriving Decidable

/-- What completing a point answers. -/
structure ChecklistCompletion where
  changed : Bool
  completedNow : Bool

def completeOpenItem (checklist : HousekeepingChecklist) (room : Room) (code : ItemCode)
    (actorUserId : Int) : Except String (CleaningState × ChecklistCompletion) :=
  let items := completeItems checklist.items code actorUserId
  if AllComplete items then do
    let closed := state.writeChecklist { checklist with
        items := items
        version := checklist.version + 1
        status := .completed
        completedByUserId := some actorUserId }
    let released ← mutateRoomState closed room.id
      { status := if room.status = .cleaning then some .available else none
        housekeepingStatus := some .clean }
    pure (released, { changed := true, completedNow := true })
  else do
    let marked := state.writeChecklist
      { checklist with items := items, version := checklist.version + 1 }
    let started ← if state.housekeeping room.id = .inProgress then pure marked
      else
        mutateRoomState marked room.id { housekeepingStatus := some .inProgress }
    pure (started, { changed := true, completedNow := false })

/-- Complete a point of a checklist; a repeated call changes nothing. -/
def completeChecklistItem (checklistId : Int) (code : ItemCode) (actorUserId : Int) :
    Except String (CleaningState × ChecklistCompletion) :=
  match Table.find HousekeepingChecklist.id checklistId state.checklists with
  | none => .error "No se encontró el checklist"
  | some checklist =>
    match state.house.room? checklist.roomId with
    | none => .error "No se encontró la habitación del checklist"
    | some room =>
      match checklist.items.find? fun item =>
          decide (item.code = code) with
      | none => .error "No se encontró el punto del checklist"
      | some item =>
        if item.completed = true ∨ checklist.status = .completed then
          .ok (state, { changed := false, completedNow := false })
        else do
          raiseIf (room.status = .occupied)
            "No se puede completar la limpieza mientras la habitación está ocupada"
          completeOpenItem state checklist room code actorUserId

/-- Free the room that was left, unless someone else still holds it. -/
def releaseOriginRoom (reservation : Reservation)
    (fromRoomId toRoomId : Int) (disposition : Option String) :
    Except String CleaningState :=
  if fromRoomId = toRoomId ∨ state.house.room? fromRoomId = none then
    .ok state
  else do
    let free ← checkRoomAvailability state.house.toHotelState fromRoomId
      reservation.stay (some reservation.id)
    if free then
      mutateRoomState state fromRoomId { status := some (dispositionStatus disposition) }
    else pure state

/-- Occupy the new room of a checked-in guest, and free the old one. -/
def syncRoomStatusesAfterMove (reservation : Reservation) (fromRoomId : Option Int) (toRoomId : Int)
    (disposition : Option String) (allowChecklistOverride : Bool)
    (overrideReason : Option String) : Except String CleaningState :=
  if reservation.status ≠ .checkedIn then .ok state
  else do
    raiseIf (state.house.room? toRoomId = none)
      "Destination room does not belong to the active hotel"
    let occupied ← mutateRoomState state toRoomId
      { status := some .occupied, allowOpenChecklistOccupancyOverride := allowChecklistOverride
        checklistOverrideReason := overrideReason }
    match fromRoomId with
    | none => pure occupied
    | some origin =>
      releaseOriginRoom occupied reservation origin toRoomId disposition

/-- Checks made under the lock of the destination room, and the writes. -/
def moveToLockedRoom (surroundings : Surroundings)
    (call : RoomMoveCall) (reservation : Reservation) (room : Room) :
    Except String CleaningState := do
  let hotel := state.house.toHotelState
  let categories ← enforceRoomMovePermission hotel surroundings reservation room
  let available ← checkRoomAvailability hotel room.id reservation.stay (some reservation.id)
  raiseIf (available = false) "La habitacion destino no esta disponible para esas fechas"
  let override ← checkChecklist surroundings call reservation room
  validateReservationOccupancy categories.2 (reservationActualGuestCount surroundings reservation) 0
  checkMovePrice surroundings call reservation categories.1 categories.2
  syncRoomStatusesAfterMove (state.writeReservation (movedReservation reservation room)) reservation
    reservation.roomId room.id call.originRoomDisposition override
    (if override then call.notes else none)

def moveReservationRoom (surroundings : Surroundings) (call : RoomMoveCall)
    (loaded : Reservation) : Except String CleaningState := do
  raiseIf (loaded.companyId ≠ none ∧ surroundings.granted .companyManage = false)
    "Para mover una reserva de empresa necesitás el permiso 'Administrar empresas'."
  lockReservationVersion state.house.toHotelState loaded call.clientVersion
  checkMoveInput call loaded
  match state.house.room? call.toRoomId with
  | none => throw "La habitacion destino no existe para este hotel"
  | some room =>
    moveToLockedRoom state (state.answers surroundings) call loaded room

/-- An occupied room goes to cleaning, and every room is dirty. -/
def checkoutChange (room : Room) : RoomStateChange where
  status := if room.status = .occupied then some .cleaning else none
  housekeepingStatus := some .dirty

/-- Check out a stay, and leave a checklist in its room. -/
def performCheckout (checks : CheckoutChecks) (reservationId : Int) (actorUserId : Option Int) :
    Except String CleaningState := do
  let reservation ← loadReservation state.house reservationId
  raiseIf (¬InHouse reservation)
    ("No se puede realizar el check-out: la reserva está en estado '" ++ reservation.status.value ++
      "'. La reserva debe estar checked_in o partial_checkin y tener al menos un huésped alojado.")
  let room ← roomForCheckout state.house.toHotelState reservation
  checkCheckoutBalance checks reservation
  let status ← transitionStatus reservation.status (some .checkedOut)
  let listed ← createCheckoutChecklist
    (state.writeReservation { reservation with status := status })
    room.id reservation.id actorUserId
  mutateRoomState listed room.id (checkoutChange room)

/-- Calls that change rooms, checklists and stays. -/
inductive CleaningCall
  | mutateRoomState (roomId : Int) (change : RoomStateChange)
  | completeChecklistItem (checklistId : Int) (code : ItemCode)
      (actorUserId : Int)
  | moveReservationRoom (reservationId : Int) (call : RoomMoveCall)
      (surroundings : Surroundings)
  | performCheckout (reservationId : Int) (checks : CheckoutChecks)
      (actorUserId : Option Int)

def performCall : CleaningCall → Except String CleaningState
  | .mutateRoomState roomId change => mutateRoomState state roomId change
  | .completeChecklistItem checklistId code actorUserId =>
    (completeChecklistItem state checklistId code actorUserId).map Prod.fst
  | .moveReservationRoom reservationId call surroundings =>
    match state.house.reservation? reservationId with
    | none => .error "No se encontró la reserva."
    | some loaded => moveReservationRoom state surroundings call loaded
  | .performCheckout reservationId checks actorUserId =>
    performCheckout state checks reservationId actorUserId

/-- The state after a call; a refused call changes nothing. -/
def cleaningStep (call : CleaningCall) : Option CleaningState :=
  match performCall state call with
  | .ok after => some after
  | .error _ => some state

end HotelPms.Housekeeping
