import HotelPms.Booking.Concurrency
import HotelPms.Foundation.Text
import Mathlib.Data.Rat.Defs

/-!
# Moving a reservation to another room

A manual move, and the grouped move that other operations make for a
reservation that is in their way.  Both write the new room on the reservation;
the move of a checked-in reservation also changes the status of the two rooms.
Permissions, open checklists, linked guests and prices are answers of other
tables, given with each call.
-/

namespace HotelPms.Stays

open Hotel Checked Booking

def setRoomStatus (state : HotelState) (roomId : Int) (status : RoomStatus) :
    HotelState :=
  { state with
    rooms := state.rooms.map fun room =>
      if room.id = roomId then { room with status := status } else room
    distinctRooms := by
      have sameIds : (state.rooms.map fun room =>
          if room.id = roomId then { room with status := status }
          else room).map Room.id = state.rooms.map Room.id := by
        rw [List.map_map]
        refine List.map_congr_left fun room _ => ?_
        simp only [Function.comp]
        split_ifs <;> rfl
      rw [sameIds]
      exact state.distinctRooms }

/-- Permissions a room move may ask for. -/
inductive Permission
  | companyManage
  | reservationMove
  | reservationMoveCategory
  | reservationMoveCapacity
  | roomDirtyOverride
  | rateAdjust
  deriving DecidableEq

/-- What the tables outside this model answer during a call. -/
structure Surroundings where
  hasRole : Bool := true
  granted : Permission -> Bool := fun _ => true
  openChecklist : Int -> Bool := fun _ => false
  additionalGuests : Int -> Int := fun _ => 0
  /-- New quote less the stored total. -/
  amountDelta : Except String ℚ := .ok 0

/-- Texts that are missing, empty or blank. -/
def blank (text : Option String) : Prop := Text.strip (text.getD "") = ""
deriving Decidable

/-- The row as the client last saw it is the stored row. -/
def lockReservationVersion (state : HotelState) (loaded : Reservation)
    (clientVersion : Option Int) : Except String Unit := do
  raiseIf (clientVersion = none) "Se requiere la versión del cliente para modificar esta reserva"
  match (state.reservation? loaded.id).filter fun current => current.deletedAt = none with
  | none => throw "No se encontró la reserva en el hotel activo"
  | some current =>
    raiseIf (loaded.version ≠ current.version ∨ some current.version ≠ clientVersion)
      ("La reserva fue modificada por otra persona (versión esperada " ++
        (clientVersion.map toString).getD "None" ++ ", versión actual " ++
        toString current.version ++
        "). Actualizá la reserva e intentá de nuevo.")

/-- Declared guests, or the linked ones if they are more. -/
def reservationActualGuestCount (surroundings : Surroundings) (reservation : Reservation) : Int :=
  max (reservation.numAdults + reservation.numChildren)
    (1 + surroundings.additionalGuests reservation.id)

/-- Status of the room a checked-in reservation has left. -/
def dispositionStatus : Option String -> RoomStatus
  | some "available" => .available
  | some "maintenance" => .maintenance
  | _ => .cleaning

/-- Free the room that was left, unless someone else still holds it. -/
def releaseOriginRoom (state : HotelState) (surroundings : Surroundings)
    (reservation : Reservation) (fromRoomId toRoomId : Int)
    (disposition : Option String) : Except String HotelState :=
  if fromRoomId = toRoomId ∨ state.room? fromRoomId = none then .ok state
  else do
    let free ← checkRoomAvailability state fromRoomId reservation.stay (some reservation.id)
    if free then do
      raiseIf (dispositionStatus disposition = .available ∧
          surroundings.openChecklist fromRoomId = true)
        "No se puede liberar ni ocupar la habitación mientras tenga un checklist de limpieza pendiente."
      pure (setRoomStatus state fromRoomId (dispositionStatus disposition))
    else pure state

/-- Keep the room statuses in step with a checked-in reservation. -/
def syncRoomStatusesAfterMove (state : HotelState) (surroundings : Surroundings)
    (reservation : Reservation) (fromRoomId : Option Int) (toRoomId : Int)
    (disposition : Option String) (allowChecklistOverride : Bool) :
    Except String HotelState :=
  if reservation.status ≠ .checkedIn then .ok state
  else do
    raiseIf (state.room? toRoomId = none) "Destination room does not belong to the active hotel"
    raiseIf (surroundings.openChecklist toRoomId = true ∧ allowChecklistOverride = false)
      "No se puede liberar ni ocupar la habitación mientras tenga un checklist de limpieza pendiente."
    let occupied := setRoomStatus state toRoomId .occupied
    match fromRoomId with
    | none => pure occupied
    | some origin =>
      releaseOriginRoom occupied surroundings reservation origin toRoomId disposition

/-- The reservation in its new room; a company keeps the category it
contracted. -/
def movedReservation (reservation : Reservation) (room : Room) : Reservation :=
  { reservation with
    roomId := some room.id
    categoryId :=
      if reservation.companyId = none then room.categoryId
      else reservation.categoryId
    version := reservation.version + 1 }

@[simp] theorem movedReservation_roomId (reservation : Reservation) (room : Room) :
    (movedReservation reservation room).roomId = some room.id := rfl

/-- Move a reservation for another operation. -/
def createGroupedRoomMove (state : HotelState) (surroundings : Surroundings)
    (reservation : Reservation) (toRoom : Room) : Except String HotelState := do
  raiseIf (reservation.roomId = none) "Reservation has no source room to move"
  match state.category? toRoom.categoryId with
  | none =>
    throw "Destination room category does not belong to the active hotel"
  | some category => do
    validateReservationOccupancy category (reservationActualGuestCount surroundings reservation) 0
    syncRoomStatusesAfterMove (state.replaceReservation (movedReservation reservation toRoom))
      surroundings reservation reservation.roomId toRoom.id none false

/-- Payload of a manual move. -/
structure RoomMoveCall where
  toRoomId : Int
  clientVersion : Option Int
  reasonCode : Option String := none
  notes : Option String := none
  priceAction : String := "keep"
  originRoomDisposition : Option String := none
  originRoomDispositionNote : Option String := none

/-- Some registered guest of the reservation is in the house. -/
def InHouse (reservation : Reservation) : Prop :=
  reservation.status = .partialCheckIn ∨ reservation.status = .checkedIn
deriving Decidable

/-- Checks before the destination room is locked. -/
def checkMoveInput (call : RoomMoveCall) (reservation : Reservation) : Except String Unit := do
  raiseIf (call.priceAction ≠ "keep" ∧ call.priceAction ≠ "reprice")
    "price_action debe ser 'keep' o 'reprice'"
  raiseIf (blank call.reasonCode) "reason_code is required for room moves"
  raiseIf (InHouse reservation ∧ call.originRoomDisposition ≠ some "cleaning" ∧
      call.originRoomDisposition ≠ some "available" ∧
      call.originRoomDisposition ≠ some "maintenance")
    "Para trasladar una reserva alojada debes elegir el estado de la habitación origen"
  raiseIf (¬InHouse reservation ∧ call.originRoomDisposition ≠ none)
    "La decisión sobre la habitación origen sólo aplica a reservas alojadas"
  raiseIf (InHouse reservation ∧ call.originRoomDisposition ≠ some "cleaning" ∧
      blank call.originRoomDispositionNote)
    "Si la habitación origen no va a limpieza debes dejar una justificación"

/-- Category the reservation is moved from. -/
def currentCategory (state : HotelState) (reservation : Reservation) :
    Except String RoomCategory := do
  let categoryId ← match reservation.roomId with
    | none => pure reservation.categoryId
    | some roomId =>
      match state.room? roomId with
      | none => throw "La habitacion actual no existe para este hotel"
      | some room => pure room.categoryId
  match state.category? categoryId with
  | none =>
    throw "La categoria de la habitacion actual no existe para este hotel"
  | some category => pure category

/-- Least permission for a move between two categories. -/
def requiredRoomMovePermission (current destination : RoomCategory) :
    Permission :=
  if current.id = destination.id then .reservationMove
  else if current.maxOccupancy = destination.maxOccupancy then
    .reservationMoveCategory
  else .reservationMoveCapacity

/-- Permissions that include a required one: itself and the wider ones. -/
def roomMovePermissionCandidates (required : Permission) : List Permission :=
  [.reservationMove, .reservationMoveCategory, .reservationMoveCapacity].dropWhile (· ≠ required)

def roomMovePermissionDetail : Permission -> String
  | .reservationMove =>
    "Para mover dentro de la misma categoría necesitás el permiso 'Mover dentro de categoría'."
  | .reservationMoveCategory =>
    "Para mover a otra categoría necesitás el permiso 'Cambiar de categoría'."
  | _ =>
    "Para mover a una categoría con distinta capacidad necesitás el permiso 'Cambiar de capacidad'."

def enforceRoomMovePermission (state : HotelState) (surroundings : Surroundings)
    (reservation : Reservation) (room : Room) :
    Except String (RoomCategory × RoomCategory) := do
  let current ← currentCategory state reservation
  match state.category? room.categoryId with
  | none =>
    throw "La categoria de la habitacion destino no existe para este hotel"
  | some destination => do
    raiseIf (surroundings.hasRole = false)
      "No se pudo determinar el rol para autorizar el cambio de habitacion."
    let required := requiredRoomMovePermission current destination
    raiseIf ((roomMovePermissionCandidates required).any surroundings.granted = false)
      (roomMovePermissionDetail required)
    pure (current, destination)

/-- A checked-in guest enters a room with an open checklist only with a
reason and a permission. -/
def checkChecklist (surroundings : Surroundings) (call : RoomMoveCall)
    (reservation : Reservation) (room : Room) : Except String Bool :=
  if InHouse reservation ∧ surroundings.openChecklist room.id = true then do
    raiseIf (blank call.notes)
      "Para trasladar a una habitación con checklist de limpieza pendiente, ingresá un motivo."
    raiseIf (500 < (Text.strip (call.notes.getD "")).length)
      "El motivo del override no puede superar 500 caracteres."
    raiseIf (surroundings.granted .roomDirtyOverride = false)
      "Para autorizar el traslado a una habitación con limpieza pendiente necesitás el permiso 'Autorizar traslado a habitación con checklist pendiente'."
    pure true
  else .ok false

/-- A new price, or a better room for the old one, needs a permission of its
own. -/
def checkMovePrice (surroundings : Surroundings) (call : RoomMoveCall)
    (reservation : Reservation) (current destination : RoomCategory) :
    Except String Unit := do
  raiseIf (reservation.companyId ≠ none ∧ call.priceAction = "reprice")
    "El cambio de habitación de una reserva de empresa conserva la categoría y tarifa contratadas; registrá el adicional de persona por separado."
  let delta ← if reservation.companyId = none then surroundings.amountDelta
    else pure 0
  raiseIf (((delta ≠ 0 ∧ call.priceAction = "reprice") ∨
        (destination.id ≠ current.id ∧ call.priceAction = "keep" ∧ 0 < delta)) ∧
      surroundings.granted .rateAdjust = false)
    "Para aplicar un cambio de tarifa o una mejora sin cargo necesitás el permiso 'Ajustar tarifa de reserva'."

/-- Checks made under the lock of the destination room, and the writes. -/
def moveToLockedRoom (state : HotelState) (surroundings : Surroundings)
    (call : RoomMoveCall) (reservation : Reservation) (room : Room) :
    Except String HotelState := do
  let categories ← enforceRoomMovePermission state surroundings reservation room
  let available ← checkRoomAvailability state room.id reservation.stay (some reservation.id)
  raiseIf (available = false) "La habitacion destino no esta disponible para esas fechas"
  let override ← checkChecklist surroundings call reservation room
  validateReservationOccupancy categories.2 (reservationActualGuestCount surroundings reservation) 0
  checkMovePrice surroundings call reservation categories.1 categories.2
  syncRoomStatusesAfterMove (state.replaceReservation (movedReservation reservation room))
    surroundings reservation reservation.roomId room.id
    call.originRoomDisposition override

def moveReservationRoom (state : HotelState) (surroundings : Surroundings)
    (call : RoomMoveCall) (loaded : Reservation) :
    Except String HotelState := do
  raiseIf (loaded.companyId ≠ none ∧ surroundings.granted .companyManage = false)
    "Para mover una reserva de empresa necesitás el permiso 'Administrar empresas'."
  lockReservationVersion state loaded call.clientVersion
  checkMoveInput call loaded
  match state.room? call.toRoomId with
  | none => throw "La habitacion destino no existe para este hotel"
  | some room => moveToLockedRoom state surroundings call loaded room

theorem lockReservationVersion_eq_ok
    {state : HotelState} {loaded : Reservation} {clientVersion : Option Int}
    (locked : lockReservationVersion state loaded clientVersion = .ok ()) :
    ∃ current, state.reservation? loaded.id = some current ∧
      current.deletedAt = none ∧ loaded.version = current.version ∧
      clientVersion = some current.version := by
  obtain ⟨-, -, locked⟩ := bind_eq_ok.mp locked
  split at locked
  · cases locked
  · next current found =>
    obtain ⟨selected, present⟩ := Option.filter_eq_some_iff.mp found
    rw [raiseIf_eq_ok] at locked
    push Not at locked
    exact ⟨current, selected, of_decide_eq_true present, locked.1, locked.2.symm⟩

theorem deletedAt_of_lockReservationVersion
    {state : HotelState} {loaded : Reservation} {clientVersion : Option Int}
    (member : loaded ∈ state.reservations)
    (locked : lockReservationVersion state loaded clientVersion = .ok ()) :
    loaded.deletedAt = none := by
  obtain ⟨current, found, present, -⟩ := lockReservationVersion_eq_ok locked
  obtain ⟨currentIn, sameId⟩ := HotelState.reservation?_eq_some found
  rw [← state.reservation_eq_of_id_eq currentIn member sameId]
  exact present

theorem forall_replaceReservation
    {property : Reservation -> Prop} {state : HotelState} {row : Reservation}
    (holds : ∀ other ∈ state.reservations, property other)
    (written : property row) :
    ∀ other ∈ (state.replaceReservation row).reservations, property other := by
  intro other member
  rcases HotelState.mem_replaceReservation member with rfl | ⟨old, -⟩
  · exact written
  · exact holds other old

variable {state final : HotelState} {surroundings : Surroundings} {reservation : Reservation}

theorem releaseOriginRoom_eq_ok {fromRoomId toRoomId : Int} {disposition : Option String}
    (released : releaseOriginRoom state surroundings reservation fromRoomId
      toRoomId disposition = .ok final) :
    final = state ∨ final = setRoomStatus state fromRoomId (dispositionStatus disposition) := by
  unfold releaseOriginRoom at released
  split_ifs at released with same
  · exact .inl (Except.ok.inj released).symm
  · obtain ⟨free, -, released⟩ := bind_eq_ok.mp released
    split_ifs at released
    · obtain ⟨-, -, written⟩ := bind_eq_ok.mp released
      exact .inr (pure_eq_ok.mp written).symm
    · exact .inl (pure_eq_ok.mp released).symm

theorem syncRoomStatusesAfterMove_eq_ok {fromRoomId : Option Int} {toRoomId : Int}
    {disposition : Option String} {override : Bool}
    (synced : syncRoomStatusesAfterMove state surroundings reservation
      fromRoomId toRoomId disposition override = .ok final) :
    final.reservations = state.reservations ∧ final.blocks = state.blocks := by
  unfold syncRoomStatusesAfterMove at synced
  split_ifs at synced
  · rw [← Except.ok.inj synced]
    exact ⟨rfl, rfl⟩
  · obtain ⟨-, -, synced⟩ := bind_eq_ok.mp synced
    obtain ⟨-, -, synced⟩ := bind_eq_ok.mp synced
    cases fromRoomId with
    | none =>
      rw [← pure_eq_ok.mp synced]
      exact ⟨rfl, rfl⟩
    | some origin =>
      rcases releaseOriginRoom_eq_ok synced with rfl | rfl
      · exact ⟨rfl, rfl⟩
      · exact ⟨rfl, rfl⟩

theorem createGroupedRoomMove_eq_ok {toRoom : Room}
    (moved : createGroupedRoomMove state surroundings reservation toRoom = .ok final) :
    final.reservations = (state.replaceReservation
        (movedReservation reservation toRoom)).reservations ∧
      final.blocks = state.blocks := by
  obtain ⟨-, -, moved⟩ := bind_eq_ok.mp moved
  cases found : state.category? toRoom.categoryId with
  | none =>
    rw [found] at moved
    cases moved
  | some category =>
    rw [found] at moved
    obtain ⟨-, -, synced⟩ := bind_eq_ok.mp moved
    exact syncRoomStatusesAfterMove_eq_ok synced

theorem moveToLockedRoom_eq_ok {call : RoomMoveCall} {room : Room}
    (moved : moveToLockedRoom state surroundings call reservation room = .ok final) :
    checkRoomAvailability state room.id reservation.stay (some reservation.id) = .ok true ∧
      final.reservations = (state.replaceReservation
        (movedReservation reservation room)).reservations ∧
      final.blocks = state.blocks := by
  obtain ⟨categories, -, moved⟩ := bind_eq_ok.mp moved
  obtain ⟨available, checked, moved⟩ := bind_eq_ok.mp moved
  obtain ⟨_, isAvailable, moved⟩ := bind_eq_ok.mp moved
  obtain ⟨override, -, moved⟩ := bind_eq_ok.mp moved
  obtain ⟨-, -, moved⟩ := bind_eq_ok.mp moved
  obtain ⟨-, -, synced⟩ := bind_eq_ok.mp moved
  rw [raiseIf_eq_ok, Bool.not_eq_false] at isAvailable
  refine ⟨?_, syncRoomStatusesAfterMove_eq_ok synced⟩
  rw [checked, isAvailable]

theorem moveReservationRoom_eq_ok {call : RoomMoveCall} {loaded : Reservation}
    (moved : moveReservationRoom state surroundings call loaded = .ok final) :
    lockReservationVersion state loaded call.clientVersion = .ok () ∧
      checkMoveInput call loaded = .ok () ∧
      ∃ room, state.room? call.toRoomId = some room ∧
        moveToLockedRoom state surroundings call loaded room = .ok final := by
  obtain ⟨-, -, moved⟩ := bind_eq_ok.mp moved
  obtain ⟨_, version, moved⟩ := bind_eq_ok.mp moved
  obtain ⟨_, input, moved⟩ := bind_eq_ok.mp moved
  cases found : state.room? call.toRoomId with
  | none =>
    rw [found] at moved
    cases moved
  | some room =>
    rw [found] at moved
    exact ⟨version, input, room, rfl, moved⟩

end HotelPms.Stays
