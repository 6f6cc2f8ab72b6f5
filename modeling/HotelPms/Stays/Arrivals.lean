import HotelPms.Stays.RoomMoves

/-!
# Arrivals of guests

Each registered guest of a reservation is checked in once.  The first arrival
occupies the assigned room, and every arrival decides the status of the
reservation from the guests who have arrived, are registered and are expected.
What payments, documents and restrictions answer is given with each call.
-/

namespace HotelPms.Stays

open Hotel Checked Booking

structure GuestArrival where
  reservationId : Int
  guestId : Int
  arrivedAt : Int

def GuestArrival.key (arrival : GuestArrival) : Int × Int :=
  (arrival.reservationId, arrival.guestId)

/-- The tables of one hotel that arrivals read and write. -/
structure HouseState extends HotelState where
  guests : List Int := []
  distinctGuests : guests.Nodup
  additionalGuests : List (Int × Int) := []
  arrivals : List GuestArrival := []
  distinctArrivals : (arrivals.map GuestArrival.key).Nodup
  /-- Policy stored with a reservation at its first arrival. -/
  policySnapshot : Int → Option String := fun _ => none
  hotelPolicy : Option String := none

/-- What other tables answer when a guest is checked in. -/
structure ArrivalChecks where
  windowAndPayment : Except String Unit := .ok ()
  openChecklist : Bool := false
  roomClean : Bool := true
  restriction : Except String Unit := .ok ()
  prohibido : Except String Unit := .ok ()
  guestData : Except String Unit := .ok ()
  arrivedAt : Int := 0

section Reads

variable (state : HouseState) (reservation : Reservation)

/-- Row of a reservation that is not deleted. -/
def loadReservation (reservationId : Int) : Except String Reservation :=
  match (state.reservation? reservationId).filter fun row => row.deletedAt = none with
  | none =>
    .error ("No se encontró la reserva " ++ toString reservationId ++ ".")
  | some row => .ok row

/-- Profiles linked to a reservation. -/
def reservationGuests : List Int :=
  state.guests.filter fun guestId =>
    guestId = reservation.guestId ∨ (reservation.id, guestId) ∈ state.additionalGuests

/-- Recorded arrivals of a reservation. -/
def arrivalsOf (reservationId : Int) : List GuestArrival :=
  state.arrivals.filter (·.reservationId = reservationId)

/-- Policy of the reservation, or of the hotel, or the usual one. -/
def checkinStatusPolicy : Except String String := do
  let policy :=
    match state.policySnapshot reservation.id with
    | some policy => policy
    | none =>
      if state.hotelPolicy.getD "" = "" then "partial_checkin"
      else state.hotelPolicy.getD ""
  raiseIf (policy ≠ "partial_checkin" ∧ policy ≠ "checked_in_on_first_guest")
    "La política de estado del check-in no es válida. Revisá la configuración del hotel."
  pure policy

def activeRoom? : Option Room :=
  (reservation.roomId.bind state.room?).filter fun room =>
    room.isActive = true ∧ room.deletedAt = none

def loadReadyRoom (checks : ArrivalChecks) : Except String Room :=
  match activeRoom? state reservation with
  | none =>
    .error "No se puede realizar el check-in: asigná una habitación activa del hotel antes de alojar al huésped."
  | some room => do
    raiseIf (roomHasActiveBlock state.toHotelState room.id reservation.stay = true)
      "No se puede realizar el check-in: la habitación asignada tiene un bloqueo activo para las fechas de la estadía."
    raiseIf (checks.openChecklist = true)
      "No se puede realizar el check-in: primero debe completarse el checklist de limpieza de la habitación."
    raiseIf (room.status ≠ .available)
      "No se puede realizar el check-in: la habitación asignada debe estar disponible."
    raiseIf (checks.roomClean = false)
      "No se puede realizar el check-in: la habitación asignada debe estar limpia o inspeccionada."
    pure room

/-- The assigned room is occupied when a later guest arrives. -/
def loadOccupiedRoom : Except String Room :=
  match reservation.roomId with
  | none =>
    .error "No se puede registrar la llegada: la reserva no tiene una habitación asignada."
  | some _ =>
    match activeRoom? state reservation with
    | none =>
      .error "No se puede registrar la llegada: la habitación asignada no está disponible."
    | some room => do
      raiseIf (room.status ≠ .occupied)
        "No se puede registrar otra llegada: la habitación asignada no figura como ocupada. Revisá su estado."
      pure room

/-- Guests a reservation is made for. -/
def expectedCount : Int :=
  max 1 (reservation.numAdults + reservation.numChildren)

/-- Enough guests have arrived, and enough are registered. -/
def PartyComplete (arrived : Int) : Prop :=
  expectedCount reservation ≤ arrived ∧
    expectedCount reservation ≤ (reservationGuests state reservation).length
deriving Decidable

end Reads

/-- Statuses in which a guest may arrive. -/
def arrivalStatuses : List ReservationStatus :=
  [.pending, .depositPaid, .fullyPaid, .preCheckIn, .partialCheckIn, .checkedIn]

/-- Statuses before any guest has arrived. -/
def BeforeArrival (status : ReservationStatus) : Prop :=
  status = .pending ∨ status = .depositPaid ∨ status = .fullyPaid ∨ status = .preCheckIn
deriving Decidable

/-- Status an arrival asks for. -/
def arrivalTarget (policy : String) (firstArrival : Prop)
    [Decidable firstArrival] (partyComplete : Prop)
    [Decidable partyComplete] (status : ReservationStatus) :
    Option ReservationStatus :=
  if firstArrival ∧ policy = "checked_in_on_first_guest" then some .checkedIn
  else if policy = "partial_checkin" ∧ partyComplete then some .checkedIn
  else if BeforeArrival status then some .partialCheckIn
  else none

def transitionStatus (status : ReservationStatus)
    (target : Option ReservationStatus) : Except String ReservationStatus :=
  match target with
  | none => .ok status
  | some next => do
    raiseIf (status ≠ next ∧ next ∉ status.validTransitions)
      ("No se puede cambiar la reserva del estado " ++ status.value ++ " al estado " ++ next.value)
    pure next

section Writes

variable (state : HouseState)

def addArrival (arrival : GuestArrival)
    (fresh : arrival.key ∉ state.arrivals.map GuestArrival.key) : HouseState :=
  { state with
    arrivals := arrival :: state.arrivals
    distinctArrivals := List.nodup_cons.mpr ⟨fresh, state.distinctArrivals⟩ }

/-- The same house over other tables of the hotel. -/
def withHotel (hotel : HotelState) : HouseState :=
  { state with toHotelState := hotel }

/-- Store the policy of a reservation. -/
def snapshotPolicy (reservationId : Int) (policy : String) : HouseState :=
  { state with policySnapshot := Function.update state.policySnapshot reservationId (some policy) }

/-- The first arrival stores the policy and the time, and occupies the
room. -/
def recordFirstArrival (reservation : Reservation) (room : Room)
    (policy : String) (status : ReservationStatus) (arrivedAt : Int) :
    HouseState :=
  withHotel (snapshotPolicy state reservation.id policy) (setRoomStatus
      (state.toHotelState.replaceReservation { reservation with
        status := status
        actualCheckIn := some arrivedAt })
      room.id .occupied)

def recordLaterArrival (reservation : Reservation) (status : ReservationStatus) : HouseState :=
  withHotel state (state.toHotelState.replaceReservation { reservation with status := status })

end Writes

variable (state : HouseState) (checks : ArrivalChecks)

/-- Room of an arrival: ready for the first guest, occupied for the others. -/
def roomForArrival (reservation : Reservation) : Except String Room :=
  if (arrivalsOf state reservation.id).length = 0 then do
    checks.windowAndPayment
    loadReadyRoom state reservation checks
  else loadOccupiedRoom state reservation

def recordArrival (reservation : Reservation) (guestId : Int) (fresh : (reservation.id, guestId) ∉
      state.arrivals.map GuestArrival.key) : Except String HouseState := do
  raiseIf (guestId ∉ reservationGuests state reservation)
    "El huésped no está registrado en esta reserva."
  raiseIf (reservation.status ∉ arrivalStatuses)
    ("No se puede registrar la llegada: la reserva está en estado '" ++
      reservation.status.value ++ "'.")
  let priorArrivals := (arrivalsOf state reservation.id).length
  let policy ← checkinStatusPolicy state reservation
  let room ← roomForArrival state checks reservation
  checks.restriction
  checks.prohibido
  checks.guestData
  let status ← transitionStatus reservation.status (arrivalTarget policy (priorArrivals = 0)
      (PartyComplete state reservation (priorArrivals + 1))
      reservation.status)
  let recorded := addArrival state
    { reservationId := reservation.id, guestId := guestId, arrivedAt := checks.arrivedAt } fresh
  if priorArrivals = 0 then
    pure (recordFirstArrival recorded reservation room policy status checks.arrivedAt)
  else pure (recordLaterArrival recorded reservation status)

/-- Check in one guest; a repeated call returns the recorded arrival. -/
def performGuestCheckin (reservationId guestId : Int) : Except String HouseState := do
  let reservation ← loadReservation state reservationId
  if recorded : (reservation.id, guestId) ∈ state.arrivals.map GuestArrival.key then
    pure state
  else recordArrival state checks reservation guestId recorded

theorem loadReservation_eq_ok {state : HouseState} {reservationId : Int} {row : Reservation}
    (loaded : loadReservation state reservationId = .ok row) :
    state.reservation? reservationId = some row ∧ row.deletedAt = none := by
  unfold loadReservation at loaded
  split at loaded
  · cases loaded
  · next found selected =>
    cases loaded
    obtain ⟨stored, present⟩ := Option.filter_eq_some_iff.mp selected
    exact ⟨stored, of_decide_eq_true present⟩

theorem performGuestCheckin_cases {state next : HouseState} {checks : ArrivalChecks}
    {reservationId guestId : Int}
    (performed : performGuestCheckin state checks reservationId guestId = .ok next) :
    ∃ row, loadReservation state reservationId = .ok row ∧ (next = state ∨
        ∃ fresh, recordArrival state checks row guestId fresh = .ok next) := by
  obtain ⟨row, loaded, performed⟩ := bind_eq_ok.mp performed
  refine ⟨row, loaded, ?_⟩
  split at performed
  · exact .inl (pure_eq_ok.mp performed).symm
  · next fresh => exact .inr ⟨fresh, performed⟩

structure ArrivalRecord (state : HouseState) (checks : ArrivalChecks)
    (reservation : Reservation) (recorded next : HouseState)
    (policy : String) (status : ReservationStatus) (room : Room) : Prop where
  arriving : reservation.status ∈ arrivalStatuses
  policyRead : checkinStatusPolicy state reservation = .ok policy
  transition : transitionStatus reservation.status
    (arrivalTarget policy ((arrivalsOf state reservation.id).length = 0)
      (PartyComplete state reservation ((arrivalsOf state reservation.id).length + 1))
      reservation.status) = .ok status
  first : (arrivalsOf state reservation.id).length = 0 →
    loadReadyRoom state reservation checks = .ok room ∧
      next = recordFirstArrival recorded reservation room policy status checks.arrivedAt
  later : (arrivalsOf state reservation.id).length ≠ 0 →
    loadOccupiedRoom state reservation = .ok room ∧
      next = recordLaterArrival recorded reservation status

theorem recordArrival_eq_ok {state next : HouseState} {checks : ArrivalChecks}
    {reservation : Reservation} {guestId : Int}
    {fresh : (reservation.id, guestId) ∉ state.arrivals.map GuestArrival.key}
    (performed : recordArrival state checks reservation guestId fresh = .ok next) :
    ∃ policy status room, ArrivalRecord state checks reservation (addArrival state
        { reservationId := reservation.id, guestId := guestId
          arrivedAt := checks.arrivedAt } fresh)
      next policy status room := by
  obtain ⟨_, -, performed⟩ := bind_eq_ok.mp performed
  obtain ⟨_, arriving, performed⟩ := bind_eq_ok.mp performed
  obtain ⟨policy, policyRead, performed⟩ := bind_eq_ok.mp performed
  obtain ⟨room, roomRead, performed⟩ := bind_eq_ok.mp performed
  obtain ⟨_, -, performed⟩ := bind_eq_ok.mp performed
  obtain ⟨_, -, performed⟩ := bind_eq_ok.mp performed
  obtain ⟨_, -, performed⟩ := bind_eq_ok.mp performed
  obtain ⟨status, transition, performed⟩ := bind_eq_ok.mp performed
  rw [raiseIf_eq_ok, not_not] at arriving
  unfold roomForArrival at roomRead
  refine ⟨policy, status, room, arriving, policyRead, transition, ?_, ?_⟩
  · intro first
    rw [if_pos first] at roomRead performed
    obtain ⟨_, -, ready⟩ := bind_eq_ok.mp roomRead
    exact ⟨ready, (pure_eq_ok.mp performed).symm⟩
  · intro later
    rw [if_neg later] at roomRead performed
    exact ⟨roomRead, (pure_eq_ok.mp performed).symm⟩

/-- Counts a client sends; what is left out stays as it is. -/
structure PartySizeUpdate where
  numAdults : Option Int := none
  numChildren : Option Int := none
  versionAndRestriction : Except String Unit := .ok ()

/-- Row of a reservation that a client edits. -/
def findReservation (reservationId : Int) : Except String Reservation :=
  match (state.reservation? reservationId).filter fun row => row.deletedAt = none with
  | none => .error "No se encontró la reserva."
  | some row => .ok row

/-- New counts fit the category of the reservation. -/
def checkPartySize (update : PartySizeUpdate) (reservation : Reservation) : Except String Unit :=
  if update.numAdults = none ∧ update.numChildren = none then .ok ()
  else
    match state.category? reservation.categoryId with
    | none =>
      .error ("No se encontró la categoría de habitación con ID " ++
        toString reservation.categoryId)
    | some category =>
      validateReservationOccupancy category (update.numAdults.getD reservation.numAdults)
        (update.numChildren.getD reservation.numChildren)

/-- The reservation with the declared guests of an update. -/
def resizedReservation (update : PartySizeUpdate) (reservation : Reservation) : Reservation :=
  { reservation with
    numAdults := update.numAdults.getD reservation.numAdults
    numChildren := update.numChildren.getD reservation.numChildren
    version := reservation.version + 1 }

/-- Change the declared guests of a reservation. -/
def updatePartySize (update : PartySizeUpdate)
    (reservationId : Int) : Except String HouseState := do
  let reservation ← findReservation state reservationId
  update.versionAndRestriction
  checkPartySize state update reservation
  pure (withHotel state (state.toHotelState.replaceReservation
    (resizedReservation update reservation)))

def roomCapacityCategory (reservation : Reservation) : Option RoomCategory :=
  match reservation.roomId with
  | none => state.category? reservation.categoryId
  | some roomId =>
    (state.room? roomId).bind (state.category? ·.categoryId)

def linkedGuestIds (reservation : Reservation) : List Int :=
  (reservation.guestId :: (state.additionalGuests.filter fun link =>
      link.1 = reservation.id).map Prod.snd).dedup

/-- Link profiles the hotel has, and new ones, to a reservation. -/
def addGuests (reservationId : Int) (existingGuests newGuests : List Int)
    (fresh : (newGuests ++ state.guests).Nodup) : Except String HouseState := do
  let reservation ← findReservation state reservationId
  raiseIf (reservation.status ∉ arrivalStatuses)
    "No se pueden agregar perfiles en el estado actual de la reserva."
  match roomCapacityCategory state reservation with
  | none =>
    throw "No se encontró la categoría de habitación para la reserva."
  | some category => do
    let linked := linkedGuestIds state reservation
    let incoming := existingGuests.dedup.filter (· ∉ linked)
    let requested :=
      linked.length + incoming.length + newGuests.length
    raiseIf (category.maxOccupancy < requested)
      ("Guest capacity exceeded for reservation room category: " ++
        "max_occupancy=" ++ toString category.maxOccupancy ++
        ", requested_total=" ++ toString requested)
    let links := ((existingGuests ++ newGuests).dedup.map fun guestId =>
      (reservation.id, guestId)).filter (· ∉ state.additionalGuests)
    pure { state with
      guests := newGuests ++ state.guests
      distinctGuests := fresh
      additionalGuests := state.additionalGuests ++ links }

end HotelPms.Stays
