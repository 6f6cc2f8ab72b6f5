import HotelPms.Ota.Incoming

/-!
# Processing of a webhook

A webhook finds the mapping of its booking.  A booking without a mapping gets
one, and a reservation unless it arrives cancelled.  A mapping with a
reservation is updated or cancelled, and one without a reservation gets one.
Whatever raises an error is rolled back by the endpoint.
-/

namespace HotelPms.Ota

open Hotel Payments Booking Checked FloatFormat

section

variable {F : Type} [FloatFormat F]

namespace OtaReservation

variable (reservation : OtaReservation)

/-- Leave the reservation to the staff, with a note. -/
def markManualReview (reason : String) : OtaReservation :=
  let existing := Text.strip (reservation.notes.getD "")
  let note := Text.strip ("[OTA MANUAL REVIEW] " ++ reason)
  { reservation with
    requiresManualReview := true
    allocationStatus := "manual_review"
    notes := some (if existing = "" then note
        else Text.strip (existing ++ "\n" ++ note)) }

/-- The stay, party and notes of a payload. -/
def withStay (normalized : NormalizedReservation F)
    (ordered : normalized.checkInDate < normalized.checkOutDate) :
    OtaReservation :=
  { reservation with
    checkInDate := normalized.checkInDate
    checkOutDate := normalized.checkOutDate
    datesOrdered := ordered
    numAdults := normalized.numAdults
    numChildren := normalized.numChildren
    notes := normalized.notes.or reservation.notes }

/-- The reservation at a new price. -/
def repriced : Option PricingResult -> Except UpdateError OtaReservation
  | none => .ok reservation
  | some pricing =>
    if fits : (pricing.applyTo reservation.money).Fit then
      .ok { reservation with
        datesOrdered := reservation.stayOrdered
        sellableProductId := pricing.sellableProductId
        ratePlanId := pricing.ratePlanId
        taxPolicyId := pricing.taxPolicyId
        money := pricing.applyTo reservation.money
        moneyFits := fits
        pricingSnapshot := pricing.pricingSnapshot }
    else .error (.other "money columns")

end OtaReservation

/-- A refusal of the reservation service. -/
def refused {α : Type} : Except String α -> Except UpdateError α :=
  Except.mapError UpdateError.reservation

variable (env : OtaEnvironment F) (tables : OtaTables) (desk : Desk) (reservation : OtaReservation)

def validateRoomForStay (normalized : NormalizedReservation F) : Except String Unit :=
  match truthy reservation.roomId with
  | none => .ok ()
  | some roomId => do
    let available ← checkRoomAvailability desk.hotelState roomId
      normalized.stay (some reservation.id)
    raiseIf (available = false) "La habitación no está disponible para las nuevas fechas"

/-- Change the stay, party and notes of a reservation, at a new price where
the price is not kept. -/
def updateReservationFields (normalized : NormalizedReservation F) :
    Except UpdateError OtaReservation := do
  raiseIf (env.guestProhibited desk reservation.guestId = true) (.other "GuestProhibitedError")
  match desk.category? reservation.categoryId with
  | none => .error (.reservation ("No se encontró la categoría de habitación con ID " ++
        toString reservation.categoryId))
  | some category =>
    refused (validateReservationOccupancy category normalized.numAdults normalized.numChildren)
    if ordered : normalized.checkInDate < normalized.checkOutDate then
      refused (validateRoomForStay desk reservation normalized)
      let pricing ← env.dateChangePricing desk reservation normalized.stay
        (normalized.numAdults + normalized.numChildren)
      let updated ← reservation.repriced pricing
      pure { updated.withStay normalized ordered with version := reservation.version + 1 }
    else .error (.reservation "La fecha de salida debe ser posterior a la fecha de entrada")

/-- The reservation once its fields are changed.  Where the reservation
service refuses the change, the fields are written all the same. -/
def changeFields (normalized : NormalizedReservation F) : Except OtaError OtaReservation :=
  match updateReservationFields env desk reservation normalized with
  | .ok updated => .ok updated
  | .error (.other message) => .error (.processing message)
  | .error (.reservation _) =>
    if ordered : normalized.checkInDate < normalized.checkOutDate then
      .ok (reservation.withStay normalized ordered)
    else .error (.processing "stay dates")

/-- What becomes of a modification: the staff reviews it, with an error on the
mapping and a note on the reservation, or it is applied in a category and
room. -/
inductive ModificationPlan
  | review (errorMessage reason : String)
  | apply (category : CatalogCategory) (room : Room)

/-- A stay in house or closed keeps its dates and its room, whose category is
still a candidate. -/
def planOperational (normalized : NormalizedReservation F)
    (candidateCategories : List CatalogCategory) : ModificationPlan :=
  let review := ModificationPlan.review
    "Modification would change stay or room assignment after check-in/checkout"
    ("La modificacion OTA intenta cambiar la estadia o la habitacion " ++
      "de una reserva ya operada.")
  match reservation.roomId.bind desk.room?, candidateCategories.find? fun category =>
        decide (category.id = reservation.categoryId) with
  | some room, some category =>
    if normalized.stay = reservation.stay ∧ room.categoryId = reservation.categoryId then
      .apply category room
    else review
  | _, _ => review

/-- Whether a modification is applied, and in which room. -/
def planModification (normalized : NormalizedReservation F)
    (candidateCategories : List CatalogCategory) :
    Except OtaError ModificationPlan :=
  if reservation.status = .cancelled then
    .ok (.review "Modification received for a cancelled reservation"
      ("Llego una modificacion OTA sobre una reserva ya cancelada " ++ "internamente."))
  else if candidateCategories = [] then
    .ok (.review "No se pudo mapear el producto OTA a una categoria interna"
      "El cambio OTA no pudo mapearse a una categoria interna.")
  else if reservation.Operational then
    .ok (planOperational desk reservation normalized candidateCategories)
  else do
    match ← reported (selectRoom desk (some reservation.id) normalized
        candidateCategories (reservation.roomId.bind desk.room?)) with
    | some (category, room) => pure (.apply category room)
    | none => pure (.review ("OTA modification rejected: no compatible room is available; " ++
          "resolve the change in the provider extranet")
        ("El cambio OTA no tenia una habitacion compatible disponible; " ++
          "se conservaron las condiciones existentes."))

/-- The commercial columns of a payload. -/
def OtaReservation.withContext (context : CommercialContext) (category : CatalogCategory)
    (externalReservationId : String) : OtaReservation :=
  { reservation with
    datesOrdered := reservation.stayOrdered
    sellableProductId := context.sellableProductId
    ratePlanId := context.ratePlanId
    categoryId := category.id
    externalId := some externalReservationId }

/-- The room of a payload; a stay in house or closed keeps its own. -/
def OtaReservation.assigned (reservation : OtaReservation)
    (category : CatalogCategory) (room : Room) : OtaReservation :=
  if reservation.Operational then reservation
  else
    { reservation with
      datesOrdered := reservation.stayOrdered
      roomId := some room.id
      categoryId := category.id
      requiresManualReview := false
      allocationStatus := "assigned" }

def applyModification (normalized : NormalizedReservation F)
    (receivedAt : Int) (category : CatalogCategory) (room : Room) :
    Except OtaError (Desk × OtaReservation) := do
  let (desk, _) ← syncGuestRecord desk (desk.guest? reservation.guestId) normalized
  let changed ← changeFields env desk reservation normalized
  let written ← applyFinancialSnapshot env desk (changed.withContext
      (desk.catalog.resolveCommercialContext normalized) category
      normalized.externalReservationId)
    normalized receivedAt
    (decide (changed.Operational ∨ changed.status = .cancelled))
  pure (desk, written.assigned category room)

/-- A new or modified booking with a reservation. -/
def updateExistingReservation (mapping : OtaMapping) (reservation : OtaReservation)
    (normalized : NormalizedReservation F) (receivedAt : Int) :
    Except OtaError OtaTables := do
  let context := tables.desk.catalog.resolveCommercialContext normalized
  match ← planModification tables.desk reservation normalized context.candidateCategories with
  | .review errorMessage reason =>
    pure (tables.writeMapping
      { mapping with syncStatus := .conflict, errorMessage := some errorMessage }
      (tables.desk.writeReservation (reservation.markManualReview reason)))
  | .apply category room =>
    let (desk, updated) ← applyModification env tables.desk reservation
      normalized receivedAt category room
    pure (tables.writeMapping { mapping with syncStatus := .synced, errorMessage := none }
      (desk.writeReservation updated))

def hasPaymentHistoryForCancellation : Bool :=
  reservation.money.externalPaidEverConfirmed ||
    decide (0 < reservation.money.externalPaidAmount) ||
    ((desk.ledger.forReservation reservation.id).any fun transaction =>
      transaction.status = .completed) ||
    decide (0 < reservation.financials.paidAmountWithLegacyFallback desk.ledger)

def transitionReservationStatus (newStatus : ReservationStatus) : Except String OtaReservation := do
  raiseIf (¬newStatus ∈ reservation.status.validTransitions)
    ("No se puede cambiar la reserva del estado " ++
      reservation.status.value ++ " al estado " ++ newStatus.value)
  pure { reservation with datesOrdered := reservation.stayOrdered, status := newStatus }

/-- A reservation that its agency reports as cancelled. -/
def cancelReservation : Except OtaError OtaReservation :=
  if reservation.Operational then
    .ok { reservation.markManualReview
      ("La OTA informo una cancelacion pero la reserva ya estaba " ++ "operada.") with
      settlementStatus := "manual_resolution_required" }
  else do
    let needsCancellationReview :=
      hasPaymentHistoryForCancellation desk reservation
    let cancelled ← if reservation.status = .cancelled then pure reservation
      else reported (transitionReservationStatus reservation .cancelled)
    pure { cancelled with
      requiresManualReview := needsCancellationReview
      allocationStatus := "cancelled"
      settlementStatus :=
        if needsCancellationReview then "review_cancellation"
        else "not_applicable" }

/-- A cancelled booking with a reservation. -/
def cancelExistingReservation (mapping : OtaMapping)
    (reservation : OtaReservation) (normalized : NormalizedReservation F) :
    Except OtaError OtaTables := do
  let (desk, _) ← syncGuestRecord tables.desk (tables.desk.guest? reservation.guestId) normalized
  let cancelled ← cancelReservation desk reservation
  pure (tables.writeMapping (if reservation.Operational then
      { mapping with
        syncStatus := .conflict
        errorMessage := some ("Cancellation received after " ++
          "check-in/checkout; manual resolution required") }
    else { mapping with syncStatus := .synced, errorMessage := none })
    (desk.writeReservation cancelled))

/-- Create the reservation of a booking and link it. -/
def materializeIncomingReservation (mapping : OtaMapping)
    (normalized : NormalizedReservation F) (receivedAt : Int) :
    Except OtaError OtaTables := do
  let (desk, created) ← bookIncoming env tables.desk normalized
  let reservation ← applyFinancialSnapshot env desk created normalized receivedAt false
  pure (tables.writeMapping
    { mapping with reservationId := some reservation.id, syncStatus := .synced }
    (desk.writeReservation reservation))

/-- A booking that is known, with its reservation if it has one. -/
def processExistingIncomingReservation (mapping : OtaMapping) (reservation : Option OtaReservation)
    (normalized : NormalizedReservation F) (receivedAt : Int) :
    Except OtaError OtaTables :=
  match reservation with
  | none => materializeIncomingReservation env tables
      { mapping with
        otaGuestName := normalized.guestFullName
        syncStatus := .pending
        errorMessage := none }
      normalized receivedAt
  | some reservation =>
    let mapping := { mapping with otaGuestName := normalized.guestFullName, errorMessage := none }
    if normalized.IsCancellation then
      cancelExistingReservation tables mapping reservation normalized
    else
      updateExistingReservation env tables mapping reservation normalized receivedAt

/-- Mapping of a booking that is not known yet. -/
def legacyMapping (normalized : NormalizedReservation F) : OtaMapping where
  otaName := normalized.provider.code
  otaReservationId := normalized.externalReservationId
  otaGuestName := normalized.guestFullName

def processNormalizedWebhook (normalized : NormalizedReservation F) (receivedAt : Int) :
    Except OtaError OtaTables := do
  raiseIf (¬normalized.Identified) .missingIdentifier
  match tables.mapping? normalized.key with
  | some mapping =>
    match mapping.reservationId with
    | none =>
      processExistingIncomingReservation env tables mapping none normalized receivedAt
    | some id =>
      match tables.desk.reservation? id with
      | none => .error .linkedReservationUnavailable
      | some reservation =>
        processExistingIncomingReservation env tables mapping
          (some reservation) normalized receivedAt
  | none =>
    if normalized.IsCancellation then
      pure (tables.writeMapping { legacyMapping normalized with
          syncStatus := .conflict
          errorMessage :=
            some "Cancellation received for unknown OTA reservation" }
        tables.desk)
    else
      materializeIncomingReservation env tables (legacyMapping normalized) normalized receivedAt

/-- What a webhook leaves: the endpoint rolls back what raises. -/
def deliver (normalized : NormalizedReservation F) (receivedAt : Int) : OtaTables :=
  match processNormalizedWebhook env tables normalized receivedAt with
  | .ok after => after
  | .error _ => tables

end

end HotelPms.Ota
