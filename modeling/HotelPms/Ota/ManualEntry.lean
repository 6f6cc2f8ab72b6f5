import HotelPms.Ota.Webhooks

/-!
# Bookings entered by hand

A clerk may enter the booking of an agency.  The channel is a text, which
stands for a channel code; a reservation with that very text and number is
changed, and any other booking gets a new reservation.  No mapping is written.
-/

namespace HotelPms.Ota

open Hotel Payments Booking Checked

/-! ## Channels -/

/-- Source and channel code of a booking. -/
structure OtaChannel where
  source : String
  channelCode : String

/-- Channels that a clerk may name. -/
def otaChannels : List (String × OtaChannel) :=
  [("booking", ⟨"booking", "booking"⟩), ("booking.com", ⟨"booking", "booking"⟩),
    ("expedia", ⟨"expedia", "expedia"⟩),
    ("despegar", ⟨"other_ota", "despegar"⟩),
    ("other_ota", ⟨"other_ota", "other_ota"⟩)]

/-- Source and channel code of a channel; an unknown one counts as another
agency. -/
def sourceForChannel (channel : String) : OtaChannel :=
  ((otaChannels.find? (·.1 = channel)).map Prod.snd).getD ⟨"other_ota", "other_ota"⟩

@[simp] theorem sourceForChannel_code (provider : Provider) :
    (sourceForChannel provider.code).channelCode = provider.code := by
  cases provider <;> decide

/-- A booking as a clerk enters it, amounts in cents. -/
structure ManualOTAReservationCreate where
  guestId : Int
  categoryId : Int
  roomId : Option Int := none
  sellableProductId : Option Int := none
  ratePlanId : Option Int := none
  taxPolicyId : Option Int := none
  checkInDate : Int
  checkOutDate : Int
  numAdults : Int := 1
  numChildren : Int := 0
  channel : String
  externalId : String
  externalConfirmationCode : Option String := none
  notes : Option String := none
  arrivalTimeHint : Option String := none
  pricingChannelCode : Option String := none
  targetCurrency : Option String := none
  totalAmount : Option Int := none
  amountPaid : Option Int := none
  externalPaidCurrency : Option String := none
  externalPaidReference : Option String := none
  paymentCollectionModel : String := "hotel_collect"
  settlementStatus : Option String := none
  clientVersion : Option Int := none

namespace ManualOTAReservationCreate

variable (data : ManualOTAReservationCreate)

def stay : Int × Int :=
  (data.checkInDate, data.checkOutDate)

/-- Limits of the schema. -/
def Valid : Prop :=
  0 < data.numAdults ∧ 0 ≤ data.numChildren ∧
    data.channel.length ≤ 50 ∧ data.externalId.length ≤ 100 ∧
    (data.amountPaid.all fun amount =>
      decide (amount ≤ 0) || data.externalPaidReference.isSome) = true
deriving Decidable

end ManualOTAReservationCreate

/-- Answers of the rest of the application. -/
structure ManualEnvironment where
  /-- A text in small letters. -/
  lower : String -> String
  /-- Documents that a guest of a manual reservation lacks. -/
  missingGuestData : Desk -> ManualOTAReservationCreate -> Option String
  /-- Price of a new stay. -/
  quote : Desk -> ManualOTAReservationCreate -> Except String PricingResult
  /-- Price of a changed stay, or none when the booked price is kept. -/
  dateChangePricing : Desk -> OtaReservation -> ManualOTAReservationCreate ->
    Except String (Option PricingResult)
  /-- The guest has an active restriction. -/
  guestProhibited : Desk -> Int -> Bool
  /-- The hotel takes reservations without a room. -/
  allowOverbooking : Bool

section

variable (env : ManualEnvironment) (desk : Desk) (data : ManualOTAReservationCreate)

/-- A text of the form that must not be blank. -/
def normalizeRequired (value fieldName : String) : Except String String :=
  let cleaned := Text.strip value
  if cleaned = "" then
    .error (fieldName ++ " is required for manual OTA reservations")
  else .ok cleaned

/-- Room of a new reservation: the named one, or the first that is free. -/
def chooseManualRoom : Except String (Option Int) :=
  match truthy data.roomId with
  | some roomId =>
    match desk.room? roomId with
    | none => .error ("No se encontró la habitación con ID " ++ toString roomId)
    | some room => do
      raiseIf (room.categoryId ≠ data.categoryId) "La habitación pertenece a otra categoría"
      let available ← checkRoomAvailability desk.hotelState room.id data.stay none
      raiseIf (available = false) "La habitación no está disponible para las fechas solicitadas"
      pure (some roomId)
  | none => do
    match ← findAvailableRooms desk.hotelState data.categoryId data.stay with
    | room :: _ => pure (some room.id)
    | [] =>
      raiseIf (env.allowOverbooking = false)
        "No hay habitaciones disponibles para las fechas solicitadas"
      pure none

/-- Row of a new reservation. -/
def createManualReservation (channel : OtaChannel) (externalId : String) :
    Except String OtaReservation := do
  match desk.category? data.categoryId with
  | none => .error ("No se encontró la categoría de habitación con ID " ++ toString data.categoryId)
  | some category =>
    raiseIf ((desk.guest? data.guestId).isNone = true)
      ("No se encontró el huésped con ID " ++ toString data.guestId)
    validateReservationOccupancy category data.numAdults data.numChildren
    match env.missingGuestData desk data with
    | some missing => .error missing
    | none =>
      let pricing ← env.quote desk data
      let roomId ← chooseManualRoom env desk data
      raiseIf (env.guestProhibited desk data.guestId = true) "GuestProhibitedError"
      if ordered : data.checkInDate < data.checkOutDate then
        if fits : (pricing.applyTo {}).Fit then
          pure
            { id := desk.nextReservationId
              positiveId := desk.nextReservationId_pos
              guestId := data.guestId
              roomId := roomId
              categoryId := data.categoryId
              sellableProductId := pricing.sellableProductId
              ratePlanId := pricing.ratePlanId
              taxPolicyId := pricing.taxPolicyId
              checkInDate := data.checkInDate
              checkOutDate := data.checkOutDate
              datesOrdered := ordered
              money := pricing.applyTo {}
              moneyFits := fits
              status := .pending
              source := channel.source
              channelCode := channel.channelCode
              externalId := some externalId
              numAdults := data.numAdults
              numChildren := data.numChildren
              notes := data.notes
              arrivalTimeHint := data.arrivalTimeHint
              allocationStatus :=
                if roomId.isSome then "assigned" else "unassigned"
              pricingSnapshot := pricing.pricingSnapshot
              paymentCollectionModel := "unknown"
              settlementStatus := "pending" }
        else .error "money columns"
      else .error "stay dates"

variable (reservation : OtaReservation)

/-- Whether a reservation may take the named room for the new stay. -/
def validateManualRoom : Except String Unit :=
  match data.roomId with
  | none => .ok ()
  | some roomId =>
    match desk.room? roomId with
    | none => .error "No se encontró la habitación"
    | some room => do
      raiseIf (room.categoryId ≠ reservation.categoryId)
        "La nueva habitación debe pertenecer a la misma categoría"
      let available ← checkRoomAvailability desk.hotelState room.id data.stay (some reservation.id)
      raiseIf (available = false) "La nueva habitación no está disponible para esas fechas"

/-- Change the stay, room, party and notes of a reservation. -/
def updateManualFields : Except String OtaReservation := do
  raiseIf ((data.clientVersion.any (· ≠ reservation.version)) = true)
    "La reserva fue modificada por otro usuario"
  raiseIf (env.guestProhibited desk reservation.guestId = true) "GuestProhibitedError"
  match desk.category? reservation.categoryId with
  | none => .error ("No se encontró la categoría de habitación con ID " ++
      toString reservation.categoryId)
  | some category =>
    validateReservationOccupancy category data.numAdults data.numChildren
    if ordered : data.checkInDate < data.checkOutDate then
      let pricing ← env.dateChangePricing desk reservation data
      validateManualRoom desk data reservation
      let updated ← (reservation.repriced pricing).mapError fun _ => "money columns"
      pure { updated with
        checkInDate := data.checkInDate
        checkOutDate := data.checkOutDate
        datesOrdered := ordered
        roomId := data.roomId.or reservation.roomId
        numAdults := data.numAdults
        numChildren := data.numChildren
        notes := data.notes
        arrivalTimeHint := data.arrivalTimeHint
        version := reservation.version + 1 }
    else .error "La fecha de salida debe ser posterior a la de entrada"

/-- Money columns with the amounts that a clerk entered. -/
def manualAmounts (actorUserId : Option Int) (now : Int) : MoneyColumns :=
  let priced : MoneyColumns :=
    match data.totalAmount with
    | none => reservation.money
    | some total =>
      { reservation.money with totalAmount := total, subtotalAmount := total, netAmount := total }
  let labelled : MoneyColumns :=
    match given data.targetCurrency with
    | none => priced
    | some currency =>
      { priced with currencyCode := normalizeCurrency currency }
  let credited : MoneyColumns :=
    match data.amountPaid with
    | none => labelled
    | some amount =>
      let confirmed := decide (0 < amount)
      { labelled with
        externalPaidAmount := amount
        externalPaidCurrency :=
          if confirmed then
            some (normalizeCurrency ((given data.externalPaidCurrency).getD
                ((given (some labelled.currencyCode)).getD "ARS")))
          else none
        externalPaidReference :=
          if confirmed then data.externalPaidReference else none
        externalPaidConfirmed := confirmed
        externalPaidEverConfirmed :=
          labelled.externalPaidEverConfirmed || confirmed
        externalPaidConfirmedByUserId :=
          if confirmed then actorUserId else none
        externalPaidConfirmedAt := if confirmed then some now else none }
  if data.amountPaid.isSome ∨ (given data.targetCurrency).isSome then
    { credited with
      amountPaid := credited.externalCredit + desk.ledger.completedPaidAmount reservation.id }
  else credited

/-- Write the channel, the number and the amounts of a booking to its
reservation.  The columns and the unique key are checked when the row is
flushed. -/
def writeManualColumns (channel : String)
    (externalId : String) (actorUserId : Option Int) (now : Int) :
    Except String Desk :=
  let money := manualAmounts desk data reservation actorUserId now
  if fits : money.Fit then
    if desk.KeyFree reservation.id channel (some externalId) then
      .ok (desk.writeReservation { reservation with
        datesOrdered := reservation.stayOrdered
        channelCode := (sourceForChannel channel).channelCode
        sourceProviderCode := some channel
        externalId := some externalId
        externalConfirmationCode :=
          some (Text.strip (data.externalConfirmationCode.getD ""))
        money := money
        moneyFits := fits })
    else .error "uq_reservation_ota_external_id"
  else .error "money columns"

/-- Settlement columns of a new booking. -/
def OtaReservation.settledManually : OtaReservation :=
  { reservation with
    paymentCollectionModel :=
      (given (some (Text.strip data.paymentCollectionModel))).getD "hotel_collect"
    settlementStatus :=
      (given (data.settlementStatus.map Text.strip)).getD "pending" }

/-- Settlement columns of a booking that is entered again. -/
def OtaReservation.resettledManually : OtaReservation :=
  { reservation with
    paymentCollectionModel :=
      (given (some (Text.strip data.paymentCollectionModel))).getD
        reservation.paymentCollectionModel
    settlementStatus :=
      (given (data.settlementStatus.map Text.strip)).getD reservation.settlementStatus }

/-- Reservation with the channel as it is spelled, and the number. -/
def Desk.manualReservation? (channel externalId : String) : Option OtaReservation :=
  desk.reservations.find? fun row =>
    row.sourceProviderCode = some channel ∧ row.externalId = some externalId

/-- Enter the booking of an agency by hand. -/
def createOrUpdateManualOtaReservation (actorUserId : Option Int)
    (now : Int) : Except String Desk := do
  raiseIf (¬data.Valid) "ManualOTAReservationCreate"
  let stripped ← normalizeRequired data.channel "channel"
  let channel := env.lower stripped
  let externalId ← normalizeRequired data.externalId "external_id"
  match desk.manualReservation? channel externalId with
  | some existing =>
    let updated ← updateManualFields env desk data existing
    writeManualColumns desk data (updated.resettledManually data) channel externalId actorUserId now
  | none =>
    let created ← createManualReservation env desk data (sourceForChannel channel) externalId
    writeManualColumns desk data (created.settledManually data) channel externalId actorUserId now

end

end HotelPms.Ota
