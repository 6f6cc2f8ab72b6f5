import HotelPms.Booking.Availability
import HotelPms.Foundation.KeySort
import HotelPms.Ota.Rows

/-!
# Incoming bookings

What the code of an agency is sold as, which room a booking gets, how its
guest is written, how a reservation is created for it, and the money columns
that a payload leaves on a reservation.  Prices, guest restrictions and the
texts of stored documents are answers of the rest of the application.
-/

namespace HotelPms.Ota

open Hotel Payments Booking Checked FloatFormat

/-- Why a webhook is not processed. -/
inductive OtaError
  | missingIdentifier
  | linkedReservationUnavailable
  | unknownProduct
  | overbooking
  | roomTaken
  | processing (cause : String)

/-- An error of another service, as the webhook reports it. -/
def reported {α : Type} : Except String α -> Except OtaError α :=
  Except.mapError OtaError.processing

/-- A text that is given and not empty. -/
def given (text : Option String) : Option String :=
  text.filter (· ≠ "")

/-- A trimmed text in small letters, blanks and hyphens as underscores. -/
def underscored (raw : String) : String :=
  String.ofList ((Text.strip raw).toLower.toList.map fun letter =>
    if letter = '-' ∨ letter = ' ' then '_' else letter)

/-- Some part of the text is the token. -/
def hasToken (text token : String) : Bool :=
  text.toList.tails.any (token.toList.isPrefixOf ·)

inductive OtaEventType
  | new
  | modified
  | cancelled
  deriving DecidableEq

/-- Kind of an event by the tokens of its name. -/
def normalizeEventType (raw : String) : OtaEventType :=
  if ["cancel", "void", "deleted", "delete"].any (hasToken (underscored raw)) = true then .cancelled
  else if ["modify", "modified", "update", "updated", "change", "changed",
      "amend"].any (hasToken (underscored raw)) = true then .modified
  else .new

/-- The payload reports a cancellation. -/
def NormalizedReservation.IsCancellation {F : Type} (normalized : NormalizedReservation F) : Prop :=
  normalizeEventType normalized.eventType = .cancelled
deriving Decidable

/-- First and last name. -/
def splitGuestName (fullName : String) : String × String :=
  let name := (Text.strip (if fullName = "" then "OTA Guest" else fullName)).toList
  let first := name.takeWhile (· ≠ ' ')
  (if first = [] then "OTA" else String.ofList first,
    match name.dropWhile fun letter => decide (letter ≠ ' ') with
    | [] => "Guest"
    | _ :: last => String.ofList last)

section

variable {F : Type}

/-- A guest as the payload names them; what it leaves out stays. -/
def syncedGuest (normalized : NormalizedReservation F) (guest : Guest) :
    Guest :=
  { guest with
    firstName := (splitGuestName normalized.guestFullName).1
    lastName := (splitGuestName normalized.guestFullName).2
    email := normalized.guestEmail.or guest.email
    phone := normalized.guestPhone.or guest.phone
    nationality := normalized.guestNationality.or guest.nationality
    documentType := normalized.guestDocumentType.or guest.documentType
    documentNumber := normalized.guestDocumentNumber.or guest.documentNumber }

/-- A guest that is not stored yet. -/
def newGuest (desk : Desk) : Guest where
  id := desk.nextGuestId
  firstName := ""
  lastName := ""

/-- Write the guest of a payload over a stored one, or as a new one. -/
def syncGuestRecord (desk : Desk) (guest : Option Guest)
    (normalized : NormalizedReservation F) : Except OtaError (Desk × Guest) :=
  let guest := syncedGuest normalized (guest.getD (newGuest desk))
  if guest.Fits then .ok (desk.writeGuest guest, guest)
  else .error (.processing "guest columns")

/-- What the codes of a payload stand for. -/
structure CommercialContext where
  sellableProductId : Option Int
  ratePlanId : Option Int
  candidateCategories : List CatalogCategory

namespace Catalog

variable (catalog : Catalog) (normalized : NormalizedReservation F)

/-- Active mapping of the agency's room type. -/
def roomMapping : Option OtaRoomMapping :=
  (given normalized.sellableProductCode).bind fun code =>
    catalog.roomMappings.find? fun mapping => mapping.provider = normalized.provider ∧
        mapping.externalRoomTypeId = code ∧ mapping.isActive = true

/-- Product of the mapping, or the active one with the code itself. -/
def sellableProduct : Option CatalogProduct :=
  (given normalized.sellableProductCode).bind fun code =>
    ((catalog.roomMapping normalized).bind fun mapping =>
      mapping.sellableProductId.bind fun id =>
        catalog.products.find? (·.id = id)).or
      (catalog.products.find? fun product => product.code = code ∧ product.isActive = true)

/-- Categories a product may be assigned to, by priority. -/
def compatibleCategoryIds (product : CatalogProduct) : List Int :=
  (KeySort.sortByKey (·.priority) (KeySort.sortByKey CatalogCompatibility.id
      (catalog.compatibilities.filter fun row => row.sellableProductId = product.id ∧
          row.allowsAutoAssignment = true))).map fun row =>
    row.roomCategoryId

/-- Plan of the active mapping, or the active one with the code itself. -/
def ratePlan : Option RatePlan :=
  (given normalized.ratePlanCode).bind fun code =>
    ((catalog.ratePlanMappings.find? fun mapping =>
        mapping.provider = normalized.provider ∧ mapping.externalRatePlanId = code ∧
          mapping.isActive = true).bind fun mapping =>
      catalog.ratePlans.find? (·.id = mapping.ratePlanId)).or
      (catalog.ratePlans.find? fun plan => plan.code = code ∧ plan.isActive = true)

/-- Category whose code is that of the product, or of the plan. -/
def fallbackCategory : Option CatalogCategory :=
  ((given normalized.sellableProductCode).or (given normalized.ratePlanCode)).bind fun code =>
      catalog.categories.find? (·.code = code)

/-- Categories a booking may get, the preferred one first. -/
def candidateCategoryIds : List Int :=
  (truthy ((catalog.roomMapping normalized).bind OtaRoomMapping.roomCategoryId)).toList ++
    (match catalog.sellableProduct normalized with
    | none => []
    | some product => (truthy product.primaryRoomCategoryId).toList ++
        catalog.compatibleCategoryIds product) ++
    ((catalog.fallbackCategory normalized).map (·.id)).toList

/-- Product, plan and candidate categories of a payload. -/
def resolveCommercialContext : CommercialContext where
  sellableProductId :=
    (catalog.sellableProduct normalized).map (·.id)
  ratePlanId := (catalog.ratePlan normalized).map RatePlan.id
  candidateCategories :=
    (catalog.candidateCategoryIds normalized).eraseDups.filterMap fun id =>
      catalog.categories.find? (·.id = id)

end Catalog

def findFreeRooms (desk : Desk) (categoryId : Int) (window : Int × Int)
    (excludeReservationId : Option Int) : Except String (List Room) := do
  validateStayDates window
  match desk.category? categoryId with
  | none => .error ("No se encontró la categoría de habitación con ID " ++ toString categoryId)
  | some _ =>
    pure ((candidateRooms desk.hotelState categoryId).filter fun room =>
      !roomHasActiveBlock desk.hotelState room.id window &&
        (overlappingReservations desk.hotelState room.id window excludeReservationId).isEmpty)

def lockFirstRoom (desk : Desk) (categoryId : Int) (window : Int × Int)
    (excludeReservationId : Option Int) :
    List Room -> Except String (Option Room)
  | [] => pure none
  | candidate :: others =>
    match desk.room? candidate.id with
    | none => lockFirstRoom desk categoryId window excludeReservationId others
    | some room =>
      if room.categoryId = categoryId then do
        if (← checkRoomAvailability desk.hotelState room.id window excludeReservationId) = true then
          pure (some room)
        else
          lockFirstRoom desk categoryId window excludeReservationId others
      else
        lockFirstRoom desk categoryId window excludeReservationId others

def firstCategoryRoom (desk : Desk) (window : Int × Int) (excludeReservationId : Option Int) :
    List CatalogCategory -> Except String (Option (CatalogCategory × Room))
  | [] => pure none
  | category :: others => do
    let rooms ← findFreeRooms desk category.id window excludeReservationId
    match ← lockFirstRoom desk category.id window excludeReservationId rooms with
    | some room => pure (some (category, room))
    | none => firstCategoryRoom desk window excludeReservationId others

/-- Room of a booking: the current one where it may stay, or the first
available one of a candidate category.  The delivery holds its locks, so that
the current room is found again as it was. -/
def selectRoom (desk : Desk) (reservationId : Option Int) (normalized : NormalizedReservation F)
    (candidateCategories : List CatalogCategory) (currentRoom : Option Room) :
    Except String (Option (CatalogCategory × Room)) :=
  let fallback := firstCategoryRoom desk normalized.stay reservationId candidateCategories
  match currentRoom with
  | none => fallback
  | some room =>
    match candidateCategories.find? fun category =>
        decide (category.id = room.categoryId) with
    | none => fallback
    | some category => do
      if (← checkRoomAvailability desk.hotelState room.id normalized.stay reservationId) = true then
        pure (some (category, room))
      else fallback

structure ReservationCreate where
  guestId : Int
  categoryId : Int
  roomId : Int
  checkInDate : Int
  checkOutDate : Int
  numAdults : Int
  numChildren : Int
  sellableProductId : Option Int
  ratePlanId : Option Int
  source : String
  externalId : String
  pricingChannelCode : String
  targetCurrency : Option String

/-- Price of a stay, in cents. -/
structure PricingResult where
  sellableProductId : Option Int := none
  ratePlanId : Option Int := none
  taxPolicyId : Option Int := none
  totalAmount : Int
  subtotalAmount : Int
  taxAmount : Int := 0
  feeAmount : Int := 0
  commissionAmount : Int := 0
  netAmount : Int
  depositAmount : Int := 0
  currencyCode : String
  pricingSnapshot : Option String := none

/-- Money columns once a price is applied. -/
def PricingResult.applyTo (pricing : PricingResult) (money : MoneyColumns) :
    MoneyColumns :=
  { money with
    totalAmount := pricing.totalAmount
    subtotalAmount := pricing.subtotalAmount
    taxAmount := pricing.taxAmount
    feeAmount := pricing.feeAmount
    commissionAmount := pricing.commissionAmount
    netAmount := pricing.netAmount
    depositAmount := pricing.depositAmount
    currencyCode := pricing.currencyCode }

/-- Why an update of a reservation is refused: by a rule of the reservation
service, or otherwise. -/
inductive UpdateError
  | reservation (message : String)
  | other (message : String)

/-- Answers of the rest of the application. -/
structure OtaEnvironment (F : Type) where
  /-- Price of a new stay. -/
  quote : Desk → ReservationCreate → Except String PricingResult
  /-- Price of a changed stay, or none when the booked price is kept. -/
  dateChangePricing : Desk → OtaReservation → Int × Int → Int →
    Except UpdateError (Option PricingResult)
  /-- The guest has an active restriction. -/
  guestProhibited : Desk → Int → Bool
  /-- Text of the stored price: amount and currency paid, collection model,
  settlement status and time. -/
  dumpPricing : NormalizedReservation F → F → Option String → String → String → Int → String
  /-- Text of the stored notes. -/
  dumpNotes : String → String

def reservationSourceForProvider : Provider -> String
  | .booking => "booking"
  | .expedia => "expedia"
  | .despegar => "other_ota"

def validateReservationOccupancy (category : CatalogCategory) (numAdults numChildren : Int) :
    Except String Unit := do
  raiseIf (numAdults + numChildren < 1) "La reserva debe tener al menos 1 huésped"
  raiseIf (category.maxOccupancy < numAdults + numChildren)
    "La categoría no admite tantos huéspedes"

/-- Limits of the creation schema. -/
def ReservationCreate.Valid (data : ReservationCreate) : Prop :=
  0 < data.numAdults ∧ 0 ≤ data.numChildren ∧ (data.targetCurrency.all (·.length = 3)) = true
deriving Decidable

/-- Row of a new reservation in a room that is available. -/
def createReservation (env : OtaEnvironment F) (desk : Desk)
    (data : ReservationCreate) : Except String OtaReservation := do
  raiseIf (¬data.Valid) "ReservationCreate"
  match desk.category? data.categoryId with
  | none => .error ("No se encontró la categoría de habitación con ID " ++ toString data.categoryId)
  | some category =>
    raiseIf ((desk.guest? data.guestId).isNone = true)
      ("No se encontró el huésped con ID " ++ toString data.guestId)
    validateReservationOccupancy category data.numAdults data.numChildren
    let pricing ← env.quote desk data
    match desk.room? data.roomId with
    | none => .error ("No se encontró la habitación con ID " ++ toString data.roomId)
    | some room =>
      raiseIf (room.categoryId ≠ data.categoryId) "La habitación pertenece a otra categoría"
      let available ← checkRoomAvailability desk.hotelState room.id
        (data.checkInDate, data.checkOutDate) none
      raiseIf (available = false) "La habitación no está disponible para las fechas solicitadas"
      raiseIf (env.guestProhibited desk data.guestId = true) "GuestProhibitedError"
      if ordered : data.checkInDate < data.checkOutDate then
        if fits : (pricing.applyTo {}).Fit then
          pure
            { id := desk.nextReservationId, positiveId := desk.nextReservationId_pos
              guestId := data.guestId, roomId := some room.id, categoryId := data.categoryId
              sellableProductId := pricing.sellableProductId, ratePlanId := pricing.ratePlanId
              taxPolicyId := pricing.taxPolicyId, checkInDate := data.checkInDate
              checkOutDate := data.checkOutDate, datesOrdered := ordered
              money := pricing.applyTo {}, moneyFits := fits, status := .pending
              source := data.source, channelCode := data.pricingChannelCode
              externalId := some data.externalId, numAdults := data.numAdults
              numChildren := data.numChildren, allocationStatus := "assigned"
              pricingSnapshot := pricing.pricingSnapshot, paymentCollectionModel := "unknown"
              settlementStatus := "pending" }
        else .error "money columns"
      else .error "stay dates"

/-! ## Money -/

def hotelDefaultCurrency (desk : Desk) : String :=
  let code := String.ofList ((normalizeCurrency
    ((given desk.defaultCurrency).getD "ARS")).toList.take 3)
  if code = "" then "ARS" else code

def reservationCurrency (desk : Desk) (normalized : NormalizedReservation F) : String :=
  normalizeCurrency ((given normalized.currencyCode).getD (hotelDefaultCurrency desk))

def collectionModels : List (String × String) :=
  [("prepaid", "ota_prepaid"), ("ota_prepaid", "ota_prepaid"),
    ("agency_collect", "ota_prepaid"), ("virtual_card", "ota_virtual_card"),
    ("ota_virtual_card", "ota_virtual_card"),
    ("hotel_collect", "hotel_collect"), ("pay_at_property", "hotel_collect"),
    ("pay_on_arrival", "hotel_collect"), ("partial", "ota_partial"),
    ("ota_partial", "ota_partial")]

variable [FloatFormat F]

/-- Amount of a payload; a missing one counts as zero. -/
def orZero (amount : Option F) : F :=
  amount.getD (ofRat 0)

/-- Who collects the stay. -/
def normalizeCollectionModel (rawValue : Option String)
    (paidAmount : Option F) (grossTotal : F) : String :=
  match collectionModels.find? fun entry =>
      decide (entry.1 = underscored (rawValue.getD "")) with
  | some entry => entry.2
  | none =>
    match paidAmount with
    | none => "unknown"
    | some paid =>
      if ofRat 0 < grossTotal ∧ ¬paid < grossTotal then "ota_prepaid"
      else if toRat paid ≠ 0 then "ota_partial"
      else "unknown"

def resolvePaidAmount (normalized : NormalizedReservation F)
    (collectionModel : String) (grossTotal : F) : F :=
  match normalized.paidAmount with
  | some paid => round2 (atLeastZero paid)
  | none =>
    if (collectionModel = "ota_prepaid" ∨
        collectionModel = "ota_virtual_card") ∧ ofRat 0 < grossTotal then
      round2 grossTotal
    else ofRat 0

/-- How far the agency has settled with the hotel. -/
def normalizeSettlementStatus (rawValue : Option String)
    (collectionModel : String) (amountPaid grossTotal : F) : String :=
  let normalized := underscored (rawValue.getD "")
  if ["pending", "partial", "settled", "not_applicable", "unknown"].any
      (· = normalized) = true then normalized
  else if collectionModel = "hotel_collect" then "not_applicable"
  else if ¬amountPaid < grossTotal ∧ ofRat 0 < grossTotal then "pending"
  else if ofRat 0 < amountPaid then "partial"
  else "unknown"

def MoneyColumns.externalCredit (money : MoneyColumns) : Int :=
  ReservationFinancials.externalPaidBalanceCredit
    { id := 0, totalAmount := money.totalAmount, currencyCode := money.currencyCode
      externalPaidAmount := money.externalPaidAmount
      externalPaidCurrency := money.externalPaidCurrency
      externalPaidConfirmed := money.externalPaidConfirmed }

namespace NormalizedReservation

variable (normalized : NormalizedReservation F)

/-- Total of the stay. -/
def gross : F := orZero normalized.grossTotal

/-- Total without taxes and fees. -/
def subtotal : F :=
  let subtotal := normalized.gross - orZero normalized.taxTotal - orZero normalized.feeTotal
  if subtotal < ofRat 0 then normalized.gross else subtotal

/-- Who collects the stay. -/
def collectionModel : String :=
  normalizeCollectionModel normalized.paymentCollectionModel normalized.paidAmount normalized.gross

/-- Settlement fields are left out and a credit is there: it is kept. -/
def PreservesExternalPayment (money : MoneyColumns) : Prop :=
  normalized.paidAmount = none ∧ 0 < money.externalPaidAmount

instance (money : MoneyColumns) : Decidable (normalized.PreservesExternalPayment money) :=
  decidable_of_iff (normalized.paidAmount.isNone = true ∧ 0 < money.externalPaidAmount)
    (and_congr_left fun _ => Option.isNone_iff_eq_none)

/-- Amount the agency has been paid, as far as the hotel knows. -/
def amountPaid (money : MoneyColumns) : F :=
  if normalized.PreservesExternalPayment money then
    ofCents money.externalPaidAmount
  else resolvePaidAmount normalized normalized.collectionModel normalized.gross

/-- The same amount in cents. -/
def externalPaid (money : MoneyColumns) : Int :=
  Decimal.quantize 2 (toRat (normalized.amountPaid money))

def externalPaidCurrency (desk : Desk) (money : MoneyColumns) : Option String :=
  if normalized.externalPaid money ≤ 0 then none
  else if normalized.PreservesExternalPayment money then
    some ((given money.externalPaidCurrency).getD
      ((given (some money.currencyCode)).getD (reservationCurrency desk normalized)))
  else some (reservationCurrency desk normalized)

def creditColumns (desk : Desk) (money : MoneyColumns) (receivedAt : Int) :
    MoneyColumns :=
  let confirmed := decide (0 < normalized.externalPaid money)
  { money with
    externalPaidAmount := normalized.externalPaid money
    externalPaidCurrency := normalized.externalPaidCurrency desk money
    externalPaidReference :=
      if confirmed then
        some (String.ofList ((normalized.provider.code ++ ":" ++
          normalized.externalReservationId).toList.take 120))
      else none
    externalPaidConfirmed := confirmed
    externalPaidEverConfirmed :=
      money.externalPaidEverConfirmed || confirmed
    externalPaidConfirmedByUserId := none
    externalPaidConfirmedAt := if confirmed then some receivedAt else none
    currencyCode := reservationCurrency desk normalized }

/-- Money columns with the terms of the payload. -/
def financialColumns (desk : Desk) (reservation : OtaReservation)
    (receivedAt : Int) : MoneyColumns :=
  let credited := normalized.creditColumns desk reservation.money receivedAt
  { credited with
    totalAmount := centsOf normalized.gross
    subtotalAmount := centsOf normalized.subtotal
    taxAmount := centsOf (orZero normalized.taxTotal)
    feeAmount := centsOf (orZero normalized.feeTotal)
    commissionAmount := centsOf (orZero normalized.commissionTotal)
    netAmount :=
      centsOf (normalized.gross - orZero normalized.commissionTotal)
    amountPaid := credited.externalCredit + desk.ledger.completedPaidAmount reservation.id }

/-- Status that follows from the paid amount. -/
def financialStatus (amountPaid : Int) : ReservationStatus :=
  if ofRat 0 < normalized.gross ∧ toRat normalized.gross ≤ (amountPaid : ℚ) / 100 then .fullyPaid
  else if 0 < amountPaid then .depositPaid
  else .pending

/-- Settlement with the agency, given the credit. -/
def settlement (externalCredit : Int) : String :=
  normalizeSettlementStatus normalized.settlementStatus
    normalized.collectionModel (ofCents externalCredit) normalized.gross

end NormalizedReservation

/-- Write the terms of a payload to a reservation.  The columns and the unique
key are checked when the row is flushed. -/
def applyFinancialSnapshot (env : OtaEnvironment F) (desk : Desk)
    (reservation : OtaReservation) (normalized : NormalizedReservation F)
    (receivedAt : Int) (preserveOperationalStatus : Bool) :
    Except OtaError OtaReservation :=
  let money := normalized.financialColumns desk reservation receivedAt
  if fits : money.Fit then
    if normalized.Storable ∧ desk.KeyFree reservation.id
        normalized.provider.code reservation.externalId then
      .ok { reservation with
        datesOrdered := reservation.stayOrdered
        money := money
        moneyFits := fits
        paymentCollectionModel := normalized.collectionModel
        settlementStatus := normalized.settlement money.externalCredit
        status :=
          if preserveOperationalStatus then reservation.status
          else normalized.financialStatus money.amountPaid
        sourceProviderCode := some normalized.provider.code
        externalConfirmationCode := some
          ((given normalized.externalConfirmationCode).getD normalized.externalReservationId)
        arrivalTimeHint := normalized.arrivalTimeHint
        pricingSnapshot := some (env.dumpPricing normalized
          (normalized.amountPaid reservation.money)
          money.externalPaidCurrency normalized.collectionModel
          (normalized.settlement money.externalCredit) receivedAt)
        requestedAttributesJson :=
          ((given normalized.notes).map env.dumpNotes).or reservation.requestedAttributesJson }
    else .error (.processing "reservation columns")
  else .error (.processing "money columns")

/-- A reservation for an incoming booking, before its terms are written: the
category and the room that are free, the guest, and the created row. -/
def bookIncoming (env : OtaEnvironment F) (desk : Desk) (normalized : NormalizedReservation F) :
    Except OtaError (Desk × OtaReservation) := do
  let context := desk.catalog.resolveCommercialContext normalized
  raiseIf (context.candidateCategories = []) .unknownProduct
  match ← reported (selectRoom desk none normalized context.candidateCategories none) with
  | none => .error .overbooking
  | some (category, room) =>
    let available ← reported (checkRoomAvailability desk.hotelState room.id normalized.stay none)
    raiseIf (available = false) .roomTaken
    let (desk, guest) ← syncGuestRecord desk none normalized
    let reservation ← reported (createReservation env desk
      { guestId := guest.id, categoryId := category.id, roomId := room.id
        checkInDate := normalized.checkInDate, checkOutDate := normalized.checkOutDate
        numAdults := normalized.numAdults, numChildren := normalized.numChildren
        sellableProductId := context.sellableProductId, ratePlanId := context.ratePlanId
        source := reservationSourceForProvider normalized.provider
        externalId := normalized.externalReservationId
        pricingChannelCode := normalized.provider.code, targetCurrency := normalized.currencyCode })
    pure (desk, { reservation with
      datesOrdered := reservation.stayOrdered
      sellableProductId := context.sellableProductId
      ratePlanId := context.ratePlanId })

end

end HotelPms.Ota
