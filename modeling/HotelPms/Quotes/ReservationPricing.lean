import HotelPms.Quotes.StayQuote

/-!
# Price of a reservation

A stay that a rate plan covers takes the quote of the plan.  Any other stay
takes the nightly rates of its category, less the promotions of each night,
with the taxes of the policy and in the currency that is asked for.  Either way
the deposit is computed from the total and the nights.
-/

namespace HotelPms.Quotes

open Checked DayCounts FloatFormat Promotions Rates

def pricingPaymentMethods : List String :=
  ["cash", "transfer", "mercadopago", "paypal", "credit_card"]

def pricingPaymentMethodAlias : String -> String
  | "bank_transfer" => "transfer"
  | "wire_transfer" => "transfer"
  | "mercado_pago" => "mercadopago"
  | "mercadopago" => "mercadopago"
  | "mp" => "mercadopago"
  | "credit" => "credit_card"
  | "creditcard" => "credit_card"
  | method => method

def methodLetter (letter : Char) : Char :=
  if letter = '-' ∨ letter = ' ' then '_' else letter.toLower

def normalizePricingPaymentMethod : Option String -> Except String (Option String)
  | none => .ok none
  | some value =>
    let normalized := pricingPaymentMethodAlias
      (String.ofList ((Text.stripped value.toList).map methodLetter))
    if normalized = "" then .ok none
    else if normalized ∈ pricingPaymentMethods then .ok (some normalized)
    else .error ("El medio de pago para calcular la tarifa no es válido: " ++ value)

structure NightPrice (F : Type) where
  date : Int
  price : F
  basePrice : Option F := none
  source : Option String := none
  promotionsApplied : List AppliedPromotion := []
  outputCurrency : Option String := none

structure ReservationPricingResult (F : Type) where
  nights : Int
  nightlyRate : F
  totalAmount : F
  depositAmount : F
  subtotalAmount : F
  taxAmount : F
  feeAmount : F
  commissionAmount : F
  netAmount : F
  currencyCode : String
  fxRateSnapshot : Option F
  pricingSource : String
  sellableProductId : Option Int
  ratePlanId : Option Int
  taxPolicyId : Option Int
  taxBreakdown : List (TaxEntry F)
  breakdown : List (NightPrice F)

variable {F : Type} [FloatFormat F]

variable (tables : PricingTables F) (env : PricingEnvironment F)

def pricingResultFromQuote (stay : StayRequest) (quote : StayPricingQuote F)
    (context : PricingTables.CommercialContext F) (ratePlanId : Int) :
    Except String (ReservationPricingResult F) := do
  let nights := stay.nights
  let depositAmount ← computeDepositAmount tables.depositSettings quote.amounts.gross nights
    (List.replicate nights.toNat quote.nightlyAmount)
  pure {
    nights
    nightlyRate := round2 (quote.amounts.gross / ofRat nights)
    totalAmount := quote.amounts.gross
    depositAmount
    subtotalAmount := quote.amounts.subtotal
    taxAmount := quote.amounts.tax
    feeAmount := quote.amounts.fee
    commissionAmount := quote.commissionAmount
    netAmount := quote.netAmount
    currencyCode := quote.outputCurrency
    fxRateSnapshot := quote.fxRateSnapshot
    pricingSource := "rate_plan_quote"
    sellableProductId := context.product.map (·.id)
    ratePlanId := some ratePlanId
    taxPolicyId := some context.taxPolicy.id
    taxBreakdown := quote.amounts.breakdown
    breakdown := (loopDays stay.checkIn stay.checkOut).map fun date =>
      { date, price := quote.nightlyAmount } }

/-- A night of a stay as promotions see it. -/
def promotionContext (hotelId today categoryId : Int) (stay : StayRequest)
    (paymentMethod : Option String) (date : Int) : PromotionMatchContext where
  hotelId := hotelId
  nightDate := date
  nightIndex := date - stay.checkIn + 1
  nightsTotal := stay.nights
  bookingDate := today
  categoryId := some categoryId
  salesChannelCode := stay.pricingChannelCode
  guestId := stay.guestId
  companyId := stay.companyId
  paymentCurrency := stay.targetCurrency
  paymentMethod := paymentMethod

def nightSource (source : String) : String :=
  if source = "daily_rate" ∨ source = "price_period" then source
  else "category_base"

def nightPrice (date price : Int) (source : String) (matched : List Promotion) : NightPrice F :=
  let applied := applyPromotionsToNight (nightCents (F := F) price) matched
  { date
    price := ofCents applied.1
    basePrice := some (round2 (ofCents price))
    source := some (nightSource source)
    promotionsApplied := applied.2 }

def nightPrices (category : PricedCategory) (stay : StayRequest)
    (paymentMethod : Option String) : Except String (List (NightPrice F)) := do
  let rateRows ← tables.resolveRateCalendar tables.hotelId category.id
    stay.checkIn (stay.checkOut - 1) paymentMethod
    (some category.toRateCategory)
  let promotionsByNight ← findApplicablePromotionsForNights tables.promotions tables.guestTags
    ((loopDays stay.checkIn stay.checkOut).map
      (promotionContext tables.hotelId env.today category.id stay paymentMethod))
  pure ((rateRows.zip promotionsByNight).map fun night =>
    nightPrice night.1.date night.1.price night.1.source night.2)

/-- Amounts and nights of a stay in the currency of the result. -/
structure DailyAmounts (F : Type) where
  amounts : StayAmounts F
  breakdown : List (NightPrice F)
  fxRateSnapshot : Option F

def NightPrice.converted (night : NightPrice F) (rate : F)
    (outputCurrency : String) : NightPrice F :=
  { night with price := round2 (night.price * rate), outputCurrency := some outputCurrency }

def convertDailyAmounts (amounts : StayAmounts F) (breakdown : List (NightPrice F))
    (baseCurrency outputCurrency : String) : Except String (DailyAmounts F) :=
  if outputCurrency = baseCurrency then
    pure { amounts, breakdown, fxRateSnapshot := none }
  else do
    let (gross, rate) ← convertAmount env amounts.gross baseCurrency outputCurrency
    pure {
      amounts := amounts.converted gross rate
      breakdown := breakdown.map (·.converted rate outputCurrency)
      fxRateSnapshot := some rate }

def dailyRatePricingResult (category : PricedCategory)
    (stay : StayRequest) (paymentMethod : Option String)
    (context : PricingTables.CommercialContext F) :
    Except String (ReservationPricingResult F) := do
  let nights := stay.nights
  let nightly ← nightPrices tables env category stay paymentMethod
  let baseCurrency := tables.hotelDefaultCurrency
  let outputCurrency := Payments.normalizeCurrency (givenOr stay.targetCurrency baseCurrency)
  let baseAmount := round2 (FloatFormat.sum (nightly.map NightPrice.price))
  let totals ← applyTaxPolicy env.readPerNight baseAmount nights
    context.taxPolicy (tables.taxes.policyRules context.taxPolicy.id)
    stay.guestScope (some (givenOr stay.pricingChannelCode "direct"))
    context.taxPolicy.taxesIncluded baseCurrency
  let result ← convertDailyAmounts env
    (stayAmounts baseAmount totals context.taxPolicy.taxesIncluded) nightly
    baseCurrency outputCurrency
  let depositAmount ← computeDepositAmount tables.depositSettings
    result.amounts.gross nights (result.breakdown.map NightPrice.price)
  pure {
    nights
    nightlyRate := round2 (result.amounts.gross / ofRat nights)
    totalAmount := result.amounts.gross
    depositAmount
    subtotalAmount := result.amounts.subtotal
    taxAmount := result.amounts.tax
    feeAmount := result.amounts.fee
    commissionAmount := ofRat 0
    netAmount := result.amounts.gross
    currencyCode := outputCurrency
    fxRateSnapshot := result.fxRateSnapshot
    pricingSource := "daily_rates"
    sellableProductId := context.product.map (·.id)
    ratePlanId := none
    taxPolicyId := some context.taxPolicy.id
    taxBreakdown := result.amounts.breakdown
    breakdown := result.breakdown }

def stayCategory (stay : StayRequest) : Except String PricedCategory :=
  match stay.category <|> tables.pricedCategory? stay.categoryId with
  | none => .error s!"No se encontró la categoría de habitación con ID {stay.categoryId}"
  | some category => do
    raiseIf (category.id ≠ stay.categoryId)
      "La categoría de habitación no coincide con la cotización"
    raiseIf (category.hotelId ≠ tables.hotelId)
      "La categoría de habitación no pertenece al hotel activo"
    pure category

/-- The stay has nights, and guests that its category takes. -/
def checkStayRequest (category : PricedCategory) (stay : StayRequest) : Except String Unit := do
  raiseIf (stay.nights ≤ 0) "La fecha de salida debe ser posterior a la fecha de entrada"
  match stay.occupancy with
  | none => pure ()
  | some occupancy => do
    raiseIf (occupancy ≤ 0) "La ocupación debe ser mayor que cero"
    raiseIf (category.maxOccupancy < occupancy)
      (s!"La categoría admite hasta {category.maxOccupancy} huéspedes; " ++
        s!"se solicitaron {occupancy}.")

def checkProductGuests (category : PricedCategory)
    (product : Option RateProduct) (occupancy : Option Int) :
    Except String Unit :=
  match occupancy with
  | none => pure ()
  | some occupancy =>
    let productMin := (product.map RateProduct.minOccupancy).getD 1
    let productMax :=
      (product.map RateProduct.maxOccupancy).getD category.maxOccupancy
    raiseIf (¬(productMin ≤ occupancy ∧ occupancy ≤ productMax))
      (s!"El producto admite entre {productMin} y {productMax} " ++
        s!"huéspedes; se solicitaron {occupancy}.")

/-- The stay names neither a product nor a plan nor a tax policy. -/
def StayRequest.isInferred (stay : StayRequest) : Bool :=
  stay.ratePlanId.isNone && stay.sellableProductId.isNone && stay.taxPolicyId.isNone

def planPricingResult (category : PricedCategory) (stay : StayRequest)
    (paymentMethod : Option String)
    (context : PricingTables.CommercialContext F) (plan : RatePlan) :
    Except String (ReservationPricingResult F) :=
  match quoteRatePlanStay tables env plan.id stay.checkIn stay.checkOut
      (some (stay.occupancy.getD (max category.maxOccupancy 1)))
      (some (givenOr stay.pricingChannelCode "direct")) stay.guestScope
      stay.targetCurrency (some context.taxPolicy.id) with
  | .ok quote => pricingResultFromQuote tables stay quote context plan.id
  | .error error =>
    -- the source compares the text, which no other error has
    if error = .plan .noActivePrices ∧ stay.isInferred = true then
      dailyRatePricingResult tables env category stay paymentMethod context
    else .error error.text

def calculateReservationPricing (stay : StayRequest) :
    Except String (ReservationPricingResult F) := do
  let category ← stayCategory tables stay
  let _ ← requireDepositPolicyConfigured tables.depositSettings
  checkStayRequest category stay
  let paymentMethod ← normalizePricingPaymentMethod stay.pricingPaymentMethod
  let context ← tables.resolveReservationCommercialContext category.id
    stay.sellableProductId stay.ratePlanId stay.taxPolicyId
  match context.plan with
  | none =>
    dailyRatePricingResult tables env category stay paymentMethod context
  | some plan => do
    checkProductGuests category context.product stay.occupancy
    planPricingResult tables env category stay paymentMethod context plan

end HotelPms.Quotes
