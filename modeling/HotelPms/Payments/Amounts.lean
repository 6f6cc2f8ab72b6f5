import HotelPms.Payments.Request

/-!
# Amounts of a payment

What a payment or a refund applies to its reservation, the surcharge on top of
it, and the cash that changes hands.  Amounts are in cents, so a product of an
amount and a rate is quantized to no further place.
-/

namespace HotelPms.Payments

open Checked Decimal

variable (ledger : Ledger) (env : PaymentEnvironment)

def paymentConversionRate (fromCurrency toCurrency : String) :
    Except String (ℚ × Option Provenance) := do
  let quote ← env.conversionRate fromCurrency toCurrency
  raiseIf (quote.1 ≤ 0) "La cotización de conversión no es válida"
  pure quote

/-- Market provenance as stored with a transaction. -/
def marketDetails (provenance : Option Provenance) : Option FxQuoteDetails :=
  provenance.map fun entries => { entries := entries }

/-- Effect of a tender on the reservation balance, with its frozen quote. -/
structure AppliedAmount where
  amount : Int
  fxRateSnapshot : Option ℚ
  fxQuoteDetails : Option FxQuoteDetails

/-- A conversion frozen before the payment. -/
structure FrozenRate where
  rate : ℚ
  details : Option FxQuoteDetails

/-- Equivalent of a refund at the ratio of its source payment: net principal
tender per applied amount. -/
def refundEquivalent (source : Transaction) (tenderAmount : Int) : Int :=
  quantize 0 (inContext (tenderAmount / inContext ((source.principalTender : ℚ) / source.amount)))

/-- Convert a refund at the quote of its source payment. -/
def resolveRefundAmount (tenderAmount : Int)
    (source : Transaction) : Except String AppliedAmount := do
  raiseIf (source.principalTender ≤ 0 ∨ source.amount ≤ 0)
    "No se puede calcular el equivalente de la devolución original"
  pure
    { amount := refundEquivalent source tenderAmount
      fxRateSnapshot := some (env.floatValue
        (inContext ((source.principalTender : ℚ) / source.amount)))
      fxQuoteDetails := source.fxQuoteDetails.map fun details =>
        if details = {} then details
        else { details with refundUsesOriginalQuote := true } }

/-- Rate of a payment: frozen before it, or the configured one. -/
def directRate (reservation : ReservationFinancials) (tenderCurrency : String)
    (frozen : Option FrozenRate) : Except String FrozenRate :=
  match frozen with
  | some frozen => pure frozen
  | none => do
    let quote ← paymentConversionRate env tenderCurrency reservation.currency
    pure { rate := quote.1, details := marketDetails quote.2 }

/-- Convert a received tender at the rate of the payment. -/
def resolvePaymentAmount (reservation : ReservationFinancials) (tenderAmount : Int)
    (tenderCurrency : String)
    (frozen : Option FrozenRate) : Except String AppliedAmount := do
  let direct ← directRate env reservation tenderCurrency frozen
  let applied := quantize 0 (inContext (tenderAmount * direct.rate))
  raiseIf (applied ≤ 0) "El importe recibido es demasiado bajo para acreditarse a la reserva"
  pure
    { amount := applied, fxRateSnapshot := some (env.floatValue (inContext (1 / direct.rate)))
      fxQuoteDetails := direct.details }

/-- Convert received tender to reservation currency and freeze its quote. -/
def resolveAppliedPaymentAmount (reservation : ReservationFinancials) (tenderAmount : Int)
    (tenderCurrency : String) (refundSource : Option Transaction)
    (frozen : Option FrozenRate) : Except String AppliedAmount :=
  if tenderCurrency = reservation.currency then
    pure
      { amount := tenderAmount, fxRateSnapshot := some 1, fxQuoteDetails := none }
  else match refundSource with
    | some source => resolveRefundAmount env tenderAmount source
    | none => resolvePaymentAmount env reservation tenderAmount tenderCurrency frozen

/-- A surcharge in tender currency, with the provenance of its conversion. -/
structure SurchargeInfo where
  amount : Int
  fxQuoteDetails : Option Provenance := none

/-- Percentage of an amount, half a cent up. -/
def percentageOf (base : Int) (percentage : ℚ) : Int :=
  quantizeHalfUp 0 (inContext (inContext (base * percentage) / 100))

def quotedSurcharge (paymentMethod : PaymentMethod) (base : Int) (currencyCode : String)
    (snapshot : SurchargeQuoteSnapshot) : Except String SurchargeInfo := do
  raiseIf (snapshot.version ≠ 1 ∨ snapshot.paymentMethod ≠ paymentMethod ∨
      snapshot.currencyCode.toUpper ≠ currencyCode)
    ("La cotización guardada del recargo no corresponde a esta moneda o " ++ "medio de pago.")
  match snapshot.surchargeType, snapshot.surchargeValue with
  | none, _ =>
    pure { amount := 0, fxQuoteDetails := snapshot.surchargeFxQuoteDetails }
  | some "fixed", some _ =>
    match snapshot.surchargeAmount with
    | none => throw "La cotización guardada del recargo no es válida."
    | some amount =>
      pure { amount := quantizeHalfUp 2 amount, fxQuoteDetails := snapshot.surchargeFxQuoteDetails }
  | some "percentage", some value => do
    raiseIf (100 < |value|) "La cotización guardada del recargo no es válida."
    pure { amount := percentageOf base value, fxQuoteDetails := snapshot.surchargeFxQuoteDetails }
  | _, _ => throw "La cotización guardada del recargo no es válida."

def configuredSurcharge (base : Int) (currencyCode : String)
    (surcharge : PaymentSurcharge) : Except String SurchargeInfo :=
  if surcharge.surchargeType = "fixed" then
    if normalizeCurrency surcharge.currencyCode = currencyCode then
      pure { amount := quantizeHalfUp 2 surcharge.amount }
    else do
      let quote ← paymentConversionRate env (normalizeCurrency surcharge.currencyCode) currencyCode
      pure
        { amount := quantizeHalfUp 2 (inContext (surcharge.amount * quote.1))
          fxQuoteDetails := quote.2 }
  else pure { amount := percentageOf base surcharge.amount }

def calculatePaymentSurcharge (surcharges : List PaymentSurcharge) (paymentMethod : PaymentMethod)
    (base : Int) (currencyCode : String)
    (snapshot : Option SurchargeQuoteSnapshot) :
    Except String SurchargeInfo := do
  raiseIf (currencyWellFormed currencyCode = false) "La moneda del cobro no es válida."
  match snapshot with
  | some snapshot => quotedSurcharge paymentMethod base currencyCode snapshot
  | none =>
    match surcharges.find? fun surcharge => surcharge.isActive &&
          decide (surcharge.paymentMethod = paymentMethod) with
    | none => pure { amount := 0 }
    | some surcharge => configuredSurcharge env base currencyCode surcharge

/-- What can still be refunded of a source payment's rounding credit. -/
def refundableCredit (source : Transaction) : Int :=
  max 0 (source.roundingCreditAmount - ledger.refundedCredit source.reservationId source.id)

/-- What can still be refunded of a source payment's principal. -/
def refundablePrincipal (source : Transaction) : Int :=
  source.principalTender - ledger.refundedTender source.reservationId source.id

/-- The refund stays within what is left of its source payment. -/
def checkRefundCap (request : PaymentRequest)
    (currency : String) (source : Transaction) : Except String Unit :=
  let refundText := "El importe de la devolución (" ++
    formatAmount request.amount ++ " " ++ currency ++ ") supera "
  if request.refundComponent = .roundingCredit then
    raiseIf (source.roundingCreditAmount ≤ 0 ∨ refundableCredit ledger source < request.amount)
      (refundText ++ "el crédito cambiario disponible (" ++
        formatAmount (refundableCredit ledger source) ++ " " ++ currency ++
        ").")
  else
    raiseIf (refundablePrincipal ledger source < request.amount)
      (refundText ++ "el saldo reembolsable restante (" ++
        formatAmount (max 0 (refundablePrincipal ledger source)) ++ " " ++
        currency ++ ") del pago original.")

def completedPayment? (reservationId : Int) (sourceId : Int) : Option Transaction :=
  (ledger.forReservation reservationId).find? fun row =>
    row.id = sourceId ∧ row.status = .completed ∧ ¬row.IsRefund

def refundSource (request : PaymentRequest) (currency : String) : Except String Transaction := do
  raiseIf (request.paymentMethod ≠ .cash)
    "Las devoluciones manuales de reservas deben registrarse en efectivo."
  raiseIf (textGiven request.refundReason = false)
    "La devolución debe identificar el pago original e incluir un motivo."
  match request.refundOfTransactionId with
  | none =>
    throw "La devolución debe identificar el pago original e incluir un motivo."
  | some sourceId =>
    match completedPayment? ledger request.reservationId sourceId with
    | none =>
      throw ("No se encontró el pago original como un cobro completado " ++ "de esta reserva.")
    | some source => do
      raiseIf (source.tenderCode ≠ currency)
        "La devolución debe usar la misma moneda del pago original."
      checkRefundCap ledger request currency source
      pure source

/-- Explicit tip and change, without altering the billed amount. -/
def cashTenderBreakdown (gross received tip : Int) : Except String (Int × Int) := do
  raiseIf (tip < 0) "El importe de la propina no puede ser negativo."
  raiseIf (received < gross) ("El efectivo entregado (" ++ formatAmount received ++
      ") es menor al importe total del cobro (" ++ formatAmount gross ++ ").")
  raiseIf (received - gross < tip)
    ("La propina no puede superar el excedente después de cubrir el " ++ "importe del cobro.")
  pure (tip, received - gross - tip)

/-- Cash drawer detail of a completed cash payment. -/
structure CashReceipt where
  received : Int
  change : Int
  settled : Int
  settledCurrency : String
  rate : Option ℚ
  tip : Int

/-- The rate change is given back at, before it is cut to twelve places. -/
def cashChangeRate (reservation : ReservationFinancials) (request : PaymentRequest)
    (currency hotelCurrency : String) (quote : Option QuotePayload)
    (frozen : Option FrozenRate) (fxRateSnapshot : Option ℚ)
    (change : Int) : Except String (Option ℚ) :=
  if currency = hotelCurrency then pure (some 1)
  else match quote.bind QuotePayload.cashChangeFxRate with
    | some rate => pure (some rate)
    | none =>
      if request.paymentQuoteToken ≠ none then pure none
      else if hotelCurrency = reservation.currency ∧ frozen.isSome then
        pure (frozen.map FrozenRate.rate)
      else if hotelCurrency = reservation.currency ∧ (fxRateSnapshot.any (· ≠ 0)) = true then
        pure (fxRateSnapshot.map fun rate => inContext (1 / rate))
      else if 0 < change then do
        let converted ← paymentConversionRate env currency hotelCurrency
        pure (some converted.1)
      else pure none

/-- A rate with the precision of its column, if it stays positive. -/
def storedRate (rate : Option ℚ) : Option ℚ :=
  (rate.map fun value => (quantizeHalfUp 12 value : ℚ) / 10 ^ 12).filter (0 < ·)

/-- Cash received, tip and change of a completed cash payment. -/
def cashReceipt (state : PaymentState)
    (checked : CheckedRequest) (request : PaymentRequest) (gross : Int)
    (frozen : Option FrozenRate)
    (fxRateSnapshot : Option ℚ) : Except String CashReceipt := do
  let received := effectiveCashReceived request.cashReceivedAmount gross
  let (tip, change) ← cashTenderBreakdown gross received request.cashTipAmount
  let hotelCurrency := normalizeCurrency (if state.config.defaultCurrency = "" then "ARS"
      else state.config.defaultCurrency)
  raiseIf (((checked.quote.bind QuotePayload.cashChangeCurrencyCode).any fun code =>
      normalizeCurrency code ≠ hotelCurrency) = true)
    "La moneda base del hotel cambió; volvé a cotizar el cobro."
  let quoted ← cashChangeRate env checked.reservation request
    checked.currency hotelCurrency checked.quote frozen fxRateSnapshot change
  let rate := storedRate quoted
  raiseIf (0 < change ∧ rate = none)
    ("No hay una cotización vigente para calcular el vuelto en " ++ hotelCurrency ++
      ". Cobrá el importe exacto o solicitá una cotización autorizada.")
  let settled := match rate with
    | some rate => quantizeHalfUp 0 (inContext (change * rate))
    | none => 0
  raiseIf (0 < change ∧ settled ≤ 0)
    ("El excedente es menor al mínimo que se puede devolver en " ++ hotelCurrency ++
      ". Ingresá el importe exacto para evitar diferencias.")
  pure
    { received := received, change := change, settled := settled, settledCurrency := hotelCurrency
      rate := rate, tip := tip }

def requireOpenSessionForCurrency (sessions : List CashSession) (currencyCode : String) :
    Except String CashSession :=
  match sessions.find? fun session => session.isOpen &&
        decide (session.currencyCode = normalizeCurrency currencyCode) with
  | some session => pure session
  | none =>
    if sessions.any CashSession.isOpen then
      throw ("No hay una caja abierta en la moneda (" ++ normalizeCurrency currencyCode ++
        "); hay una caja abierta en otra moneda.")
    else
      throw ("Para registrar un pago en efectivo, primero debe abrirse " ++ "una caja.")

/-- Drawers a cash payment needs, in a stable order. -/
def cashCurrencies (currency : String) (receipt : Option CashReceipt) : List String :=
  match receipt with
  | some receipt =>
    if 0 < receipt.settled ∧ receipt.settledCurrency ≠ currency then
      if receipt.settledCurrency < currency then
        [receipt.settledCurrency, currency]
      else [currency, receipt.settledCurrency]
    else [currency]
  | none => [currency]

end HotelPms.Payments
