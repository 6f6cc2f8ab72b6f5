import HotelPms.Payments.CompanyNights
import Mathlib.Data.Finset.Dedup

/-!
# Payment requests and quotes

A payment request as the schema lets it through, the state a payment reads and
writes, and the part of a payment that depends on the request, its reservation
and its signed quote only: currency, quote token and cash fields.  Signature
checks of tokens, market rates and float texts come from outside and are
parameters.
-/

namespace HotelPms.Payments

open Checked

/-! No nights meet the conditions of the schema. -/

theorem noNights_distinct : (([] : List (Int × Int)).map Prod.fst).Nodup := List.nodup_nil

theorem noNights_positive : ∀ night ∈ ([] : List (Int × Int)), 0 < night.2 := by
  simp

theorem noNights_refunded (transactionType : TransactionType) :
    transactionType ≠ .refund -> ([] : List (Int × Int)) = [] := fun _ => rfl

theorem noNights_paid (transactionType : TransactionType) :
    transactionType = .refund -> ([] : List Int) = [] := fun _ => rfl

/-- Client-facing payment request as the schema lets it through. -/
structure PaymentRequest where
  reservationId : Int
  amount : Int
  cashReceivedAmount : Option Int := none
  cashTipAmount : Int := 0
  paymentMethod : PaymentMethod
  transactionType : TransactionType
  currency : Option String := none
  paymentQuoteToken : Option String := none
  manualFxQuoteId : Option Int := none
  description : Option String := none
  manualReference : Option String := none
  refundOfTransactionId : Option Int := none
  refundReason : Option String := none
  refundComponent : RefundComponent := .payment
  companyNightChargeIds : List Int := []
  companyNightChargeRefundAllocations : List (Int × Int) := []
  refundNightsDistinct : (companyNightChargeRefundAllocations.map Prod.fst).Nodup :=
      by exact noNights_distinct
  refundAmountsPositive : ∀ night ∈ companyNightChargeRefundAllocations,
    0 < night.2 := by exact noNights_positive
  nightsOfRefundsOnly : transactionType ≠ .refund →
    companyNightChargeRefundAllocations = [] := by exact noNights_refunded _
  nightsOfPaymentsOnly : transactionType = .refund →
    companyNightChargeIds = [] := by exact noNights_paid _
  collectedBefore : Bool := false
  collectedOn : Option Int := none
  priorReceiptNote : Option String := none

structure PaymentGatewayResponse where
  success : Bool
  externalPaymentId : Option String := none
  externalStatus : Option String := none
  gatewayResponse : Option String := none

structure SurchargeQuoteSnapshot where
  version : Int := 1
  paymentMethod : PaymentMethod
  currencyCode : String
  surchargeId : Option Int := none
  surchargeType : Option String := none
  surchargeValue : Option ℚ := none
  surchargeCurrencyCode : Option String := none
  surchargeAmount : Option ℚ := none
  surchargeFxQuoteDetails : Option Provenance := none
  deriving DecidableEq

/-- A payment with the options of its caller. -/
structure PaymentCall where
  request : PaymentRequest
  gatewayResponse : Option PaymentGatewayResponse := none
  idempotencyKey : Option String := none
  actorUserId : Option Int := none
  manualConfirmation : Bool := false
  applySurcharge : Bool := true
  allowVerifiedCancelledSettlement : Bool := false
  captureCashReceipt : Bool := true
  surchargeQuoteSnapshot : Option SurchargeQuoteSnapshot := none

/-- Payload of a signed payment quote.  The service issues an authorization
together with the details that name it. -/
structure QuotePayload where
  purpose : String := "payment_surcharge_quote"
  hotelId : Int
  reservationId : Int
  paymentMethod : PaymentMethod
  currencyCode : String
  reservationCurrencyCode : String
  baseAmount : Int
  appliedAmount : Int
  paymentFxRate : ℚ
  paymentFxQuoteDetails : Option FxQuoteDetails := none
  cashChangeCurrencyCode : Option String := none
  cashChangeFxRate : Option ℚ := none
  manualFxQuoteId : Option Int := none
  issuedTogether : manualFxQuoteId = none →
    manualFxQuoteIdOf paymentFxQuoteDetails = none := by decide
  surchargeQuoteSnapshot : SurchargeQuoteSnapshot
  exp : Int

/-- What a payment takes from outside: the clock, the business date, the
verification of a token's signature, market rates and floats. -/
structure PaymentEnvironment where
  now : Int
  today : Int
  decodeToken : String → Option QuotePayload
  conversionRate : String → String → Except String (ℚ × Option Provenance)
  floatValue : ℚ → ℚ

structure CashSession where
  id : Int
  currencyCode : String
  isOpen : Bool := true

inductive CashMovementType
  | income
  | expense

structure CashMovement where
  sessionId : Int
  reservationId : Int
  transactionId : Int
  recordedByUserId : Option Int
  movementType : CashMovementType
  amount : Int
  recordedAt : Int

/-- Single-use authorization of a manually approved conversion. -/
structure ManualFxPaymentQuote where
  id : Int
  reservationId : Int
  paymentMethod : PaymentMethod
  reservationCurrencyCode : String
  tenderCurrencyCode : String
  distinctCurrencies : reservationCurrencyCode ≠ tenderCurrencyCode
  reservationAmount : Int
  tenderAmount : Int
  provenance : Provenance := []
  surchargeQuoteSnapshot : Option SurchargeQuoteSnapshot := none
  consumedTransactionId : Option Int := none
  consumedAt : Option Int := none
  supersededAt : Option Int := none

structure Company where
  id : Int
  paymentDeferred : Bool := false

structure PaymentSurcharge where
  id : Int
  paymentMethod : PaymentMethod
  surchargeType : String
  amount : ℚ
  currencyCode : String := "ARS"
  isActive : Bool := true

structure HotelPaymentConfig where
  defaultCurrency : String := "ARS"
  enabledMethods : List PaymentMethod :=
    [.cash, .mercadoPago, .paypal, .creditCard, .debitCard]

/-- The tables of one hotel a payment reads and writes. -/
structure PaymentState where
  hotelId : Int
  reservations : Int -> Option ReservationFinancials
  ownIds : ∀ id reservation, reservations id = some reservation -> reservation.id = id
  ledger : Ledger
  adjustments : List BillingAdjustment := []
  nightCharges : List CompanyNightCharge := []
  companies : List Company := []
  surcharges : List PaymentSurcharge := []
  manualQuotes : List ManualFxPaymentQuote := []
  cashSessions : List CashSession := []
  cashMovements : List CashMovement := []
  config : HotelPaymentConfig := {}

def PaymentMethod.value : PaymentMethod -> String
  | .cash => "cash"
  | .mercadoPago => "mercado_pago"
  | .paypal => "paypal"
  | .creditCard => "credit_card"
  | .debitCard => "debit_card"
  | .bankTransfer => "bank_transfer"

namespace PaymentRequest

variable (request : PaymentRequest)

def IsRefund : Prop := request.transactionType = .refund
deriving Decidable

def IsCreditRefund : Prop :=
  request.IsRefund ∧ request.refundComponent = .roundingCredit
deriving Decidable

end PaymentRequest

def supportedConversionCurrencies : List String :=
  ["ARS", "USD", "EUR", "BRL", "CLP", "UYU"]

/-- Three ASCII letters. -/
def currencyWellFormed (code : String) : Bool :=
  decide (code.length = 3) && code.toList.all Char.isAlpha

/-- Resolve the tender currency, keeping conversions within supported pairs. -/
def resolvePaymentCurrency (reservation : ReservationFinancials)
    (requestedCurrency : Option String) : Except String String := do
  let candidate :=
    if textGiven requestedCurrency then
      normalizeCurrency (requestedCurrency.getD "")
    else reservation.currency
  raiseIf (currencyWellFormed reservation.currency = false ∨ currencyWellFormed candidate = false)
    "La moneda de la reserva o del pago no es válida"
  raiseIf (candidate ≠ reservation.currency ∧ (candidate ∉ supportedConversionCurrencies ∨
        reservation.currency ∉ supportedConversionCurrencies))
    ("No se admite convertir entre " ++ reservation.currency ++ " y " ++
      candidate ++ "; monedas disponibles: ARS, USD, EUR, BRL, CLP y UYU.")
  pure candidate

/-- Verify and bind a short-lived server quote to the submitted collection. -/
def verifyPaymentQuoteToken (env : PaymentEnvironment) (hotelId : Int)
    (reservation : ReservationFinancials) (paymentMethod : PaymentMethod)
    (currencyCode : String) (baseAmount : Int)
    (token : String) : Except String QuotePayload :=
  match env.decodeToken token with
  | none =>
    .error "La cotización del cobro venció o no es válida. Volvé a cotizar."
  | some payload => do
    raiseIf (payload.exp < env.now)
      "La cotización del cobro venció o no es válida. Volvé a cotizar."
    raiseIf (payload.purpose ≠ "payment_surcharge_quote" ∨ payload.hotelId ≠ hotelId ∨
        payload.reservationId ≠ reservation.id ∨
        payload.paymentMethod ≠ paymentMethod ∨
        payload.currencyCode ≠ currencyCode ∨
        payload.reservationCurrencyCode ≠ reservation.currency)
      ("La cotización del cobro no corresponde a esta reserva o forma de " ++ "pago.")
    raiseIf (payload.baseAmount ≠ baseAmount ∨ payload.appliedAmount ≤ 0 ∨
        payload.paymentFxRate ≤ 0)
      ("La cotización guardada del cobro no coincide con el importe " ++ "enviado.")
    raiseIf (currencyCode = reservation.currency ∧ payload.paymentFxRate ≠ 1)
      "La cotización guardada del cobro usa una conversión no válida."
    raiseIf ((payload.cashChangeCurrencyCode.any fun code =>
        !currencyWellFormed (normalizeCurrency code)) = true)
      "La moneda de vuelto guardada no es válida."
    raiseIf ((payload.cashChangeFxRate.any (· ≤ 0)) = true)
      "La cotización de vuelto guardada no es válida."
    raiseIf ((payload.manualFxQuoteId.any (· ≤ 0)) = true)
      "La autorización manual de conversión no es válida."
    pure payload

/-- The verified quote of a call, if its request carries a token. -/
def requestQuote (env : PaymentEnvironment) (hotelId : Int)
    (reservation : ReservationFinancials) (currencyCode : String)
    (call : PaymentCall) : Except String (Option QuotePayload) :=
  if textGiven call.request.paymentQuoteToken then do
    raiseIf (call.request.IsRefund ∨ call.request.collectedBefore = true ∨
        call.applySurcharge = false)
      "La cotización solo se admite para un cobro nuevo."
    raiseIf (call.surchargeQuoteSnapshot ≠ none)
      "No se pueden combinar dos cotizaciones para el mismo cobro."
    let payload ← verifyPaymentQuoteToken env hotelId reservation
      call.request.paymentMethod currencyCode call.request.amount
      (call.request.paymentQuoteToken.getD "")
    pure (some payload)
  else pure none

/-- Cash handed over and tip are allowed on this request. -/
def checkCashFields (call : PaymentCall) : Except String Unit := do
  let request := call.request
  raiseIf (request.cashReceivedAmount ≠ none ∧ (request.paymentMethod ≠ .cash ∨ request.IsRefund))
    ("El efectivo entregado solo se admite en pagos en efectivo, no en " ++ "devoluciones.")
  raiseIf ((request.cashReceivedAmount.any (· ≤ 0)) = true)
    "El efectivo entregado debe ser mayor a cero."
  raiseIf (request.cashTipAmount < 0) "El importe de la propina no puede ser negativo."
  raiseIf (0 < request.cashTipAmount ∧ (request.paymentMethod ≠ .cash ∨ request.IsRefund))
    "La propina solo se admite en cobros en efectivo."
  raiseIf (0 < request.cashTipAmount ∧ request.cashReceivedAmount = none)
    "Para dejar propina se debe registrar el efectivo entregado."
  raiseIf (0 < request.cashTipAmount ∧ call.captureCashReceipt = false)
    "La propina se registra una sola vez en el cobro grupal."
  raiseIf (call.captureCashReceipt = false ∧ request.cashReceivedAmount ≠ none)
    "El efectivo entregado se registra una sola vez en el cobro grupal."

/-- What is known of a request before the ledger is read. -/
structure CheckedRequest where
  reservation : ReservationFinancials
  currency : String
  quote : Option QuotePayload

/-- Checks made before the idempotency key is looked up. -/
def checkRequest (env : PaymentEnvironment) (state : PaymentState)
    (call : PaymentCall) : Except String CheckedRequest :=
  match state.reservations call.request.reservationId with
  | none => .error "No se encontró la reserva."
  | some reservation => do
    raiseIf (¬call.request.IsRefund ∧ call.request.refundComponent ≠ .payment)
      "El componente de devolución no es válido para esta transacción."
    let currency ← resolvePaymentCurrency reservation call.request.currency
    raiseIf (call.request.amount ≤ 0) "El importe del cobro debe ser mayor a cero"
    let quote ← requestQuote env state.hotelId reservation currency call
    raiseIf (call.request.manualFxQuoteId ≠ quote.bind QuotePayload.manualFxQuoteId)
      "El importe manual no coincide con la autorización firmada."
    checkCashFields call
    pure { reservation := reservation, currency := currency, quote := quote }

structure RequestChecked
    (env : PaymentEnvironment)
    (state : PaymentState)
    (call : PaymentCall)
    (checked : CheckedRequest) : Prop where
  stored : state.reservations call.request.reservationId = some checked.reservation
  component : call.request.IsRefund ∨ call.request.refundComponent = .payment
  currency : resolvePaymentCurrency checked.reservation call.request.currency = .ok checked.currency
  positive : 0 < call.request.amount
  quote : requestQuote env state.hotelId checked.reservation checked.currency
    call = .ok checked.quote
  manualFxQuoteId : call.request.manualFxQuoteId = checked.quote.bind QuotePayload.manualFxQuoteId
  cash : checkCashFields call = .ok ()

theorem checkRequest_eq_ok {env : PaymentEnvironment} {state : PaymentState} {call : PaymentCall}
    {checked : CheckedRequest} :
    checkRequest env state call = .ok checked ↔ RequestChecked env state call checked := by
  obtain ⟨reservation, currency, quote⟩ := checked
  unfold checkRequest
  constructor
  · intro isChecked
    cases found : state.reservations call.request.reservationId with
    | none =>
      rw [found] at isChecked
      cases isChecked
    | some stored =>
      simp only [found, bind_eq_ok, raiseIf_eq_ok, pure_eq_ok, not_and,
        not_not, not_le, ne_eq, CheckedRequest.mk.injEq] at isChecked
      obtain ⟨_, component, _, resolved, _, positive, _, isQuote, _, manual,
        _, cash, rfl, rfl, rfl⟩ := isChecked
      exact
        { stored := found, component := or_iff_not_imp_left.mpr component, currency := resolved
          positive := positive, quote := isQuote, manualFxQuoteId := manual, cash := cash }
  · intro passed
    simp only [passed.stored, bind_eq_ok, raiseIf_eq_ok, pure_eq_ok, not_and,
      not_not, not_le, ne_eq]
    exact ⟨(), or_iff_not_imp_left.mp passed.component, _, passed.currency, (),
      passed.positive, _, passed.quote, (), passed.manualFxQuoteId, (),
      passed.cash, rfl⟩

/-- Receipt a cash payment is compared by: the cash handed over, or the gross
amount where none was given. -/
def effectiveCashReceived (received : Option Int) (gross : Int) : Int :=
  received.getD gross

def Transaction.grossOrTender (transaction : Transaction) : Int :=
  transaction.grossAmount.getD transaction.tender

def cashReceiptMatches (existing : Transaction) (request : PaymentRequest) :
    Prop :=
  if request.paymentMethod = .cash ∧ ¬request.IsRefund then
    effectiveCashReceived existing.cashReceivedAmount existing.grossOrTender =
      effectiveCashReceived request.cashReceivedAmount existing.grossOrTender
  else
    request.cashReceivedAmount = none ∧ existing.cashReceivedAmount = none
deriving Decidable

/-- Stored and requested night selections agree. -/
def allocationMatches (ledger : Ledger) (existing : Transaction) (request : PaymentRequest) :
    Prop :=
  if request.IsRefund then
    (ledger.nightAllocations existing.id).toFinset =
      request.companyNightChargeRefundAllocations.toFinset
  else
    ((ledger.nightAllocations existing.id).map Prod.fst).toFinset =
      request.companyNightChargeIds.toFinset
deriving Decidable

/-- The stored transaction answers the request. -/
structure SameIdempotentPayment
    (ledger : Ledger)
    (existing : Transaction)
    (request : PaymentRequest)
    (currency : String) : Prop where
  tender : existing.tender = request.amount
  cashReceipt : cashReceiptMatches existing request
  cashTip : existing.cashTipAmount = request.cashTipAmount
  paymentMethod : existing.paymentMethod = request.paymentMethod
  transactionType : existing.transactionType = request.transactionType
  refundComponent : existing.refundComponent = request.refundComponent
  currency : existing.tenderCode = currency
  manualReference : existing.manualReference = request.manualReference
  manualFxQuoteId : manualFxQuoteIdOf existing.fxQuoteDetails = request.manualFxQuoteId
  refundOfTransactionId : existing.refundOfTransactionId = request.refundOfTransactionId
  refundReason : existing.refundReason = request.refundReason
  collectedBefore : existing.collectedBefore = request.collectedBefore
  collectedOn : existing.collectedOn = request.collectedOn
  priorReceiptNote : existing.priorReceiptNote = request.priorReceiptNote
  allocation : allocationMatches ledger existing request

instance (ledger : Ledger) (existing : Transaction) (request : PaymentRequest) (currency : String) :
    Decidable (SameIdempotentPayment ledger existing request currency) :=
  decidable_of_iff (existing.tender = request.amount ∧ cashReceiptMatches existing request ∧
      existing.cashTipAmount = request.cashTipAmount ∧
      existing.paymentMethod = request.paymentMethod ∧
      existing.transactionType = request.transactionType ∧
      existing.refundComponent = request.refundComponent ∧
      existing.tenderCode = currency ∧
      existing.manualReference = request.manualReference ∧
      manualFxQuoteIdOf existing.fxQuoteDetails = request.manualFxQuoteId ∧
      existing.refundOfTransactionId = request.refundOfTransactionId ∧
      existing.refundReason = request.refundReason ∧
      existing.collectedBefore = request.collectedBefore ∧
      existing.collectedOn = request.collectedOn ∧
      existing.priorReceiptNote = request.priorReceiptNote ∧
      allocationMatches ledger existing request)
    ⟨fun ⟨a, b, c, d, e, f, g, h, i, j, k, l, m, n, o⟩ =>
      ⟨a, b, c, d, e, f, g, h, i, j, k, l, m, n, o⟩,
      fun ⟨a, b, c, d, e, f, g, h, i, j, k, l, m, n, o⟩ =>
        ⟨a, b, c, d, e, f, g, h, i, j, k, l, m, n, o⟩⟩

end HotelPms.Payments
