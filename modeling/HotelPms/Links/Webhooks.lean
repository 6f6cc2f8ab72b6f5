import HotelPms.Links.Creation
import HotelPms.Links.Collection

/-!
# Notifications of a payment provider

A notification names a payment of a link.  Its amount, currency and status are
those the provider answers with, checked against the link; the payment row
moves along a table of allowed transitions, each notification is logged once,
and a completed payment writes its transaction into the ledger.  A closed link
takes late settlements only.  A call that raises is rolled back.  Calls run
one after the other, so the second look for an event, made under the lock,
reads what the first one has read.
-/

namespace HotelPms.Links

open Checked Decimal Hotel Payments

variable (env : LinkEnvironment) (state : LinkState) (provider : LinkProvider)
  (closed : Option LinkStatus) (link : PaymentLink)

/-- Status of a payment that a provider's text stands for. -/
def normalizeStatus (status : String) : PaymentStatus :=
  let normalized := (Text.strip status).toLower
  if provider = .mercadoPago ∧ normalized = "approved" then .completed
  else if normalized ∈ ["completed", "paid", "succeeded", "success"] then
    .completed
  else if normalized ∈ ["rejected", "failed", "cancelled", "canceled", "charged_back"] then
    .failed
  else if normalized = "refunded" then .refunded
  else if normalized = "partially_refunded" then .partiallyRefunded
  else .pending

/-- Statuses a payment may move to. -/
def allowedStatusTransitions : PaymentStatus -> List PaymentStatus
  | .pending => [.pending, .completed, .failed, .refunded, .partiallyRefunded]
  | .completed => [.completed, .refunded, .partiallyRefunded]
  | .failed => [.failed]
  | .refunded => [.refunded]
  | .partiallyRefunded => [.partiallyRefunded, .refunded]

def IsAllowedStatusTransition (current new : PaymentStatus) : Prop :=
  new ∈ allowedStatusTransitions current
deriving Decidable

/-- A notification, with what the provider answers when it is asked for the
payment. -/
structure WebhookCall where
  provider : String := "mercado_pago"
  webhookId : String
  payload : Json
  paymentLinkId : Option Int := none
  /-- Lookup the caller injects. -/
  providerFetcher : Option (String -> Except String Json) := none
  /-- Lookup at Mercado Pago. -/
  fetchMercadopagoPayment : String -> Except String Json

def LinkProvider.ofText (provider : String) : Option LinkProvider :=
  let normalized :=
    (Text.strip (if provider = "" then "mercado_pago" else provider)).toLower
  if normalized = "mercadopago" ∨ normalized = "mercado_pago" then
    some .mercadoPago
  else if normalized = "paypal" then some .paypal
  else none

def payloadReference (payload : Json) : Option Json :=
  payloadValue payload [["external_reference"], ["data", "external_reference"],
    ["metadata", "external_reference"]]

/-- Link of a notification: by its id, or by the reference. -/
def resolveLink (call : WebhookCall) : Except String PaymentLink :=
  match (call.paymentLinkId.bind state.link?) <|>
      ((payloadReference call.payload).bind fun reference =>
        state.links.find? fun link =>
          link.externalReference = some (env.str reference)) with
  | some link => pure link
  | none => throw "Link de pago no encontrado para el webhook"

/-- Payment a notification is about. -/
def externalPaymentIdOf (call : WebhookCall) : String :=
  match (payloadValue call.payload
      [["payment_id"], ["data", "id"], ["id"]]).filter Json.isTruthy with
  | some value => env.str value
  | none => call.webhookId

def checkLinkOfNotification (call : WebhookCall) : Except String Unit := do
  raiseIf (link.provider ≠ provider) "El proveedor del evento no coincide con el link de pago"
  raiseIf (¬link.IsProviderLink) "El artefacto local_only no acepta pagos de proveedor"
  raiseIf (((payloadReference call.payload).any fun reference =>
      reference.isTruthy && textGiven link.externalReference &&
        decide (some (env.str reference) ≠ link.externalReference)) = true)
    "La referencia del evento no coincide con el link de pago"

/-- Every notification of this provider has to be verified. -/
def mustVerifyWithProvider : Bool :=
  decide (provider = .mercadoPago)

def amountPaths : List (List String) :=
  [["amount"], ["transaction_amount"], ["data", "amount"]]

def currencyPaths : List (List String) :=
  [["currency"], ["currency_id"], ["data", "currency"]]

def statusPaths : List (List String) := [["status"], ["data", "status"]]

def textOf : Option Json -> Option String
  | some (.text value) => some value
  | _ => none

/-- Notification and provider answer: the answer is asked for where the
provider requires it or a field is missing. -/
def verifyNotification (call : WebhookCall)
    (externalPaymentId : String) : Except String (Json × Json) :=
  if mustVerifyWithProvider provider = true ∨ payloadValue call.payload amountPaths = none ∨
      payloadValue call.payload currencyPaths = none ∨
      payloadValue call.payload statusPaths = none then
    match call.providerFetcher <|> (if mustVerifyWithProvider provider then
          some call.fetchMercadopagoPayment else none) with
    | none =>
      throw ("El evento no trae datos suficientes y la consulta a Mercado " ++
        "Pago esta deshabilitada")
    | some fetch => do
      let verified ← fetch externalPaymentId
      raiseIf (verified.isObject = false) "El proveedor devolvio una respuesta de pago invalida"
      raiseIf (mustVerifyWithProvider provider = true ∧
          (textGiven link.externalReference = false ∨ textOf (payloadValue verified
              (responseAliases "external_reference")) ≠ link.externalReference))
        ("La referencia del pago verificado no coincide con el link de " ++ "pago")
      pure (verifiedEnvelope call.payload verified, verified)
  else pure (call.payload, call.payload)

/-- What a notification reports of a payment. -/
structure Charge where
  externalPaymentId : String
  amount : Int
  amountPositive : 0 < amount
  currency : String
  status : PaymentStatus
  completedAt : Int
  response : Json

/-- Account the payment was made to, where it is known, is the hotel's. -/
def checkAccount (payload : Json) : Except String Unit :=
  let expected := (payloadValue link.gatewayResponse
    [["pms_account_id"], ["collector_id"], ["metadata", "account_id"]]).filter Json.isTruthy
  let incoming := (payloadValue payload [["collector_id"], ["user_id"], ["data", "collector_id"],
      ["metadata", "account_id"]]).filter Json.isTruthy
  raiseIf (expected ≠ none ∧ incoming ≠ none ∧ expected.map env.str ≠ incoming.map env.str)
    "El pago proviene de una cuenta de Mercado Pago distinta a la del hotel"

/-- Status a notification reports: the provider's own where it was asked. -/
def reportedStatus (source : Json) : PaymentStatus :=
  normalizeStatus provider
    ((((payloadValue source statusPaths).filter Json.isTruthy).map env.str).getD "pending")

/-- Moment a payment was completed at. -/
def completedAt (payload : Json) : Int :=
  ((["date_approved", "completed_at", "date_last_updated"].findSome?
    fun key => (payloadValue payload [[key]]).bind env.isoDate)).getD env.now

/-- Amount of a notification, in cents. -/
def chargedAmount (payload : Json) : Except String Int :=
  match payloadValue payload amountPaths with
  | none => throw "El evento del proveedor no informa el monto cobrado"
  | some raw =>
    match env.decimal raw with
    | none => throw "InvalidOperation"
    | some amount => pure (quantize 0 amount)

/-- Currency of a notification, which has to be the link's. -/
def chargedCurrency (payload : Json) : Except String String :=
  match payloadValue payload currencyPaths with
  | none => throw "El evento del proveedor no informa la moneda"
  | some raw => do
    raiseIf (normalizeCurrency (env.str raw) ≠ normalizeCurrency (if link.currency = "" then "ARS"
          else link.currency))
      "La moneda del evento no coincide con el link de pago"
    pure (normalizeCurrency (env.str raw))

/-- Read a notification of a link, with what the provider answers. -/
def readCharge (call : WebhookCall) : Except String Charge := do
  let externalPaymentId := externalPaymentIdOf env call
  checkLinkOfNotification env provider link call
  let (payload, providerResponse)
    ← verifyNotification provider link call externalPaymentId
  checkAccount env link payload
  let amount ← chargedAmount env payload
  if positive : 0 < amount then do
    let currency ← chargedCurrency env link payload
    pure
      { externalPaymentId := externalPaymentId
        amount := amount
        amountPositive := positive
        currency := currency
        status := reportedStatus env provider
          (if mustVerifyWithProvider provider then providerResponse
            else payload)
        completedAt := completedAt env payload
        response :=
          paymentResponseProjection providerResponse externalPaymentId }
  else throw "El evento del proveedor informa un monto invalido"

/-- Reasons a captured payment is left to be reconciled by hand. -/
def paymentReconciliationReviewCodes : List String :=
  ["legacy_link_amount_exceeds_link_balance_review_required",
    "legacy_link_amount_exceeds_reservation_balance_review_required",
    "legacy_link_missing_payment_fx_snapshot_review_required"]

def closedLinkStatus (reservation : ReservationFinancials) (link : PaymentLink) :
    Option LinkStatus :=
  if reservation.status = .cancelled then some .cancelled
  else if link.IsClosed then some link.status
  else none

/-- A link that was left open by the cancellation of its reservation. -/
def closeWithReservation : PaymentLink :=
  if closed = some .cancelled ∧ link.status ≠ .cancelled then
    { link with status := .cancelled, payable := false }
  else link

/-- A link of the provider whose surcharge was not frozen. -/
def isLegacyLink : Bool :=
  decide (provider = .mercadoPago ∧ link.surchargeQuote = none)

/-- Review a payment is already under. -/
def existingReconciliationReviewCode (payment : Payment) : Option String :=
  (state.events.filter fun event =>
    event.paymentId = payment.id).findSome? fun event =>
      event.processingError.filter (· ∈ paymentReconciliationReviewCodes)

/-- A new payment needs a link that is payable or closed, and fits into what
the link has not collected, up to a cent. -/
def admitNewPayment (closed : Option LinkStatus)
    (charge : Charge) : Except String (Option String) := do
  raiseIf (link.payable = false ∧ closed = none)
    "El link de pago no esta habilitado para nuevos cobros"
  if link.uncollected + 1 < charge.amount then
    if charge.status = .completed ∧ isLegacyLink provider link = true then
      pure (some "legacy_link_amount_exceeds_link_balance_review_required")
    else throw "El monto del evento excede el saldo del link de pago"
  else pure none

/-- A known payment keeps its link, its amount and its currency. -/
def admitKnownPayment (charge : Charge) (payment : Payment) : Except String (Option String) := do
  raiseIf (¬(payment.paymentLinkId = none ∨ payment.paymentLinkId = some link.id) ∨
      payment.reservationId ≠ link.reservationId)
    "El pago externo ya pertenece a otro link o reserva"
  raiseIf (payment.amount ≠ charge.amount ∨ normalizeCurrency payment.currency ≠ charge.currency)
    ("El monto o la moneda de un pago externo idempotente no pueden " ++ "cambiar")
  pure (existingReconciliationReviewCode state payment)

/-- Review the payment is under, once it is admitted. -/
def admitCharge (closed : Option LinkStatus) (charge : Charge)
    (payment : Option Payment) : Except String (Option String) :=
  match payment with
  | none => admitNewPayment provider link closed charge
  | some payment => admitKnownPayment state link charge payment

def isRecordedCompleted (payment : Option Payment) : Bool :=
  payment.any (·.status = .completed)

/-- A closed link takes a verified late success, and a verified failure of a
payment that is recorded as completed. -/
def checkClosedLink (charge : Charge) (payment : Option Payment) : Except String Unit :=
  raiseIf (closed ≠ none ∧ ¬(mustVerifyWithProvider provider = true ∧ charge.status = .completed) ∧
      ¬(mustVerifyWithProvider provider = true ∧ charge.status = .failed ∧
        isRecordedCompleted payment = true))
    "El link cerrado requiere verificar un pago ya completado con el proveedor"

/-- Row of a payment that is seen for the first time. -/
def newPayment (charge : Charge) : Payment where
  id := state.nextPaymentId
  reservationId := link.reservationId
  paymentLinkId := some link.id
  provider := provider
  externalPaymentId := charge.externalPaymentId
  amount := charge.amount
  amountPositive := charge.amountPositive
  currency := charge.currency
  status := charge.status
  gatewayResponse := charge.response

/-- Row of a known payment after a notification. -/
def updatedPayment (charge : Charge) (payment : Payment) : Payment :=
  { payment with
    paymentLinkId := some link.id
    amount := charge.amount
    amountPositive := charge.amountPositive
    currency := charge.currency
    status := charge.status
    gatewayResponse := charge.response }

/-- A payment keeps the moment at which it was first completed. -/
def withProcessedAt (charge : Charge) (payment : Payment) : Payment :=
  if charge.status = .completed then
    { payment with processedAt := payment.processedAt <|> some charge.completedAt }
  else payment

def completedKey (externalPaymentId : String) : String :=
  provider.value ++ ":" ++ externalPaymentId ++ ":completed"

/-- Amount of a completed payment before its surcharge; a legacy link has no
trustworthy way to split it. -/
def principalOf (accounts : PaymentState) (provider : LinkProvider) (link : PaymentLink)
    (payment : Payment) : Except String Int :=
  if isLegacyLink provider link then pure payment.amount
  else calculateBaseAmountBeforeSurcharge env.toPaymentEnvironment
    accounts.surcharges provider.method payment.amount payment.currency
    link.surchargeQuote

/-- Payment request of a completed payment. -/
def settlementCall (payment : Payment) (response : Json) (base : Int)
    (allowVerifiedCancelledSettlement : Bool) : PaymentCall where
  request :=
    { reservationId := payment.reservationId
      amount := base
      paymentMethod := provider.method
      transactionType := .partialPayment
      currency := some (normalizeCurrency payment.currency)
      description :=
        some (provider.value ++ " payment " ++ payment.externalPaymentId) }
  gatewayResponse := some
    { success := true, externalPaymentId := some payment.externalPaymentId
      externalStatus := some payment.status.value, gatewayResponse := some (env.dumps response) }
  idempotencyKey :=
    some (completedKey provider payment.externalPaymentId)
  applySurcharge := !isLegacyLink provider link
  allowVerifiedCancelledSettlement := allowVerifiedCancelledSettlement
  surchargeQuoteSnapshot :=
    link.surchargeQuote.map LinkSurchargeQuote.terms

def ensureCompletedTransaction (accounts : PaymentState)
    (provider : LinkProvider) (link : PaymentLink) (payment : Payment)
    (response : Json)
    (allowVerifiedCancelledSettlement : Bool) : Except String PaymentState :=
  match accounts.ledger.transactionByKey payment.reservationId
      (completedKey provider payment.externalPaymentId) with
  | some _ => pure accounts
  | none => do
    let base ← principalOf env accounts provider link payment
    let (after, _) ← processPayment env.toPaymentEnvironment accounts
      (settlementCall env provider link payment response base allowVerifiedCancelledSettlement)
    pure after

/-- Review a completed payment needs before it is written into the ledger. -/
def reconciliationReview (reservation : ReservationFinancials) (provider : LinkProvider)
    (link : PaymentLink) (charge : Charge)
    (review : Option String) : Option String :=
  if provider = .mercadoPago then
    if charge.currency ≠ reservation.currency then
      review <|> some "legacy_link_missing_payment_fx_snapshot_review_required"
    else if isLegacyLink provider link = true ∧ review = none ∧
        state.balanceOf reservation < charge.amount then
      some "legacy_link_amount_exceeds_reservation_balance_review_required"
    else review
  else review

/-- Answer to a notification. -/
structure WebhookResult where
  status : String
  duplicate : Bool
  reason : Option String := none
  eventId : Int
  paymentId : Int

/-- Answer to a notification that is already logged. -/
def duplicateWebhookResult (event : PaymentWebhookEvent) : WebhookResult :=
  match event.processingError.filter fun reason =>
      decide (reason ∈ paymentReconciliationReviewCodes) with
  | some reason =>
    { status := "review_required", duplicate := true, reason := some reason, eventId := event.id
      paymentId := event.paymentId }
  | none =>
    { status := "ignored", duplicate := true, eventId := event.id, paymentId := event.paymentId }

/-- Log a notification and answer it. -/
def logWebhook (webhookId : String) (paymentId : Int)
    (processed : Bool) (processingError : Option String) (status : String)
    (reason : Option String) : LinkState × WebhookResult :=
  (state.addEvent
    { id := state.nextEventId, paymentId := paymentId, provider := provider, webhookId := webhookId
      processed := processed, processingError := processingError, processedAt := some env.now },
    { status := status, duplicate := false, reason := reason, eventId := state.nextEventId
      paymentId := paymentId })

/-- Log a notification whose status the payment may not move to: a failure of
a completed payment is left for review. -/
def logInvalidTransition (webhookId : String) (charge : Charge)
    (payment : Payment) : LinkState × WebhookResult :=
  if payment.status = .completed ∧ charge.status = .failed ∧
      mustVerifyWithProvider provider = true then
    logWebhook env state provider webhookId payment.id true none
      "review_required" (some "completed_payment_reported_failed")
  else
    logWebhook env state provider webhookId payment.id false
      (some ("invalid_status_transition:" ++ payment.status.value ++ "->" ++ charge.status.value))
      "ignored" (some "invalid_status_transition")

def refreshClosedLink : PaymentLink :=
  let refreshed := refreshLinkCollection state link
  match closed with
  | some status =>
    if refreshed.status ≠ .completed then
      { refreshed with status := status, payable := false }
    else refreshed
  | none => refreshed

/-- Recompute the collection of a link under review; a closed link stays
closed. -/
def refreshReviewedLink : PaymentLink :=
  let refreshed := refreshLinkCollection state link
  match closed with
  | some status => { refreshed with status := status, payable := false }
  | none => refreshed

/-- Account for a payment row that has been written. -/
def settleCharge (reservation : ReservationFinancials) (provider : LinkProvider)
    (webhookId : String) (link : PaymentLink) (closed : Option LinkStatus)
    (charge : Charge) (payment : Payment)
    (review : Option String) : Except String (LinkState × WebhookResult) :=
  if charge.status = .completed then
    match (reconciliationReview state reservation provider link charge review).filter fun reason =>
          decide (reason ∈ paymentReconciliationReviewCodes) with
    | some reason =>
      pure (logWebhook env (state.storeLink (refreshReviewedLink state closed link)) provider
        webhookId payment.id true (some reason) "review_required"
        (some reason))
    | none => do
      let accounts ← ensureCompletedTransaction env state.accounts provider
        link payment charge.response
        (decide (closed ≠ none) && mustVerifyWithProvider provider)
      let settled := { state with accounts := accounts }
      pure (logWebhook env (settled.storeLink (refreshClosedLink settled closed link)) provider
        webhookId payment.id true none "ok" none)
  else
    pure (logWebhook env (state.storeLink (refreshClosedLink state closed link)) provider
      webhookId payment.id true none "ok" none)

/-- Apply a charge to its link: move the payment row, or log that it may not
move. -/
def applyCharge (webhookId : String) (link : PaymentLink)
    (charge : Charge) : Except String (LinkState × WebhookResult) :=
  match state.accounts.reservations link.reservationId with
  | none => throw "La reserva del link de pago ya no existe"
  | some reservation => do
    let closed := closedLinkStatus reservation link
    let link := closeWithReservation closed link
    let payment := state.payment? provider charge.externalPaymentId
    let review ← admitCharge state provider link closed charge payment
    checkClosedLink provider closed charge payment
    let state := state.storeLink link
    match payment with
    | none =>
      let added :=
        withProcessedAt charge (newPayment state provider link charge)
      settleCharge env (state.addPayment added) reservation provider
        webhookId link closed charge added review
    | some payment =>
      if IsAllowedStatusTransition payment.status charge.status then
        let moved :=
          withProcessedAt charge (updatedPayment link charge payment)
        settleCharge env (state.storePayment moved) reservation provider
          webhookId link closed charge moved review
      else
        pure (logInvalidTransition env state provider webhookId charge payment)

/-- Take in a notification of a provider. -/
def ingestWebhook (call : WebhookCall) : Except String (LinkState × WebhookResult) := do
  raiseIf (env.inboundProviderEventsEnabled = false)
    (call.provider ++ " callbacks are disabled by INBOUND_PROVIDER_EVENTS_ENABLED")
  match LinkProvider.ofText call.provider with
  | none => throw "El proveedor del evento no coincide con el link de pago"
  | some provider => do
    raiseIf (state.accounts.hotelId ≤ 0) "Hotel invalido para el webhook de pago"
    match state.findExistingEvent provider call.webhookId with
    | some event => pure (state, duplicateWebhookResult event)
    | none => do
      let link ← resolveLink env state call
      let charge ← readCharge env provider link call
      applyCharge env state provider call.webhookId link charge

/-- A notification of a payment of the link of a key; the provider answers
with an amount and a status. -/
def notificationOf (webhookId key paymentId : String) (amount : ℚ) (status : String) :
    WebhookCall where
  webhookId := webhookId
  payload := .object [("external_reference", .text ("payment-link:1:" ++ key ++ ":firma")),
      ("payment_id", .text paymentId)]
  fetchMercadopagoPayment := fun _ => .ok (.object
    [("external_reference", .text ("payment-link:1:" ++ key ++ ":firma")),
      ("transaction_amount", .number amount),
      ("currency_id", .text "ARS"),
      ("status", .text status)])

end HotelPms.Links
