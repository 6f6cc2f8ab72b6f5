import HotelPms.Links.State

/-!
# Creating payment links

A link freezes the surcharge it is issued with and asks for the amount with
the surcharge.  In provider mode the amount without it has to be covered by
the balance of the reservation that no other payable link asks for.  A gateway
that fails leaves an artefact that cannot be paid.
-/

namespace HotelPms.Links

open Checked Decimal Hotel Payments

/-- Surcharge in force for a payment method. -/
def activeSurcharge (surcharges : List PaymentSurcharge) (method : PaymentMethod) :
    Option PaymentSurcharge :=
  surcharges.find? fun surcharge => surcharge.isActive && decide (surcharge.paymentMethod = method)

/-- Snapshot of a surcharge on an amount. -/
def surchargeQuoteOf (record : Option PaymentSurcharge) (method : PaymentMethod)
    (base : Int) (currencyCode : String)
    (info : SurchargeInfo) : LinkSurchargeQuote where
  terms :=
    { version := 1
      paymentMethod := method
      currencyCode := currencyCode
      surchargeId := record.map PaymentSurcharge.id
      surchargeType := record.map PaymentSurcharge.surchargeType
      surchargeValue := record.map PaymentSurcharge.amount
      surchargeCurrencyCode := some ((record.map fun surcharge =>
        normalizeCurrency surcharge.currencyCode).getD currencyCode)
      surchargeAmount := some (info.amount / 100)
      surchargeFxQuoteDetails := info.fxQuoteDetails }
  baseAmount := base
  -- a discount never pushes the final amount below zero
  finalAmount := max 0 (base + info.amount)

/-- Surcharge of a new link, with the snapshot that is kept. -/
def issueSurchargeQuote (env : PaymentEnvironment)
    (surcharges : List PaymentSurcharge) (method : PaymentMethod) (base : Int)
    (currencyCode : String) : Except String LinkSurchargeQuote := do
  let info ← calculatePaymentSurcharge env surcharges method base currencyCode none
  pure (surchargeQuoteOf (activeSurcharge surcharges method) method base currencyCode info)

/-- Type and value of a surcharge: those of the snapshot, or those in
force. -/
def surchargeTerms (surcharges : List PaymentSurcharge) (method : PaymentMethod)
    (snapshot : Option LinkSurchargeQuote) : Option String × ℚ :=
  match snapshot with
  | some quote =>
    (quote.terms.surchargeType, quote.terms.surchargeValue.getD 0)
  | none =>
    let record := activeSurcharge surcharges method
    (record.map PaymentSurcharge.surchargeType, (record.map PaymentSurcharge.amount).getD 0)

/-- Amount before a surcharge of given terms. -/
def baseWithoutSurcharge (final surchargeAmount : Int) (terms : Option String × ℚ) : Int :=
  match terms.1 with
  | none => final
  | some surchargeType =>
    if surchargeType = "fixed" then max 0 (final - surchargeAmount)
    else
      let divisor := inContext (1 + inContext (terms.2 / 100))
      if divisor ≤ 0 then final
      else quantize 0 (inContext (final / divisor))

/-- Amount before the surcharge: the quoted one for the quoted final amount,
otherwise what is left after the surcharge is taken off. -/
def calculateBaseAmountBeforeSurcharge (env : PaymentEnvironment)
    (surcharges : List PaymentSurcharge) (method : PaymentMethod) (final : Int)
    (currencyCode : String)
    (snapshot : Option LinkSurchargeQuote) : Except String Int := do
  let info ← calculatePaymentSurcharge env surcharges method 0
    (normalizeCurrency (if currencyCode = "" then "ARS" else currencyCode))
    (snapshot.map LinkSurchargeQuote.terms)
  match snapshot.filter fun quote => decide (final = quote.finalAmount) with
  | some quote => pure quote.baseAmount
  | none =>
    pure (baseWithoutSurcharge final info.amount (surchargeTerms surcharges method snapshot))

namespace PaymentLink

variable (link : PaymentLink)

/-- The link still asks for money of a reservation. -/
def AsksFor (reservationId : Int) : Prop :=
  link.reservationId = reservationId ∧ link.executionMode = .provider ∧ link.payable = true ∧
    link.status ∈ [LinkStatus.active, .pending, .partiallyPaid]
deriving Decidable

/-- What the link has not collected yet. -/
def uncollected : Int :=
  max 0 (link.requestedAmount - link.collectedAmount)

/-- Amount, before the surcharge of the link, of what it has not collected. -/
def uncollectedBase (env : PaymentEnvironment) (surcharges : List PaymentSurcharge) :
    Except String Int :=
  calculateBaseAmountBeforeSurcharge env surcharges link.provider.method
    link.uncollected link.currency link.surchargeQuote

end PaymentLink

namespace LinkState

variable (state : LinkState)

/-- Balance of a reservation that is still to be collected. -/
def balanceOf (reservation : ReservationFinancials) : Int :=
  reservation.operationalBalanceDue state.accounts.adjustments
    (reservation.paidAmountWithLegacyFallback state.accounts.ledger)

/-- Links that ask for money of a reservation. -/
def activeLinks (reservationId : Int) : List PaymentLink :=
  state.links.filter (·.AsksFor reservationId)

/-- Balance no link asks for, never below zero. -/
def availableProviderBalance (env : PaymentEnvironment) (reservation : ReservationFinancials) :
    Except String Int := do
  let bases ← (state.activeLinks reservation.id).mapM fun link =>
    link.uncollectedBase env state.accounts.surcharges
  pure (max 0 (state.balanceOf reservation - bases.sum))

end LinkState

/-- Request for a link as the schema lets it through; the amount is in
cents. -/
structure PaymentLinkCreate where
  reservationId : Int
  requestedAmount : ℚ
  requestedPositive : 0 < requestedAmount
  recipientEmail : String
  recipientName : Option String := none
  recipientPhone : Option String := none
  currency : Option String := none
  provider : String := "mercado_pago"
  title : Option String := none
  description : Option String := none
  expiresAt : Option Int := none

/-- Answer of the gateway that creates a checkout. -/
structure GatewayResult where
  checkoutUrl : Option String := none
  preferenceId : Option String := none
  accountId : Option String := none
  raw : Json := .null

/-- A request with what its caller injects. -/
structure CreateLinkCall where
  payload : PaymentLinkCreate
  idempotencyKey : Option String := none
  gateway : PaymentLink -> Except String GatewayResult
  deliveryChannel : Option String := none
  emailDelivery : PaymentLink -> Except String String
  /-- Random codes, drawn until one is free. -/
  linkCodes : List String

/-- Trimmed text, if anything is left of it. -/
def trimmed (text : Option String) : Option String :=
  (text.map Text.strip).filter (· ≠ "")

def linkCurrency (reservation : ReservationFinancials) (requested : Option String) :
    Except String String := do
  let currency :=
    if textGiven requested then normalizeCurrency (requested.getD "")
    else reservation.currency
  raiseIf (currencyWellFormed currency = false ∨ currency ≠ reservation.currency)
    ("La moneda del link (" ++ currency ++
      ") debe coincidir con la reserva (" ++ reservation.currency ++ ")")
  pure currency

/-- A key of eight to a hundred characters; a blank one is none. -/
def normalizedIdempotencyKey (value : Option String) : Except String (Option String) :=
  match trimmed value with
  | none => pure none
  | some key => do
    raiseIf (key.length < 8 ∨ 100 < key.length)
      "Idempotency-Key debe tener entre 8 y 100 caracteres"
    pure (some key)

variable (env : LinkEnvironment) (state : LinkState) (call : CreateLinkCall) (link : PaymentLink)

/-- A stored link answers the request it was created for. -/
def validateIdempotentReplay (reservationId : Int) (provider : LinkProvider) (requestedAmount : Int)
    (currency recipientEmail : String) : Except String PaymentLink := do
  raiseIf (¬(link.reservationId = reservationId ∧ link.provider = provider ∧
      link.requestedAmount = requestedAmount ∧ link.currency = currency ∧
      link.recipientEmail = recipientEmail))
    "Idempotency-Key ya fue usado con otro pedido de link"
  pure link

namespace LinkState

variable (state : LinkState)

/-- Link that was created under a key. -/
def findIdempotentLink (idempotencyKey : Option String) : Option PaymentLink :=
  idempotencyKey.bind fun key => state.links.find? (·.idempotencyKey = some key)

def uniqueLinkCode (linkCodes : List String) : Except String String :=
  match (linkCodes.take 10).find? fun code =>
      decide (∀ link ∈ state.links, link.linkCode ≠ code) with
  | some code => pure code
  | none => throw "No se pudo generar un codigo unico de link"

/-- A new link in provider mode needs a key and a covered amount. -/
def checkProviderMode (env : LinkEnvironment)
    (reservation : ReservationFinancials) (idempotencyKey : Option String)
    (base : Int) (currency : String) : Except String Unit :=
  if env.externalConnectionsEnabled then do
    raiseIf (idempotencyKey = none)
      "Idempotency-Key es obligatorio para crear un link con proveedor"
    let availableBalance ← state.availableProviderBalance env.toPaymentEnvironment reservation
    raiseIf (availableBalance + 1 < base) ("El monto del link excede el saldo disponible (" ++
        formatAmount availableBalance ++ " " ++ currency ++ ")")
  else pure ()

end LinkState

/-- Account of a checkout: the one the gateway names, or the first one in its
answer. -/
def checkoutAccount (result : GatewayResult) : Option String :=
  if textGiven result.accountId then result.accountId
  else (payloadValue result.raw
    [["collector_id"], ["user_id"], ["metadata", "account_id"]]).map env.str

def validCheckout : Except String (GatewayResult × String × String) := do
  env.requireExternalConnections "Mercado Pago payment-link creation"
  let result ← call.gateway link
  let checkoutUrl := Text.strip (result.checkoutUrl.getD "")
  let preferenceId := Text.strip (result.preferenceId.getD "")
  raiseIf (env.isSafeProviderUrl checkoutUrl = false ∨ preferenceId = "")
    "Mercado Pago no devolvio una preferencia pagable valida"
  pure (result, checkoutUrl, preferenceId)

/-- The new link with its checkout, or as a local artefact where the gateway
has failed. -/
def attachCheckout : PaymentLink :=
  match validCheckout env call link with
  | .ok (result, checkoutUrl, preferenceId) =>
    { link with
      externalCheckoutUrl := some checkoutUrl
      executionMode := .provider
      payable := true
      gatewayResponse := .object
        (("preference_id", .text preferenceId) :: ((checkoutAccount env result).map fun account =>
            ("pms_account_id", Json.text account)).toList ++
          result.raw.fields)
      lastError := none }
  | .error _ =>
    { link with
      externalCheckoutUrl := none
      executionMode := .localOnly
      payable := false
      lastError :=
        some "No se pudo crear la preferencia de pago con el proveedor." }

/-- In provider mode a new link gets its checkout. -/
def requestCheckout : PaymentLink :=
  if env.externalConnectionsEnabled then attachCheckout env call link
  else link

/-- Delivery fields over the metadata of a link. -/
def withDelivery (fields : List (String × Json)) : PaymentLink :=
  { link with gatewayResponse := link.gatewayResponse.overlay (.object fields) }

/-- Send a payable link; a delivery that fails is only recorded. -/
def deliverLink (channel : String) (link : PaymentLink) : Except String PaymentLink := do
  let normalized := (Text.strip channel).toLower
  raiseIf (¬(link.IsProviderLink ∧ link.payable = true))
    "El artefacto local_only no es pagable ni se puede enviar al huesped"
  env.requireExternalConnections ("payment-link " ++ normalized ++ " delivery")
  if normalized = "email" then
    match call.emailDelivery link with
    | .ok sender =>
      pure { withDelivery link
            [("delivery_channel", .text "email"), ("delivery_status", .text "sent"),
              ("delivery_sender", .text sender)] with
          sentViaEmail := true
          lastError := none }
    | .error _ =>
      pure { withDelivery link
            [("delivery_channel", .text "email"), ("delivery_status", .text "failed")] with
          lastError := some "No se pudo enviar el link por email." }
  else if normalized = "whatsapp" ∨ normalized = "sms" then
    pure (withDelivery link
      [("delivery_channel", .text normalized), ("delivery_status", .text "pending")])
  else throw ("Canal de envio no soportado: " ++ channel)

/-- Send the new link where a channel is given. -/
def deliverNewLink : Except String PaymentLink :=
  if textGiven call.deliveryChannel then
    if link.payable then
      deliverLink env call (call.deliveryChannel.getD "") link
    else
      pure { link with
        lastError := if textGiven link.lastError then link.lastError else
          some "El artefacto local_only no se puede enviar como link pagable" }
  else pure link

/-- What is known of a request before the key is looked up. -/
structure CheckedLinkRequest where
  reservation : ReservationFinancials
  currency : String
  recipientEmail : String
  quote : LinkSurchargeQuote
  idempotencyKey : Option String

def checkLinkRequest : Except String CheckedLinkRequest :=
  let payload := call.payload
  match state.accounts.reservations payload.reservationId with
  | none => throw "Reserva no encontrada para este hotel"
  | some reservation => do
    raiseIf (reservation.status = .cancelled ∨ reservation.status = .checkedOut)
      ("Cannot create a payment link for a reservation in status '" ++
        reservation.status.value ++ "'")
    raiseIf ((if payload.provider = "" then "mercado_pago" else payload.provider) ≠ "mercado_pago")
      "Solo mercado_pago esta habilitado para links de pago"
    let currency ← linkCurrency reservation payload.currency
    let quote ← issueSurchargeQuote env.toPaymentEnvironment
      state.accounts.surcharges LinkProvider.mercadoPago.method
      (quantize 0 payload.requestedAmount) currency
    let idempotencyKey ← normalizedIdempotencyKey call.idempotencyKey
    pure
      { reservation := reservation, currency := currency
        recipientEmail := (Text.strip payload.recipientEmail).toLower, quote := quote
        idempotencyKey := idempotencyKey }

def newLink (payload : PaymentLinkCreate) (checked : CheckedLinkRequest) (linkCode : String)
    (positive : 0 < checked.quote.finalAmount) : PaymentLink where
  id := state.nextLinkId
  reservationId := checked.reservation.id
  provider := .mercadoPago
  linkCode := linkCode
  requestedAmount := checked.quote.finalAmount
  requestedPositive := positive
  collectedAmount := 0
  currency := checked.currency
  recipientEmail := checked.recipientEmail
  recipientName := trimmed payload.recipientName
  recipientPhone := trimmed payload.recipientPhone
  title := (trimmed payload.title).getD "Pago de Reserva"
  description := trimmed payload.description
  status := .pending
  executionMode := .localOnly
  payable := false
  idempotencyKey := checked.idempotencyKey
  externalReference :=
    some (env.signExternalReference state.accounts.hotelId linkCode)
  expiresAt := payload.expiresAt
  surchargeQuote := some checked.quote

/-- Insert a link under the next id. -/
def LinkState.addLink : LinkState :=
  { state with links := state.links ++ [link], nextLinkId := state.nextLinkId + 1 }

def insertLink (checked : CheckedLinkRequest) : Except String (LinkState × PaymentLink) := do
  state.checkProviderMode env checked.reservation checked.idempotencyKey
    checked.quote.baseAmount checked.currency
  let linkCode ← state.uniqueLinkCode call.linkCodes
  if positive : 0 < checked.quote.finalAmount then do
    raiseIf (10 ^ 12 ≤ checked.quote.finalAmount) "numeric field overflow"
    let drafted := newLink env state call.payload checked linkCode positive
    let link ← deliverNewLink env call (requestCheckout env call drafted)
    pure (state.addLink link, link)
  else throw "ck_payment_link_amount_positive"

def createLink : Except String (LinkState × PaymentLink) := do
  let checked ← checkLinkRequest env state call
  match state.findIdempotentLink checked.idempotencyKey with
  | some existing => do
    let link ← validateIdempotentReplay existing checked.reservation.id
      .mercadoPago checked.quote.finalAmount checked.currency
      checked.recipientEmail
    pure (state, link)
  | none => insertLink env state call checked

/-! ## What a successful call has done -/

/-- Columns of a link that its checkout and its delivery leave as they are. -/
structure SameTerms (link other : PaymentLink) : Prop where
  id : link.id = other.id
  reservationId : link.reservationId = other.reservationId
  requestedAmount : link.requestedAmount = other.requestedAmount
  collectedAmount : link.collectedAmount = other.collectedAmount
  currency : link.currency = other.currency
  provider : link.provider = other.provider
  status : link.status = other.status
  idempotencyKey : link.idempotencyKey = other.idempotencyKey
  surchargeQuote : link.surchargeQuote = other.surchargeQuote

theorem SameTerms.refl (link : PaymentLink) : SameTerms link link :=
  ⟨rfl, rfl, rfl, rfl, rfl, rfl, rfl, rfl, rfl⟩

def PayableByProvider : Prop :=
  link.payable = true -> link.IsProviderLink

section

variable {env : LinkEnvironment} {state after : LinkState}
  {call : CreateLinkCall} {link other : PaymentLink}

theorem LinkEnvironment.textGiven_of_safe {url : String} (safe : env.isSafeProviderUrl url = true) :
    textGiven (some url) = true := by
  rw [textGiven, Option.any_some, decide_eq_true_eq]
  rintro rfl
  have stripped : Text.strip "" = "" := by decide
  unfold LinkEnvironment.isSafeProviderUrl at safe
  rw [stripped, env.urlparse_empty] at safe
  revert safe
  decide

theorem sameTerms_attachCheckout : SameTerms (attachCheckout env call link)
    link := by
  unfold attachCheckout
  split
  · exact ⟨rfl, rfl, rfl, rfl, rfl, rfl, rfl, rfl, rfl⟩
  · exact ⟨rfl, rfl, rfl, rfl, rfl, rfl, rfl, rfl, rfl⟩

theorem payableByProvider_attachCheckout : PayableByProvider (attachCheckout env call link) := by
  unfold attachCheckout
  split
  · next result checkoutUrl preferenceId valid =>
    intro _
    unfold validCheckout at valid
    simp only [bind_eq_ok, raiseIf_eq_ok, pure_eq_ok] at valid
    obtain ⟨-, -, result, -, _, safe, equal⟩ := valid
    obtain ⟨-, rfl, -⟩ := Prod.mk.inj equal |>.imp_right Prod.mk.inj
    refine ⟨rfl, env.textGiven_of_safe ?_⟩
    simpa using (not_or.mp safe).1
  · intro payable
    cases payable

theorem requestCheckout_spec (unpayable : link.payable = false) :
    SameTerms (requestCheckout env call link) link ∧
      PayableByProvider (requestCheckout env call link) ∧
      ((requestCheckout env call link).payable = true -> env.externalConnectionsEnabled = true) := by
  unfold requestCheckout
  split_ifs with enabled
  · exact ⟨sameTerms_attachCheckout, payableByProvider_attachCheckout, fun _ => enabled⟩
  · refine ⟨.refl link, fun payable => ?_, fun payable => ?_⟩
    · rw [unpayable] at payable
      cases payable
    · rw [unpayable] at payable
      cases payable

theorem deliverLink_eq_ok {channel : String}
    (delivered : deliverLink env call channel link = .ok other) :
    SameTerms other link ∧ other.payable = link.payable ∧ other.executionMode = link.executionMode ∧
      other.externalCheckoutUrl = link.externalCheckoutUrl := by
  unfold deliverLink at delivered
  simp only [bind_eq_ok] at delivered
  obtain ⟨-, -, -, -, delivered⟩ := delivered
  split_ifs at delivered
  · split at delivered
    · cases delivered
      exact ⟨⟨rfl, rfl, rfl, rfl, rfl, rfl, rfl, rfl, rfl⟩, rfl, rfl, rfl⟩
    · cases delivered
      exact ⟨⟨rfl, rfl, rfl, rfl, rfl, rfl, rfl, rfl, rfl⟩, rfl, rfl, rfl⟩
  · cases delivered
    exact ⟨⟨rfl, rfl, rfl, rfl, rfl, rfl, rfl, rfl, rfl⟩, rfl, rfl, rfl⟩

theorem deliverNewLink_eq_ok (delivered : deliverNewLink env call link = .ok other) :
    SameTerms other link ∧ other.payable = link.payable ∧ other.executionMode = link.executionMode ∧
      other.externalCheckoutUrl = link.externalCheckoutUrl := by
  unfold deliverNewLink at delivered
  split at delivered
  · split at delivered
    · exact deliverLink_eq_ok delivered
    · cases delivered
      exact ⟨⟨rfl, rfl, rfl, rfl, rfl, rfl, rfl, rfl, rfl⟩, rfl, rfl, rfl⟩
  · cases delivered
    exact ⟨.refl link, rfl, rfl, rfl⟩

/-- The row that a request has added. -/
structure IsNewLink
    (env : LinkEnvironment)
    (state : LinkState)
    (checked : CheckedLinkRequest)
    (link : PaymentLink) : Prop where
  id : link.id = state.nextLinkId
  reservationId : link.reservationId = checked.reservation.id
  requestedAmount : link.requestedAmount = checked.quote.finalAmount
  collectedAmount : link.collectedAmount = 0
  currency : link.currency = checked.currency
  provider : link.provider = .mercadoPago
  status : link.status = .pending
  idempotencyKey : link.idempotencyKey = checked.idempotencyKey
  surchargeQuote : link.surchargeQuote = some checked.quote
  payable : PayableByProvider link
  providerMode : state.checkProviderMode env checked.reservation
    checked.idempotencyKey checked.quote.baseAmount checked.currency = .ok ()
  enabled : link.payable = true → env.externalConnectionsEnabled = true

theorem insertLink_eq_ok {checked : CheckedLinkRequest}
    (inserted : insertLink env state call checked = .ok (after, link)) :
    IsNewLink env state checked link ∧ after = state.addLink link := by
  unfold insertLink at inserted
  simp only [bind_eq_ok] at inserted
  obtain ⟨_, providerMode, linkCode, -, inserted⟩ := inserted
  split_ifs at inserted with positive
  · simp only [bind_eq_ok, pure_eq_ok] at inserted
    obtain ⟨-, -, delivered, isDelivered, equal⟩ := inserted
    cases equal
    obtain ⟨terms, samePayable, sameMode, sameUrl⟩ := deliverNewLink_eq_ok isDelivered
    obtain ⟨drafted, payable, enabled⟩ := @requestCheckout_spec env call
      (newLink env state call.payload checked linkCode positive) rfl
    refine ⟨?_, rfl⟩
    exact
      { id := terms.id.trans drafted.id
        reservationId := terms.reservationId.trans drafted.reservationId
        requestedAmount := terms.requestedAmount.trans drafted.requestedAmount
        collectedAmount := terms.collectedAmount.trans drafted.collectedAmount
        currency := terms.currency.trans drafted.currency
        provider := terms.provider.trans drafted.provider
        status := terms.status.trans drafted.status
        idempotencyKey := terms.idempotencyKey.trans drafted.idempotencyKey
        surchargeQuote := terms.surchargeQuote.trans drafted.surchargeQuote
        payable := by
          intro isPayable
          have isProvider := payable (samePayable ▸ isPayable)
          exact ⟨sameMode.trans isProvider.1, (congrArg textGiven sameUrl).trans isProvider.2⟩
        providerMode := providerMode
        enabled := fun isPayable => enabled (samePayable ▸ isPayable) }

theorem createLink_eq_ok (created : createLink env state call = .ok (after, link)) :
    ∃ checked, checkLinkRequest env state call = .ok checked ∧
      ((after = state ∧ state.findIdempotentLink checked.idempotencyKey ≠ none) ∨
        (IsNewLink env state checked link ∧ after = state.addLink link ∧
          state.findIdempotentLink checked.idempotencyKey = none)) := by
  obtain ⟨checked, isChecked, created⟩ := bind_eq_ok.mp created
  refine ⟨checked, isChecked, ?_⟩
  split at created
  · next existing found =>
    obtain ⟨_, -, equal⟩ := bind_eq_ok.mp created
    cases equal
    exact .inl ⟨rfl, by rw [found]; exact Option.some_ne_none _⟩
  · next absent =>
    obtain ⟨isNew, added⟩ := insertLink_eq_ok created
    exact .inr ⟨isNew, added, absent⟩

theorem checkLinkRequest_eq_ok {checked : CheckedLinkRequest}
    (isChecked : checkLinkRequest env state call = .ok checked) :
    state.accounts.reservations call.payload.reservationId = some checked.reservation ∧
      checked.currency = checked.reservation.currency ∧
      issueSurchargeQuote env.toPaymentEnvironment state.accounts.surcharges
        LinkProvider.mercadoPago.method
        (quantize 0 call.payload.requestedAmount) checked.currency = .ok checked.quote ∧
      normalizedIdempotencyKey call.idempotencyKey = .ok checked.idempotencyKey := by
  unfold checkLinkRequest at isChecked
  simp only at isChecked
  split at isChecked
  · cases isChecked
  · next reservation found =>
    unfold linkCurrency at isChecked
    simp only [bind_eq_ok, pure_eq_ok, raiseIf_eq_ok, not_or, not_not] at isChecked
    obtain ⟨-, -, -, -, _, ⟨-, sameCurrency, rfl⟩, quote, issued, key, isKey, rfl⟩ := isChecked
    exact ⟨found, sameCurrency.2, issued, isKey⟩

end

theorem askedAmount_pos (amount : Nat) : (0 : ℚ) < amount + 1 := by
  positivity

/-- A call for some cents more than a given amount. -/
def linkOf (amount : Nat) (key : String) : CreateLinkCall where
  payload :=
    { reservationId := 7, requestedAmount := amount + 1, requestedPositive := askedAmount_pos amount
      recipientEmail := "huesped@example.com" }
  idempotencyKey := some key
  gateway := fun _ => .ok
    { checkoutUrl := some "https://mercadopago.com/pay", preferenceId := some key }
  emailDelivery := fun _ => .ok ""
  linkCodes := [key]

end HotelPms.Links
