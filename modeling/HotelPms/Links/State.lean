import HotelPms.Foundation.Table
import HotelPms.Links.Payloads
import HotelPms.Payments.ProcessPayment

/-!
# Payment links and the payments made through them

A link asks a guest for an amount through a payment provider.  The provider's
notifications become payment rows, each with an event row of its own, and a
completed payment becomes a transaction of the hotel's ledger.  The tables are
those of one hotel.  Money is counted in cents; texts of numbers, dates and
signatures come from outside and are parameters.
-/

namespace HotelPms.Links

open Checked Decimal Hotel Payments

inductive LinkProvider
  | mercadoPago
  | paypal
  deriving DecidableEq

def LinkProvider.value : LinkProvider -> String
  | .mercadoPago => "mercado_pago"
  | .paypal => "paypal"

def LinkProvider.method : LinkProvider -> PaymentMethod
  | .mercadoPago => .mercadoPago
  | .paypal => .paypal

inductive LinkStatus
  | active
  | pending
  | partiallyPaid
  | completed
  | cancelled
  | expired
  deriving DecidableEq

inductive ExecutionMode
  | localOnly
  | provider
  deriving DecidableEq

/-- Whether the provider still has to invalidate its checkout. -/
inductive RevocationStatus
  | notRequired
  | pending
  | processing
  | succeeded
  | failed
  deriving DecidableEq

inductive PaymentStatus
  | pending
  | completed
  | failed
  | refunded
  | partiallyRefunded
  deriving DecidableEq

def PaymentStatus.value : PaymentStatus -> String
  | .pending => "pending"
  | .completed => "completed"
  | .failed => "failed"
  | .refunded => "refunded"
  | .partiallyRefunded => "partially_refunded"

/-- Surcharge a link was issued with: its terms, the amount that was asked for
and the amount with the surcharge. -/
structure LinkSurchargeQuote where
  terms : SurchargeQuoteSnapshot
  baseAmount : Int
  finalAmount : Int

/-- Guest-facing request for a payment. -/
structure PaymentLink where
  id : Int
  reservationId : Int
  linkCode : String
  requestedAmount : Int
  /-- `ck_payment_link_amount_positive`. -/
  requestedPositive : 0 < requestedAmount
  collectedAmount : Int := 0
  currency : String := "ARS"
  provider : LinkProvider := .mercadoPago
  status : LinkStatus := .active
  executionMode : ExecutionMode := .localOnly
  payable : Bool := false
  idempotencyKey : Option String := none
  recipientEmail : String
  recipientName : Option String := none
  recipientPhone : Option String := none
  sentViaEmail : Bool := false
  externalReference : Option String := none
  externalCheckoutUrl : Option String := none
  title : String := "Pago de Reserva"
  description : Option String := none
  expiresAt : Option Int := none
  cancelledAt : Option Int := none
  providerRevocationStatus : RevocationStatus := .notRequired
  providerRevocationError : Option String := none
  firstPaymentAt : Option Int := none
  lastPaymentAt : Option Int := none
  surchargeQuote : Option LinkSurchargeQuote := none
  /-- What the provider answered, without the surcharge quote. -/
  gatewayResponse : Json := .null
  lastError : Option String := none

structure Payment where
  id : Int
  reservationId : Int
  amount : Int
  /-- `ck_payment_amount_positive`. -/
  amountPositive : 0 < amount
  currency : String
  provider : LinkProvider
  status : PaymentStatus
  externalPaymentId : String
  paymentLinkId : Option Int
  gatewayResponse : Json
  processedAt : Option Int := none

/-- Log of a notification. -/
structure PaymentWebhookEvent where
  id : Int
  paymentId : Int
  provider : LinkProvider
  webhookId : String
  processed : Bool
  processingError : Option String
  processedAt : Option Int

/-- The tables of a hotel that links and notifications read and write. -/
structure LinkState where
  accounts : PaymentState
  links : List PaymentLink := []
  payments : List Payment := []
  events : List PaymentWebhookEvent := []
  nextLinkId : Int := 1
  nextPaymentId : Int := 1
  nextEventId : Int := 1

/-- Parts of an address, as the standard library takes it apart. -/
structure ParsedUrl where
  scheme : String
  hostname : Option String := none
  username : Option String := none
  password : Option String := none

/-- What links take from outside, besides what a payment does: whether
external connections are open, the texts, numbers and dates that values stand
for, addresses and signatures. -/
structure LinkEnvironment extends PaymentEnvironment where
  externalEffectsEnabled : Bool := true
  connectionsEnabled : Bool := true
  inboundProviderEventsEnabled : Bool := true
  /-- Text of a value. -/
  str : Json -> String
  /-- Number a value stands for, in cents. -/
  decimal : Json -> Option ℚ
  /-- Moment a value stands for. -/
  isoDate : Json -> Option Int
  dumps : Json -> String
  urlparse : String -> Option ParsedUrl
  /-- An empty address has no parts. -/
  urlparse_empty : urlparse "" = some { scheme := "" }
  signature : String -> String

namespace LinkEnvironment

variable (env : LinkEnvironment)

def externalConnectionsEnabled : Bool :=
  env.externalEffectsEnabled && env.connectionsEnabled

def requireExternalConnections (effect : String) : Except String Unit := do
  raiseIf (env.externalEffectsEnabled = false)
    (effect ++ " is disabled by EXTERNAL_EFFECTS_ENABLED")
  raiseIf (env.connectionsEnabled = false) (effect ++ " is disabled by CONNECTIONS_ENABLED")

/-- An https address with a host and without credentials. -/
def isSafeProviderUrl (value : String) : Bool :=
  match env.urlparse (Text.strip value) with
  | none => false
  | some parsed =>
    decide (parsed.scheme = "https") && textGiven parsed.hostname &&
      !textGiven parsed.username && !textGiven parsed.password

/-- Signed reference that binds a provider payment to its link. -/
def signExternalReference (hotelId : Int) (linkCode : String) : String :=
  let body := "payment-link:" ++ toString hotelId ++ ":" ++ linkCode
  body ++ ":" ++ env.signature body

end LinkEnvironment

namespace PaymentLink

variable (link : PaymentLink)

/-- The link takes provider payments: it is not a local artefact. -/
def IsProviderLink : Prop :=
  link.executionMode = .provider ∧ textGiven link.externalCheckoutUrl = true
deriving Decidable

/-- The link was cancelled or has expired. -/
def IsClosed : Prop := link.status = .cancelled ∨ link.status = .expired
deriving Decidable

end PaymentLink

namespace LinkState

variable (state : LinkState)

/-- Link of the hotel with an id. -/
def link? (id : Int) : Option PaymentLink :=
  Table.find PaymentLink.id id state.links

def storeLink (link : PaymentLink) : LinkState :=
  { state with links := Table.replace PaymentLink.id link state.links }

/-- Payment of a provider under its external id. -/
def payment? (provider : LinkProvider) (externalPaymentId : String) : Option Payment :=
  state.payments.find? fun row =>
    row.provider = provider ∧ row.externalPaymentId = externalPaymentId

def storePayment (payment : Payment) : LinkState :=
  { state with payments := Table.replace Payment.id payment state.payments }

def addPayment (payment : Payment) : LinkState :=
  { state with payments := state.payments ++ [payment], nextPaymentId := state.nextPaymentId + 1 }

def findExistingEvent (provider : LinkProvider) (webhookId : String) : Option PaymentWebhookEvent :=
  state.events.find? fun row => row.provider = provider ∧ row.webhookId = webhookId

def addEvent (event : PaymentWebhookEvent) : LinkState :=
  { state with events := state.events ++ [event], nextEventId := state.nextEventId + 1 }

/-- State after a call; a call that raises is rolled back. -/
def committed {α : Type} (result : Except String (LinkState × α)) : LinkState :=
  match result with
  | .ok (after, _) => after
  | .error _ => state

def completedPayments (linkId : Int) : List Payment :=
  state.payments.filter fun row => row.paymentLinkId = some linkId ∧ row.status = .completed

end LinkState

/-- Surroundings with open connections. -/
def openEnvironment : LinkEnvironment where
  now := 0
  today := 0
  decodeToken := fun _ => none
  conversionRate := fun _ _ => .error "No hay cotización"
  floatValue := id
  str := fun value => match value with
    | .text text => text
    | .number number => toString number.num
    | _ => ""
  decimal := fun value => match value with
    | .number number => some (number * 100)
    | _ => some 0
  isoDate := fun _ => none
  dumps := fun _ => "{}"
  urlparse := fun url =>
    if url = "" then some { scheme := "" }
    else some { scheme := "https", hostname := some "mercadopago.com" }
  urlparse_empty := rfl
  signature := fun _ => "firma"

/-- A reservation of a hundred, nothing of it paid. -/
def unpaidReservation : ReservationFinancials where
  id := 7
  totalAmount := 10000

theorem unpaidReservation_own (id : Int) (reservation : ReservationFinancials)
    (stored : (if id = 7 then some unpaidReservation else none) =
      some reservation) : reservation.id = id := by
  split_ifs at stored with same
  rw [← Option.some.inj stored, same]
  rfl

/-- A hotel with one unpaid reservation and no links. -/
def unpaidState : LinkState where
  accounts :=
    { hotelId := 1
      reservations := fun id => if id = 7 then some unpaidReservation else none
      ownIds := unpaidReservation_own
      ledger := .empty }

end HotelPms.Links
