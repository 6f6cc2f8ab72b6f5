import HotelPms.Links.State

/-!
# Collected amounts and closed links

What a link has collected is recomputed from its completed payments.  Links
are closed by an operator, with their reservation, or when they expire; a
closed link is not payable.
-/

namespace HotelPms.Links

open Checked Hotel Payments

def LinkState.completedAmount (state : LinkState) (linkId : Int) : Int :=
  ((state.completedPayments linkId).map Payment.amount).sum

/-- Collected amount and payment dates from the completed payments. -/
def countCollection (state : LinkState) (link : PaymentLink) : PaymentLink :=
  let dates := (state.completedPayments link.id).filterMap Payment.processedAt
  { link with
    collectedAmount := state.completedAmount link.id
    firstPaymentAt := dates.min?
    lastPaymentAt := dates.max? }

/-- Recompute what a link has collected, and its status from it. -/
def refreshLinkCollection (state : LinkState) (link : PaymentLink) :
    PaymentLink :=
  let counted := countCollection state link
  if link.requestedAmount ≤ counted.collectedAmount then
    { counted with status := .completed, payable := false }
  else if 0 < counted.collectedAmount then
    { counted with status := .partiallyPaid, payable := decide link.IsProviderLink }
  else if link.IsClosed then counted
  else { counted with status := .pending }

def preferenceId (link : PaymentLink) : Option String :=
  match link.gatewayResponse.get? "preference_id" with
  | some (.text value) => some value
  | _ => none

/-- A payable checkout has to be invalidated with its provider. -/
def queueProviderRevocation (link : PaymentLink) : PaymentLink :=
  { link with
    providerRevocationStatus :=
      if link.provider = .mercadoPago ∧ link.executionMode = .provider ∧ link.payable = true ∧
          textGiven ((preferenceId link).map Text.strip) = true then .pending
      else .notRequired
    providerRevocationError := none }

def cancelled (now : Int) (reason : Option String) (link : PaymentLink) :
    PaymentLink :=
  let queued := queueProviderRevocation link
  { queued with
    status := .cancelled
    payable := false
    cancelledAt := some now
    lastError :=
      if textGiven reason then some ("cancelled: " ++ reason.getD "")
      else queued.lastError }

namespace LinkState

variable (state : LinkState)

def cancelLink (now linkId : Int) (reason : Option String) :
    Except String (LinkState × PaymentLink) :=
  match state.link? linkId with
  | none => throw "Link de pago no encontrado para este hotel"
  | some link =>
    if link.IsClosed then pure (state, link)
    else if link.status = .completed then
      throw "No se puede cancelar un link ya completado"
    else
      pure (state.storeLink (cancelled now reason link), cancelled now reason link)

/-- The link can still be paid, as far as its status says. -/
def IsOpenStatus (status : LinkStatus) : Prop :=
  status ∈ [LinkStatus.active, .pending, .partiallyPaid]
deriving Decidable

def cancelActiveLinksForReservation
    (now reservationId : Int) (reason : Option String) : LinkState :=
  { state with
    links := state.links.map fun link =>
      if link.reservationId = reservationId ∧ IsOpenStatus link.status then
        cancelled now reason link
      else link }

/-- Let a link expire, unless it is completed or cancelled. -/
def expireLink (linkId : Int) : Except String (LinkState × PaymentLink) :=
  match state.link? linkId with
  | none => throw "Link de pago no encontrado para este hotel"
  | some link =>
    if link.status = .completed ∨ link.status = .cancelled then
      pure (state, link)
    else
      let expired := { link with status := .expired, payable := false }
      pure (state.storeLink expired, expired)

end LinkState

end HotelPms.Links
