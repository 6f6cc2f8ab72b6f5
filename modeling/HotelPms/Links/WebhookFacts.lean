import HotelPms.Links.Webhooks
import HotelPms.Payments.Collection

/-!
# What a notification does

An accepted notification is a duplicate, is logged without moving its payment,
or records the payment, brings its link up to date and, for a completed
payment, writes a transaction.
-/

namespace HotelPms.Links

open Checked Decimal Hotel Payments

/-- Columns of a link that no operation changes once it is created. -/
structure SameLink (link other : PaymentLink) : Prop where
  id : link.id = other.id
  reservationId : link.reservationId = other.reservationId
  requestedAmount : link.requestedAmount = other.requestedAmount
  currency : link.currency = other.currency
  provider : link.provider = other.provider
  executionMode : link.executionMode = other.executionMode
  externalCheckoutUrl : link.externalCheckoutUrl = other.externalCheckoutUrl
  surchargeQuote : link.surchargeQuote = other.surchargeQuote

theorem SameLink.refl (link : PaymentLink) : SameLink link link :=
  ⟨rfl, rfl, rfl, rfl, rfl, rfl, rfl, rfl⟩

theorem SameLink.trans {first second third : PaymentLink}
    (next : SameLink second first) (last : SameLink third second) :
    SameLink third first where
  id := last.id.trans next.id
  reservationId := last.reservationId.trans next.reservationId
  requestedAmount := last.requestedAmount.trans next.requestedAmount
  currency := last.currency.trans next.currency
  provider := last.provider.trans next.provider
  executionMode := last.executionMode.trans next.executionMode
  externalCheckoutUrl :=
    last.externalCheckoutUrl.trans next.externalCheckoutUrl
  surchargeQuote := last.surchargeQuote.trans next.surchargeQuote

theorem SameLink.isProviderLink {link other : PaymentLink} (same : SameLink link other) :
    link.IsProviderLink ↔ other.IsProviderLink := by
  unfold PaymentLink.IsProviderLink
  rw [same.executionMode, same.externalCheckoutUrl]

section

variable {state : LinkState} {closed : Option LinkStatus}
  {link : PaymentLink} {reservation : ReservationFinancials}

theorem sameLink_refreshLinkCollection : SameLink (refreshLinkCollection state link) link := by
  unfold refreshLinkCollection
  simp only
  split_ifs <;> exact ⟨rfl, rfl, rfl, rfl, rfl, rfl, rfl, rfl⟩

theorem collectedAmount_refreshLinkCollection :
    (refreshLinkCollection state link).collectedAmount = state.completedAmount link.id := by
  unfold refreshLinkCollection
  simp only
  split_ifs <;> rfl

theorem sameLink_refreshClosedLink : SameLink (refreshClosedLink state closed link) link := by
  have same : SameLink (refreshLinkCollection state link) link :=
    sameLink_refreshLinkCollection
  unfold refreshClosedLink
  cases closed with
  | none => exact same
  | some status =>
    simp only
    split_ifs
    · exact ⟨same.1, same.2, same.3, same.4, same.5, same.6, same.7, same.8⟩
    · exact same

theorem sameLink_refreshReviewedLink : SameLink (refreshReviewedLink state closed link) link := by
  have same : SameLink (refreshLinkCollection state link) link :=
    sameLink_refreshLinkCollection
  cases closed with
  | none => exact same
  | some status =>
    exact ⟨same.1, same.2, same.3, same.4, same.5, same.6, same.7, same.8⟩

theorem collectedAmount_refreshClosedLink :
    (refreshClosedLink state closed link).collectedAmount = state.completedAmount link.id := by
  have counted : (refreshLinkCollection state link).collectedAmount =
      state.completedAmount link.id := collectedAmount_refreshLinkCollection
  unfold refreshClosedLink
  cases closed with
  | none => exact counted
  | some status =>
    simp only
    split_ifs
    · exact counted
    · exact counted

theorem collectedAmount_refreshReviewedLink :
    (refreshReviewedLink state closed link).collectedAmount = state.completedAmount link.id := by
  have counted : (refreshLinkCollection state link).collectedAmount =
      state.completedAmount link.id := collectedAmount_refreshLinkCollection
  cases closed with
  | none => exact counted
  | some status => exact counted

theorem sameLink_closeWithReservation : SameLink (closeWithReservation closed link) link := by
  unfold closeWithReservation
  split_ifs
  · exact ⟨rfl, rfl, rfl, rfl, rfl, rfl, rfl, rfl⟩
  · exact .refl link

end

/-! ## Recorded payments -/

/-- A charge is recorded in a row: a new one of a link that takes payments, or
the known one, which may move to the reported status. -/
inductive Recorded
    (state : LinkState)
    (provider : LinkProvider)
    (link : PaymentLink)
    (closed : Option LinkStatus)
    (charge : Charge) : Payment -> LinkState -> Prop
  | added
      (absent : state.payment? provider charge.externalPaymentId = none)
      (takesPayments : link.payable = true ∨ closed ≠ none)
      (fits : charge.amount ≤ link.uncollected + 1 ∨
        (charge.status = .completed ∧ isLegacyLink provider link = true)) :
      Recorded state provider link closed charge
        (withProcessedAt charge (newPayment state provider link charge))
        (state.addPayment (withProcessedAt charge (newPayment state provider link charge)))
  | moved {payment : Payment}
      (found : state.payment? provider charge.externalPaymentId = some payment)
      (allowed : IsAllowedStatusTransition payment.status charge.status)
      (ownLink : payment.paymentLinkId = none ∨ payment.paymentLinkId = some link.id)
      (ownReservation : payment.reservationId = link.reservationId)
      (sameAmount : payment.amount = charge.amount)
      (sameCurrency : normalizeCurrency payment.currency = charge.currency) :
      Recorded state provider link closed charge
        (withProcessedAt charge (updatedPayment link charge payment))
        (state.storePayment (withProcessedAt charge (updatedPayment link charge payment)))

/-- What follows once a charge is recorded. -/
structure SettledCharge
    (env : LinkEnvironment)
    (state : LinkState)
    (provider : LinkProvider)
    (webhookId : String)
    (link : PaymentLink)
    (closed : Option LinkStatus)
    (charge : Charge)
    (payment : Payment)
    (after : LinkState) : Prop where
  accounts : after.accounts = state.accounts ∨ (charge.status = .completed ∧
      ensureCompletedTransaction env state.accounts provider link payment charge.response
        (decide (closed ≠ none) && mustVerifyWithProvider provider) = .ok after.accounts)
  links : ∃ final, (final = refreshClosedLink state closed link ∨
      final = refreshReviewedLink state closed link) ∧
    after.links = Table.replace PaymentLink.id final state.links
  payments : after.payments = state.payments
  nextPaymentId : after.nextPaymentId = state.nextPaymentId
  nextLinkId : after.nextLinkId = state.nextLinkId
  events : ∃ event, event.provider = provider ∧
    event.webhookId = webhookId ∧ after.events = state.events ++ [event]

/-- A notification that does not move its payment is only logged. -/
structure LoggedCharge
    (state : LinkState)
    (provider : LinkProvider)
    (webhookId : String)
    (after : LinkState) : Prop where
  accounts : after.accounts = state.accounts
  links : after.links = state.links
  payments : after.payments = state.payments
  nextPaymentId : after.nextPaymentId = state.nextPaymentId
  nextLinkId : after.nextLinkId = state.nextLinkId
  events : ∃ event, event.provider = provider ∧
    event.webhookId = webhookId ∧ after.events = state.events ++ [event]

section

variable {env : LinkEnvironment} {state after : LinkState}
  {provider : LinkProvider} {webhookId : String} {link : PaymentLink}
  {closed : Option LinkStatus} {charge : Charge} {payment : Payment}
  {review : Option String} {reservation : ReservationFinancials}
  {result : WebhookResult} {call : WebhookCall}

theorem settleCharge_eq_ok (settled : settleCharge env state reservation provider webhookId link
      closed charge payment review = .ok (after, result)) :
    SettledCharge env state provider webhookId link closed charge payment
      after := by
  unfold settleCharge at settled
  split_ifs at settled with completed
  · split at settled
    · cases settled
      exact ⟨.inl rfl, ⟨_, .inr rfl, rfl⟩, rfl, rfl, rfl, _, rfl, rfl, rfl⟩
    · obtain ⟨accounts, ensured, settled⟩ := bind_eq_ok.mp settled
      cases settled
      exact ⟨.inr ⟨completed, ensured⟩, ⟨_, .inl rfl, rfl⟩, rfl, rfl, rfl, _, rfl, rfl, rfl⟩
  · cases settled
    exact ⟨.inl rfl, ⟨_, .inl rfl, rfl⟩, rfl, rfl, rfl, _, rfl, rfl, rfl⟩

theorem loggedCharge_logInvalidTransition : LoggedCharge state provider webhookId
      (logInvalidTransition env state provider webhookId charge payment).1 := by
  unfold logInvalidTransition
  split_ifs
  · exact ⟨rfl, rfl, rfl, rfl, rfl, _, rfl, rfl, rfl⟩
  · exact ⟨rfl, rfl, rfl, rfl, rfl, _, rfl, rfl, rfl⟩

theorem admitNewPayment_eq_ok
    (admitted : admitNewPayment provider link closed charge = .ok review) :
    (link.payable = true ∨ closed ≠ none) ∧ (charge.amount ≤ link.uncollected + 1 ∨
        (charge.status = .completed ∧ isLegacyLink provider link = true)) := by
  unfold admitNewPayment at admitted
  simp only [bind_eq_ok, raiseIf_eq_ok, not_and_or] at admitted
  obtain ⟨-, takesPayments, admitted⟩ := admitted
  refine ⟨takesPayments.imp_left (by simp), ?_⟩
  split_ifs at admitted with exceeds legacy
  · exact .inr legacy
  · exact .inl (not_lt.mp exceeds)

theorem admitKnownPayment_eq_ok
    (admitted : admitKnownPayment state link charge payment = .ok review) :
    (payment.paymentLinkId = none ∨ payment.paymentLinkId = some link.id) ∧
      payment.reservationId = link.reservationId ∧
      payment.amount = charge.amount ∧
      normalizeCurrency payment.currency = charge.currency := by
  unfold admitKnownPayment at admitted
  simp only [bind_eq_ok, raiseIf_eq_ok, not_or, not_not] at admitted
  obtain ⟨-, ⟨ownLink, ownReservation⟩, -, ⟨amount, currency⟩, -⟩ := admitted
  exact ⟨(not_and_or.mp ownLink).imp not_not.mp not_not.mp, ownReservation, amount, currency⟩

theorem applyCharge_eq_ok
    (applied : applyCharge env state provider webhookId link charge = .ok (after, result)) :
    ∃ reservation closed closedLink closedState,
      state.accounts.reservations link.reservationId = some reservation ∧
      closed = closedLinkStatus reservation link ∧
      closedLink = closeWithReservation closed link ∧
      closedState = state.storeLink closedLink ∧
      checkClosedLink provider closed charge
        (state.payment? provider charge.externalPaymentId) = .ok () ∧
      ((∃ payment, state.payment? provider charge.externalPaymentId = some payment ∧
          ¬IsAllowedStatusTransition payment.status charge.status ∧
          LoggedCharge closedState provider webhookId after) ∨
        ∃ payment recorded,
          Recorded closedState provider closedLink closed charge payment recorded ∧
          SettledCharge env recorded provider webhookId closedLink closed
            charge payment after) := by
  unfold applyCharge at applied
  split at applied
  · cases applied
  · next reservation stored =>
    simp only [bind_eq_ok] at applied
    obtain ⟨review, admitted, _, closedChecked, applied⟩ := applied
    refine ⟨reservation, _, _, _, stored, rfl, rfl, rfl, closedChecked, ?_⟩
    split at applied
    · next absent =>
      rw [absent] at admitted
      obtain ⟨takesPayments, fits⟩ := admitNewPayment_eq_ok admitted
      exact .inr ⟨_, _, .added absent takesPayments fits, settleCharge_eq_ok applied⟩
    · next payment found =>
      rw [found] at admitted
      obtain ⟨ownLink, ownReservation, amount, currency⟩ := admitKnownPayment_eq_ok admitted
      split_ifs at applied with allowed
      · exact .inr ⟨_, _, .moved found allowed ownLink ownReservation
          amount currency, settleCharge_eq_ok applied⟩
      · refine .inl ⟨payment, found, allowed, ?_⟩
        obtain rfl : _ = after :=
          congrArg Prod.fst (pure_eq_ok.mp applied)
        exact loggedCharge_logInvalidTransition

theorem resolveLink_eq_ok (resolved : resolveLink env state call = .ok link) :
    link ∈ state.links := by
  unfold resolveLink at resolved
  split at resolved
  · next found isFound =>
    cases resolved
    rw [Option.orElse_eq_orElse, Option.orElse_eq_or] at isFound
    rcases Option.or_eq_some_iff.mp isFound with byId | ⟨-, byReference⟩
    · obtain ⟨id, -, found⟩ := Option.bind_eq_some_iff.mp byId
      exact (Table.find_eq_some found).1
    · obtain ⟨reference, -, found⟩ := Option.bind_eq_some_iff.mp byReference
      exact List.mem_of_find?_eq_some found
  · cases resolved

theorem readCharge_eq_ok (isRead : readCharge env provider link call = .ok charge) :
    link.provider = provider ∧ link.IsProviderLink ∧
      charge.externalPaymentId = externalPaymentIdOf env call ∧
      normalizeCurrency charge.currency = charge.currency := by
  unfold readCharge checkLinkOfNotification at isRead
  simp only [bind_eq_ok, raiseIf_eq_ok, not_not] at isRead
  obtain ⟨_, ⟨_, sameProvider, _, isProvider, _⟩, _, _, _, _, amount, _, isRead⟩ := isRead
  split at isRead
  · simp only [bind_eq_ok, pure_eq_ok] at isRead
    obtain ⟨currency, isCurrency, rfl⟩ := isRead
    refine ⟨sameProvider, isProvider, rfl, ?_⟩
    unfold chargedCurrency at isCurrency
    split at isCurrency
    · cases isCurrency
    · simp only [bind_eq_ok, pure_eq_ok] at isCurrency
      obtain ⟨-, -, rfl⟩ := isCurrency
      exact normalizeCurrency_normalizeCurrency _
  · cases isRead

theorem ingestWebhook_eq_ok (ingested : ingestWebhook env state call = .ok (after, result)) :
    ∃ provider, LinkProvider.ofText call.provider = some provider ∧
      ((after = state ∧ ∃ event, result = duplicateWebhookResult event ∧
          state.findExistingEvent provider call.webhookId = some event) ∨
        (state.findExistingEvent provider call.webhookId = none ∧
          ∃ link charge, resolveLink env state call = .ok link ∧
            readCharge env provider link call = .ok charge ∧
            applyCharge env state provider call.webhookId link charge = .ok (after, result))) := by
  obtain ⟨-, -, ingested⟩ := bind_eq_ok.mp ingested
  split at ingested
  · cases ingested
  · next provider isProvider =>
    refine ⟨provider, isProvider, ?_⟩
    obtain ⟨-, -, ingested⟩ := bind_eq_ok.mp ingested
    split at ingested
    · next event found =>
      cases ingested
      exact .inl ⟨rfl, event, rfl, found⟩
    · next absent =>
      simp only [bind_eq_ok] at ingested
      obtain ⟨link, resolved, charge, read, applied⟩ := ingested
      exact .inr ⟨absent, link, charge, resolved, read, applied⟩

end

end HotelPms.Links
