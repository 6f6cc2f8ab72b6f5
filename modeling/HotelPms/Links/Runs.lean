import HotelPms.Links.WebhookFacts

/-!
# Runs of a hotel's links

Links are created, cancelled, let expire and paid in any order, and
reservations change their status in between.  A call that raises leaves the
tables as they were.
-/

namespace HotelPms.Links

open Checked Hotel Payments

/-- What can happen to the links of a hotel. -/
inductive LinkEvent
  | createLink (env : LinkEnvironment) (call : CreateLinkCall)
  | ingestWebhook (env : LinkEnvironment) (call : WebhookCall)
  | cancelLink (now linkId : Int) (reason : Option String)
  | cancelActiveLinksForReservation
      (now reservationId : Int) (reason : Option String)
  | expireLink (linkId : Int)
  | changeStatus (reservationId : Int) (status : ReservationStatus)

namespace LinkState

variable (state : LinkState)

def changeStatus (reservationId : Int) (status : ReservationStatus) :
    LinkState :=
  match state.accounts.reservations reservationId with
  | none => state
  | some reservation =>
    { state with
      accounts := state.accounts.storeReservation { reservation with status := status } }

/-- The tables after an event. -/
def after : LinkEvent -> LinkState
  | .createLink env call => state.committed (createLink env state call)
  | .ingestWebhook env call => state.committed (ingestWebhook env state call)
  | .cancelLink now linkId reason =>
    state.committed (state.cancelLink now linkId reason)
  | .cancelActiveLinksForReservation now reservationId reason =>
    state.cancelActiveLinksForReservation now reservationId reason
  | .expireLink linkId => state.committed (state.expireLink linkId)
  | .changeStatus reservationId status =>
    state.changeStatus reservationId status

end LinkState

/-- One event of a run. -/
def linkStep (state : LinkState) (event : LinkEvent) : Option LinkState :=
  some (state.after event)

/-- Nothing but the links and the reservations has changed. -/
structure SameReceipts (state after : LinkState) : Prop where
  payments : after.payments = state.payments
  nextPaymentId : after.nextPaymentId = state.nextPaymentId
  events : after.events = state.events
  ledger : after.accounts.ledger = state.accounts.ledger

theorem SameReceipts.refl (state : LinkState) : SameReceipts state state :=
  ⟨rfl, rfl, rfl, rfl⟩

namespace LinkState

variable {state : LinkState}

/-- A call is rolled back, or its state is the one it has returned. -/
theorem committed_cases {α : Type} (result : Except String (LinkState × α)) :
    state.committed result = state ∨ ∃ answer, result = .ok (state.committed result, answer) := by
  unfold committed
  split
  · next after answer => exact .inr ⟨answer, rfl⟩
  · exact .inl rfl

theorem sameReceipts_createLink (env : LinkEnvironment) (call : CreateLinkCall) :
    SameReceipts state (state.committed (Links.createLink env state call)) := by
  rcases committed_cases (Links.createLink env state call) with same | ⟨link, created⟩
  · rw [same]
    exact .refl state
  · obtain ⟨-, -, ⟨same, -⟩ | ⟨-, same, -⟩⟩ := createLink_eq_ok created
    · rw [same]
      exact .refl state
    · rw [same]
      exact ⟨rfl, rfl, rfl, rfl⟩

theorem cancelLink_eq_ok {now linkId : Int} {reason : Option String} {after : LinkState}
    {answer : PaymentLink}
    (accepted : state.cancelLink now linkId reason = .ok (after, answer)) :
    after = state ∨ ∃ link ∈ state.links, after = state.storeLink (cancelled now reason link) := by
  unfold cancelLink at accepted
  split at accepted
  · cases accepted
  · next link found =>
    split_ifs at accepted
    · cases accepted
      exact .inl rfl
    · cases accepted
      exact .inr ⟨link, (Table.find_eq_some found).1, rfl⟩

theorem expireLink_eq_ok {linkId : Int} {after : LinkState} {answer : PaymentLink}
    (accepted : state.expireLink linkId = .ok (after, answer)) :
    after = state ∨ ∃ link ∈ state.links, after = state.storeLink
        { link with status := .expired, payable := false } := by
  unfold expireLink at accepted
  split at accepted
  · cases accepted
  · next link found =>
    split_ifs at accepted
    · cases accepted
      exact .inl rfl
    · cases accepted
      exact .inr ⟨link, (Table.find_eq_some found).1, rfl⟩

theorem sameReceipts_after {event : LinkEvent}
    (other : ∀ env call, event ≠ .ingestWebhook env call) :
    SameReceipts state (state.after event) := by
  cases event with
  | createLink env call => exact sameReceipts_createLink env call
  | ingestWebhook env call => exact absurd rfl (other env call)
  | cancelLink now linkId reason =>
    show SameReceipts state (state.committed (state.cancelLink now linkId reason))
    rcases committed_cases (state.cancelLink now linkId reason) with same | ⟨answer, accepted⟩
    · rw [same]
      exact .refl state
    · obtain same | ⟨link, -, same⟩ := cancelLink_eq_ok accepted
      · rw [same]
        exact .refl state
      · rw [same]
        exact ⟨rfl, rfl, rfl, rfl⟩
  | cancelActiveLinksForReservation now reservationId reason =>
    exact ⟨rfl, rfl, rfl, rfl⟩
  | expireLink linkId =>
    show SameReceipts state (state.committed (state.expireLink linkId))
    rcases committed_cases (state.expireLink linkId) with same | ⟨answer, accepted⟩
    · rw [same]
      exact .refl state
    · obtain same | ⟨link, -, same⟩ := expireLink_eq_ok accepted
      · rw [same]
        exact .refl state
      · rw [same]
        exact ⟨rfl, rfl, rfl, rfl⟩
  | changeStatus reservationId status =>
    show SameReceipts state (state.changeStatus reservationId status)
    unfold changeStatus
    split
    · exact .refl state
    · exact ⟨rfl, rfl, rfl, rfl⟩

end LinkState

end HotelPms.Links
