import HotelPms.Links.ExactlyOnce

/-!
# Recorded statuses follow the provider

A payment has a status with its provider, which moves along the same table of
transitions, and each of its notifications reads the current one.  Once a
notification has been accepted the recorded status is the provider's, until
the provider moves on.  A link that is closed refuses every status but a late
success, and the failure of a completed payment; an open link takes the refund
of a completed payment.
-/

namespace HotelPms.Links

open Checked Decimal Hotel Payments

/-- Status a notification reads of a payment, if it is about that payment. -/
def readStatus (env : LinkEnvironment) (state : LinkState) (call : WebhookCall)
    (provider : LinkProvider)
    (externalPaymentId : String) : Option PaymentStatus :=
  if LinkProvider.ofText call.provider = some provider then
    match resolveLink env state call >>= fun link =>
        readCharge env provider link call with
    | .ok charge =>
      if charge.externalPaymentId = externalPaymentId then
        some charge.status
      else none
    | .error _ => none
  else none

/-- A notification is accepted for the first time. -/
def isProcessed (env : LinkEnvironment) (state : LinkState) (call : WebhookCall) : Bool :=
  match ingestWebhook env state call with
  | .ok (_, result) => !result.duplicate
  | .error _ => false

/-- Tables of the hotel, status of a payment with its provider, and whether a
notification has been processed since that status was reached. -/
structure Tracked where
  state : LinkState
  current : PaymentStatus
  processed : Bool

inductive TrackedEvent
  | moves (status : PaymentStatus)
  | occurs (event : LinkEvent)

/-- One step of a tracked payment: the provider moves along the table, and a
notification of the payment reads its current status. -/
def trackedStep (provider : LinkProvider) (externalPaymentId : String)
    (tracked : Tracked) : TrackedEvent -> Option Tracked
  | .moves status =>
    if IsAllowedStatusTransition tracked.current status then
      some { tracked with
        current := status
        processed := tracked.processed && decide (status = tracked.current) }
    else none
  | .occurs (.ingestWebhook env call) =>
    match readStatus env tracked.state call provider externalPaymentId with
    | some status =>
      if status = tracked.current then
        some { tracked with
          state := tracked.state.after (.ingestWebhook env call)
          processed :=
            tracked.processed || isProcessed env tracked.state call }
      else none
    | none =>
      some { tracked with state := tracked.state.after (.ingestWebhook env call) }
  | .occurs event => some { tracked with state := tracked.state.after event }

def LinkState.recordedStatus (state : LinkState) (provider : LinkProvider)
    (externalPaymentId : String) : Option PaymentStatus :=
  (state.payment? provider externalPaymentId).map Payment.status

/-- What every run of a tracked payment keeps. -/
structure TrackedInvariant
    (provider : LinkProvider)
    (externalPaymentId : String)
    (tracked : Tracked) : Prop where
  receipts : ReceiptInvariant tracked.state
  behind : ∀ status, tracked.state.recordedStatus provider externalPaymentId = some status ->
      IsAllowedStatusTransition status tracked.current
  processed : tracked.processed = true -> tracked.state.recordedStatus provider externalPaymentId =
      some tracked.current

section

variable {env : LinkEnvironment} {state after recorded : LinkState}
  {provider other : LinkProvider} {externalPaymentId : String}
  {charge : Charge} {link : PaymentLink} {payment : Payment}
  {result : WebhookResult} {call : WebhookCall} {tracked next : Tracked}

/-- A row is found under its identity. -/
theorem PaymentTable.payment?_of_mem (table : PaymentTable state)
    (member : payment ∈ state.payments)
    (identity : payment.identity = (provider, externalPaymentId)) :
    state.payment? provider externalPaymentId = some payment := by
  cases found : state.payment? provider externalPaymentId with
  | none => exact absurd identity (payment?_eq_none found payment member)
  | some row =>
    obtain ⟨rowIn, same⟩ := payment?_eq_some found
    rw [table.eq_of_identity rowIn member (same.trans identity.symm)]

theorem RecordedTable.payment?_other
    (recordedTable : RecordedTable state provider charge payment recorded)
    (different : (other, externalPaymentId) ≠ (provider, charge.externalPaymentId)) :
    recorded.payment? other externalPaymentId = state.payment? other externalPaymentId := by
  cases found : state.payment? other externalPaymentId with
  | none =>
    cases later : recorded.payment? other externalPaymentId with
    | none => rfl
    | some row =>
      obtain ⟨rowIn, identity⟩ := payment?_eq_some later
      have old := (recordedTable.others row (identity ▸ different)).mp rowIn
      exact absurd identity (payment?_eq_none found row old)
  | some row =>
    obtain ⟨rowIn, identity⟩ := payment?_eq_some found
    exact recordedTable.table.payment?_of_mem
      ((recordedTable.others row (identity ▸ different)).mpr rowIn) identity

theorem readStatus_eq_some {status : PaymentStatus}
    (isRead : readStatus env state call provider externalPaymentId = some status) :
    LinkProvider.ofText call.provider = some provider ∧
      ∃ link charge, resolveLink env state call = .ok link ∧
        readCharge env provider link call = .ok charge ∧
        charge.externalPaymentId = externalPaymentId ∧
        charge.status = status := by
  unfold readStatus at isRead
  split_ifs at isRead with named
  split at isRead
  · next charge computed =>
    obtain ⟨link, resolved, charged⟩ := bind_eq_ok.mp computed
    split_ifs at isRead with own
    exact ⟨named, link, charge, resolved, charged, own, Option.some.inj isRead⟩
  · cases isRead

theorem readStatus_eq (named : LinkProvider.ofText call.provider = some provider)
    (resolved : resolveLink env state call = .ok link)
    (charged : readCharge env provider link call = .ok charge) :
    readStatus env state call provider externalPaymentId =
      if charge.externalPaymentId = externalPaymentId then some charge.status
      else none := by
  unfold readStatus
  rw [if_pos named, resolved]
  show (match readCharge env provider link call with
    | .ok charge => _
    | .error _ => _) = _
  rw [charged]

theorem recordedStatus_of_other (table : PaymentTable state)
    (ingested : ingestWebhook env state call = .ok (after, result))
    (unread : readStatus env state call provider externalPaymentId = none) :
    after.recordedStatus provider externalPaymentId =
      state.recordedStatus provider externalPaymentId := by
  obtain ⟨reporter, named, ⟨rfl, -⟩ | ⟨-, link, charge, resolved, charged,
    applied⟩⟩ := ingestWebhook_eq_ok ingested
  · rfl
  obtain ⟨-, -, -, normalized⟩ := readCharge_eq_ok charged
  have different : (provider, externalPaymentId) ≠ (reporter, charge.externalPaymentId) := by
    intro same
    cases same
    rw [readStatus_eq named resolved charged, if_pos rfl] at unread
    cases unread
  obtain ⟨-, closed, closedLink, closedState, -, -, -, rfl, -, ⟨-, -, -, logged⟩ | ⟨payment,
    recorded, isRecorded, settled⟩⟩ := applyCharge_eq_ok applied
  · unfold LinkState.recordedStatus LinkState.payment?
    rw [logged.payments]
    rfl
  · have closedTable : PaymentTable (state.storeLink closedLink) :=
      ⟨table.numbered, table.identities, table.currencies⟩
    have others := (isRecorded.recordedTable closedTable normalized)
      |>.payment?_other different
    have same : after.payment? provider externalPaymentId =
        recorded.payment? provider externalPaymentId := by
      unfold LinkState.payment?
      rw [settled.payments]
    unfold LinkState.recordedStatus
    rw [same, others]
    rfl

theorem recordedStatus_of_read (table : PaymentTable state)
    (ingested : ingestWebhook env state call = .ok (after, result))
    {status : PaymentStatus}
    (isRead : readStatus env state call provider externalPaymentId = some status) :
    (after = state ∧ result.duplicate = true) ∨
      (∃ old, state.recordedStatus provider externalPaymentId = some old ∧
        ¬IsAllowedStatusTransition old status) ∨
      after.recordedStatus provider externalPaymentId = some status := by
  obtain ⟨reporter, named, ⟨rfl, event, rfl, -⟩ | ⟨-, link, charge, resolved,
    charged, applied⟩⟩ := ingestWebhook_eq_ok ingested
  · left
    refine ⟨rfl, ?_⟩
    unfold duplicateWebhookResult
    split <;> rfl
  right
  obtain ⟨isProvider, -⟩ := readStatus_eq_some isRead
  obtain rfl := Option.some.inj (isProvider.symm.trans named)
  rw [readStatus_eq named resolved charged] at isRead
  split_ifs at isRead with own
  cases isRead
  subst own
  obtain ⟨-, -, -, normalized⟩ := readCharge_eq_ok charged
  obtain ⟨-, closed, closedLink, closedState, -, -, -, rfl, -, ⟨payment, found, disallowed, -⟩ |
    ⟨payment, recorded, isRecorded, settled⟩⟩ := applyCharge_eq_ok applied
  · refine .inl ⟨payment.status, ?_, disallowed⟩
    unfold LinkState.recordedStatus
    rw [found]
    rfl
  · right
    have recordedTable := isRecorded.recordedTable (table.storeLink closedLink) normalized
    have found := recordedTable.table.payment?_of_mem recordedTable.member recordedTable.identity
    have same : after.payment? provider charge.externalPaymentId =
        recorded.payment? provider charge.externalPaymentId := by
      unfold LinkState.payment?
      rw [settled.payments]
    unfold LinkState.recordedStatus
    rw [same, found, Option.map_some]
    cases isRecorded with
    | added => exact congrArg some keptPayment_withProcessedAt.2.1
    | moved => exact congrArg some keptPayment_withProcessedAt.2.1

theorem recordedStatus_after_other {event : LinkEvent}
    (silent : ∀ env call, event ≠ .ingestWebhook env call) :
    (state.after event).recordedStatus provider externalPaymentId =
      state.recordedStatus provider externalPaymentId := by
  have same : SameReceipts state (state.after event) :=
    LinkState.sameReceipts_after silent
  unfold LinkState.recordedStatus LinkState.payment?
  rw [same.payments]

theorem recordedStatus_after_unread (table : PaymentTable state)
    (unread : readStatus env state call provider externalPaymentId = none) :
    (state.after (.ingestWebhook env call)).recordedStatus provider externalPaymentId =
      state.recordedStatus provider externalPaymentId := by
  show (state.committed (ingestWebhook env state call)).recordedStatus
    provider externalPaymentId = _
  rcases LinkState.committed_cases (ingestWebhook env state call) with same | ⟨result, ingested⟩
  · rw [same]
  · exact recordedStatus_of_other table ingested unread

theorem TrackedInvariant.of_same (invariant : TrackedInvariant provider externalPaymentId tracked)
    (receipts : ReceiptInvariant after)
    (same : after.recordedStatus provider externalPaymentId =
      tracked.state.recordedStatus provider externalPaymentId)
    {processed : Bool} (unprocessed : processed = tracked.processed) :
    TrackedInvariant provider externalPaymentId
      { tracked with state := after, processed := processed } where
  receipts := receipts
  behind := by
    intro status recorded
    exact invariant.behind status (same ▸ recorded)
  processed := by
    intro isProcessed
    rw [show tracked.state.recordedStatus provider externalPaymentId =
      some tracked.current from invariant.processed (unprocessed ▸ isProcessed)] at same
    exact same

theorem TrackedInvariant.ingestWebhook
    (invariant : TrackedInvariant provider externalPaymentId tracked)
    (isRead : readStatus env tracked.state call provider externalPaymentId = some tracked.current) :
    TrackedInvariant provider externalPaymentId { tracked with
        state := tracked.state.after (.ingestWebhook env call)
        processed := tracked.processed || isProcessed env tracked.state call } := by
  have receipts := (invariant.receipts.after (.ingestWebhook env call)).1
  cases ingested : Links.ingestWebhook env tracked.state call with
  | error reason =>
    have isAfter : tracked.state.after (.ingestWebhook env call) = tracked.state := by
      show tracked.state.committed _ = _
      rw [ingested]
      rfl
    have unprocessed : isProcessed env tracked.state call = false := by
      unfold isProcessed
      rw [ingested]
    apply invariant.of_same receipts
    · rw [isAfter]
    · rw [unprocessed, Bool.or_false]
  | ok answer =>
    obtain ⟨later, result⟩ := answer
    have isAfter : tracked.state.after (.ingestWebhook env call) = later := by
      show tracked.state.committed _ = _
      rw [ingested]
      rfl
    have processed : isProcessed env tracked.state call = !result.duplicate := by
      unfold isProcessed
      rw [ingested]
    rcases recordedStatus_of_read invariant.receipts.table ingested isRead
      with ⟨rfl, duplicate⟩ | ⟨old, recorded, disallowed⟩ | recorded
    · apply invariant.of_same receipts
      · rw [isAfter]
      · rw [processed, duplicate, Bool.not_true, Bool.or_false]
    · exact absurd (invariant.behind old recorded) disallowed
    · refine ⟨receipts, fun status isRecorded => ?_, fun _ => ?_⟩
      · rw [isAfter, recorded] at isRecorded
        cases isRecorded
        exact .refl _
      · rw [isAfter]
        exact recorded

theorem TrackedInvariant.step {event : TrackedEvent}
    (invariant : TrackedInvariant provider externalPaymentId tracked)
    (taken : trackedStep provider externalPaymentId tracked event = some next) :
    TrackedInvariant provider externalPaymentId next := by
  cases event with
  | moves status =>
    unfold trackedStep at taken
    simp only at taken
    split_ifs at taken with allowed
    cases taken
    refine ⟨invariant.receipts, ?_, ?_⟩
    · intro old recorded
      exact (invariant.behind old recorded).trans allowed
    · intro processed
      obtain ⟨earlier, same⟩ := Bool.and_eq_true_iff.mp processed
      rw [of_decide_eq_true same]
      exact invariant.processed earlier
  | occurs event =>
    by_cases notification : ∃ env call, event = .ingestWebhook env call
    · obtain ⟨env, call, rfl⟩ := notification
      unfold trackedStep at taken
      simp only at taken
      split at taken
      · next status isRead =>
        split_ifs at taken with current
        cases taken
        rw [current] at isRead
        exact invariant.ingestWebhook isRead
      · next unread =>
        cases taken
        exact invariant.of_same (invariant.receipts.after _).1
          (recordedStatus_after_unread invariant.receipts.table unread) rfl
    · have silent : ∀ env call, event ≠ .ingestWebhook env call :=
        fun env call isEvent => notification ⟨env, call, isEvent⟩
      have isNext : some { tracked with state := tracked.state.after event } = some next := by
        rw [← taken]
        cases event with
        | ingestWebhook env call => exact absurd rfl (silent env call)
        | _ => rfl
      cases isNext
      exact invariant.of_same (invariant.receipts.after _).1 (recordedStatus_after_other silent) rfl

/-- A notification with a new id that passes every check before the state of
its link is looked at. -/
structure Delivered
    (env : LinkEnvironment)
    (state : LinkState)
    (call : WebhookCall)
    (provider : LinkProvider)
    (link : PaymentLink)
    (charge : Charge)
    (reservation : ReservationFinancials) : Prop where
  enabled : env.inboundProviderEventsEnabled = true
  named : LinkProvider.ofText call.provider = some provider
  hotel : 0 < state.accounts.hotelId
  newId : state.findExistingEvent provider call.webhookId = none
  resolved : resolveLink env state call = .ok link
  charged : readCharge env provider link call = .ok charge
  stored : state.accounts.reservations link.reservationId = some reservation

variable {reservation : ReservationFinancials}

section

variable (delivered : Delivered env state call provider link charge reservation)
include delivered

theorem Delivered.ingestWebhook_eq :
    ingestWebhook env state call = applyCharge env state provider call.webhookId link charge := by
  have enabled : ¬env.inboundProviderEventsEnabled = false := by
    rw [delivered.enabled]
    decide
  unfold ingestWebhook
  simp only [raiseIf, if_neg enabled, delivered.named,
    if_neg (not_le.mpr delivered.hotel), delivered.newId, delivered.resolved]
  show readCharge env provider link call >>= (fun charge =>
    applyCharge env state provider call.webhookId link charge) = _
  rw [delivered.charged]
  rfl

/-- The row of the payment a charge is about, with the link, the amount and
the currency of the charge. -/
structure OwnPayment
    (state : LinkState)
    (provider : LinkProvider)
    (link : PaymentLink)
    (charge : Charge)
    (payment : Payment) : Prop where
  found : state.payment? provider charge.externalPaymentId = some payment
  ownLink : payment.paymentLinkId = some link.id
  reservationId : payment.reservationId = link.reservationId
  amount : payment.amount = charge.amount
  currency : normalizeCurrency payment.currency = charge.currency

theorem Delivered.accepted_of_open (isOpen : closedLinkStatus reservation link = none)
    (own : OwnPayment state provider link charge payment)
    (allowed : IsAllowedStatusTransition payment.status charge.status)
    (uncompleted : charge.status ≠ .completed) :
    ∃ after result, ingestWebhook env state call = .ok (after, result) ∧
      result.duplicate = false := by
  rw [delivered.ingestWebhook_eq]
  have admitted : admitKnownPayment state link charge payment =
      .ok (existingReconciliationReviewCode state payment) := by
    unfold admitKnownPayment
    simp only [raiseIf, own.ownLink, own.reservationId, own.amount, own.currency]
    simp [bind, Except.bind, pure, Except.pure]
  have sameLink : closeWithReservation none link = link := by
    unfold closeWithReservation
    rw [if_neg (by simp)]
  unfold applyCharge settleCharge admitCharge
  simp only [delivered.stored, isOpen, sameLink, own.found, admitted,
    if_pos allowed, if_neg uncompleted]
  exact ⟨_, _, rfl, rfl⟩

theorem Delivered.refund_recorded (table : PaymentTable state)
    (isOpen : closedLinkStatus reservation link = none)
    (own : OwnPayment state provider link charge payment)
    (completed : payment.status = .completed)
    (refund : charge.status = .refunded ∨ charge.status = .partiallyRefunded) :
    (state.after (.ingestWebhook env call)).recordedStatus provider
        charge.externalPaymentId = some charge.status := by
  have allowed : IsAllowedStatusTransition payment.status charge.status := by
    rw [completed]
    rcases refund with isRefund | isRefund
    · rw [isRefund]
      decide
    · rw [isRefund]
      decide
  have uncompleted : charge.status ≠ .completed := by
    rcases refund with isRefund | isRefund
    · rw [isRefund]
      decide
    · rw [isRefund]
      decide
  obtain ⟨after, result, ingested, original⟩ :=
    delivered.accepted_of_open isOpen own allowed uncompleted
  have isAfter : state.after (.ingestWebhook env call) = after := by
    show state.committed _ = _
    rw [ingested]
    rfl
  have isRead : readStatus env state call provider charge.externalPaymentId =
      some charge.status := by
    rw [readStatus_eq delivered.named delivered.resolved delivered.charged, if_pos rfl]
  rw [isAfter]
  rcases recordedStatus_of_read table ingested isRead with
    ⟨-, duplicate⟩ | ⟨old, recorded, disallowed⟩ | recorded
  · exact absurd duplicate (by simp [original])
  · unfold LinkState.recordedStatus at recorded
    rw [own.found, Option.map_some] at recorded
    cases recorded
    exact absurd allowed disallowed
  · exact recorded

theorem Delivered.refused_of_closed (isClosed : closedLinkStatus reservation link ≠ none)
    (uncompleted : charge.status ≠ .completed)
    (unfailed : ¬(charge.status = .failed ∧
      state.recordedStatus provider charge.externalPaymentId = some .completed)) :
    state.after (.ingestWebhook env call) = state := by
  rcases LinkState.committed_cases (ingestWebhook env state call) with same | ⟨result, ingested⟩
  · exact same
  rw [delivered.ingestWebhook_eq] at ingested
  obtain ⟨reservation', closed, -, -, stored, rfl, -, -, checked, -⟩ := applyCharge_eq_ok ingested
  obtain rfl := Option.some.inj (stored.symm.trans delivered.stored)
  unfold checkClosedLink at checked
  rw [raiseIf_eq_ok] at checked
  exfalso
  apply checked
  refine ⟨isClosed, (uncompleted ·.2), fun failure => ?_⟩
  apply unfailed
  refine ⟨failure.2.1, ?_⟩
  have completed := failure.2.2
  unfold isRecordedCompleted at completed
  unfold LinkState.recordedStatus
  cases found : state.payment? provider charge.externalPaymentId with
  | none =>
    rw [found] at completed
    cases completed
  | some row =>
    rw [found, Option.any_some, decide_eq_true_eq] at completed
    exact congrArg some completed

end

/-- What a run guarantees of a payment that is tracked. -/
structure Converged
    (provider : LinkProvider)
    (externalPaymentId : String)
    (tracked : Tracked) : Prop where
  /-- After an accepted notification of the current status. -/
  recorded : tracked.processed = true -> tracked.state.recordedStatus provider externalPaymentId =
      some tracked.current
  /-- A refund of a completed payment, while its link is open. -/
  refundRecorded : ∀ {env call link charge reservation payment},
    Delivered env tracked.state call provider link charge reservation ->
    charge.externalPaymentId = externalPaymentId ->
    charge.status = tracked.current ->
    closedLinkStatus reservation link = none ->
    OwnPayment tracked.state provider link charge payment ->
    payment.status = .completed ->
    tracked.current = .refunded ∨ tracked.current = .partiallyRefunded ->
      (tracked.state.after (.ingestWebhook env call)).recordedStatus provider
        externalPaymentId = some tracked.current
  /-- A closed link stores nothing but late successes, and failures of
  completed payments. -/
  closedRefuses : ∀ {env call link charge reservation},
    Delivered env tracked.state call provider link charge reservation ->
    charge.externalPaymentId = externalPaymentId ->
    closedLinkStatus reservation link ≠ none ->
    charge.status ≠ .completed ->
    ¬(charge.status = .failed ∧ tracked.state.recordedStatus provider externalPaymentId =
        some .completed) ->
      tracked.state.after (.ingestWebhook env call) = tracked.state

theorem TrackedInvariant.converged
    (invariant : TrackedInvariant provider externalPaymentId tracked) :
    Converged provider externalPaymentId tracked where
  recorded := invariant.processed
  refundRecorded := by
    intro env call link charge reservation payment delivered own current isOpen
      ownPayment completed refund
    rw [← current] at refund
    rw [← own, ← current]
    exact delivered.refund_recorded invariant.receipts.table isOpen ownPayment completed refund
  closedRefuses := by
    rintro env call link charge reservation delivered rfl isClosed uncompleted unfailed
    exact delivered.refused_of_closed isClosed uncompleted unfailed

/-- In every run the recorded status of a payment follows the accepted
notifications; an open link records the refund of a completed payment, and a
closed one stores no refund. -/
theorem ingestWebhook_converges {start finish : Tracked} (nothing : NothingReceived start.state)
    (unprocessed : start.processed = false)
    (reached : Transition.Reaches (trackedStep provider externalPaymentId)
      (fun _ _ => True) start finish) :
    Converged provider externalPaymentId finish := by
  have initial : TrackedInvariant provider externalPaymentId start :=
    { receipts := nothing.invariant
      behind := by
        intro status recorded
        unfold LinkState.recordedStatus LinkState.payment? at recorded
        rw [nothing.payments] at recorded
        cases recorded
      processed := by
        intro processed
        rw [unprocessed] at processed
        cases processed }
  exact (reached.invariant initial fun invariant _ taken => invariant.step taken).converged

end

theorem reaches_ingestWebhook {provider : LinkProvider} {externalPaymentId : String}
    {start : Tracked} {state : LinkState} {current : PaymentStatus}
    {processed : Bool} {env : LinkEnvironment} {call : WebhookCall}
    (reached : Transition.Reaches (trackedStep provider externalPaymentId)
      (fun _ _ => True) start ⟨state, current, processed⟩)
    (isRead : readStatus env state call provider externalPaymentId = some current)
    (accepted : isProcessed env state call = true) :
    Transition.Reaches (trackedStep provider externalPaymentId) (fun _ _ => True) start
      ⟨state.after (.ingestWebhook env call), current, true⟩ := by
  refine @Transition.Reaches.next _ _ _ _ _ _ _
    (.occurs (.ingestWebhook env call)) reached trivial ?_
  unfold trackedStep
  simp only [isRead, if_true, accepted, Bool.or_true]

def linkedState : LinkState :=
  unpaidState.after (.createLink openEnvironment (linkOf 4999 "clave-uno"))

/-- Twenty of it are paid. -/
def approvedCall : WebhookCall :=
  notificationOf "aviso-1" "clave-uno" "pago-1" 20 "approved"

def paidState : LinkState :=
  linkedState.after (.ingestWebhook openEnvironment approvedCall)

/-- The approved payment, from the creation of its link on. -/
theorem paidState_reached : Transition.Reaches (trackedStep .mercadoPago "pago-1") (fun _ _ => True)
      ⟨unpaidState, .completed, false⟩ ⟨paidState, .completed, true⟩ := by
  have created : Transition.Reaches (trackedStep .mercadoPago "pago-1")
      (fun _ _ => True) ⟨unpaidState, .completed, false⟩
      ⟨linkedState, .completed, false⟩ :=
    @Transition.Reaches.next _ _ _ _ _ _ _
      (.occurs (.createLink openEnvironment (linkOf 4999 "clave-uno")))
      .refl trivial rfl
  exact reaches_ingestWebhook created (by decide +kernel) (by decide +kernel)

/-- Its recorded status is the provider's. -/
theorem ingestWebhook_converges_approved :
    Converged .mercadoPago "pago-1" ⟨paidState, .completed, true⟩ ∧
      paidState.recordedStatus .mercadoPago "pago-1" = some .completed :=
  ⟨ingestWebhook_converges unpaidState_nothingReceived rfl paidState_reached, by decide +kernel⟩

/-- The rest of the link is cancelled. -/
def cancelledState : LinkState :=
  paidState.after (.cancelLink 0 1 none)

def refundedCall : WebhookCall :=
  notificationOf "aviso-2" "clave-uno" "pago-1" 20 "refunded"

/-- The refund of a payment is refused once its link is cancelled, and the
payment stays recorded as completed. -/
theorem ingestWebhook_not_converges : ¬∀ (provider : LinkProvider) (externalPaymentId : String)
        (start finish : Tracked) (env : LinkEnvironment) (call : WebhookCall),
      NothingReceived start.state -> start.processed = false ->
      Transition.Reaches (trackedStep provider externalPaymentId) (fun _ _ => True) start finish ->
      finish.state.recordedStatus provider externalPaymentId = some .completed ->
      finish.current = .refunded ->
      finish.state.findExistingEvent provider call.webhookId = none ->
      readStatus env finish.state call provider externalPaymentId = some finish.current ->
        (finish.state.after (.ingestWebhook env call)).recordedStatus provider
          externalPaymentId = some finish.current := by
  intro claim
  have isCancelled : Transition.Reaches (trackedStep .mercadoPago "pago-1")
      (fun _ _ => True) ⟨unpaidState, .completed, false⟩
      ⟨cancelledState, .completed, true⟩ :=
    @Transition.Reaches.next _ _ _ _ _ _ _ (.occurs (.cancelLink 0 1 none))
      paidState_reached trivial rfl
  have isRefunded : Transition.Reaches (trackedStep .mercadoPago "pago-1")
      (fun _ _ => True) ⟨unpaidState, .completed, false⟩
      ⟨cancelledState, .refunded, false⟩ :=
    @Transition.Reaches.next _ _ _ _ _ _ _ (.moves .refunded) isCancelled trivial rfl
  have recorded := claim .mercadoPago "pago-1" _ _ openEnvironment refundedCall
    unpaidState_nothingReceived rfl isRefunded (by decide +kernel) rfl
    (by decide +kernel) (by decide +kernel)
  revert recorded
  decide +kernel

end HotelPms.Links
