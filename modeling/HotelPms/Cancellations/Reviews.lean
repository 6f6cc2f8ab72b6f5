import HotelPms.Cancellations.Policy
import HotelPms.Foundation.KeySort
import HotelPms.Foundation.Table
import HotelPms.Foundation.Transition
import HotelPms.Hotel.State

/-!
# Cancellation requests and reviews

A request cancels a reservation inside its free window, and otherwise leaves
one pending review for a manager, who approves or rejects it once.  Arrivals,
departures and every other service write the reservations in between.  Each
call holds the lock of its reservation, so that calls come one after another;
a call that raises writes nothing.
-/

namespace HotelPms.Cancellations

open Checked KeySort Table Transition
open Links (Json)
open Hotel (ReservationStatus)

inductive ReviewType
  | penalty
  | historicalPolicyMissing
  | policyNeedsReview
  deriving DecidableEq

inductive ReviewStatus
  | pending
  | approved
  | rejected
  deriving DecidableEq

/-- An approval record of a manual cancellation. -/
structure ReservationCancellationReview where
  id : Int
  reservationId : Int
  reviewType : ReviewType
  status : ReviewStatus := .pending
  reasonCode : String
  policySnapshot : Option Json := none
  reservationTotal : Option Int := none
  reservationCurrencyCode : Option String := none
  freeCancellationHours : Option Int := none
  checkInTime : Option String := none
  hotelTimezone : Option String := none
  cancellationCutoffAt : Option Int := none
  penaltyAmount : Option Int := none
  penaltyCurrencyCode : Option String := none
  requestedByUserId : Int
  requestedAt : Int
  reviewedByUserId : Option Int := none
  reviewedAt : Option Int := none
  reviewReason : Option String := none

/-- What a cancellation reads of a reservation. -/
structure ReservationRow extends BookingTerms where
  status : ReservationStatus := .pending
  deleted : Bool := false

/-- Reservations of a hotel and the reviews of their cancellations. -/
structure ReviewBook where
  reservations : Int -> Option ReservationRow := fun _ => none
  reviews : List ReservationCancellationReview := []
  nextReviewId : Int := 1

/-- The standard library, and what the limits of the columns make the
database answer to a new review. -/
structure CancellationEnvironment extends PolicyEnvironment where
  refuses : ReservationCancellationReview -> Option String

structure CancellationPreparation where
  requestedAt : Int
  evaluation : CancellationEvaluation
  schedule : CheckInSchedule

inductive CancellationOutcome
  | cancelled
  | approvalRequired
  | managerReviewRequired

structure CancellationRequestResult where
  outcome : CancellationOutcome
  review : Option ReservationCancellationReview := none

inductive ReviewDecision
  | approve
  | reject

def ReviewDecision.desiredStatus : ReviewDecision -> ReviewStatus
  | .approve => .approved
  | .reject => .rejected

/-- Statuses in which a cancellation is neither requested nor decided. -/
def noLongerCancellable : List ReservationStatus :=
  [.partialCheckIn, .checkedIn, .checkedOut, .cancelled, .noShow]

/-- Move a reservation as the state machine allows. -/
def transitionReservationStatus (row : ReservationRow)
    (newStatus : ReservationStatus) : Except String ReservationRow := do
  raiseIf (newStatus ∉ row.status.validTransitions)
    ("No se puede cambiar la reserva del estado " ++ row.status.value ++
      " al estado " ++ newStatus.value)
  pure { row with status := newStatus }

def outcomeForReview (review : ReservationCancellationReview) : CancellationOutcome :=
  if review.reviewType = .penalty then .approvalRequired
  else .managerReviewRequired

/-- Kind of the review that an evaluation asks for. -/
def reviewType (evaluation : CancellationEvaluation) : ReviewType :=
  if evaluation.decision = .managerApprovalRequired then .penalty
  else if evaluation.reason = "missing_booking_policy_snapshot" then
    .historicalPolicyMissing
  else .policyNeedsReview

namespace ReviewBook

variable (book : ReviewBook)

variable (reservationId : Int)

/-- Reviews of a reservation that wait for a decision. -/
def pendingReviews : List ReservationCancellationReview :=
  book.reviews.filter fun review => review.reservationId = reservationId ∧ review.status = .pending

/-- The newest review of a reservation that waits for a decision. -/
def getPendingCancellationReview : Option ReservationCancellationReview :=
  (sortByKey (-·.id) (book.pendingReviews reservationId)).head?

def reservation? : Option ReservationRow :=
  (book.reservations reservationId).filter (·.deleted = false)

def saveReservation (row : ReservationRow) : ReviewBook :=
  { book with reservations := fun id =>
      if id = reservationId then some row else book.reservations id }

end ReviewBook

section

variable (env : CancellationEnvironment) (book : ReviewBook)

variable (review : ReservationCancellationReview) (reservationId : Int) (row : ReservationRow)

/-- Evaluate the saved policy of a reservation. -/
def prepareCancellationRequest (schedule : CheckInSchedule) (requestedAt : Int) :
    Except String CancellationPreparation := do
  let evaluation ← evaluateCancellationPolicy env.toPolicyEnvironment
    row.toBookingTerms schedule requestedAt
  raiseIf (evaluation.decision = .hotelConfigurationRequired) evaluation.reason
  pure { requestedAt := requestedAt, evaluation := evaluation, schedule := schedule }

/-- Review of a cancellation that is not free. -/
def newReview (userId : Int)
    (preparation : CancellationPreparation) : ReservationCancellationReview :=
  let snapshot := row.cancellationPolicySnapshot.filter Json.isObject
  let evaluation := preparation.evaluation
  { id := book.nextReviewId
    reservationId := reservationId
    reviewType := reviewType evaluation
    reasonCode := evaluation.reason
    policySnapshot := snapshot
    reservationTotal := row.totalAmount
    reservationCurrencyCode :=
      currency env.toPolicyEnvironment (row.currencyCode.getD "")
    freeCancellationHours :=
      (snapshot.bind (·.get? "free_cancellation_hours")).bind env.int
    checkInTime := preparation.schedule.checkInTime
    hotelTimezone := preparation.schedule.hotelTimezone
    cancellationCutoffAt := evaluation.cutoffAt
    penaltyAmount := evaluation.penaltyAmount
    penaltyCurrencyCode :=
      if evaluation.penaltyAmount = none then none
      else evaluation.currencyCode
    requestedByUserId := userId
    requestedAt := preparation.requestedAt }

/-- Store a new review, as far as its columns hold it. -/
def insertReview : Except String ReviewBook :=
  match env.refuses review with
  | some error => throw error
  | none => pure
      { book with reviews := book.reviews ++ [review], nextReviewId := book.nextReviewId + 1 }

/-- Cancel inside the saved free window or create one pending review. -/
def requestReservationCancellation (userId : Int) (preparation : Option CancellationPreparation) :
    Except String (ReviewBook × CancellationRequestResult) := do
  raiseIf (row.status ∈ noLongerCancellable) "reservation_no_longer_cancellable"
  match book.getPendingCancellationReview reservationId, preparation with
  | some existing, _ =>
    pure (book, { outcome := outcomeForReview existing, review := some existing })
  | none, none => throw "cancellation_request_requires_policy_evaluation"
  | none, some preparation =>
    match preparation.evaluation.decision with
    | .cancelWithoutPenalty => do
      let cancelled ← transitionReservationStatus row .cancelled
      pure (book.saveReservation reservationId cancelled, { outcome := .cancelled })
    | .hotelConfigurationRequired =>
      throw "unsupported_cancellation_decision"
    | .managerApprovalRequired | .managerReviewRequired => do
      let review := newReview env book reservationId row userId preparation
      let after ← insertReview env book review
      pure (after, { outcome := outcomeForReview review, review := some review })

/-- A cancellation that a user requests, with the schedule that was read. -/
structure CancelCall where
  reservationId : Int
  userId : Int
  schedule : CheckInSchedule
  requestedAt : Int

/-- The policy is evaluated when no review is pending. -/
def prepareUnlessPending (call : CancelCall) : Except String (Option CancellationPreparation) :=
  match book.getPendingCancellationReview call.reservationId with
  | some _ => pure none
  | none => do
    let preparation ← prepareCancellationRequest env row call.schedule call.requestedAt
    pure (some preparation)

/-- Request the cancellation of a reservation. -/
def cancelReservation (call : CancelCall) :
    Except String (ReviewBook × CancellationRequestResult) :=
  match book.reservation? call.reservationId with
  | none => throw "No se encontró la reserva."
  | some row => do
    raiseIf (row.status ∈ [ReservationStatus.partialCheckIn, .checkedIn, .checkedOut])
      "No se puede cancelar una reserva que ya tiene check-in o check-out."
    raiseIf (row.status = .cancelled) "La reserva ya está cancelada."
    let preparation ← prepareUnlessPending env book row call
    requestReservationCancellation env book call.reservationId row call.userId preparation

/-- A decision about a review. -/
structure DecisionCall where
  reviewId : Int
  userId : Int
  decision : ReviewDecision
  reason : String
  reviewedAt : Int

def getReviewReservation : Except String ReservationRow :=
  match book.reservation? reservationId with
  | some row => pure row
  | none => throw "reservation_not_found"

def applyDecision : ReviewDecision → Except String ReviewBook
  | .reject => pure book
  | .approve => do
    let cancelled ← transitionReservationStatus row .cancelled
    pure (book.saveReservation review.reservationId cancelled)

def decidedReview (call : DecisionCall) : ReservationCancellationReview :=
  { review with
    status := call.decision.desiredStatus
    reviewedByUserId := some call.userId
    reviewedAt := some call.reviewedAt
    reviewReason := some call.reason }

/-- Approve or reject a pending review; a decision that was already taken is
returned as it is. -/
def resolveCancellationReview (call : DecisionCall) :
    Except String (ReviewBook × ReservationCancellationReview) :=
  match find ReservationCancellationReview.id call.reviewId book.reviews with
  | none => throw "cancellation_review_not_found"
  | some review =>
    if review.status = call.decision.desiredStatus then do
      let _ ← getReviewReservation book review.reservationId
      pure (book, review)
    else do
      raiseIf (review.status ≠ .pending) "cancellation_review_already_resolved"
      let row ← getReviewReservation book review.reservationId
      raiseIf (row.status ∈ noLongerCancellable) "reservation_no_longer_cancellable"
      let after ← applyDecision book review row call.decision
      pure ({ after with
            reviews := replace ReservationCancellationReview.id
              (decidedReview review call) after.reviews },
          decidedReview review call)

/-- A request, a decision, a transition of the state machine, or what another
service writes into a reservation. -/
inductive CancellationEvent
  | cancelReservation (call : CancelCall)
  | resolveCancellationReview (call : DecisionCall)
  | transitionReservationStatus (reservationId : Int)
      (newStatus : ReservationStatus)
  | saveReservation (reservationId : Int) (row : ReservationRow)

def CancellationEvent.isHandled : CancellationEvent → Bool
  | .cancelReservation _ => true
  | .resolveCancellationReview _ => true
  | .transitionReservationStatus _ _ => false
  | .saveReservation _ _ => false

/-- Book that an event leaves when it does not raise. -/
def performEvent : CancellationEvent → Except String ReviewBook
  | .cancelReservation call => (cancelReservation env book call).map Prod.fst
  | .resolveCancellationReview call =>
    (resolveCancellationReview book call).map Prod.fst
  | .transitionReservationStatus reservationId newStatus => do
    let row ← getReviewReservation book reservationId
    let after ← transitionReservationStatus row newStatus
    pure (book.saveReservation reservationId after)
  | .saveReservation reservationId row =>
    pure (book.saveReservation reservationId row)

end

/-- One event; one that raises leaves the book as it is. -/
def cancellationStep (env : CancellationEnvironment) (book : ReviewBook)
    (event : CancellationEvent) : Option ReviewBook :=
  match performEvent env book event with
  | .ok after => some after
  | .error _ => some book

end HotelPms.Cancellations
