import HotelPms.Cancellations.Reviews
import HotelPms.Foundation.TwoRuns

/-!
# Cancellation reviews over whole runs

A reservation has one pending review at most, a decided review stays as it is,
and a reservation is cancelled here only when nothing is owed or a review was
approved.  A pending review can be rejected while its reservation is still
cancellable; after an arrival neither decision can be taken any more.
-/

namespace HotelPms.Cancellations

open Checked KeySort Table Transition
open Hotel (ReservationStatus)

/-! ## What calls do -/

theorem transitionReservationStatus_eq_ok {row after : ReservationRow}
    {newStatus : ReservationStatus}
    (moved : transitionReservationStatus row newStatus = .ok after) :
    after = { row with status := newStatus } := by
  obtain ⟨_, -, same⟩ := bind_eq_ok.mp moved
  exact (pure_eq_ok.mp same).symm

theorem transitionReservationStatus_cancelled {row : ReservationRow}
    (cancellable : row.status ∉ noLongerCancellable) :
    transitionReservationStatus row .cancelled = .ok { row with status := .cancelled } := by
  unfold transitionReservationStatus
  rw [bind_eq_ok]
  cases status : row.status <;>
    simp_all [noLongerCancellable, ReservationStatus.validTransitions]

theorem getPendingCancellationReview_eq_none {book : ReviewBook} {reservationId : Int}
    (absent : book.getPendingCancellationReview reservationId = none) :
    book.pendingReviews reservationId = [] := by
  unfold ReviewBook.getPendingCancellationReview at absent
  rw [List.head?_eq_none_iff] at absent
  rw [List.eq_nil_iff_forall_not_mem]
  intro review member
  have sorted := (mem_sortByKey (fun row : ReservationCancellationReview => -row.id) _).mpr member
  rw [absent] at sorted
  cases sorted

/-- A call leaves the reviews, adds a pending one to a reservation without
one, or decides a pending one. -/
inductive ReviewChange (book after : ReviewBook) : Prop
  | kept (reviews : after.reviews = book.reviews)
      (next : after.nextReviewId = book.nextReviewId)
  | requested (review : ReservationCancellationReview)
      (isNext : review.id = book.nextReviewId)
      (first : book.pendingReviews review.reservationId = [])
      (reviews : after.reviews = book.reviews ++ [review])
      (next : after.nextReviewId = book.nextReviewId + 1)
  | decided (review changed : ReservationCancellationReview)
      (member : review ∈ book.reviews)
      (waiting : review.status = .pending)
      (sameId : changed.id = review.id)
      (isDecided : changed.status ≠ .pending)
      (reviews : after.reviews =
        replace ReservationCancellationReview.id changed book.reviews)
      (next : after.nextReviewId = book.nextReviewId)

inductive RequestChange (book : ReviewBook) (reservationId : Int)
    (row : ReservationRow) (preparation : Option CancellationPreparation)
    (after : ReviewBook) : Prop
  | existing (same : after = book)
  | cancelled (prepared : CancellationPreparation)
      (isPrepared : preparation = some prepared)
      (free : prepared.evaluation.decision = .cancelWithoutPenalty)
      (isAfter : after = book.saveReservation reservationId { row with status := .cancelled })
  | requested (review : ReservationCancellationReview)
      (isNext : review.id = book.nextReviewId)
      (ofReservation : review.reservationId = reservationId)
      (first : book.pendingReviews reservationId = [])
      (isAfter : after =
        { book with reviews := book.reviews ++ [review], nextReviewId := book.nextReviewId + 1 })

section

variable {env : CancellationEnvironment} {book after : ReviewBook}

theorem insertReview_eq_ok {review : ReservationCancellationReview}
    (inserted : insertReview env book review = .ok after) :
    after = { book with
      reviews := book.reviews ++ [review]
      nextReviewId := book.nextReviewId + 1 } := by
  unfold insertReview at inserted
  split at inserted
  · cases inserted
  · exact (pure_eq_ok.mp inserted).symm

variable {row : ReservationRow}

theorem requestReservationCancellation_change {reservationId userId : Int}
    {preparation : Option CancellationPreparation}
    {result : CancellationRequestResult}
    (requested : requestReservationCancellation env book reservationId row
      userId preparation = .ok (after, result)) :
    RequestChange book reservationId row preparation after := by
  obtain ⟨_, -, requested⟩ := bind_eq_ok.mp requested
  have added (prepared : CancellationPreparation) {answer : CancellationRequestResult}
      (absent : book.getPendingCancellationReview reservationId = none)
      (inserted : (insertReview env book (newReview env book reservationId row userId prepared) >>=
        fun stored => pure (stored, answer)) = .ok (after, result)) :
      RequestChange book reservationId row preparation after := by
    obtain ⟨stored, isStored, same⟩ := bind_eq_ok.mp inserted
    cases same
    exact .requested _ rfl rfl (getPendingCancellationReview_eq_none absent)
      (insertReview_eq_ok isStored)
  split at requested
  · cases requested
    exact .existing rfl
  · cases requested
  · next prepared absent isPrepared =>
    split at requested
    · next free =>
      obtain ⟨cancelled, moved, same⟩ := bind_eq_ok.mp requested
      cases same
      rw [transitionReservationStatus_eq_ok moved]
      exact .cancelled prepared rfl free rfl
    · cases requested
    · exact added prepared absent requested
    · exact added prepared absent requested

theorem cancelReservation_change {call : CancelCall} {result : CancellationRequestResult}
    (requested : cancelReservation env book call = .ok (after, result)) :
    ∃ row preparation, book.reservations call.reservationId = some row ∧
      prepareUnlessPending env book row call = .ok preparation ∧
      RequestChange book call.reservationId row preparation after := by
  unfold cancelReservation at requested
  split at requested
  · cases requested
  · next row found =>
    obtain ⟨isRow, -⟩ := Option.filter_eq_some_iff.mp found
    obtain ⟨_, -, requested⟩ := bind_eq_ok.mp requested
    obtain ⟨_, -, requested⟩ := bind_eq_ok.mp requested
    obtain ⟨preparation, prepared, requested⟩ := bind_eq_ok.mp requested
    exact ⟨row, preparation, isRow, prepared, requestReservationCancellation_change requested⟩

theorem prepareUnlessPending_eq_some {call : CancelCall} {preparation : CancellationPreparation}
    (prepared : prepareUnlessPending env book row call = .ok (some preparation)) :
    evaluateCancellationPolicy env.toPolicyEnvironment row.toBookingTerms
      call.schedule call.requestedAt = .ok preparation.evaluation := by
  unfold prepareUnlessPending at prepared
  split at prepared
  · cases prepared
  · obtain ⟨other, made, same⟩ := bind_eq_ok.mp prepared
    cases same
    obtain ⟨evaluation, evaluated, made⟩ := bind_eq_ok.mp made
    obtain ⟨_, -, same⟩ := bind_eq_ok.mp made
    cases same
    exact evaluated

theorem getReviewReservation_eq_ok {reservationId : Int} :
    getReviewReservation book reservationId = .ok row ↔
      book.reservations reservationId = some row ∧ row.deleted = false := by
  unfold getReviewReservation ReviewBook.reservation?
  cases book.reservations reservationId with
  | none => simp
  | some other =>
    cases deleted : other.deleted with
    | true =>
      simp only [Option.filter_some, deleted]
      simp only [Bool.true_eq_false, decide_false, Bool.false_eq_true,
        if_false, throw_ne_ok, Option.some.injEq, false_iff, not_and]
      rintro rfl exists'
      rw [deleted] at exists'
      cases exists'
    | false =>
      simp only [Option.filter_some, deleted, decide_true, if_true, pure_eq_ok, Option.some.injEq]
      constructor
      · rintro rfl
        exact ⟨rfl, deleted⟩
      · exact And.left

inductive DecisionChange (book : ReviewBook) (call : DecisionCall)
    (after : ReviewBook) : Prop
  | repeated (same : after = book)
  | decided (review : ReservationCancellationReview) (row : ReservationRow)
      (middle : ReviewBook)
      (found : find ReservationCancellationReview.id call.reviewId book.reviews = some review)
      (waiting : review.status = .pending)
      (reservation : book.reservations review.reservationId = some row)
      (applied : applyDecision book review row call.decision = .ok middle)
      (isAfter : after = { middle with
        reviews := replace ReservationCancellationReview.id
          (decidedReview review call) middle.reviews })

theorem resolveCancellationReview_change {call : DecisionCall}
    {result : ReservationCancellationReview}
    (resolved : resolveCancellationReview book call = .ok (after, result)) :
    DecisionChange book call after := by
  unfold resolveCancellationReview at resolved
  split at resolved
  · cases resolved
  · next review found =>
    split_ifs at resolved with repeated
    · obtain ⟨_, -, same⟩ := bind_eq_ok.mp resolved
      cases same
      exact .repeated rfl
    · obtain ⟨_, waiting, resolved⟩ := bind_eq_ok.mp resolved
      obtain ⟨row, reservation, resolved⟩ := bind_eq_ok.mp resolved
      obtain ⟨_, -, resolved⟩ := bind_eq_ok.mp resolved
      obtain ⟨middle, applied, same⟩ := bind_eq_ok.mp resolved
      obtain ⟨isAfter, -⟩ := Prod.mk.inj (pure_eq_ok.mp same)
      rw [raiseIf_eq_ok, not_not] at waiting
      exact .decided review row middle found waiting
        (getReviewReservation_eq_ok.mp reservation).1 applied isAfter.symm

theorem applyDecision_eq_ok {review : ReservationCancellationReview} {decision : ReviewDecision}
    (applied : applyDecision book review row decision = .ok after) :
    (decision = .reject ∧ after = book) ∨ (decision = .approve ∧ after = book.saveReservation
        review.reservationId { row with status := .cancelled }) := by
  cases decision with
  | reject => exact .inl ⟨rfl, (pure_eq_ok.mp applied).symm⟩
  | approve =>
    obtain ⟨cancelled, moved, same⟩ := bind_eq_ok.mp applied
    rw [transitionReservationStatus_eq_ok moved] at same
    exact .inr ⟨rfl, (pure_eq_ok.mp same).symm⟩

end

section

variable {env : CancellationEnvironment} {book after : ReviewBook}

theorem RequestChange.reviewChange {reservationId : Int}
    {row : ReservationRow} {preparation : Option CancellationPreparation}
    (change : RequestChange book reservationId row preparation after) :
    ReviewChange book after := by
  cases change with
  | existing same => exact same ▸ .kept rfl rfl
  | cancelled prepared isPrepared free isAfter =>
    exact isAfter ▸ .kept rfl rfl
  | requested review isNext ofReservation first isAfter =>
    subst isAfter
    exact .requested review isNext (ofReservation ▸ first) rfl rfl

theorem DecisionChange.reviewChange {call : DecisionCall}
    (change : DecisionChange book call after) : ReviewChange book after := by
  cases change with
  | repeated same => exact same ▸ .kept rfl rfl
  | decided review row middle found waiting reservation applied isAfter =>
    obtain ⟨member, -⟩ := find_eq_some found
    have kept : middle.reviews = book.reviews ∧ middle.nextReviewId = book.nextReviewId := by
      rcases applyDecision_eq_ok applied with ⟨-, rfl⟩ | ⟨-, rfl⟩
      · exact ⟨rfl, rfl⟩
      · exact ⟨rfl, rfl⟩
    have isDecided : (decidedReview review call).status ≠ .pending := by
      unfold decidedReview
      cases call.decision <;> simp [ReviewDecision.desiredStatus]
    subst isAfter
    exact .decided review (decidedReview review call) member waiting rfl
      isDecided (by rw [kept.1]) kept.2

theorem cancellationStep_reviewChange {event : CancellationEvent}
    (taken : cancellationStep env book event = some after) :
    ReviewChange book after := by
  unfold cancellationStep at taken
  split at taken
  · next performed =>
    cases taken
    cases event with
    | cancelReservation call =>
      obtain ⟨result, requested⟩ := map_fst_eq_ok.mp performed
      obtain ⟨row, preparation, -, -, change⟩ := cancelReservation_change requested
      exact change.reviewChange
    | resolveCancellationReview call =>
      obtain ⟨result, resolved⟩ := map_fst_eq_ok.mp performed
      exact (resolveCancellationReview_change resolved).reviewChange
    | transitionReservationStatus reservationId newStatus =>
      obtain ⟨row, -, performed⟩ := bind_eq_ok.mp performed
      obtain ⟨moved, -, same⟩ := bind_eq_ok.mp performed
      exact pure_eq_ok.mp same ▸ .kept rfl rfl
    | saveReservation reservationId row =>
      exact pure_eq_ok.mp performed ▸ .kept rfl rfl
  · cases taken
    exact .kept rfl rfl

end

/-- Reviews are numbered, and one at most is pending for a reservation. -/
structure ReviewInvariant (book : ReviewBook) : Prop where
  numbered : Numbered ReservationCancellationReview.id book.nextReviewId book.reviews
  single : ∀ reservationId, (book.pendingReviews reservationId).length ≤ 1

theorem ReviewInvariant.initial : ReviewInvariant {} where
  numbered := .nil _ _
  single := by simp [ReviewBook.pendingReviews]

section

variable {env : CancellationEnvironment} {book after : ReviewBook}

theorem pendingReviews_replace_le {changed : ReservationCancellationReview}
    (isDecided : changed.status ≠ .pending)
    (reviews : after.reviews =
      replace ReservationCancellationReview.id changed book.reviews)
    (reservationId : Int) :
    (after.pendingReviews reservationId).length ≤ (book.pendingReviews reservationId).length := by
  unfold ReviewBook.pendingReviews
  rw [reviews, ← List.countP_eq_length_filter, ← List.countP_eq_length_filter]
  unfold replace
  rw [List.countP_map]
  apply List.countP_mono_left
  intro review _ waits
  simp only [Function.comp_apply, decide_eq_true_eq] at waits ⊢
  split_ifs at waits with same
  · exact absurd waits.2 isDecided
  · exact waits

theorem ReviewInvariant.preserved (invariant : ReviewInvariant book)
    (change : ReviewChange book after) : ReviewInvariant after := by
  cases change with
  | kept reviews next =>
    constructor
    · rw [reviews, next]
      exact invariant.numbered
    · intro reservationId
      unfold ReviewBook.pendingReviews
      rw [reviews]
      exact invariant.single reservationId
  | requested review isNext first reviews next =>
    constructor
    · rw [reviews, next]
      exact invariant.numbered.append isNext
    · intro reservationId
      unfold ReviewBook.pendingReviews at first ⊢
      rw [reviews, List.filter_append]
      by_cases same : review.reservationId = reservationId
      · rw [← same, first, List.nil_append]
        exact List.length_filter_le _ [review]
      · rw [List.filter_cons_of_neg (by simp [same]), List.filter_nil, List.append_nil]
        exact invariant.single reservationId
  | decided review changed member waiting sameId isDecided reviews next =>
    constructor
    · rw [reviews, next]
      exact invariant.numbered.replace changed (sameId ▸ invariant.numbered.below review member)
    · intro reservationId
      exact (pendingReviews_replace_le isDecided reviews
        reservationId).trans (invariant.single reservationId)

theorem reviewInvariant_of_run {events : List CancellationEvent} (invariant : ReviewInvariant book)
    (ran : run (cancellationStep env) book events = some after) :
    ReviewInvariant after :=
  @run_invariant _ _ (cancellationStep env) book after (fun _ reached => ReviewInvariant reached)
    invariant
    (fun holds taken => holds.preserved (cancellationStep_reviewChange taken))
    _ ran

variable {review : ReservationCancellationReview}

theorem ReviewChange.mem_of_decided (change : ReviewChange book after)
    (invariant : ReviewInvariant book) (member : review ∈ book.reviews)
    (isDecided : review.status ≠ .pending) : review ∈ after.reviews := by
  cases change with
  | kept reviews next =>
    rw [reviews]
    exact member
  | requested added isNext first reviews next =>
    rw [reviews]
    exact List.mem_append_left _ member
  | decided waitingReview changed waitingIn waiting sameId _ reviews next =>
    rw [reviews]
    apply mem_replace_of_ne member
    intro same
    have sameReview := eq_of_key invariant.numbered.distinct member waitingIn (same.trans sameId)
    rw [sameReview] at isDecided
    exact isDecided waiting

theorem decided_of_run {events : List CancellationEvent} (invariant : ReviewInvariant book)
    (member : review ∈ book.reviews) (isDecided : review.status ≠ .pending)
    (ran : run (cancellationStep env) book events = some after) :
    review ∈ after.reviews := by
  have both : ReviewInvariant after ∧ review ∈ after.reviews :=
    @run_invariant _ _ (cancellationStep env) book after (fun _ reached =>
        ReviewInvariant reached ∧ review ∈ reached.reviews)
      ⟨invariant, member⟩
      (fun holds taken =>
        have change := cancellationStep_reviewChange taken
        ⟨holds.1.preserved change, change.mem_of_decided holds.1 holds.2 isDecided⟩)
      events ran
  exact both.2

def ReviewBook.statusOf (book : ReviewBook) (reservationId : Int) : Option ReservationStatus :=
  (book.reservations reservationId).map ReservationRow.status

/-- An event that this service handles cancels a reservation. -/
structure CancelsBy (event : CancellationEvent) (book after : ReviewBook)
    (reservationId : Int) : Prop where
  handled : event.isHandled = true
  notBefore : book.statusOf reservationId ≠ some .cancelled
  isCancelled : after.statusOf reservationId = some .cancelled

/-- A cancellation that costs nothing when it is requested. -/
def FreeRequest (env : CancellationEnvironment) (book : ReviewBook)
    (event : CancellationEvent) (reservationId : Int) : Prop :=
  ∃ call row, event = .cancelReservation call ∧ call.reservationId = reservationId ∧
    book.reservations reservationId = some row ∧
    FreeOfPenalty env.toPolicyEnvironment row.toBookingTerms call.schedule call.requestedAt

/-- A reservation has an approved review. -/
def ReviewBook.HasApproval (book : ReviewBook) (reservationId : Int) : Prop :=
  ∃ review ∈ book.reviews, review.reservationId = reservationId ∧ review.status = .approved

variable {row : ReservationRow}

variable {reservationId : Int}

theorem statusOf_saveReservation {other : Int} (differs : other ≠ reservationId) :
    (book.saveReservation other row).statusOf reservationId = book.statusOf reservationId := by
  simp [ReviewBook.statusOf, ReviewBook.saveReservation, differs.symm]

theorem freeRequest_of_cancelled {call : CancelCall} {result : CancellationRequestResult}
    (requested : cancelReservation env book call = .ok (after, result))
    (notBefore : book.statusOf reservationId ≠ some .cancelled)
    (isCancelled : after.statusOf reservationId = some .cancelled) :
    FreeRequest env book (.cancelReservation call) reservationId := by
  obtain ⟨row, preparation, isRow, prepared, change⟩ := cancelReservation_change requested
  cases change with
  | existing same =>
    rw [same] at isCancelled
    exact absurd isCancelled notBefore
  | requested review isNext ofReservation first isAfter =>
    rw [isAfter] at isCancelled
    exact absurd isCancelled notBefore
  | cancelled preparation isPrepared free isAfter =>
    rw [isPrepared] at prepared
    have evaluated := prepareUnlessPending_eq_some prepared
    by_cases same : call.reservationId = reservationId
    · exact ⟨call, row, rfl, same, same ▸ isRow, evaluateCancellationPolicy_free evaluated free⟩
    · rw [isAfter, statusOf_saveReservation same] at isCancelled
      exact absurd isCancelled notBefore

variable {call : DecisionCall}

theorem hasApproval_of_cancelled {result : ReservationCancellationReview}
    (resolved : resolveCancellationReview book call = .ok (after, result))
    (notBefore : book.statusOf reservationId ≠ some .cancelled)
    (isCancelled : after.statusOf reservationId = some .cancelled) :
    after.HasApproval reservationId := by
  cases resolveCancellationReview_change resolved with
  | repeated same =>
    rw [same] at isCancelled
    exact absurd isCancelled notBefore
  | decided review row middle found waiting reservation applied isAfter =>
    have sameStatus : after.statusOf reservationId = middle.statusOf reservationId := by
      rw [isAfter]
      rfl
    rw [sameStatus] at isCancelled
    rcases applyDecision_eq_ok applied with ⟨-, same⟩ | ⟨approve, isMiddle⟩
    · rw [same] at isCancelled
      exact absurd isCancelled notBefore
    · by_cases same : review.reservationId = reservationId
      · obtain ⟨member, -⟩ := find_eq_some found
        refine ⟨decidedReview review call, ?_, same, ?_⟩
        · have known : (decidedReview review call).id ∈
              book.reviews.map ReservationCancellationReview.id :=
            List.mem_map.mpr ⟨review, member, rfl⟩
          rw [isAfter, isMiddle]
          exact mem_replace_self known
        · unfold decidedReview
          rw [approve]
          rfl
      · rw [isMiddle, statusOf_saveReservation same] at isCancelled
        exact absurd isCancelled notBefore

theorem free_or_approved_of_cancels {event : CancellationEvent}
    (taken : cancellationStep env book event = some after)
    (cancels : CancelsBy event book after reservationId) :
    FreeRequest env book event reservationId ∨ after.HasApproval reservationId := by
  unfold cancellationStep at taken
  split at taken
  · next performed =>
    cases taken
    cases event with
    | cancelReservation call =>
      obtain ⟨result, requested⟩ := map_fst_eq_ok.mp performed
      exact .inl (freeRequest_of_cancelled requested cancels.notBefore cancels.isCancelled)
    | resolveCancellationReview call =>
      obtain ⟨result, resolved⟩ := map_fst_eq_ok.mp performed
      exact .inr (hasApproval_of_cancelled resolved cancels.notBefore cancels.isCancelled)
    | transitionReservationStatus _ _ => cases cancels.handled
    | saveReservation _ _ => cases cancels.handled
  · cases taken
    exact absurd cancels.isCancelled cancels.notBefore

section

variable (invariant : ReviewInvariant book) (member : review ∈ book.reviews)
  (waiting : review.status = .pending)
  (isRow : book.reservations review.reservationId = some row)
  (isThere : row.deleted = false)
include invariant member waiting isRow isThere

theorem resolveCancellationReview_ok (cancellable : row.status ∉ noLongerCancellable)
    (ofReview : call.reviewId = review.id) :
    ∃ middle, applyDecision book review row call.decision = .ok middle ∧
      resolveCancellationReview book call = .ok ({ middle with
            reviews := replace ReservationCancellationReview.id
              (decidedReview review call) middle.reviews },
          decidedReview review call) := by
  have found : find ReservationCancellationReview.id call.reviewId book.reviews = some review := by
    rw [ofReview]
    exact find_of_mem invariant.numbered.distinct member
  have undecided : review.status ≠ call.decision.desiredStatus := by
    rw [waiting]
    cases call.decision <;> simp [ReviewDecision.desiredStatus]
  have reservation := getReviewReservation_eq_ok.mpr ⟨isRow, isThere⟩
  have applied : ∃ middle, applyDecision book review row call.decision = .ok middle := by
    cases call.decision with
    | reject => exact ⟨book, rfl⟩
    | approve =>
      refine ⟨book.saveReservation review.reservationId { row with status := .cancelled }, ?_⟩
      unfold applyDecision
      rw [transitionReservationStatus_cancelled cancellable]
      rfl
  obtain ⟨middle, applied⟩ := applied
  refine ⟨middle, applied, ?_⟩
  unfold resolveCancellationReview
  simp only [found]
  rw [if_neg undecided, bind_eq_ok]
  refine ⟨(), raiseIf_eq_ok.mpr (not_not.mpr waiting), ?_⟩
  rw [reservation, bind_eq_ok]
  refine ⟨row, rfl, ?_⟩
  rw [bind_eq_ok]
  refine ⟨(), raiseIf_eq_ok.mpr cancellable, ?_⟩
  rw [applied, bind_eq_ok]
  exact ⟨middle, rfl, rfl⟩

theorem resolveCancellationReview_blocked (blocked : row.status ∈ noLongerCancellable)
    (ofReview : call.reviewId = review.id) :
    resolveCancellationReview book call = .error "reservation_no_longer_cancellable" := by
  have found : find ReservationCancellationReview.id call.reviewId book.reviews = some review := by
    rw [ofReview]
    exact find_of_mem invariant.numbered.distinct member
  have undecided : review.status ≠ call.decision.desiredStatus := by
    rw [waiting]
    cases call.decision <;> simp [ReviewDecision.desiredStatus]
  have reservation := getReviewReservation_eq_ok.mpr ⟨isRow, isThere⟩
  unfold resolveCancellationReview
  simp only [found]
  rw [if_neg undecided, reservation]
  have passed : raiseIf (review.status ≠ .pending)
      "cancellation_review_already_resolved" = .ok () :=
    raiseIf_eq_ok.mpr (not_not.mpr waiting)
  have raised : raiseIf (row.status ∈ noLongerCancellable) "reservation_no_longer_cancellable" =
        .error "reservation_no_longer_cancellable" := if_pos blocked
  rw [passed]
  simp only [bind, Except.bind, raised]

/-- A decision is taken and stored. -/
def Decides (book : ReviewBook) (call : DecisionCall) : Prop :=
  ∃ after review, resolveCancellationReview book call = .ok (after, review) ∧
    review ∈ after.reviews ∧ review.id = call.reviewId ∧
    review.status = call.decision.desiredStatus

/-- Statuses in which a pending review is decided. -/
def cancellableStatuses : List ReservationStatus :=
  [.pending, .depositPaid, .fullyPaid, .preCheckIn]

omit invariant member waiting isRow isThere in
theorem mem_cancellableStatuses {status : ReservationStatus} :
    status ∈ cancellableStatuses ↔ status ∉ noLongerCancellable := by
  cases status <;> simp [cancellableStatuses, noLongerCancellable]

theorem decides_iff (ofReview : call.reviewId = review.id) :
    Decides book call ↔ row.status ∈ cancellableStatuses := by
  rw [mem_cancellableStatuses]
  constructor
  · rintro ⟨after, decided, resolved, -⟩ blocked
    rw [resolveCancellationReview_blocked invariant member waiting isRow
      isThere blocked ofReview] at resolved
    cases resolved
  · intro cancellable
    obtain ⟨middle, applied, resolved⟩ := resolveCancellationReview_ok
      invariant member waiting isRow isThere cancellable ofReview
    have known : (decidedReview review call).id ∈
        middle.reviews.map ReservationCancellationReview.id := by
      apply List.mem_map.mpr
      rcases applyDecision_eq_ok applied with ⟨-, rfl⟩ | ⟨-, rfl⟩
      · exact ⟨review, member, rfl⟩
      · exact ⟨review, member, rfl⟩
    exact ⟨_, _, resolved, mem_replace_self known, ofReview.symm, rfl⟩

end

end

/-- After any requests, decisions, transitions and other writes: a reservation
has one pending review at most; a decided review never changes; a reservation
is cancelled by these functions only inside its free window, without a
penalty, or with an approved review that it keeps; and a pending review of an
existing reservation is decided either way exactly while the reservation is
pending, has its deposit or its total paid, or is pre-checked in. -/
theorem cancellationReviews_decidable (env : CancellationEnvironment)
    {events : List CancellationEvent} {book : ReviewBook}
    (ran : run (cancellationStep env) {} events = some book) :
    (∀ reservationId, (book.pendingReviews reservationId).length ≤ 1) ∧
      (∀ review ∈ book.reviews, review.status ≠ .pending ->
        ∀ more after, run (cancellationStep env) book more = some after -> review ∈ after.reviews) ∧
      (∀ event middle reservationId, cancellationStep env book event = some middle ->
        CancelsBy event book middle reservationId -> FreeRequest env book event reservationId ∨
            ∀ more after, run (cancellationStep env) middle more = some after ->
                after.HasApproval reservationId) ∧
      (∀ review ∈ book.reviews, review.status = .pending ->
        ∀ row, book.reservations review.reservationId = some row ->
          row.deleted = false -> ∀ call, call.reviewId = review.id ->
            (Decides book call ↔ row.status ∈ cancellableStatuses)) := by
  have invariant := reviewInvariant_of_run .initial ran
  refine ⟨invariant.single, ?_, ?_, ?_⟩
  · intro review member isDecided more after later
    exact decided_of_run invariant member isDecided later
  · intro event middle reservationId taken cancels
    apply (free_or_approved_of_cancels taken cancels).imp_right
    rintro ⟨review, member, ofReservation, approved⟩ more after later
    have invariantAfter := invariant.preserved (cancellationStep_reviewChange taken)
    exact ⟨review, decided_of_run invariantAfter member (by simp [approved])
      later, ofReservation, approved⟩
  · intro review member waiting row isRow isThere call ofReview
    exact decides_iff invariant member waiting isRow isThere ofReview

/-- A booking without saved terms. -/
def unsavedTerms : ReservationRow where
  checkInDate := 740000
  totalAmount := some 50000
  currencyCode := some "ARS"
  cancellationPolicySnapshot := none

/-- Texts without blanks, in capitals; nothing else is read. -/
def plainEnvironment : CancellationEnvironment where
  strip := id
  lower := String.toLower
  upper := String.toUpper
  str := fun _ => ""
  int := fun _ => none
  decimal := fun _ => .invalid
  zoneInfo := fun _ => .ok none
  refuses := fun _ => none

/-- The guest asks for a cancellation. -/
def requestEvents : List CancellationEvent :=
  [.saveReservation 1 unsavedTerms, .cancelReservation
      { reservationId := 1, userId := 7, schedule := {}, requestedAt := 0 }]

def firstRejection : DecisionCall where
  reviewId := 1
  userId := 8
  decision := .reject
  reason := "arrived"
  reviewedAt := 1

/-- Numbers and statuses of the reviews, and the first reservation. -/
def ReviewBook.summary (book : ReviewBook) :
    List (Int × Int × ReviewStatus) × Option (ReservationStatus × Bool) :=
  (book.reviews.map fun review => (review.id, review.reservationId, review.status),
    (book.reservations 1).map fun row => (row.status, row.deleted))

theorem exists_pending_of_summary {book : ReviewBook} {status : ReservationStatus}
    (summary : book.summary = ([(1, 1, .pending)], some (status, false))) :
    ∃ review ∈ book.reviews, ∃ row, review.id = 1 ∧ review.status = .pending ∧
      book.reservations review.reservationId = some row ∧
      row.status = status ∧ row.deleted = false := by
  obtain ⟨reviews, reservation⟩ := Prod.mk.inj summary
  obtain ⟨row, isRow, sameRow⟩ := Option.map_eq_some_iff.mp reservation
  obtain ⟨sameStatus, isThere⟩ := Prod.mk.inj sameRow
  have listed : ((1 : Int), (1 : Int), ReviewStatus.pending) ∈ book.reviews.map fun review =>
        (review.id, review.reservationId, review.status) := by
    rw [reviews]
    exact List.mem_singleton_self _
  obtain ⟨review, member, same⟩ := List.mem_map.mp listed
  simp only [Prod.mk.injEq] at same
  obtain ⟨isFirst, ofFirst, waiting⟩ := same
  exact ⟨review, member, row, isFirst, waiting, ofFirst ▸ isRow, sameStatus, isThere⟩

/-- The review that a request left can be rejected. -/
theorem cancellationReviews_decidable_request :
    ∃ book, run (cancellationStep plainEnvironment) {} requestEvents =
        some book ∧ Decides book firstRejection := by
  have results : (run (cancellationStep plainEnvironment) {} requestEvents).map
        ReviewBook.summary = some ([(1, 1, .pending)], some (.pending, false)) := by
    decide +kernel
  obtain ⟨book, ran, summary⟩ := Option.map_eq_some_iff.mp results
  obtain ⟨review, member, row, isFirst, waiting, isRow, status, isThere⟩ :=
    exists_pending_of_summary summary
  have decides := (cancellationReviews_decidable plainEnvironment ran).2.2.2
    review member waiting row isRow isThere firstRejection isFirst.symm
  exact ⟨book, ran, decides.mpr (by simp [status, cancellableStatuses])⟩

/-- A guest who asked for a cancellation and then arrived leaves a pending
review that is not rejected any more. -/
theorem pendingReview_not_rejected_after_arrival : ¬∀ (env : CancellationEnvironment) events book,
      run (cancellationStep env) {} events = some book ->
        ∀ review ∈ book.reviews, review.status = .pending ->
          ∀ row, book.reservations review.reservationId = some row -> row.deleted = false ->
              ∃ call, call.reviewId = review.id ∧ call.decision = .reject ∧ Decides book call := by
  intro always
  have results : (run (cancellationStep plainEnvironment) {} (requestEvents ++
        [.transitionReservationStatus 1 .checkedIn])).map
          ReviewBook.summary = some ([(1, 1, .pending)], some (.checkedIn, false)) := by
    decide +kernel
  obtain ⟨book, ran, summary⟩ := Option.map_eq_some_iff.mp results
  obtain ⟨review, member, row, isFirst, waiting, isRow, status, isThere⟩ :=
    exists_pending_of_summary summary
  obtain ⟨call, ofReview, -, decides⟩ := always _ _ _ ran review member waiting row isRow isThere
  have cancellable := (decides_iff (reviewInvariant_of_run .initial ran)
    member waiting isRow isThere ofReview).mp decides
  rw [status] at cancellable
  simp [cancellableStatuses] at cancellable

end HotelPms.Cancellations
