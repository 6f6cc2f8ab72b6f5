import HotelPms.Actions.BulkReads

/-!
# What the list of pending actions misses

The list shows of a reservation what its summary shows, unless the selecting
query leaves the reservation out while the rules find something for it.  That
happens for the kept payments of a cancelled direct booking whose lodging was
marked as settled outside without a company, and for a payment difference the
query computes otherwise.
-/

namespace HotelPms.Actions

open Hotel Payments Checked GroupSum KeySort ActionDatabase

theorem keepCandidate_ne_nil (kept : List ActionCandidate) (candidate : ActionCandidate) :
    keepCandidate kept candidate ≠ [] := by
  unfold keepCandidate
  split
  · simp
  · rename_i existing found
    have nonempty := List.ne_nil_of_mem (List.mem_of_find?_eq_some found)
    split_ifs
    · simpa using nonempty
    · exact nonempty

theorem foldl_keepCandidate_eq_nil (candidates kept : List ActionCandidate) :
    candidates.foldl keepCandidate kept = [] ↔ kept = [] ∧ candidates = [] := by
  induction candidates generalizing kept with
  | nil => simp
  | cons candidate candidates ih =>
    rw [List.foldl_cons, ih]
    constructor
    · rintro ⟨none, -⟩
      exact absurd none (keepCandidate_ne_nil kept candidate)
    · rintro ⟨-, none⟩
      cases none

theorem buildPendingActions_eq_nil (formatDate : Int -> String) (reservation : ActionReservation)
    (guest : Option Guest) (otaLink : Option OtaReservationLink)
    (adjustments : List ReservationAdjustment)
    (financial : ActionFinancials) (today : Int) :
    buildPendingActions formatDate reservation guest otaLink adjustments financial today = [] ↔
      actionCandidates formatDate reservation
        (guestDisplayName guest reservation) financial otaLink adjustments
        today = [] := by
  unfold buildPendingActions dedupeCandidates
  rw [List.map_eq_nil_iff, foldl_keepCandidate_eq_nil]
  exact and_iff_right rfl

section Rules

variable (formatDate : Int -> String) (reservation : ActionReservation)
  (guestName : String) (financial : ActionFinancials)

def RecommendsAction : Prop :=
  financial.recommendedNextAction = some .resolveExternalChannel ∨
    financial.recommendedNextAction = some .awaitChannelSettlement ∨
    financial.recommendedNextAction = some .reviewCancellationSettlement ∨
    (financial.recommendedNextAction = some .collectFromGuest ∧ reservation.status ≠ .cancelled)

theorem recommendedCandidates_eq_nil (otaLink : Option OtaReservationLink) :
    recommendedCandidates formatDate reservation guestName financial
        otaLink = [] ↔ ¬RecommendsAction reservation financial := by
  unfold recommendedCandidates RecommendsAction
  split <;> simp_all

theorem linkCandidates_eq_nil (otaLink : Option OtaReservationLink) :
    linkCandidates formatDate reservation guestName otaLink = [] ↔
      ¬∃ link ∈ otaLink, link.providerState = .manualResolutionRequired := by
  unfold linkCandidates
  cases otaLink with
  | none => simp
  | some link => simp

/-- A rule finds something. -/
theorem actionCandidates_eq_nil (otaLink : Option OtaReservationLink)
    (adjustments : List ReservationAdjustment) (today : Int) :
    actionCandidates formatDate reservation guestName financial otaLink adjustments today = [] ↔
      ¬(reservation.requiresManualReview = true ∨ IsOverdue reservation today ∨
        (IsActive reservation ∧ (reservation.roomId = none ∨
          reservation.allocationStatus ∈ problemAllocationStatuses)) ∨
        RecommendsAction reservation financial ∨
        RefundDue reservation financial ∨
        financial.hasFinancialReconciliationGap = true ∨
        (∃ link ∈ otaLink, link.providerState = .manualResolutionRequired) ∨
        ∃ row ∈ adjustments, MayAct row) := by
  unfold actionCandidates
  simp only [List.append_eq_nil_iff, recommendedCandidates_eq_nil, linkCandidates_eq_nil,
    List.flatMap_eq_nil_iff, adjustmentCandidates_eq_nil]
  unfold reviewCandidates overdueCandidates roomCandidates
    allocationCandidates refundCandidates gapCandidates
  have noneActs : (∀ row ∈ adjustments, ¬MayAct row) ↔ ¬∃ row ∈ adjustments, MayAct row := by
    simp only [not_exists, not_and]
  rw [noneActs]
  simp only [ite_eq_right_iff, reduceCtorEq, imp_false, ← not_or, and_or_left, or_assoc]

end Rules

namespace ActionDatabase

variable (db : ActionDatabase) (hotelId : Int) (upper : String -> String)
  (today : Int) (reservation : ActionReservation)

/-- Kept payments of a direct booking marked as settled outside although it
has no company to bill. -/
def SettledRefund : Prop :=
  reservation.status ∈ refundReviewStatuses ∧
    reservation.source = .direct ∧ reservation.isOta = false ∧
    reservation.companyId = none ∧
    reservation.settlementStatus ∈ ["deferred", "settled"] ∧
    0 < db.paidAmount hotelId reservation

/-- A payment difference of a lodging collected here that is no refund. -/
def PaymentDifference : Prop :=
  ¬db.BilledOutside hotelId reservation ∧ db.ReconciliationGap hotelId reservation ∧
    ¬db.sqlRefundReview hotelId reservation

/-- The rules find something for a reservation that the query leaves out. -/
def MissedAction : Prop :=
  ¬db.hasPlainReason hotelId today reservation ∧
    ¬db.sqlReconciliationGap hotelId upper reservation ∧
    (db.SettledRefund hotelId reservation ∨ db.PaymentDifference hotelId reservation)

/-- The list shows of a reservation exactly what its summary shows. -/
def ListsItsActions (formatDate : Int -> String) (limit : Nat) (reservationId : Int) : Prop :=
  ∃ actions summary,
    db.listPendingReservationActions hotelId upper today formatDate limit = .ok actions ∧
      db.getReservationOperationsSummary hotelId formatDate today reservationId = .ok summary ∧
      (actions.filter fun action =>
        action.reservationId = reservationId).Perm summary.pendingActions

variable {db hotelId upper today reservation}

theorem signedCompletedAmount_eq (id : Int) :
    db.signedCompletedAmount hotelId id = (db.ledger hotelId).completedPaidAmount id := by
  unfold signedCompletedAmount Ledger.completedPaidAmount Ledger.forReservation
  rw [List.filter_filter]
  congr 2
  refine List.filter_congr fun row _ => ?_
  rw [Bool.decide_and, Bool.and_comm]

theorem isOta_eq_false_iff :
    reservation.isOta = false ↔ reservation.sourceProviderCode.getD "" = "" ∧
        reservation.externalId.getD "" = "" := by
  unfold ReservationFinancials.isOta textGiven
  cases reservation.sourceProviderCode <;> cases reservation.externalId <;>
    simp

theorem paid_of_paidAmount_pos (direct : reservation.isOta = false)
    (paid : 0 < db.paidAmount hotelId reservation) :
    0 < reservation.amountPaid ∨ 0 < db.signedCompletedAmount hotelId reservation.id := by
  rw [signedCompletedAmount_eq]
  unfold paidAmount ReservationFinancials.paidAmountWithLegacyFallback at paid
  rw [direct, if_neg Bool.false_ne_true] at paid
  split_ifs at paid
  · exact .inl paid
  · exact .inr paid

theorem reconciliationGap_of_balanceDue (covered : reservation.totalAmount ≤ reservation.amountPaid)
    (unadjusted : ¬db.hasBillingAdjustment hotelId reservation.id)
    (due : 1 < db.balanceDue hotelId reservation) :
    db.ReconciliationGap hotelId reservation := by
  have noAdjustment : reservation.adjustmentTotal (ofHotel hotelId db.adjustments) = 0 := by
    unfold ReservationFinancials.adjustmentTotal
    have none : (ofHotel hotelId db.adjustments).filter (fun row =>
        row.reservationId = reservation.id) = [] := by
      rw [List.filter_eq_nil_iff]
      intro row member same
      exact unadjusted ⟨row, member, of_decide_eq_true same⟩
    rw [none, List.map_nil, List.sum_nil]
  have unpaid : 1 < reservation.amountPaid - db.paidAmount hotelId reservation := by
    unfold balanceDue ReservationFinancials.operationalBalanceDue at due
    omega
  -- a stored amount that is not counted has evidence of its own
  have evidenced : db.paidAmount hotelId reservation = db.evidencedPaid hotelId reservation := by
    unfold evidencedPaid
    unfold paidAmount ReservationFinancials.paidAmountWithLegacyFallback at unpaid ⊢
    split_ifs at unpaid ⊢
    · rfl
    · omega
    · exact (add_zero _).symm
  unfold ReconciliationGap
  rw [← evidenced]
  exact unpaid.trans_le (le_abs_self _)

variable {formatDate : Int -> String}

theorem reconciliationGap_of_recommendsAction
    (unlisted : ¬db.hasPlainReason hotelId today reservation)
    (recommends : RecommendsAction reservation (db.actionFinancials hotelId reservation)) :
    (db.actionFinancials hotelId reservation).hasFinancialReconciliationGap = true := by
  unfold hasPlainReason at unlisted
  simp only [not_or] at unlisted
  obtain ⟨noReview, -, -, noCancellation, noSettlement, noAwait, noCollection, -, -⟩ := unlisted
  have noChannel : reservation.settlementStatus ∉
      pendingAdjustmentExternalStatuses := by
    intro pending
    refine noSettlement ?_
    simp only [pendingAdjustmentExternalStatuses, problemSettlementStatuses,
      List.mem_cons, List.not_mem_nil, or_false] at pending ⊢
    tauto
  unfold actionFinancials at recommends ⊢
  by_cases outside : db.BilledOutside hotelId reservation
  · rw [if_pos outside] at recommends
    simp [RecommendsAction] at recommends
  · rw [if_neg outside] at recommends ⊢
    unfold RecommendsAction withoutCancelledCollection recommendedFinancialAction at recommends
    simp only [if_neg noReview, if_neg noCancellation, if_neg noChannel,
      if_neg noAwait] at recommends
    -- what remains is a collection
    by_cases collects : 1 < (db.balanceDue hotelId reservation : ℚ) ∧
        reservation.paymentCollectionModel = "hotel_collect"
    · by_cases cancelled : reservation.status = .cancelled
      · simp [cancelled] at recommends
      · have due : 1 < db.balanceDue hotelId reservation := by
          exact_mod_cast collects.1
        refine decide_eq_true (reconciliationGap_of_balanceDue ?_ ?_ due)
        · by_contra uncovered
          exact noCollection ⟨cancelled, collects.2, .inl (not_le.mp uncovered)⟩
        · intro adjusted
          exact noCollection ⟨cancelled, collects.2, .inr adjusted⟩
    · simp [if_neg collects] at recommends

theorem ownActions_eq_nil_iff (unlisted : ¬db.hasPlainReason hotelId today reservation) :
    db.ownActions hotelId formatDate today reservation = [] ↔
      ¬(RefundDue reservation (db.actionFinancials hotelId reservation) ∨
        (db.actionFinancials hotelId reservation).hasFinancialReconciliationGap = true) := by
  unfold ownActions
  rw [buildPendingActions_eq_nil, actionCandidates_eq_nil, not_iff_not]
  constructor
  · have recommended :=
      @reconciliationGap_of_recommendsAction db hotelId today reservation unlisted
    unfold hasPlainReason at unlisted
    simp only [not_or] at unlisted
    obtain ⟨noReview, notOverdue, noRoom, -, -, -, -, noLink, noAdjustment⟩ := unlisted
    rintro (review | overdue | room | recommends | refund | gap |
      ⟨link, latest, manual⟩ | ⟨row, isRelated, acts⟩)
    · exact absurd review noReview
    · exact absurd overdue notOverdue
    · exact absurd room noRoom
    · exact .inr (recommended recommends)
    · exact .inl refund
    · exact .inr gap
    · have linked := mem_otaLinksOf.mp (List.mem_of_mem_head? latest)
      exact absurd ⟨link, linked.1, linked.2, manual⟩ noLink
    · obtain ⟨stored, isRelated⟩ := mem_relatedAdjustments.mp isRelated
      refine absurd ⟨row, stored, isRelated, ?_⟩ noAdjustment
      rcases acts with pending | ⟨status, isStatus, waits⟩
      · exact .inl pending
      · refine .inr ⟨status, isStatus, ?_⟩
        simp only [pendingAdjustmentExternalStatuses, problemSettlementStatuses, List.mem_cons,
          List.not_mem_nil, or_false] at waits ⊢
        tauto
  · rintro (refund | gap)
    · exact .inr (.inr (.inr (.inr (.inl refund))))
    · exact .inr (.inr (.inr (.inr (.inr (.inl gap)))))

theorem refundDue_iff : RefundDue reservation (db.actionFinancials hotelId reservation) ↔
      reservation.status ∈ refundReviewStatuses ∧
        reservation.source = .direct ∧ reservation.isOta = false ∧
        ¬db.BilledOutside hotelId reservation ∧
        0 < db.paidAmount hotelId reservation := by
  unfold RefundDue actionFinancials
  by_cases outside : db.BilledOutside hotelId reservation
  · simp [outside]
  · simp [outside]

theorem hasFinancialReconciliationGap_iff :
    (db.actionFinancials hotelId reservation).hasFinancialReconciliationGap = true ↔
      ¬db.BilledOutside hotelId reservation ∧ db.ReconciliationGap hotelId reservation := by
  unfold actionFinancials
  by_cases outside : db.BilledOutside hotelId reservation
  · simp [outside]
  · simp [outside]

/-- A direct booking with kept payments escapes the refund rule of the query
when it is marked as settled outside. -/
theorem settledRefund_iff : db.SettledRefund hotelId reservation ↔
      RefundDue reservation (db.actionFinancials hotelId reservation) ∧
        ¬db.sqlRefundReview hotelId reservation := by
  rw [refundDue_iff]
  constructor
  · rintro ⟨review, isDirect, notOta, noCompany, settled, paid⟩
    refine ⟨⟨review, isDirect, notOta, (·.1 noCompany), paid⟩, ?_⟩
    rintro ⟨-, -, -, -, unsettled, -⟩
    exact unsettled settled
  · rintro ⟨⟨review, isDirect, notOta, collected, paid⟩, unlisted⟩
    have settled : reservation.settlementStatus ∈ ["deferred", "settled"] := by
      by_contra unsettled
      obtain ⟨noProvider, noExternal⟩ := isOta_eq_false_iff.mp notOta
      refine unlisted ⟨review, isDirect, noProvider, noExternal, unsettled,
        ?_, paid_of_paidAmount_pos notOta paid⟩
      intro deferred
      refine collected ⟨?_, .inr deferred⟩
      obtain ⟨company, -, same, -⟩ := deferred
      rw [same]
      exact Option.some_ne_none _
    refine ⟨review, isDirect, notOta, ?_, settled, paid⟩
    by_contra hasCompany
    refine collected ⟨hasCompany, .inl ?_⟩
    simp only [List.mem_cons, List.not_mem_nil, or_false] at settled
    rcases settled with same | same
    · rw [same]
      decide +kernel
    · rw [same]
      decide +kernel

theorem missedAction_iff (formatDate : Int -> String) :
    db.MissedAction hotelId upper today reservation ↔
      ¬db.hasOperationalAction hotelId upper today reservation ∧
        db.ownActions hotelId formatDate today reservation ≠ [] := by
  unfold MissedAction hasOperationalAction
  by_cases plain : db.hasPlainReason hotelId today reservation
  · simp [plain]
  · rw [settledRefund_iff, Ne, ownActions_eq_nil_iff plain, not_not,
      hasFinancialReconciliationGap_iff]
    unfold PaymentDifference
    tauto

/-- Reservations that may have an action, by arrival. -/
def candidateReservations (db : ActionDatabase) (hotelId : Int)
    (upper : String -> String) (today : Int) : List ActionReservation :=
  sortByKey (·.checkInDate) (sortByKey (·.id) ((db.actionReservations hotelId).filter fun row =>
      InActionWindow today row ∧ db.hasOperationalAction hotelId upper today row))

theorem mem_candidateReservations : reservation ∈ db.candidateReservations hotelId upper today ↔
      reservation ∈ db.actionReservations hotelId ∧ InActionWindow today reservation ∧
        db.hasOperationalAction hotelId upper today reservation := by
  unfold candidateReservations
  rw [mem_sortByKey, mem_sortByKey, List.mem_filter, decide_eq_true_eq]

theorem rankActions_perm (actions : List PendingAction) : (rankActions actions).Perm actions :=
  (sortByKey_perm _ _).trans ((sortByKey_perm _ _).trans
    ((sortByKey_perm _ _).trans (sortByKey_perm _ _)))

theorem listPendingReservationActions_eq_ok {limit : Nat}
    (ample : ∀ actions, db.candidateActions hotelId today formatDate
        (db.candidateReservationIds hotelId upper today) = .ok actions ->
      actions.length ≤ limit) :
    db.listPendingReservationActions hotelId upper today formatDate limit =
      .ok (rankActions ((db.candidateReservations hotelId upper
        today).flatMap (db.ownActions hotelId formatDate today))) := by
  have computed : db.candidateActions hotelId today formatDate
      (db.candidateReservationIds hotelId upper today) =
        .ok ((db.candidateReservations hotelId upper today).flatMap
          (db.ownActions hotelId formatDate today)) := by
    exact candidateActions_eq_ok fun row member => (mem_candidateReservations.mp member).1
  have fits := ample _ computed
  rw [← (rankActions_perm _).length_eq] at fits
  unfold listPendingReservationActions
  by_cases none : db.candidateReservationIds hotelId upper today = []
  · have empty : db.candidateReservations hotelId upper today = [] :=
      List.map_eq_nil_iff.mp none
    rw [if_pos none, empty]
    rfl
  · rw [if_neg none, computed]
    exact congrArg Except.ok (List.take_of_length_le fits)

/-- Of each reservation the list shows what the rules find, if the query
selects it. -/
theorem filter_candidateActions (member : reservation ∈ db.actionReservations hotelId) :
    ((db.candidateReservations hotelId upper today).flatMap
        (db.ownActions hotelId formatDate today)).filter (·.reservationId = reservation.id) =
      if InActionWindow today reservation ∧
          db.hasOperationalAction hotelId upper today reservation then
        db.ownActions hotelId formatDate today reservation else [] := by
  have tagged : ∀ row, ∀ action ∈ db.ownActions hotelId formatDate today row,
      action.reservationId = row.id := by
    intro row action listed
    obtain ⟨candidate, -, rfl⟩ := List.mem_map.mp listed
    rfl
  rw [filter_flatMap_key (fun row : ActionReservation => row.id) PendingAction.reservationId tagged]
  split_ifs with selected
  · have distinct : ((db.candidateReservations hotelId upper today).map (·.id)).Nodup :=
      nodup_map_sortByKey _ _ (nodup_map_sortByKey _ _
        (actionReservations_distinct.sublist (List.filter_sublist.map _)))
    rw [Table.filter_key distinct (mem_candidateReservations.mpr ⟨member, selected⟩)]
    exact List.append_nil _
  · have none : (db.candidateReservations hotelId upper today).filter
        (·.id = reservation.id) = [] := by
      rw [List.filter_eq_nil_iff]
      intro row listed same
      obtain ⟨rowIn, chosen⟩ := mem_candidateReservations.mp listed
      have same := Table.eq_of_key actionReservations_distinct rowIn member (of_decide_eq_true same)
      exact selected (same ▸ chosen)
    rw [none]
    rfl

theorem listsItsActions_iff_selected {limit : Nat}
    (member : reservation ∈ db.actionReservations hotelId)
    (inWindow : InActionWindow today reservation)
    (ample : ∀ actions, db.candidateActions hotelId today formatDate
        (db.candidateReservationIds hotelId upper today) = .ok actions ->
      actions.length ≤ limit) :
    db.ListsItsActions hotelId upper today formatDate limit reservation.id ↔
      db.hasOperationalAction hotelId upper today reservation ∨
        db.ownActions hotelId formatDate today reservation = [] := by
  obtain ⟨summary, summarized, shown⟩ :=
    @getReservationOperationsSummary_eq_ok db hotelId formatDate today reservation member
  have listed := listPendingReservationActions_eq_ok ample
  have ownPart := (rankActions_perm ((db.candidateReservations hotelId upper today).flatMap
      (db.ownActions hotelId formatDate today))).filter (·.reservationId = reservation.id)
  rw [filter_candidateActions member] at ownPart
  have shownPart : db.ListsItsActions hotelId upper today formatDate limit reservation.id ↔
        (if InActionWindow today reservation ∧
            db.hasOperationalAction hotelId upper today reservation then
          db.ownActions hotelId formatDate today reservation
        else []).Perm (db.ownActions hotelId formatDate today reservation) := by
    unfold ListsItsActions
    rw [listed, summarized]
    constructor
    · rintro ⟨actions, summary', same, sameSummary, perm⟩
      cases same
      cases sameSummary
      exact ownPart.symm.trans (shown ▸ perm)
    · intro perm
      exact ⟨_, summary, rfl, rfl, ownPart.trans (shown ▸ perm)⟩
  rw [shownPart]
  by_cases selected : db.hasOperationalAction hotelId upper today reservation
  · rw [if_pos ⟨inWindow, selected⟩]
    simp [selected]
  · simp [selected]

/-- The list of a hotel shows of a reservation exactly the actions its summary
shows, unless the query misses them. -/
theorem listsItsActions_iff {limit : Nat} (member : reservation ∈ db.actionReservations hotelId)
    (inWindow : InActionWindow today reservation)
    (ample : ∀ actions, db.candidateActions hotelId today formatDate
        (db.candidateReservationIds hotelId upper today) = .ok actions ->
      actions.length ≤ limit) :
    db.ListsItsActions hotelId upper today formatDate limit reservation.id ↔
      ¬db.MissedAction hotelId upper today reservation := by
  rw [listsItsActions_iff_selected member inWindow ample,
    missedAction_iff formatDate, not_and_or, not_not, not_not]

theorem depositPaid : (0 : Int) ≤ 3500 := by decide

/-- Cancelled direct booking with a deposit of 35.00, marked as settled. -/
def cancelledStay : StoredReservation where
  id := 10
  hotelId := 1
  guestId := 4
  checkInDate := 20
  checkOutDate := 22
  totalAmount := 9000
  amountPaid := 3500
  paidNonneg := depositPaid
  status := .cancelled
  settlementStatus := "settled"

/-- Stay in the house after its last day. -/
def overdueStay : StoredReservation where
  id := 11
  hotelId := 1
  roomId := some 7
  guestId := 4
  checkInDate := 15
  checkOutDate := 17
  totalAmount := 0
  status := .checkedIn

theorem keptDeposit_distinctReservations : ([cancelledStay, overdueStay].map (·.id)).Nodup := by
  decide

/-- The deposit of the cancelled booking. -/
def keptDepositRows : List (Scoped Transaction) :=
  [⟨1, Database.cardRow 1 10 3500 .deposit⟩]

theorem keptDeposit_distinctTransactions : (keptDepositRows.map (·.row.id)).Nodup := by
  decide

theorem keptDeposit_hotelsPositive : ∀ row ∈ [cancelledStay, overdueStay], 0 < row.hotelId := by
  decide

theorem keptDeposit_guestStored : ∀ row ∈ [cancelledStay, overdueStay],
      ∃ entry ∈ ([⟨1, ⟨4, "Ana", "Paz"⟩⟩] : List (Scoped Guest)),
        entry.hotelId = row.hotelId ∧ entry.row.id = row.guestId := by
  decide

theorem keptDeposit_transactionReservation :
    ∀ entry ∈ keptDepositRows, ∃ row ∈ [cancelledStay, overdueStay],
      row.hotelId = entry.hotelId ∧ row.id = entry.row.reservationId := by
  decide

theorem keptDeposit_idsBelow : ∀ entry ∈ keptDepositRows, entry.row.id < 2 := by
  decide

theorem keptDeposit_sourcesBelow : ∀ entry ∈ keptDepositRows, ∀ source,
      entry.row.refundOfTransactionId = some source -> source < 2 := by
  simp [keptDepositRows, Database.cardRow]

theorem keptDeposit_allocationsBelow :
    ∀ entry ∈ ([] : List (Scoped NightAllocation)), entry.row.transactionId < 2 := by
  simp

/-- A hotel with the cancelled booking and the overdue stay. -/
def keptDeposit : ActionDatabase where
  reservations := [cancelledStay, overdueStay]
  transactions := keptDepositRows
  guests := [⟨1, ⟨4, "Ana", "Paz"⟩⟩]
  actionColumns := fun _ => { allocationStatus := "assigned" }
  nextTransactionId := 2
  distinctReservations := keptDeposit_distinctReservations
  hotelsPositive := keptDeposit_hotelsPositive
  guestStored := keptDeposit_guestStored
  transactionReservation := keptDeposit_transactionReservation
  distinctTransactions := keptDeposit_distinctTransactions
  distinctCharges := Database.noCharges_distinct
  idsBelow := keptDeposit_idsBelow
  sourcesBelow := keptDeposit_sourcesBelow
  allocationsBelow := keptDeposit_allocationsBelow
  allocationAmounts := Database.twoHotels.allocationAmounts
  chargeAmounts := Database.twoHotels.chargeAmounts
  allocationRows := Database.twoHotels.allocationRows
  chargeRows := Database.twoHotels.chargeRows

/-- The days of both stays as they are shown. -/
def stayDayText (day : Int) : String :=
  (if day < 10 then "0" else "") ++ toString day ++ "/03/2026"

theorem keptDeposit_ample : ∀ actions, keptDeposit.candidateActions 1 20 stayDayText
        (keptDeposit.candidateReservationIds 1 String.toUpper 20) =
          .ok actions -> actions.length ≤ 20 := by
  intro actions computed
  rw [← Except.ok.inj computed]
  decide +kernel

/-- The list shows what the overdue stay needs. -/
theorem listsItsActions_iff_overdueStay :
    keptDeposit.ListsItsActions 1 String.toUpper 20 stayDayText 20 11 ↔
      ¬keptDeposit.MissedAction 1 String.toUpper 20
        (keptDeposit.actionReservation overdueStay) := by
  have member : keptDeposit.actionReservation overdueStay ∈ keptDeposit.actionReservations 1 := by
    decide +kernel
  exact listsItsActions_iff member (by decide) keptDeposit_ample

/-- The summary of the cancelled booking has a deposit to review, and the list
does not show it. -/
theorem not_listsItsActions_cancelledStay :
    InActionWindow 20 (keptDeposit.actionReservation cancelledStay) ∧
      ¬keptDeposit.ListsItsActions 1 String.toUpper 20 stayDayText 20 10 := by
  have member : keptDeposit.actionReservation cancelledStay ∈ keptDeposit.actionReservations 1 := by
    decide +kernel
  have inWindow : InActionWindow 20 (keptDeposit.actionReservation cancelledStay) := by
    decide
  refine ⟨inWindow, ?_⟩
  refine (listsItsActions_iff_selected member inWindow keptDeposit_ample).not.mpr ?_
  rintro (selected | none)
  · revert selected
    decide +kernel
  · revert none
    decide +kernel

end ActionDatabase

end HotelPms.Actions
