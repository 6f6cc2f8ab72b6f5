import HotelPms.Actions.Listing
import HotelPms.Foundation.Table

/-!
# One set of financial facts

The summary of a reservation and the reads in bulk give its actions the same
financial facts: what its hotel's ledger, its adjustments and its company
say.
-/

namespace HotelPms.Actions

open Hotel Payments Checked GroupSum

namespace ActionDatabase

variable (db : ActionDatabase) (hotelId : Int) (reservation : ActionReservation)

/-- The lodging is billed outside: it was settled so, or its company is
configured so. -/
def BilledOutside : Prop :=
  reservation.companyId ≠ none ∧ (reservation.settlementStatus.toLower ∈ ["deferred", "settled"] ∨
      db.deferredCompany hotelId reservation)
deriving Decidable

def paidAmount : Int :=
  reservation.paidAmountWithLegacyFallback (db.ledger hotelId)

/-- What the ledger and the external credit give evidence of. -/
def evidencedPaid : Int :=
  (db.ledger hotelId).completedPaidAmount reservation.id +
    if reservation.isOta = true then reservation.externalPaidBalanceCredit
    else 0

/-- Balance left to collect. -/
def balanceDue : Int :=
  reservation.operationalBalanceDue (ofHotel hotelId db.adjustments)
    (db.paidAmount hotelId reservation)

/-- The stored amount differs from the evidence by more than a cent. -/
def ReconciliationGap : Prop :=
  1 < |reservation.amountPaid - db.evidencedPaid hotelId reservation|
deriving Decidable

/-- The financial facts of a reservation. -/
def actionFinancials : ActionFinancials :=
  if db.BilledOutside hotelId reservation then
    { amountPaid := none, companyBillingDeferred := true, recommendedNextAction := none
      hasFinancialReconciliationGap := false }
  else
    { amountPaid := some (db.paidAmount hotelId reservation)
      companyBillingDeferred := false
      recommendedNextAction :=
        withoutCancelledCollection reservation.status
          (recommendedFinancialAction reservation (db.balanceDue hotelId reservation))
      hasFinancialReconciliationGap :=
        decide (db.ReconciliationGap hotelId reservation) }

variable {db hotelId}

theorem mem_actionReservations {reservation : ActionReservation} :
    reservation ∈ db.actionReservations hotelId ↔
      reservation.toStoredReservation ∈ db.reservations ∧
        reservation.hotelId = hotelId ∧ reservation.deletedAt = none ∧
        reservation.toActionColumns = db.actionColumns reservation.id := by
  unfold actionReservations Database.activeReservations Database.reservationsOf
  simp only [List.mem_map, List.mem_filter, decide_eq_true_eq]
  constructor
  · rintro ⟨row, ⟨⟨stored, own⟩, present⟩, rfl⟩
    exact ⟨stored, own, present, rfl⟩
  · rintro ⟨stored, own, present, columns⟩
    refine ⟨reservation.toStoredReservation, ⟨⟨stored, own⟩, present⟩, ?_⟩
    unfold actionReservation
    rw [← columns]

theorem actionReservations_distinct : ((db.actionReservations hotelId).map (·.id)).Nodup := by
  have same : (db.actionReservations hotelId).map (·.id) =
      (db.activeReservations hotelId).map (·.id) := by
    unfold actionReservations
    rw [List.map_map]
    rfl
  rw [same]
  exact db.distinctReservations.sublist ((List.filter_sublist.trans List.filter_sublist).map _)

variable {reservation : ActionReservation}

theorem billedOutside_iff (own : reservation.hotelId = hotelId) :
    db.reservationHasDeferredCompanyBilling reservation.toStoredReservation hotelId ↔
      db.BilledOutside hotelId reservation := by
  refine Database.mem_deferredCompanyReservationIds ?_ List.mem_cons_self own
  exact fun other otherIn _ => List.mem_singleton.mp otherIn

theorem lookup_reconciledPaidAmounts (stored : reservation.toStoredReservation ∈ db.reservations)
    (own : reservation.hotelId = hotelId) :
    ((db.reconciledPaidAmountsByReservation hotelId
        (some [reservation.id])).lookup reservation.id).getD 0 =
      (db.evidencedPaid hotelId reservation : ℚ) := by
  have completed : ((db.completedPaidAmountsByReservation hotelId
      (some [reservation.id])).lookup reservation.id).getD 0 =
        ((db.ledger hotelId).completedPaidAmount reservation.id : ℚ) :=
    Database.lookup_completedPaidAmounts (Database.requested_singleton reservation.id)
  have nonempty : some [reservation.id] ≠ some ([] : List Int) := by simp
  have ofReservation : (db.reservationsOf hotelId).filter (fun row =>
      requested (some [reservation.id]) row.id) = [reservation.toStoredReservation] := by
    have listed : reservation.toStoredReservation ∈ db.reservationsOf hotelId :=
      List.mem_filter.mpr ⟨stored, decide_eq_true own⟩
    have distinct : ((db.reservationsOf hotelId).map fun row =>
        row.id).Nodup :=
      db.distinctReservations.sublist (List.filter_sublist.map _)
    simp only [requested, Option.all_some, List.mem_singleton]
    exact Table.filter_key distinct listed
  unfold Database.reconciledPaidAmountsByReservation evidencedPaid
  simp only [if_neg nonempty, ofReservation, List.lookup_append]
  by_cases credited : (reservation.isOta && reservation.externalPaidConfirmed) = true
  · have ota : reservation.isOta = true := by
      rw [Bool.and_eq_true] at credited
      exact credited.1
    simp only [List.filter_cons, credited, if_true, List.filter_nil,
      List.map_cons, List.lookup_cons_self, Option.some_or, Option.getD_some]
    rw [completed, ← Int.cast_add, cents_intCast, if_pos ota]
  · simp only [List.filter_cons, credited, Bool.false_eq_true, if_false,
      List.filter_nil, List.map_nil, List.lookup_nil, Option.none_or]
    rw [completed]
    split_ifs with ota
    · have unconfirmed : reservation.externalPaidConfirmed = false := by
        simpa [ota] using credited
      simp [ReservationFinancials.externalPaidBalanceCredit, unconfirmed]
    · simp

theorem decide_one_lt_abs_sub (stored evidenced : Int) :
    decide (1 < |(stored : ℚ) - evidenced|) =
      decide (1 < |stored - evidenced|) := by
  rw [decide_eq_decide]
  exact_mod_cast Iff.rfl

theorem summaryFinancials_eq (member : reservation ∈ db.actionReservations hotelId) :
    ∃ summary, db.getReservationFinancialSummary (some hotelId) reservation.id = .ok summary ∧
      summaryFinancials reservation summary = db.actionFinancials hotelId reservation := by
  obtain ⟨stored, own, -⟩ := mem_actionReservations.mp member
  refine ⟨_, Database.getReservationFinancialSummary_eq_ok stored (by simp [own]), ?_⟩
  have billed := @billedOutside_iff db hotelId reservation own
  rw [own]
  unfold actionFinancials
  by_cases outside : db.BilledOutside hotelId reservation
  · rw [if_pos (billed.mpr outside), if_pos outside]
    simp [summaryFinancials, Database.deferredSummary, withoutCancelledCollection]
  · rw [if_neg (billed.not.mpr outside), if_neg outside]
    have due : (db.directSummary hotelId reservation.toStoredReservation).operationalBalanceDue =
          (db.balanceDue hotelId reservation : ℚ) := by
      rw [Database.directSummary_operationalBalanceDue, Database.operationalBalanceDue_eq]
      rfl
    have paid : (db.directSummary hotelId reservation.toStoredReservation).amountPaid =
          some (db.paidAmount hotelId reservation : ℚ) :=
      congrArg some (Database.paidAmountWithLegacyFallback_eq _)
    have gap : (db.directSummary hotelId
        reservation.toStoredReservation).financialReconciliationGap =
          some ((reservation.amountPaid : ℚ) - (db.evidencedPaid hotelId reservation : ℚ)) :=
      congrArg (fun evidenced => some (_ - evidenced)) (lookup_reconciledPaidAmounts stored own)
    have collected : (db.directSummary hotelId
        reservation.toStoredReservation).companyBillingDeferred = false :=
      rfl
    unfold summaryFinancials
    rw [due, paid, gap, collected, Option.any_some,
      decide_one_lt_abs_sub, if_neg Bool.false_ne_true]
    rfl

variable {ids : List Int}

theorem completedAmount_eq (row : Transaction) :
    completedAmount row = ((if row.status = .completed then row.signedAmount else 0 : Int) :
        ℚ) := by
  unfold completedAmount
  split_ifs
  · rfl
  · exact Int.cast_zero.symm

theorem lookup_completedPaidByReservation (member : reservation.id ∈ ids) :
    ((db.completedPaidByReservation hotelId ids).lookup reservation.id).getD 0 =
      ((db.ledger hotelId).completedPaidAmount reservation.id : ℚ) := by
  have asked : requested (some ids) reservation.id = true :=
    decide_eq_true member
  have nonempty : some ids ≠ some [] := by
    intro none
    rw [Option.some.inj none] at member
    cases member
  have total := @Database.lookup_centsTotal (some ids) Transaction Transaction.reservationId
    (fun row => if row.status = .completed then row.signedAmount else 0)
    (ofHotel hotelId db.transactions) reservation.id asked
  rw [if_neg nonempty] at total
  unfold completedPaidByReservation
  have same : completedAmount = fun row =>
      ((if row.status = .completed then row.signedAmount else 0 : Int) : ℚ) :=
    funext completedAmount_eq
  rw [same]
  refine total.trans ?_
  congr 1
  have completed := sum_map_filter (fun row : Transaction => row.status = .completed)
    Transaction.signedAmount
    ((ofHotel hotelId db.transactions).filter (·.reservationId = reservation.id))
  simp only [decide_eq_true_eq] at completed
  exact completed.symm

theorem mem_completedPaidByReservation (member : reservation.id ∈ ids) :
    reservation.id ∈ (db.completedPaidByReservation hotelId ids).map Prod.fst ↔
      (db.ledger hotelId).hasTransactions reservation.id = true := by
  have keys : (db.completedPaidByReservation hotelId ids).map Prod.fst =
      (((ofHotel hotelId db.transactions).filter fun row =>
        row.reservationId ∈ ids).map Transaction.reservationId).dedup := by
    unfold completedPaidByReservation groupSum
    rw [List.map_map, List.map_map]
    exact List.map_id _
  rw [keys, List.mem_dedup, List.mem_map]
  unfold Ledger.hasTransactions Ledger.forReservation
  rw [Bool.not_eq_true', ← Bool.not_eq_true, List.isEmpty_iff, List.filter_eq_nil_iff]
  simp only [List.mem_filter, decide_eq_true_eq, not_forall, not_not]
  constructor
  · rintro ⟨row, ⟨rowIn, -⟩, same⟩
    exact ⟨row, rowIn, same⟩
  · rintro ⟨row, rowIn, same⟩
    exact ⟨row, ⟨rowIn, same ▸ member⟩, same⟩

theorem bulkFinancials_eq {completedPaid : List (Int × ℚ)} {adjustments : List BillingAdjustment}
    {deferredIds : List Int}
    (total : (completedPaid.lookup reservation.id).getD 0 =
      ((db.ledger hotelId).completedPaidAmount reservation.id : ℚ))
    (counted : reservation.id ∈ completedPaid.map Prod.fst ↔
      (db.ledger hotelId).hasTransactions reservation.id = true)
    (adjusted : (adjustments.filter (·.reservationId = reservation.id)) =
      (ofHotel hotelId db.adjustments).filter (·.reservationId = reservation.id))
    (billed : reservation.id ∈ deferredIds ↔ db.BilledOutside hotelId reservation) :
    bulkFinancials completedPaid adjustments deferredIds reservation =
      db.actionFinancials hotelId reservation := by
  have paid : (if reservation.isOta = true then
        cents ((completedPaid.lookup reservation.id).getD 0 + reservation.externalPaidBalanceCredit)
      else if reservation.id ∈ completedPaid.map Prod.fst then
        (completedPaid.lookup reservation.id).getD 0
      else cents reservation.amountPaid) = (db.paidAmount hotelId reservation : ℚ) := by
    unfold paidAmount ReservationFinancials.paidAmountWithLegacyFallback
    rw [total, ← Int.cast_add, cents_intCast, cents_intCast]
    simp only [counted]
    by_cases ota : reservation.isOta = true
    · rw [if_pos ota, if_pos ota]
    · rw [if_neg ota, if_neg ota]
      cases (db.ledger hotelId).hasTransactions reservation.id with
      | true => rfl
      | false => rfl
  have evidenced : (if reservation.isOta = true then
        cents ((completedPaid.lookup reservation.id).getD 0 + reservation.externalPaidBalanceCredit)
      else (completedPaid.lookup reservation.id).getD 0) =
        (db.evidencedPaid hotelId reservation : ℚ) := by
    unfold evidencedPaid
    rw [total, ← Int.cast_add, cents_intCast]
    split_ifs
    · rfl
    · rw [add_zero]
  have balance : max 0 ((reservation.totalAmount : ℚ) + cents (((adjustments.filter fun row =>
        row.reservationId = reservation.id).map fun row => (row.totalAmount : ℚ)).sum) -
        (db.paidAmount hotelId reservation : ℚ)) = (db.balanceDue hotelId reservation : ℚ) := by
    rw [adjusted, Database.sum_intCast, cents_intCast, Database.max_intCast]
    rfl
  unfold bulkFinancials
  simp only [paid, evidenced, balance, billed, decide_one_lt_abs_sub]
  rfl

/-- The reads in bulk give a candidate its facts. -/
theorem lookup_pendingActionFinancialInputs {reservations : List ActionReservation}
    (ofTheHotel : ∀ row ∈ reservations, row.hotelId = hotelId)
    (distinct : (reservations.map (·.id)).Nodup)
    (member : reservation ∈ reservations) :
    (db.pendingActionFinancialInputs hotelId reservations).lookup
        reservation.id = some (db.actionFinancials hotelId reservation) := by
  have listed : reservation.id ∈ reservations.map (·.id) :=
    List.mem_map_of_mem member
  unfold pendingActionFinancialInputs
  rw [lookup_of_mem (fun row : ActionReservation => row.id) _ distinct member]
  refine congrArg some (bulkFinancials_eq (lookup_completedPaidByReservation listed)
    (mem_completedPaidByReservation listed) ?_ ?_)
  · rw [List.filter_filter]
    refine List.filter_congr fun row _ => ?_
    rw [Bool.and_eq_left_iff_imp]
    intro same
    rw [of_decide_eq_true same]
    exact decide_eq_true listed
  · have memberIn := List.mem_map_of_mem (f := ActionReservation.toStoredReservation) member
    refine Database.mem_deferredCompanyReservationIds ?_ memberIn (ofTheHotel reservation member)
    intro other otherIn same
    refine List.inj_on_of_nodup_map (f := (·.id)) ?_ otherIn memberIn same
    rw [List.map_map]
    exact distinct

end ActionDatabase

end HotelPms.Actions
