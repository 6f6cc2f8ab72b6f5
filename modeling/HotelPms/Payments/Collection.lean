import HotelPms.Foundation.Transition
import HotelPms.Payments.PaidAmount
import Mathlib.Algebra.Order.BigOperators.Group.List

/-!
# Collection and refund limits

A payment never collects more than the balance and a refund never returns more
than what is left of its source payment.  The ledger a refund is validated
against counts an agency's external credit as well, so the completed net of a
reservation stays nonnegative only as long as refunds do not draw on it.
-/

namespace HotelPms.Payments

open Checked Decimal Transition

section

variable {env : PaymentEnvironment} {state after : PaymentState}
  {call : PaymentCall} {checked : CheckedRequest} {transaction : Transaction}

/-! ## What validation guarantees of the amounts -/

theorem sourceOfCall_payment {source : Option Transaction} (payment : ¬call.request.IsRefund)
    (isSource : sourceOfCall state call checked = .ok source) :
    source = none := by
  unfold sourceOfCall at isSource
  simp only [bind_eq_ok, if_neg payment, pure_eq_ok] at isSource
  obtain ⟨-, -, -, -, rfl⟩ := isSource
  rfl

structure RefundSource
    (state : PaymentState)
    (call : PaymentCall)
    (checked : CheckedRequest)
    (source : Transaction) : Prop where
  member : source ∈ state.ledger.transactions
  reservationId : source.reservationId = call.request.reservationId
  isPayment : ¬source.IsRefund
  named : call.request.refundOfTransactionId = some source.id
  found : completedPayment? state.ledger call.request.reservationId source.id = some source
  tenderCode : source.tenderCode = checked.currency
  capped : checkRefundCap state.ledger call.request checked.currency source = .ok ()

theorem sourceOfCall_refund {source : Option Transaction} (refund : call.request.IsRefund)
    (isSource : sourceOfCall state call checked = .ok source) :
    ∃ payment, source = some payment ∧ RefundSource state call checked payment := by
  unfold sourceOfCall at isSource
  simp only [bind_eq_ok, if_pos refund, pure_eq_ok] at isSource
  obtain ⟨-, -, -, -, payment, found, rfl⟩ := isSource
  refine ⟨payment, rfl, ?_⟩
  obtain ⟨-, -, found⟩ := bind_eq_ok.mp found
  obtain ⟨-, -, found⟩ := bind_eq_ok.mp found
  cases named : call.request.refundOfTransactionId with
  | none =>
    rw [named] at found
    cases found
  | some sourceId =>
    simp only [named] at found
    cases row : completedPayment? state.ledger call.request.reservationId sourceId with
    | none =>
      rw [row] at found
      cases found
    | some stored =>
      simp only [row, bind_eq_ok, raiseIf_eq_ok, pure_eq_ok, not_not] at found
      obtain ⟨_, tenderCode, _, capped, rfl⟩ := found
      have member := List.mem_filter.mp (List.mem_of_find?_eq_some row)
      have matched : stored.id = sourceId ∧ stored.status = .completed ∧ ¬stored.IsRefund := by
        simpa using List.find?_some row
      exact
        { member := member.1
          reservationId := by simpa using member.2
          isPayment := matched.2.2
          named := by rw [named, matched.1]
          found := by rw [matched.1, row]
          tenderCode := tenderCode
          capped := capped }

variable {reservation : ReservationFinancials}

variable {frozen : Option FrozenRate} {applied : AppliedAmount} {ledger : Ledger}

theorem resolvePaymentAmount_pos {tenderAmount : Int} {tenderCurrency : String}
    (resolved : resolvePaymentAmount env reservation tenderAmount
      tenderCurrency frozen = .ok applied) : 0 < applied.amount := by
  obtain ⟨direct, -, rest⟩ := bind_eq_ok.mp resolved
  obtain ⟨_, positive, result⟩ := bind_eq_ok.mp rest
  rw [← pure_eq_ok.mp result]
  exact not_le.mp (raiseIf_eq_ok.mp positive)

variable {source : Transaction}

theorem refundEquivalent_nonneg {tenderAmount : Int}
    (principal : 0 < source.principalTender) (amount : 0 < source.amount)
    (tender : 0 ≤ tenderAmount) : 0 ≤ refundEquivalent source tenderAmount := by
  have principalCast : (0 : ℚ) < source.principalTender := by
    exact_mod_cast principal
  have amountCast : (0 : ℚ) < source.amount := by exact_mod_cast amount
  have tenderCast : (0 : ℚ) ≤ tenderAmount := by exact_mod_cast tender
  apply quantize_nonneg
  apply inContext_nonneg
  apply div_nonneg tenderCast
  apply inContext_nonneg
  exact (div_pos principalCast amountCast).le

theorem appliedOfCall_nonneg {source : Option Transaction} (positive : 0 < call.request.amount)
    (isApplied : appliedOfCall env call checked frozen source = .ok applied) :
    0 ≤ applied.amount ∧ (source = none -> 0 < applied.amount) := by
  unfold appliedOfCall at isApplied
  simp only [bind_eq_ok, pure_eq_ok] at isApplied
  obtain ⟨-, -, converted, isConverted, -, -, rfl⟩ := isApplied
  unfold convertTender at isConverted
  have sameCurrency {frozen : Option FrozenRate}
      {source : Option Transaction} {result : AppliedAmount}
      (same : checked.currency = checked.reservation.currency)
      (resolved : resolveAppliedPaymentAmount env checked.reservation
        call.request.amount checked.currency source frozen = .ok result) :
      0 < result.amount := by
    unfold resolveAppliedPaymentAmount at resolved
    rw [if_pos same] at resolved
    rw [← pure_eq_ok.mp resolved]
    exact positive
  by_cases same : checked.currency = checked.reservation.currency
  · cases source with
    | none =>
      have above := sameCurrency same isConverted
      exact ⟨above.le, fun _ => above⟩
    | some payment =>
      split_ifs at isConverted with credit
      · rw [← pure_eq_ok.mp isConverted]
        exact ⟨le_refl 0, fun absent => by cases absent⟩
      · exact ⟨(sameCurrency same isConverted).le, fun absent => by cases absent⟩
  · cases source with
    | none =>
      simp only [resolveAppliedPaymentAmount, if_neg same] at isConverted
      have above := resolvePaymentAmount_pos isConverted
      exact ⟨above.le, fun _ => above⟩
    | some payment =>
      split_ifs at isConverted with credit
      · rw [← pure_eq_ok.mp isConverted]
        exact ⟨le_refl 0, fun absent => by cases absent⟩
      · simp only [resolveAppliedPaymentAmount, if_neg same, resolveRefundAmount, bind_eq_ok,
          raiseIf_eq_ok, pure_eq_ok, not_or, not_le] at isConverted
        obtain ⟨-, ⟨principal, amount⟩, rfl⟩ := isConverted
        exact ⟨refundEquivalent_nonneg principal amount positive.le, fun absent => by cases absent⟩

theorem appliedOfCall_refund (principal : ¬call.request.refundComponent = .roundingCredit)
    (tenderCode : source.tenderCode = checked.currency)
    (isApplied : appliedOfCall env call checked frozen (some source) = .ok applied) :
    applied.amount = if source.tenderCode = checked.reservation.currency then
        call.request.amount
      else refundEquivalent source call.request.amount := by
  unfold appliedOfCall at isApplied
  simp only [bind_eq_ok, pure_eq_ok, convertTender, if_neg principal] at isApplied
  obtain ⟨-, -, converted, isConverted, -, -, rfl⟩ := isApplied
  unfold resolveAppliedPaymentAmount at isConverted
  rw [tenderCode]
  split_ifs at isConverted ⊢ with same
  · rw [← pure_eq_ok.mp isConverted]
  · simp only [resolveRefundAmount, bind_eq_ok, pure_eq_ok] at isConverted
    obtain ⟨-, -, rfl⟩ := isConverted
    rfl

/-- Amount a principal refund takes off its reservation: its tender at the
ratio of the source payment, or the night selection where that differs by at
most a cent. -/
def principalRefundAmount (reservation : ReservationFinancials)
    (source : Transaction) (request : PaymentRequest) : Int :=
  let converted :=
    if source.tenderCode = reservation.currency then request.amount
    else refundEquivalent source request.amount
  let nights :=
    (request.companyNightChargeRefundAllocations.map Prod.snd).sum
  if request.companyNightChargeRefundAllocations ≠ [] ∧
      |nights - converted| ≤ 1 then nights
  else converted

theorem refundNights_spec {applied amount : Int} {nights : List (Int × Int)}
    (selected : refundNights state call checked source applied = .ok (amount, nights)) :
    amount = if call.request.companyNightChargeRefundAllocations ≠ [] ∧
          |(call.request.companyNightChargeRefundAllocations.map Prod.snd).sum - applied| ≤ 1 then
        (call.request.companyNightChargeRefundAllocations.map Prod.snd).sum
      else applied := by
  obtain ⟨plan, prepared, result⟩ := bind_eq_ok.mp selected
  have permuted := prepareCompanyNightChargeRefund_nights prepared
  cases plan with
  | none =>
    cases result
    rw [if_neg]
    exact (·.1 permuted.symm.eq_nil)
  | some selectedNights =>
    obtain ⟨isAmount, rfl⟩ := Prod.mk.inj (pure_eq_ok.mp result)
    have sameTotal : (selectedNights.map Prod.snd).sum =
        (call.request.companyNightChargeRefundAllocations.map
          Prod.snd).sum := (permuted.map Prod.snd).sum_eq
    have sameEmpty : selectedNights = [] ↔
        call.request.companyNightChargeRefundAllocations = [] := by
      constructor
      · intro empty
        exact (empty ▸ permuted).symm.eq_nil
      · intro empty
        exact (empty ▸ permuted).eq_nil
    simp only [← isAmount, sameTotal, ne_eq, sameEmpty]

theorem principalRefundAmount_nonneg {request : PaymentRequest}
    (converted : 0 ≤ if source.tenderCode = reservation.currency then
      request.amount else refundEquivalent source request.amount) :
    0 ≤ principalRefundAmount reservation source request := by
  unfold principalRefundAmount
  simp only
  split_ifs at converted ⊢
  all_goals first
    | exact converted
    | exact List.sum_nonneg fun value member => by
        obtain ⟨night, nightIn, rfl⟩ := List.mem_map.mp member
        exact (request.refundAmountsPositive night nightIn).le

structure RequestColumns
    (call : PaymentCall) (transaction : Transaction) : Prop where
  reservationId : transaction.reservationId = call.request.reservationId
  isRefund : transaction.IsRefund ↔ call.request.IsRefund
  component : transaction.refundComponent = call.request.refundComponent
  status : transaction.status = transactionStatus call
  tender : transaction.tender = call.request.amount
  roundingCredit : transaction.roundingCreditAmount = 0
  source : transaction.refundOfTransactionId = call.request.refundOfTransactionId
  idempotencyKey : transaction.idempotencyKey = call.idempotencyKey

section

variable (written : NewTransaction env state call after transaction)
include written

theorem NewTransaction.parts : ∃ source frozen applied amount nights surcharge receipt,
      sourceOfCall state call written.checked = .ok source ∧
      appliedOfCall env call written.checked frozen source = .ok applied ∧
      nightsOfCall env state call written.checked source applied.amount = .ok (amount, nights) ∧
      checkBalance state call written.checked amount = .ok () ∧
      transaction = transactionOfCall env state call written.checked applied
        amount surcharge receipt := by
  obtain ⟨manual, source, applied, amount, nights, surcharge, receipt, -, isSource, isApplied,
    areNights, balance, -, isDraft⟩ := draftPayment_eq_ok written.drafted
  exact ⟨source, _, applied, amount, nights, surcharge, receipt, isSource,
    isApplied, areNights, balance,
    written.isDraft.trans (congrArg PaymentDraft.transaction isDraft)⟩

theorem NewTransaction.columns : RequestColumns call transaction := by
  obtain ⟨_, _, _, _, _, _, _, -, -, -, -, isRow⟩ := written.parts
  rw [isRow]
  exact ⟨rfl, Iff.rfl, rfl, rfl, rfl, rfl, rfl, rfl⟩

theorem NewTransaction.payment (payment : ¬transaction.IsRefund) :
    0 < transaction.amount ∧ transaction.amount ≤ written.checked.reservation.operationalBalanceDue
        state.adjustments (ledgerPaid state written.checked) := by
  rw [written.columns.isRefund] at payment
  obtain ⟨source, frozen, applied, amount, nights, surcharge, receipt,
    isSource, isApplied, areNights, balance, isRow⟩ := written.parts
  have isAmount : transaction.amount = amount :=
    congrArg Transaction.amount isRow
  obtain rfl := sourceOfCall_payment payment isSource
  have positive := (appliedOfCall_nonneg
    (checkRequest_eq_ok.mp written.isChecked).positive isApplied).2 rfl
  obtain ⟨selected, -, result⟩ := bind_eq_ok.mp areNights
  obtain ⟨sameAmount, -⟩ := Prod.mk.inj (pure_eq_ok.mp result)
  unfold checkBalance at balance
  simp only [if_neg payment, bind_eq_ok, raiseIf_eq_ok, not_lt] at balance
  obtain ⟨_, notAbove, _⟩ := balance
  rw [isAmount]
  exact ⟨sameAmount ▸ positive, notAbove⟩

structure PrincipalRefund
    (state : PaymentState)
    (call : PaymentCall)
    (checked : CheckedRequest)
    (transaction : Transaction)
    (source : Transaction) : Prop where
  found : RefundSource state call checked source
  isAmount : transaction.amount = principalRefundAmount checked.reservation source call.request
  nonneg : 0 ≤ transaction.amount
  paid : transaction.amount ≤ ledgerPaid state checked
  capped : call.request.amount ≤ refundablePrincipal state.ledger source

theorem NewTransaction.principalRefund (refund : transaction.IsRefund)
    (principal : transaction.refundComponent = .payment) :
    ∃ source, PrincipalRefund state call written.checked transaction
      source := by
  have columns := written.columns
  rw [columns.isRefund] at refund
  rw [columns.component] at principal
  have notCredit : ¬call.request.refundComponent = .roundingCredit := by
    rw [principal]
    decide
  obtain ⟨named, frozen, applied, amount, nights, surcharge, receipt,
    isSource, isApplied, areNights, balance, isRow⟩ := written.parts
  have isAmount : transaction.amount = amount :=
    congrArg Transaction.amount isRow
  obtain ⟨source, rfl, found⟩ := sourceOfCall_refund refund isSource
  unfold nightsOfCall at areNights
  simp only [if_neg notCredit] at areNights
  have selected := refundNights_spec areNights
  have converted := appliedOfCall_refund notCredit found.tenderCode isApplied
  have nonneg := (appliedOfCall_nonneg
    (checkRequest_eq_ok.mp written.isChecked).positive isApplied).1
  have spelled : amount = principalRefundAmount written.checked.reservation
      source call.request := by
    rw [selected, converted]
    rfl
  unfold checkBalance at balance
  simp only [if_pos refund, raiseIf_eq_ok, not_lt] at balance
  have capped := found.capped
  unfold checkRefundCap at capped
  simp only [if_neg notCredit, raiseIf_eq_ok, not_lt] at capped
  refine ⟨source,
    { found := found, isAmount := isAmount.trans spelled, nonneg := ?_, paid := isAmount ▸ balance
      capped := capped }⟩
  rw [isAmount, spelled]
  exact principalRefundAmount_nonneg (converted ▸ nonneg)

theorem NewTransaction.creditRefund (credit : transaction.refundComponent = .roundingCredit) :
    transaction.amount = 0 := by
  obtain ⟨-, -, -, fields⟩ := written.flushed.credit
  rw [← written.isDraft] at fields
  rcases fields with ⟨payment, -⟩ | ⟨-, -, zero, -⟩
  · rw [credit] at payment
    cases payment
  · exact zero

end

theorem externalPaidBalanceCredit_nonneg (reservation : ReservationFinancials) :
    0 ≤ reservation.externalPaidBalanceCredit := by
  unfold ReservationFinancials.externalPaidBalanceCredit
  simp only
  all_goals omega

theorem completedPaidAmount_le_paid (reservation : ReservationFinancials) (ledger : Ledger) :
    ledger.completedPaidAmount reservation.id ≤
      reservation.paidAmountWithLegacyFallback ledger := by
  have external := externalPaidBalanceCredit_nonneg reservation
  unfold ReservationFinancials.paidAmountWithLegacyFallback
  split_ifs with ota absent
  · omega
  · have empty : ledger.forReservation reservation.id = [] := by
      simpa [Ledger.hasTransactions] using absent
    simp only [Ledger.completedPaidAmount, empty]
    exact reservation.paidNonneg
  · exact le_refl _

def countedExternalCredit (reservation : ReservationFinancials) : Int :=
  if reservation.isOta then reservation.externalPaidBalanceCredit else 0

theorem paid_eq_completed_add_external (recorded : ledger.hasTransactions reservation.id = true) :
    reservation.paidAmountWithLegacyFallback ledger =
      ledger.completedPaidAmount reservation.id + countedExternalCredit reservation := by
  unfold ReservationFinancials.paidAmountWithLegacyFallback countedExternalCredit
  split_ifs with ota
  · rfl
  · rw [recorded] at *
    contradiction
  · omega

/-- One successful call. -/
def paymentStep (state : PaymentState) (event : PaymentEnvironment × PaymentCall) :
    Option PaymentState :=
  match processPayment event.1 state event.2 with
  | .ok (after, _) => some after
  | .error _ => none

/-- Guard of the principal refunds of a reservation.  Either no external
credit is counted for it, or the refund takes at most the completed net. -/
def RefundGuarded (reservationId : Int) (state : PaymentState)
    (event : PaymentEnvironment × PaymentCall) : Prop :=
  let request := event.2.request
  request.reservationId = reservationId -> request.IsRefund -> request.refundComponent = .payment ->
    transactionStatus event.2 = .completed ->
    ∀ reservation source sourceId, state.reservations reservationId = some reservation ->
      request.refundOfTransactionId = some sourceId ->
      completedPayment? state.ledger reservationId sourceId = some source ->
      countedExternalCredit reservation = 0 ∨ principalRefundAmount reservation source request ≤
          state.ledger.completedPaidAmount reservationId

theorem NewTransaction.withinTotal {bound : Int}
    (written : NewTransaction env state call after transaction)
    (total : state.collectibleTotal call.request.reservationId = some bound)
    (atMost : state.ledger.completedPaidAmount call.request.reservationId ≤ bound) :
    state.ledger.completedPaidAmount call.request.reservationId +
      transaction.ledgerEffect ≤ bound := by
  unfold Transaction.ledgerEffect Transaction.signedAmount
  by_cases completed : transaction.status = .completed
  · by_cases refund : transaction.IsRefund
    · rw [if_pos refund]
      cases component : transaction.refundComponent with
      | payment =>
        obtain ⟨source, passed⟩ := written.principalRefund refund component
        have := passed.nonneg
        omega
      | roundingCredit =>
        have := written.creditRefund component
        omega
    · obtain ⟨positive, collectible⟩ := written.payment refund
      have covered := completedPaidAmount_le_paid written.checked.reservation state.ledger
      rw [written.reservationId] at covered
      have isBound : written.checked.reservation.totalAmount +
          written.checked.reservation.adjustmentTotal state.adjustments =
            bound := by
        simpa [PaymentState.collectibleTotal, written.stored] using total
      unfold ReservationFinancials.operationalBalanceDue ledgerPaid at collectible
      omega
  · rw [if_neg completed]
    omega

theorem RefundSource.hasTransactions (found : RefundSource state call checked source) :
    state.ledger.hasTransactions call.request.reservationId = true := by
  have member : source ∈ state.ledger.forReservation call.request.reservationId := by
    apply List.mem_filter.mpr
    exact ⟨found.member, decide_eq_true found.reservationId⟩
  unfold Ledger.hasTransactions
  cases rows : state.ledger.forReservation call.request.reservationId with
  | nil =>
    rw [rows] at member
    cases member
  | cons => rfl

variable {reservationId : Int}

theorem refundGuarded_of_not_principal (other : ¬(call.request.IsRefund ∧
      call.request.refundComponent = .payment ∧
      transactionStatus call = .completed)) :
    RefundGuarded reservationId state (env, call) := by
  intro _ refund principal completed
  exact absurd ⟨refund, principal, completed⟩ other

section

variable (written : NewTransaction env state call after transaction)
include written

theorem NewTransaction.refundGuarded_iff (refund : transaction.IsRefund)
    (principal : transaction.refundComponent = .payment)
    (completed : transaction.status = .completed) :
    RefundGuarded call.request.reservationId state (env, call) ↔
      transaction.amount ≤ state.ledger.completedPaidAmount call.request.reservationId := by
  have columns := written.columns
  obtain ⟨source, passed⟩ := written.principalRefund refund principal
  have paid := passed.paid
  have recorded := passed.found.hasTransactions
  unfold ledgerPaid at paid
  rw [paid_eq_completed_add_external
    (written.reservationId.symm ▸ recorded), written.reservationId] at paid
  constructor
  · intro guarded
    rcases guarded rfl (columns.isRefund.mp refund) (columns.component ▸ principal) (columns.status
      ▸ completed) _ _ _ written.stored passed.found.named passed.found.found with uncredited |
      covered
    · omega
    · exact passed.isAmount.trans_le covered
  · intro covered _ _ _ _ reservation other sourceId stored named found
    obtain rfl := Option.some.inj (written.stored.symm.trans stored)
    obtain rfl := Option.some.inj (passed.found.named.symm.trans named)
    obtain rfl := Option.some.inj (passed.found.found.symm.trans found)
    right
    rw [← passed.isAmount]
    exact covered

theorem NewTransaction.nonneg_iff (nonneg :
      0 ≤ state.ledger.completedPaidAmount call.request.reservationId) :
    0 ≤ state.ledger.completedPaidAmount call.request.reservationId + transaction.ledgerEffect ↔
      RefundGuarded call.request.reservationId state (env, call) := by
  have columns := written.columns
  by_cases principal : transaction.IsRefund ∧ transaction.refundComponent = .payment ∧
      transaction.status = .completed
  · rw [written.refundGuarded_iff principal.1 principal.2.1 principal.2.2]
    unfold Transaction.ledgerEffect Transaction.signedAmount
    rw [if_pos principal.2.2, if_pos principal.1]
    omega
  · have gains : 0 ≤ transaction.ledgerEffect := by
      unfold Transaction.ledgerEffect Transaction.signedAmount
      split_ifs with completed refund
      · cases component : transaction.refundComponent with
        | payment => exact absurd ⟨refund, component, completed⟩ principal
        | roundingCredit =>
          have := written.creditRefund component
          omega
      · exact (written.payment refund).1.le
      · exact le_refl 0
    rw [columns.isRefund, columns.component, columns.status] at principal
    constructor
    · intro _
      exact refundGuarded_of_not_principal principal
    · omega

omit written in
theorem Flushed.refundedTender {before : Ledger} {draft : PaymentDraft}
    (flushed : Flushed before draft ledger) (reservationId sourceId : Int) :
    ledger.refundedTender reservationId sourceId = before.refundedTender reservationId sourceId +
        (if draft.transaction.reservationId = reservationId ∧
            draft.transaction.IsPrincipalRefundOf sourceId then
          draft.transaction.tender else 0) :=
  flushed.sum_forReservation reservationId (·.IsPrincipalRefundOf sourceId) Transaction.tender

omit written in
theorem Ledger.refundedTender_of_next_le {sourceId : Int}
    (unborn : ledger.nextTransactionId ≤ sourceId) (reservationId : Int) :
    ledger.refundedTender reservationId sourceId = 0 := by
  have none : (ledger.forReservation reservationId).filter (fun row =>
      row.IsPrincipalRefundOf sourceId) = [] := by
    apply List.filter_eq_nil_iff.mpr
    intro row member
    have stored := (List.mem_filter.mp member).1
    simp only [decide_eq_true_eq]
    intro refunds
    have := ledger.sourcesBelow row stored sourceId refunds.1
    omega
  unfold Ledger.refundedTender
  rw [none]
  rfl

/-- Completed principal refunds of every payment of a reservation are within
its tender less its rounding credit, or are what they were at the start. -/
def SourcesCovered (start : Ledger) (reservationId : Int) (ledger : Ledger) : Prop :=
  ∀ source ∈ ledger.transactions, source.reservationId = reservationId ->
    ¬source.IsRefund -> source.roundingCreditAmount ≤ source.tender ->
      ledger.refundedTender reservationId source.id ≤ source.tender - source.roundingCreditAmount ∨
        ledger.refundedTender reservationId source.id = start.refundedTender reservationId source.id

/-- The source of a refund is the payment that it names. -/
theorem NewTransaction.principalRefundOf (member : source ∈ state.ledger.transactions)
    (refunds : transaction.IsPrincipalRefundOf source.id) :
    PrincipalRefund state call written.checked transaction source := by
  obtain ⟨sourceIs, refund, component, -⟩ := refunds
  obtain ⟨payment, passed⟩ := written.principalRefund refund component
  have named : payment.id = source.id := by
    rw [written.columns.source, passed.found.named] at sourceIs
    exact Option.some.inj sourceIs
  obtain rfl : payment = source :=
    List.inj_on_of_nodup_map state.ledger.distinctIds passed.found.member member named
  exact passed

theorem NewTransaction.refundCovered (member : source ∈ state.ledger.transactions)
    (refunds : transaction.IsPrincipalRefundOf source.id)
    (creditWithin : source.roundingCreditAmount ≤ source.tender) :
    state.ledger.refundedTender call.request.reservationId source.id +
      transaction.tender ≤ source.tender - source.roundingCreditAmount := by
  have passed := written.principalRefundOf member refunds
  have columns := written.columns
  have capped := passed.capped
  unfold refundablePrincipal at capped
  rw [passed.found.reservationId, Transaction.principalTender, max_eq_right (by omega)] at capped
  rw [columns.tender]
  omega

theorem NewTransaction.sourcesCovered {start : Ledger}
    (covered : SourcesCovered start reservationId state.ledger) :
    SourcesCovered start reservationId after.ledger := by
  intro source member own payment creditWithin
  have moved := written.flushed.refundedTender reservationId source.id
  rw [← written.isDraft] at moved
  rw [written.flushed.transactions, ← written.isDraft] at member
  rcases List.mem_cons.mp member with rfl | stored
  · have fresh : state.ledger.nextTransactionId ≤ source.id := by
      rw [written.isDraft, written.flushed.isNext]
    have isRefund : ¬(source.reservationId = reservationId ∧
        source.IsPrincipalRefundOf source.id) := fun both =>
      payment both.2.2.1
    rw [if_neg isRefund, Ledger.refundedTender_of_next_le fresh] at moved
    left
    omega
  · by_cases refunds : transaction.reservationId = reservationId ∧
        transaction.IsPrincipalRefundOf source.id
    · rw [if_pos refunds] at moved
      have within := written.refundCovered stored refunds.2 creditWithin
      rw [← written.columns.reservationId, refunds.1] at within
      left
      omega
    · rw [if_neg refunds, add_zero] at moved
      rw [moved]
      exact covered source stored own payment creditWithin

end

variable {event : PaymentEnvironment × PaymentCall}

theorem paymentStep_eq_some (taken : paymentStep state event = some after) :
    ∃ transaction, processPayment event.1 state event.2 = .ok (after, transaction) := by
  unfold paymentStep at taken
  split at taken
  · next after' transaction processed =>
    cases taken
    exact ⟨transaction, processed⟩
  · cases taken

theorem NewTransaction.collectibleTotal (written : NewTransaction env state call after transaction)
    (reservationId : Int) :
    after.collectibleTotal reservationId = state.collectibleTotal reservationId := by
  unfold PaymentState.collectibleTotal
  rw [written.reservations]
  by_cases own : reservationId = call.request.reservationId
  · subst own
    rw [Function.update_self, written.stored, Option.map_some, Option.map_some, written.adjustments]
    unfold ReservationFinancials.adjustmentTotal
    rw [written.isSettled.totalAmount, written.isSettled.id]
  · rw [Function.update_of_ne own, written.adjustments]

theorem NewTransaction.completedPaidAmount
    (written : NewTransaction env state call after transaction)
    (reservationId : Int) :
    after.ledger.completedPaidAmount reservationId =
      state.ledger.completedPaidAmount reservationId +
        (if call.request.reservationId = reservationId then
          transaction.ledgerEffect else 0) := by
  rw [written.flushed.completedPaidAmount, ← written.isDraft, written.columns.reservationId]

/-- Limits every run of calls keeps for a reservation. -/
structure WithinLimits
    (start : Ledger)
    (reservationId bound : Int)
    (state : PaymentState) : Prop where
  total : state.collectibleTotal reservationId = some bound
  atMost : state.ledger.completedPaidAmount reservationId ≤ bound
  sources : SourcesCovered start reservationId state.ledger

theorem WithinLimits.step {start : Ledger} {reservationId bound : Int}
    (limits : WithinLimits start reservationId bound state)
    (taken : paymentStep state event = some after) :
    WithinLimits start reservationId bound after := by
  obtain ⟨transaction, processed⟩ := paymentStep_eq_some taken
  rcases exists_newTransaction processed with ⟨rfl, -⟩ | ⟨⟨written⟩⟩
  · exact limits
  · refine ⟨?_, ?_, written.sourcesCovered limits.sources⟩
    · rw [written.collectibleTotal, limits.total]
    · rw [written.completedPaidAmount]
      split_ifs with own
      · subst own
        exact written.withinTotal limits.total limits.atMost
      · have := limits.atMost
        omega

theorem paymentStep_nonneg (nonneg : 0 ≤ state.ledger.completedPaidAmount reservationId)
    (guarded : RefundGuarded reservationId state event)
    (taken : paymentStep state event = some after) :
    0 ≤ after.ledger.completedPaidAmount reservationId := by
  obtain ⟨transaction, processed⟩ := paymentStep_eq_some taken
  rcases exists_newTransaction processed with ⟨rfl, -⟩ | ⟨⟨written⟩⟩
  · exact nonneg
  · rw [written.completedPaidAmount]
    split_ifs with own
    · subst own
      exact (written.nonneg_iff nonneg).mpr guarded
    · omega

theorem reaches_nonneg {guard : PaymentState -> PaymentEnvironment × PaymentCall -> Prop}
    {start finish : PaymentState}
    (nonneg : 0 ≤ start.ledger.completedPaidAmount reservationId)
    (guarded : ∀ state event, guard state event -> RefundGuarded reservationId state event)
    (reached : Reaches paymentStep guard start finish) :
    0 ≤ finish.ledger.completedPaidAmount reservationId := by
  induction reached with
  | refl => exact nonneg
  | next _ allowed taken ih =>
    exact paymentStep_nonneg ih (guarded _ _ allowed) taken

/-- Over any run of calls the completed net of a reservation stays within its
total and adjustments, and the refunds of each payment within its tender less
its rounding credit; the completed net stays nonnegative when every principal
refund of the reservation is guarded. -/
theorem reaches_collection_limits {guard : PaymentState -> PaymentEnvironment × PaymentCall -> Prop}
    {start finish : PaymentState} {reservationId bound : Int}
    (total : start.collectibleTotal reservationId = some bound)
    (nonneg : 0 ≤ start.ledger.completedPaidAmount reservationId)
    (atMost : start.ledger.completedPaidAmount reservationId ≤ bound)
    (reached : Reaches paymentStep guard start finish) :
    finish.collectibleTotal reservationId = some bound ∧
      finish.ledger.completedPaidAmount reservationId ≤ bound ∧
      SourcesCovered start.ledger reservationId finish.ledger ∧
      ((∀ state event, guard state event -> RefundGuarded reservationId state event) ->
        0 ≤ finish.ledger.completedPaidAmount reservationId) := by
  have initial : WithinLimits start.ledger reservationId bound start :=
    ⟨total, atMost, fun _ _ _ _ _ => .inr rfl⟩
  have limits : WithinLimits start.ledger reservationId bound finish :=
    reached.invariant initial fun within _ taken => within.step taken
  exact ⟨limits.total, limits.atMost, limits.sources, fun guarded =>
    reaches_nonneg nonneg guarded reached⟩

end

theorem reaches_collection_limits_sample :
    ∃ finish, Reaches paymentStep (RefundGuarded 7) (directState 0 (by decide)) finish ∧
      finish.ledger.completedPaidAmount 7 ≤ 10000 ∧
      0 ≤ finish.ledger.completedPaidAmount 7 := by
  have processed : ∃ finish transaction, processPayment quietEnvironment (directState 0 (by decide))
        cardPayment = .ok (finish, transaction) := ⟨_, _, rfl⟩
  obtain ⟨finish, transaction, processed⟩ := processed
  have taken : paymentStep (directState 0 (by decide))
      (quietEnvironment, cardPayment) = some finish := by
    unfold paymentStep
    rw [processed]
  have reached : Reaches paymentStep (RefundGuarded 7) (directState 0 (by decide)) finish := by
    apply Reaches.refl.next _ taken
    intro _ refund
    cases refund
  have total : (directState 0 (by decide)).collectibleTotal 7 = some 10000 :=
    rfl
  obtain ⟨-, atMost, -, nonneg⟩ := reaches_collection_limits total (by decide) (by decide) reached
  exact ⟨finish, reached, atMost, nonneg fun _ _ allowed => allowed⟩

/-- Chilean pesos convert at 0.00105 dollars. -/
def pesoEnvironment : PaymentEnvironment where
  now := 0
  today := 0
  decodeToken := fun _ => none
  conversionRate := fun fromCurrency toCurrency =>
    if fromCurrency = "CLP" ∧ toCurrency = "USD" then
      .ok (105 / 100000, none)
    else .error "sin cotización"
  floatValue := id

/-- An agency's reservation of 100.00 dollars with 50.00 confirmed, and an
open drawer in Chilean pesos. -/
def agencyState : PaymentState :=
  stateOf
    { id := 7, currencyCode := "USD", totalAmount := 10000, sourceProviderCode := some "booking"
      externalPaidAmount := 5000, externalPaidCurrency := some "USD"
      externalPaidConfirmed := true }
    [{ id := 1, currencyCode := "CLP" }]

/-- A card payment of 14.29 pesos, worth two cents. -/
def pesoPayment : PaymentCall where
  request :=
    { reservationId := 7, amount := 1429, paymentMethod := .creditCard
      transactionType := .partialPayment, currency := some "CLP" }
  manualConfirmation := true

def pesoRefund : PaymentCall where
  request :=
    { reservationId := 7, amount := 358, paymentMethod := .cash, transactionType := .refund
      currency := some "CLP", refundOfTransactionId := some 1, refundReason := some "ajuste" }

/-- Three refunds within their payment return a cent more than was collected:
the agency's credit covers it. -/
theorem refunds_overdraw_completed_net :
    agencyState.ledger.completedPaidAmount 7 = 0 ∧ agencyState.collectibleTotal 7 = some 10000 ∧
      (run paymentStep agencyState [(pesoEnvironment, pesoPayment), (pesoEnvironment, pesoRefund),
            (pesoEnvironment, pesoRefund), (pesoEnvironment, pesoRefund)]).map
        (·.ledger.completedPaidAmount 7) = some (-1) := by
  decide +kernel

end HotelPms.Payments
