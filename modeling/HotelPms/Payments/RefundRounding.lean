import HotelPms.Payments.Collection

/-!
# Rounding of refunds in another currency

Each principal refund of a payment in another currency is converted at the
ratio of the payment and rounded to cents on its own.  Once the whole tender
is back, the refunds add up to the payment within half a cent each.
-/

namespace HotelPms.Payments

open Checked Decimal Transition

/-- Completed principal refunds of a payment. -/
def Ledger.principalRefunds (ledger : Ledger) (source : Transaction) : List Transaction :=
  (ledger.forReservation source.reservationId).filter (·.IsPrincipalRefundOf source.id)

/-- A refund differs from its exact share of the payment by at most half a
cent. -/
theorem refundEquivalent_near {source : Transaction} {tender : Int}
    (received : 0 < source.principalTender) (applied : 0 < source.amount)
    (appliedDigits : source.amount < 10 ^ 12)
    (nonneg : 0 ≤ tender) (tenderDigits : tender < 10 ^ 12) :
    2 * |refundEquivalent source tender * source.principalTender -
      tender * source.amount| ≤ source.principalTender := by
  have principal : (0 : ℚ) < source.principalTender := by
    exact_mod_cast received
  have amount : (0 : ℚ) < source.amount := by exact_mod_cast applied
  have tenderNonneg : (0 : ℚ) ≤ tender := by exact_mod_cast nonneg
  have near := abs_inContext_div_inContext_sub_le (div_pos principal amount) tenderNonneg
  have rounded := abs_roundHalfEven_sub_le (inContext (tender /
    inContext ((source.principalTender : ℚ) / source.amount)))
  have isRounded : refundEquivalent source tender = roundHalfEven (inContext (tender /
        inContext ((source.principalTender : ℚ) / source.amount))) := by
    unfold refundEquivalent quantize
    rw [pow_zero, mul_one]
  have share : (tender : ℚ) / (source.principalTender / source.amount) *
      source.principalTender = tender * source.amount := by
    field_simp
  have shareSmall : (tender : ℚ) * source.amount ≤ 10 ^ 12 * 10 ^ 12 := by
    apply mul_le_mul _ _ amount.le (by norm_num)
    · exact_mod_cast tenderDigits.le
    · exact_mod_cast appliedDigits.le
  rw [← isRounded] at rounded
  set quotient := inContext (tender / inContext ((source.principalTender : ℚ) / source.amount))
  set exact := (tender : ℚ) / (source.principalTender / source.amount)
  have distance : |(refundEquivalent source tender : ℚ) - exact| ≤ 1 / 2 + 4 * exact / 10 ^ 27 := by
    have := abs_sub_le (refundEquivalent source tender : ℚ) quotient exact
    linarith
  have scaled : |(refundEquivalent source tender : ℚ) *
      source.principalTender - tender * source.amount| ≤
      source.principalTender / 2 + 4 * (tender * source.amount) / 10 ^ 27 := by
    rw [← share, ← sub_mul, abs_mul, abs_of_pos principal]
    have := mul_le_mul_of_nonneg_right distance principal.le
    linarith
  -- twice the distance is a whole number below the tender plus one
  have strict : 2 * |(refundEquivalent source tender : ℚ) *
      source.principalTender - tender * source.amount| <
      source.principalTender + 1 := by
    linarith
  have whole : 2 * |refundEquivalent source tender *
      source.principalTender - tender * source.amount| <
      source.principalTender + 1 := by
    exact_mod_cast strict
  omega

variable {env : PaymentEnvironment} {state after : PaymentState}
  {call : PaymentCall} {transaction source : Transaction}
  {event : PaymentEnvironment × PaymentCall}

theorem NewTransaction.refundAllocations_nil
    (written : NewTransaction env state call after transaction)
    (refunds : transaction.IsPrincipalRefundOf source.id)
    (unallocated : ∀ allocation ∈ state.ledger.allocations, allocation.transactionId ≠ source.id) :
    call.request.companyNightChargeRefundAllocations = [] := by
  obtain ⟨sourceIs, refund, principal, -⟩ := refunds
  have columns := written.columns
  rw [columns.source] at sourceIs
  rw [columns.isRefund] at refund
  rw [columns.component] at principal
  obtain ⟨_, frozen, applied, amount, nights, -, -, isSource, -, areNights, -, -⟩ := written.parts
  obtain ⟨payment, rfl, found⟩ := sourceOfCall_refund refund isSource
  have named : payment.id = source.id :=
    Option.some.inj (found.named.symm.trans sourceIs)
  have noNights : ∀ charges reservation,
      sourceNights state.ledger charges reservation payment.id = [] := by
    intro charges reservation
    have none : state.ledger.allocations.filter (fun row =>
        row.transactionId = payment.id) = [] := by
      apply List.filter_eq_nil_iff.mpr
      intro row member
      rw [named]
      simpa using unallocated row member
    unfold sourceNights Ledger.nightAllocations
    rw [none]
    rfl
  have notCredit : ¬call.request.refundComponent = .roundingCredit := by
    rw [principal]
    decide
  unfold nightsOfCall refundNights prepareCompanyNightChargeRefund at areNights
  simp only [if_neg notCredit, noNights, if_true, bind_eq_ok, raiseIf_eq_ok, not_not] at areNights
  obtain ⟨-, ⟨-, none, -⟩, -⟩ := areNights
  exact none

/-- The refunds of a payment in another currency are at its ratio. -/
structure AtSourceRatio (source : Transaction) (state : PaymentState) :
    Prop where
  stored : source ∈ state.ledger.transactions
  unallocated : ∀ allocation ∈ state.ledger.allocations, allocation.transactionId ≠ source.id
  crossCurrency : ∀ reservation, state.reservations source.reservationId = some reservation ->
      source.tenderCode ≠ reservation.currency
  converted : ∀ row ∈ state.ledger.principalRefunds source,
    0 < row.tender ∧ row.amount = refundEquivalent source row.tender

theorem NewTransaction.atSourceRatio (written : NewTransaction env state call after transaction)
    (holds : AtSourceRatio source state) : AtSourceRatio source after := by
  have columns := written.columns
  have flushed := written.flushed
  refine ⟨?_, ?_, ?_, ?_⟩
  · rw [flushed.transactions]
    exact List.mem_cons_of_mem _ holds.stored
  · rw [flushed.allocations]
    intro allocation member
    rcases List.mem_append.mp member with fresh | stored
    · obtain ⟨night, -, rfl⟩ := List.mem_map.mp fresh
      have := state.ledger.idsBelow source holds.stored
      rw [flushed.isNext]
      exact this.ne'
    · exact holds.unallocated allocation stored
  · intro reservation isReservation
    rw [written.reservations] at isReservation
    by_cases own : source.reservationId = call.request.reservationId
    · rw [own, Function.update_self] at isReservation
      cases isReservation
      rw [written.isSettled.currency]
      exact holds.crossCurrency _ (own ▸ written.stored)
    · rw [Function.update_of_ne own] at isReservation
      exact holds.crossCurrency _ isReservation
  · intro row member
    obtain ⟨ofReservation, refunds⟩ := List.mem_filter.mp member
    obtain ⟨inLedger, own⟩ := List.mem_filter.mp ofReservation
    rw [decide_eq_true_eq] at refunds own
    rw [flushed.transactions, ← written.isDraft] at inLedger
    rcases List.mem_cons.mp inLedger with rfl | stored
    · have allocations :=
        written.refundAllocations_nil refunds holds.unallocated
      have refund := written.principalRefundOf holds.stored refunds
      have apart := holds.crossCurrency written.checked.reservation
        (by rw [← own, columns.reservationId]; exact written.stored)
      rw [columns.tender, refund.isAmount]
      refine ⟨(checkRequest_eq_ok.mp written.isChecked).positive, ?_⟩
      unfold principalRefundAmount
      simp only [allocations]
      rw [if_neg (·.1 rfl), if_neg apart]
    · apply holds.converted row
      exact List.mem_filter.mpr ⟨List.mem_filter.mpr
        ⟨stored, decide_eq_true own⟩, decide_eq_true refunds⟩

theorem AtSourceRatio.step (holds : AtSourceRatio source state)
    (taken : paymentStep state event = some after) :
    AtSourceRatio source after := by
  obtain ⟨transaction, processed⟩ := paymentStep_eq_some taken
  rcases exists_newTransaction processed with ⟨rfl, -⟩ | ⟨⟨written⟩⟩
  · exact holds
  · exact written.atSourceRatio holds

/-- Rows within a bound of their exact shares add up within its multiple. -/
theorem abs_sum_sub_le {rows : List Transaction} {principal amount bound : Int}
    (near : ∀ row ∈ rows, 2 * |row.amount * principal - row.tender * amount| ≤ bound) :
    2 * |(rows.map Transaction.amount).sum * principal -
      (rows.map Transaction.tender).sum * amount| ≤ rows.length * bound := by
  induction rows with
  | nil => simp
  | cons row rows ih =>
    have first := near row List.mem_cons_self
    have rest := ih fun other member => near other (List.mem_cons_of_mem row member)
    simp only [List.map_cons, List.sum_cons, List.length_cons, Nat.cast_succ]
    have split := abs_add_le (row.amount * principal - row.tender * amount)
      ((rows.map Transaction.amount).sum * principal - (rows.map Transaction.tender).sum * amount)
    have regrouped : (row.amount + (rows.map Transaction.amount).sum) *
        principal - (row.tender + (rows.map Transaction.tender).sum) * amount =
        row.amount * principal - row.tender * amount +
          ((rows.map Transaction.amount).sum * principal -
            (rows.map Transaction.tender).sum * amount) := by
      ring
    rw [regrouped]
    linarith

/-- Once refunds have returned the whole tender of a payment in another
currency, they add up to its amount within half a cent each, and exactly when
each of them is worth whole cents. -/
theorem reaches_refunds_near_amount {guard : PaymentState -> PaymentEnvironment × PaymentCall -> Prop}
    {start finish : PaymentState}
    (stored : source ∈ start.ledger.transactions)
    (applied : 0 < source.amount) (appliedDigits : source.amount < 10 ^ 12)
    (received : 0 < source.tender) (tenderDigits : source.tender < 10 ^ 12)
    (noCredit : source.roundingCreditAmount = 0)
    (noNights : ∀ allocation ∈ start.ledger.allocations, allocation.transactionId ≠ source.id)
    (crossCurrency : ∀ reservation, start.reservations source.reservationId = some reservation ->
        source.tenderCode ≠ reservation.currency)
    (unrefunded : start.ledger.principalRefunds source = [])
    (reached : Reaches paymentStep guard start finish)
    (returned : ((finish.ledger.principalRefunds source).map
      Transaction.tender).sum = source.tender) :
    2 * |((finish.ledger.principalRefunds source).map Transaction.amount).sum - source.amount| ≤
      (finish.ledger.principalRefunds source).length ∧
    ((∀ row ∈ finish.ledger.principalRefunds source, source.tender ∣ row.tender * source.amount) ->
      ((finish.ledger.principalRefunds source).map Transaction.amount).sum = source.amount) := by
  have initial : AtSourceRatio source start :=
    ⟨stored, noNights, crossCurrency, by simp [unrefunded]⟩
  have ratio : AtSourceRatio source finish :=
    reached.invariant initial fun holds _ taken => holds.step taken
  have principal : source.principalTender = source.tender := by
    unfold Transaction.principalTender
    omega
  have near : ∀ row ∈ finish.ledger.principalRefunds source,
      2 * |row.amount * source.tender - row.tender * source.amount| ≤ source.tender := by
    intro row member
    obtain ⟨positive, isAmount⟩ := ratio.converted row member
    have within : row.tender ≤ source.tender := by
      rw [← returned]
      apply List.single_le_sum _ _ (List.mem_map_of_mem member)
      intro tender isTender
      obtain ⟨other, otherIn, rfl⟩ := List.mem_map.mp isTender
      exact (ratio.converted other otherIn).1.le
    rw [isAmount, ← principal]
    exact refundEquivalent_near (principal ▸ received) applied appliedDigits
      positive.le (within.trans_lt tenderDigits)
  constructor
  · have total := abs_sum_sub_le near
    rw [returned, mul_comm source.tender, ← sub_mul, abs_mul,
      abs_of_pos received, ← mul_assoc] at total
    exact le_of_mul_le_mul_right total received
  · intro whole
    have exact : ∀ row ∈ finish.ledger.principalRefunds source,
        2 * |row.amount * source.tender - row.tender * source.amount| ≤
          0 := by
      intro row member
      have close := near row member
      obtain ⟨share, isShare⟩ := whole row member
      rw [isShare, mul_comm source.tender, ← sub_mul, abs_mul, abs_of_pos received] at close ⊢
      have small : 2 * |row.amount - share| ≤ 1 := by
        apply le_of_mul_le_mul_right _ received
        linarith
      have none : |row.amount - share| = 0 := by
        have := abs_nonneg (row.amount - share)
        omega
      rw [none, zero_mul, mul_zero]
    have total := abs_sum_sub_le exact
    rw [returned, mul_comm source.tender, ← sub_mul, mul_zero] at total
    have none : |(((finish.ledger.principalRefunds source).map
        Transaction.amount).sum - source.amount) * source.tender| = 0 := by
      have := abs_nonneg ((((finish.ledger.principalRefunds source).map
        Transaction.amount).sum - source.amount) * source.tender)
      omega
    rcases mul_eq_zero.mp (abs_eq_zero.mp none) with same | absent
    · exact sub_eq_zero.mp same
    · omega

def pesoRefundOf (amount : Int) : PaymentEnvironment × PaymentCall :=
  (pesoEnvironment, { pesoRefund with request := { pesoRefund.request with amount } })

theorem reaches_refunds_near_amount_pesos : ∃ start source finish,
      run paymentStep agencyState [(pesoEnvironment, pesoPayment)] = some start ∧
      run paymentStep start [pesoRefundOf 1429] = some finish ∧
      2 * |((finish.ledger.principalRefunds source).map Transaction.amount).sum - source.amount| ≤
        (finish.ledger.principalRefunds source).length := by
  have ran : (run paymentStep agencyState [(pesoEnvironment, pesoPayment)]).any (fun start =>
        start.ledger.transactions.any fun source =>
          (run paymentStep start [pesoRefundOf 1429]).any fun finish =>
            (0 < source.amount ∧ source.amount < 10 ^ 12 ∧
              0 < source.tender ∧ source.tender < 10 ^ 12 ∧
              source.roundingCreditAmount = 0) ∧
              (∀ allocation ∈ start.ledger.allocations, allocation.transactionId ≠ source.id) ∧
              (start.reservations source.reservationId).all (fun row =>
                decide (source.tenderCode ≠ row.currency)) ∧
              (start.ledger.principalRefunds source).length = 0 ∧
              ((finish.ledger.principalRefunds source).map
                Transaction.tender).sum = source.tender) = true := by
    decide +kernel
  obtain ⟨start, isStart, ran⟩ := (Option.any_eq_true _ _).mp ran
  obtain ⟨source, stored, ran⟩ := List.any_eq_true.mp ran
  obtain ⟨finish, isFinish, ran⟩ := (Option.any_eq_true _ _).mp ran
  obtain ⟨⟨applied, appliedDigits, received, tenderDigits, noCredit⟩,
    noNights, currencies, unrefunded, returned⟩ := decide_eq_true_eq.mp ran
  have crossCurrency : ∀ reservation, start.reservations source.reservationId = some reservation ->
        source.tenderCode ≠ reservation.currency := by
    intro reservation isReservation
    rw [isReservation] at currencies
    exact decide_eq_true_eq.mp currencies
  have guarded : Guarded paymentStep (fun _ _ => True) start
      [pesoRefundOf 1429] := guarded_of_forall (fun _ _ => trivial) _ _
  have reached := reaches_of_run guarded isFinish
  exact ⟨start, source, finish, isStart, isFinish,
    (reaches_refunds_near_amount stored applied appliedDigits received
      tenderDigits noCredit noNights crossCurrency
      (List.length_eq_zero_iff.mp unrefunded) reached returned).1⟩

/-- In three parts, the refunds of two cents add up to three. -/
theorem refunds_exceed_payment : (run paymentStep agencyState [(pesoEnvironment, pesoPayment),
        pesoRefundOf 476, pesoRefundOf 476, pesoRefundOf 477]).map
      (fun finish => finish.ledger.transactions.map fun row =>
        (decide row.IsRefund, row.tender, row.amount)) =
    some [(true, 477, 1), (true, 476, 1), (true, 476, 1), (false, 1429, 2)] := by
  decide +kernel

end HotelPms.Payments
