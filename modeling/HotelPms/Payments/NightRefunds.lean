import HotelPms.Foundation.GroupSum
import HotelPms.Payments.Collection

/-!
# Refunds of company nights

A payment of extra nights is refunded night by night.  Refunds from before
nights were named are spread over the nights of their source in proportion, and
the share of each night is rounded to the cent.  No night ever returns more
than it received; the refunds of a payment stay within it as long as the
rounded shares make up for the refunds they stand for.
-/

namespace HotelPms.Payments

open Checked Decimal GroupSum Transition

section Nights

variable (ledger : Ledger) (charges : List CompanyNightCharge) (reservation : ReservationFinancials)

/-- Rounded share of a night in the refunds that name no nights. -/
def legacyShare (sourceId sourceAmount original : Int) : Int :=
  quantizeHalfUp 0 (inContext (original * legacyRatio ledger reservation sourceId sourceAmount))

/-- Completed refunds of a source payment that name no nights. -/
def legacyRefunds (sourceId : Int) : Int :=
  (((completedRefunds ledger reservation sourceId).filter fun row =>
    !explicitlyAllocated ledger row.id).map Transaction.amount).sum

/-- Applied amounts of the completed refunds of a source payment. -/
def appliedRefunds (sourceId : Int) : Int :=
  ((completedRefunds ledger reservation sourceId).map Transaction.amount).sum

/-- Nights named by the completed refunds of a source payment. -/
def refundRows (sourceId : Int) : List (Int × Int) :=
  (completedRefunds ledger reservation sourceId).flatMap (ledger.nightAllocations ·.id)

/-- A source payment whose whole amount is assigned to nights of its
reservation, each once, in amounts the columns hold. -/
structure FullyAllocated (source : Transaction) : Prop where
  stored : source ∈ ledger.transactions
  own : source.reservationId = reservation.id
  payment : ¬source.IsRefund
  someNight : sourceNights ledger charges reservation source.id ≠ []
  distinct : ((sourceNights ledger charges reservation source.id).map Prod.fst).Nodup
  fits : ∀ night ∈ sourceNights ledger charges reservation source.id,
    0 < night.2 ∧ night.2 < 10 ^ 12
  whole : ((sourceNights ledger charges reservation source.id).map Prod.snd).sum = source.amount

/-- What the refunds of a source payment keep: no night returns more than it
received, only its nights are named, and every refund returns what it names. -/
structure NightsCovered (source : Transaction) : Prop where
  covered : ∀ night ∈ sourceNights ledger charges reservation source.id,
    refundedOnCharge ledger reservation source.id night.1 +
        legacyShare ledger reservation source.id source.amount night.2 ≤
      night.2
  named : ∀ row ∈ refundRows ledger reservation source.id,
    row.1 ∈ (sourceNights ledger charges reservation source.id).map Prod.fst
  balanced : appliedRefunds ledger reservation source.id =
    legacyRefunds ledger reservation source.id +
      ((refundRows ledger reservation source.id).map Prod.snd).sum

variable {ledger charges reservation}

theorem refundedOnCharge_eq_totalOf (sourceId chargeId : Int) :
    refundedOnCharge ledger reservation sourceId chargeId =
      totalOf Prod.fst Prod.snd (refundRows ledger reservation sourceId)
        chargeId := by
  have fold : ∀ (rows : List (Int × Int)) (start : Int),
      rows.foldl (fun total night => total + night.2) start = start + (rows.map Prod.snd).sum := by
    intro rows
    induction rows with
    | nil => simp
    | cons row rows ih =>
      intro start
      rw [List.foldl_cons, ih, List.map_cons, List.sum_cons]
      omega
  unfold refundedOnCharge totalOf refundRows
  rw [fold, zero_add]

theorem legacyRatio_le_one (sourceId sourceAmount : Int) :
    legacyRatio ledger reservation sourceId sourceAmount ≤ 1 := by
  unfold legacyRatio
  split_ifs
  · exact min_le_left _ _
  · exact zero_le_one

/-- The share of a night is at most what the night received. -/
theorem legacyShare_le (ledger : Ledger) (reservation : ReservationFinancials)
    (sourceId sourceAmount : Int) {original : Int} (nonneg : 0 ≤ original)
    (fits : original < 10 ^ 12) :
    legacyShare ledger reservation sourceId sourceAmount original ≤
      original := by
  apply quantizeHalfUp_le
  apply inContext_le nonneg (by omega)
  have cast : (0 : ℚ) ≤ original := by exact_mod_cast nonneg
  calc (original : ℚ) * legacyRatio ledger reservation sourceId sourceAmount
      ≤ original * 1 := mul_le_mul_of_nonneg_left (legacyRatio_le_one sourceId sourceAmount) cast
    _ = original := mul_one _

variable {source : Transaction}

theorem FullyAllocated.nightsCovered (allocated : FullyAllocated ledger charges reservation source)
    (earlier : ∀ row ∈ completedRefunds ledger reservation source.id,
      explicitlyAllocated ledger row.id = false) :
    NightsCovered ledger charges reservation source := by
  have unnamed : refundRows ledger reservation source.id = [] := by
    apply List.flatMap_eq_nil_iff.mpr
    intro row member
    have none := earlier row member
    unfold explicitlyAllocated at none
    rw [List.any_eq_false] at none
    unfold Ledger.nightAllocations
    rw [List.map_eq_nil_iff, List.filter_eq_nil_iff]
    exact none
  refine ⟨?_, ?_, ?_⟩
  · intro night member
    obtain ⟨positive, fits⟩ := allocated.fits night member
    rw [refundedOnCharge_eq_totalOf, unnamed]
    have share := legacyShare_le ledger reservation source.id source.amount positive.le fits
    simpa [totalOf] using share
  · intro row member
    rw [unnamed] at member
    cases member
  · have all : ((completedRefunds ledger reservation source.id).filter
        (!explicitlyAllocated ledger ·.id)) = completedRefunds ledger reservation source.id := by
      apply List.filter_eq_self.mpr
      intro row member
      rw [earlier row member]
      rfl
    unfold appliedRefunds legacyRefunds
    rw [all, unnamed]
    simp

theorem NightsCovered.applied_le (covered : NightsCovered ledger charges reservation source)
    (allocated : FullyAllocated ledger charges reservation source)
    (shares : legacyRefunds ledger reservation source.id ≤
      ((sourceNights ledger charges reservation source.id).map fun night =>
        legacyShare ledger reservation source.id source.amount night.2).sum) :
    appliedRefunds ledger reservation source.id ≤ source.amount := by
  have named := sum_totalOf Prod.fst Prod.snd _ allocated.distinct covered.named
  have nights := List.sum_le_sum covered.covered
  rw [List.sum_map_add] at nights
  simp only [refundedOnCharge_eq_totalOf] at nights
  rw [List.map_map] at named
  have whole := allocated.whole
  have balanced := covered.balanced
  have sameSum : ((sourceNights ledger charges reservation source.id).map
      fun night => totalOf Prod.fst Prod.snd
        (refundRows ledger reservation source.id) night.1).sum =
      ((refundRows ledger reservation source.id).map Prod.snd).sum := named
  omega

/-! ## What a transaction changes in the refunds -/

/-- Effect of a transaction on the refunds of a source payment: it returns
the selected nights, each once and within what is left of it, and leaves the
refunds without nights as they were. -/
structure RefundStep
    (charges : List CompanyNightCharge)
    (reservation : ReservationFinancials)
    (source : Transaction)
    (before after : Ledger)
    (selected : List (Int × Int)) : Prop where
  nights : sourceNights after charges reservation source.id =
    sourceNights before charges reservation source.id
  rows : refundRows after reservation source.id =
    selected ++ refundRows before reservation source.id
  legacy : legacyRefunds after reservation source.id = legacyRefunds before reservation source.id
  applied : appliedRefunds after reservation source.id =
    appliedRefunds before reservation source.id + (selected.map Prod.snd).sum
  distinct : (selected.map Prod.fst).Nodup
  available : ∀ night ∈ selected, night.1 ∈ (sourceNights before charges reservation source.id).map
        Prod.fst ∧
      0 < night.2 ∧
      night.2 ≤ refundableOnCharge before reservation source.id source.amount
        night.1 (((sourceNights before charges reservation source.id).lookup night.1).getD 0)

theorem legacyShare_congr {first second : Ledger} {sourceId : Int}
    (same : legacyRefunds first reservation sourceId = legacyRefunds second reservation sourceId)
    (sourceAmount original : Int) :
    legacyShare first reservation sourceId sourceAmount original =
      legacyShare second reservation sourceId sourceAmount original := by
  have ratio : legacyRatio first reservation sourceId sourceAmount =
      legacyRatio second reservation sourceId sourceAmount := by
    change (if 0 < sourceAmount then
      min 1 (inContext ((legacyRefunds first reservation sourceId : ℚ) / sourceAmount))
      else 0) = _
    rw [same]
    rfl
  unfold legacyShare
  rw [ratio]

theorem RefundStep.nightsCovered {before after : Ledger} {selected : List (Int × Int)}
    (step : RefundStep charges reservation source before after selected)
    (distinct : ((sourceNights before charges reservation source.id).map Prod.fst).Nodup)
    (covered : NightsCovered before charges reservation source) :
    NightsCovered after charges reservation source := by
  refine ⟨?_, ?_, ?_⟩
  · intro night member
    rw [step.nights] at member
    have before' := covered.covered night member
    rw [refundedOnCharge_eq_totalOf] at before'
    rw [refundedOnCharge_eq_totalOf, step.rows, totalOf_append, legacyShare_congr step.legacy]
    by_cases chosen : night.1 ∈ selected.map Prod.fst
    · obtain ⟨pick, pickIn, same⟩ := List.mem_map.mp chosen
      obtain ⟨-, positive, available⟩ := step.available pick pickIn
      have picked := totalOf_of_mem_distinct Prod.fst Prod.snd step.distinct pickIn
      rw [same] at picked available
      rw [lookup_of_mem_distinct distinct member, Option.getD_some] at available
      unfold refundableOnCharge at available
      rw [refundedOnCharge_eq_totalOf] at available
      change pick.2 ≤ max 0 (night.2 - _ - legacyShare before reservation
        source.id source.amount night.2) at available
      omega
    · rw [totalOf_eq_zero chosen]
      omega
  · intro row member
    rw [step.rows] at member
    rw [step.nights]
    rcases List.mem_append.mp member with new | old
    · exact (step.available row new).1
    · exact covered.named row old
  · rw [step.applied, step.legacy, step.rows, List.map_append, List.sum_append, covered.balanced]
    omega

theorem prepareCompanyNightChargeRefund_eq_some {amount : Int}
    {refundAllocations : List (Int × Int)} {plan : Option (List (Int × Int))}
    (someNight : sourceNights ledger charges reservation source.id ≠ [])
    (prepared : prepareCompanyNightChargeRefund ledger charges reservation
      source amount refundAllocations = .ok plan) :
    ∃ nights, plan = some nights ∧ nights.Perm refundAllocations ∧ refundAllocations ≠ [] ∧
      |(refundAllocations.map Prod.snd).sum - amount| ≤ 1 ∧
      ∀ night ∈ refundAllocations,
        night.1 ∈ (sourceNights ledger charges reservation source.id).map Prod.fst ∧
          night.2 ≤ refundableOnCharge ledger reservation source.id
            source.amount night.1 (((sourceNights ledger charges reservation
              source.id).lookup night.1).getD 0) := by
  unfold prepareCompanyNightChargeRefund at prepared
  simp only [if_neg someNight, bind_eq_ok, raiseIf_eq_ok, pure_eq_ok,
    forM_eq_ok, not_lt, not_exists, not_and, not_not] at prepared
  obtain ⟨-, -, -, given, -, close, -, known, -, within, rfl⟩ := prepared
  refine ⟨_, rfl, List.perm_insertionSort _ _, given, close, ?_⟩
  intro night member
  exact ⟨known night member, within night member⟩

end Nights

section Step

variable {env : PaymentEnvironment} {state after : PaymentState}
  {call : PaymentCall} {transaction source : Transaction}
  {reservation : ReservationFinancials}

theorem sourceNights_congr {ledger : Ledger} {charges : List CompanyNightCharge}
    {first second : ReservationFinancials}
    (same : first.id = second.id) (sourceId : Int) :
    sourceNights ledger charges first sourceId = sourceNights ledger charges second sourceId := by
  unfold sourceNights chargesOfReservation
  rw [same]

theorem refundableOnCharge_congr {ledger : Ledger} {first second : ReservationFinancials}
    (same : first.id = second.id) :
    refundableOnCharge ledger first = refundableOnCharge ledger second := by
  unfold refundableOnCharge legacyRatio refundedOnCharge completedRefunds
  rw [same]

theorem explicitlyAllocated_eq (ledger : Ledger) (transactionId : Int) :
    explicitlyAllocated ledger transactionId =
      !(ledger.nightAllocations transactionId).isEmpty := by
  unfold explicitlyAllocated Ledger.nightAllocations
  cases named : ledger.allocations.any fun row =>
      decide (row.transactionId = transactionId) with
  | false =>
    rw [List.any_eq_false] at named
    rw [List.filter_eq_nil_iff.mpr named]
    rfl
  | true =>
    obtain ⟨row, member, same⟩ := List.any_eq_true.mp named
    cases kept : ledger.allocations.filter fun row =>
        decide (row.transactionId = transactionId) with
    | nil => exact absurd same (List.filter_eq_nil_iff.mp kept row member)
    | cons => rfl

variable {before ledger : Ledger} {draft : PaymentDraft}

section

variable (flushed : Flushed before draft ledger)
include flushed

theorem Flushed.nightAllocations_of_ne
    {transactionId : Int} (differs : transactionId ≠ draft.transaction.id) :
    ledger.nightAllocations transactionId = before.nightAllocations transactionId := by
  unfold Ledger.nightAllocations
  rw [flushed.allocations, List.filter_append]
  have none : ((draft.nights.map fun night =>
      { transactionId := draft.transaction.id
        companyNightChargeId := night.1
        amount := night.2 : NightAllocation }).filter fun row =>
          row.transactionId = transactionId) = [] := by
    apply List.filter_eq_nil_iff.mpr
    intro row member
    obtain ⟨night, -, rfl⟩ := List.mem_map.mp member
    simpa using differs.symm
  rw [none, List.nil_append]

theorem Flushed.nightAllocations_self :
    ledger.nightAllocations draft.transaction.id = draft.nights := by
  unfold Ledger.nightAllocations
  have old : (before.allocations.filter fun row =>
      row.transactionId = draft.transaction.id) = [] := by
    apply List.filter_eq_nil_iff.mpr
    intro row member
    have below := before.allocationsBelow row member
    rw [← flushed.isNext] at below
    simpa using below.ne
  have new : ((draft.nights.map fun night =>
      { transactionId := draft.transaction.id
        companyNightChargeId := night.1
        amount := night.2 : NightAllocation }).filter fun row =>
          row.transactionId = draft.transaction.id) =
      draft.nights.map fun night =>
        { transactionId := draft.transaction.id
          companyNightChargeId := night.1
          amount := night.2 } := by
    apply List.filter_eq_self.mpr
    intro row member
    obtain ⟨night, -, rfl⟩ := List.mem_map.mp member
    exact decide_eq_true rfl
  rw [flushed.allocations, List.filter_append, new, old, List.append_nil, List.map_map]
  exact List.map_id _

/-- The transaction is a completed refund of a source payment. -/
def CountsAsRefund (transaction : Transaction)
    (reservation : ReservationFinancials) (sourceId : Int) : Prop :=
  transaction.reservationId = reservation.id ∧ transaction.refundOfTransactionId = some sourceId ∧
    transaction.IsRefund ∧ transaction.status = .completed
deriving Decidable

theorem Flushed.completedRefunds (reservation : ReservationFinancials) (sourceId : Int) :
    completedRefunds ledger reservation sourceId =
      if CountsAsRefund draft.transaction reservation sourceId then
        draft.transaction :: completedRefunds before reservation sourceId
      else completedRefunds before reservation sourceId := by
  unfold Payments.completedRefunds Ledger.forReservation CountsAsRefund
  rw [flushed.transactions, List.filter_filter, List.filter_filter, List.filter_cons]
  by_cases own : draft.transaction.reservationId = reservation.id
  · simp only [own, decide_true, Bool.and_true, decide_eq_true_eq, true_and]
  · simp only [own, decide_false, Bool.and_false, Bool.false_eq_true, if_false, false_and]

theorem Flushed.nightAllocations_of_refund {sourceId : Int} {row : Transaction}
    (member : row ∈ Payments.completedRefunds before reservation sourceId) :
    ledger.nightAllocations row.id = before.nightAllocations row.id := by
  apply flushed.nightAllocations_of_ne
  have below := before.idsBelow row (List.mem_filter.mp (List.mem_filter.mp member).1).1
  rw [flushed.isNext]
  omega

theorem Flushed.refundRows (reservation : ReservationFinancials) (sourceId : Int) :
    refundRows ledger reservation sourceId =
      (if CountsAsRefund draft.transaction reservation sourceId then
        draft.nights else []) ++
        refundRows before reservation sourceId := by
  have old : (Payments.completedRefunds before reservation sourceId).flatMap
      (ledger.nightAllocations ·.id) = Payments.refundRows before reservation sourceId :=
    List.flatMap_congr fun row member => flushed.nightAllocations_of_refund member
  unfold Payments.refundRows
  rw [flushed.completedRefunds]
  split_ifs
  · rw [List.flatMap_cons, flushed.nightAllocations_self, old]
    rfl
  · rw [old, List.nil_append]
    rfl

theorem Flushed.legacyRefunds (reservation : ReservationFinancials) (sourceId : Int) :
    legacyRefunds ledger reservation sourceId = legacyRefunds before reservation sourceId +
        (if CountsAsRefund draft.transaction reservation sourceId ∧
            draft.nights = [] then draft.transaction.amount else 0) := by
  have old : ((Payments.completedRefunds before reservation sourceId).filter
      (!explicitlyAllocated ledger ·.id)) =
        (Payments.completedRefunds before reservation sourceId).filter
          (!explicitlyAllocated before ·.id) := by
    apply List.filter_congr
    intro row member
    rw [explicitlyAllocated_eq, explicitlyAllocated_eq, flushed.nightAllocations_of_refund member]
  unfold Payments.legacyRefunds
  rw [flushed.completedRefunds, ite_and]
  split_ifs with counts none
  · rw [List.filter_cons, explicitlyAllocated_eq, flushed.nightAllocations_self, none, old]
    simp [Int.add_comm]
  · rw [List.filter_cons, explicitlyAllocated_eq, flushed.nightAllocations_self, old]
    simp [none]
  · rw [old, add_zero]

theorem Flushed.appliedRefunds (reservation : ReservationFinancials) (sourceId : Int) :
    appliedRefunds ledger reservation sourceId = appliedRefunds before reservation sourceId +
        (if CountsAsRefund draft.transaction reservation sourceId then
          draft.transaction.amount else 0) := by
  unfold Payments.appliedRefunds
  rw [flushed.completedRefunds]
  split_ifs
  · rw [List.map_cons, List.sum_cons, Int.add_comm]
  · rw [add_zero]

theorem Flushed.sourceNights
    (charges : List CompanyNightCharge) (reservation : ReservationFinancials)
    (stored : source ∈ before.transactions) :
    sourceNights ledger charges reservation source.id =
      sourceNights before charges reservation source.id := by
  have below := before.idsBelow source stored
  have earlier : source.id ≠ draft.transaction.id := by
    rw [flushed.isNext]
    omega
  unfold Payments.sourceNights
  rw [flushed.nightAllocations_of_ne earlier]

end

theorem NewTransaction.selectedNights (written : NewTransaction env state call after transaction)
    (refund : transaction.IsRefund)
    (principal : transaction.refundComponent = .payment)
    (named : transaction.refundOfTransactionId = some source.id)
    (stored : source ∈ state.ledger.transactions)
    (someNight : sourceNights state.ledger state.nightCharges
      written.checked.reservation source.id ≠ []) :
    written.draft.nights.Perm call.request.companyNightChargeRefundAllocations ∧
      written.draft.nights ≠ [] ∧
      transaction.amount = (written.draft.nights.map Prod.snd).sum ∧
      ∀ night ∈ written.draft.nights, night.1 ∈ (sourceNights state.ledger state.nightCharges
            written.checked.reservation source.id).map Prod.fst ∧
          night.2 ≤ refundableOnCharge state.ledger
            written.checked.reservation source.id source.amount night.1
            (((sourceNights state.ledger state.nightCharges
              written.checked.reservation source.id).lookup night.1).getD 0) := by
  have columns := written.columns
  rw [columns.isRefund] at refund
  have notCredit : ¬call.request.refundComponent = .roundingCredit := by
    rw [← columns.component, principal]
    exact RefundComponent.noConfusion
  obtain ⟨manual, found, applied, amount, nights, surcharge, receipt, -, isSource, -, areNights, -,
    -, isDraft⟩ := draftPayment_eq_ok written.drafted
  obtain ⟨payment, rfl, passed⟩ := sourceOfCall_refund refund isSource
  have same : payment = source := by
    apply List.inj_on_of_nodup_map state.ledger.distinctIds passed.member stored
    rw [columns.source, passed.named] at named
    exact Option.some.inj named
  subst same
  have drafted : written.draft.nights = nights :=
    congrArg PaymentDraft.nights isDraft
  have isAmount : transaction.amount = amount :=
    congrArg Transaction.amount (written.isDraft.trans (congrArg PaymentDraft.transaction isDraft))
  simp only [nightsOfCall, if_neg notCredit] at areNights
  obtain ⟨plan, prepared, result⟩ := bind_eq_ok.mp areNights
  obtain ⟨rows, rfl, permuted, given, close, within⟩ :=
    prepareCompanyNightChargeRefund_eq_some someNight prepared
  obtain ⟨total, rfl⟩ := Prod.mk.inj (pure_eq_ok.mp result)
  have sameTotal := (permuted.map Prod.snd).sum_eq
  have someRow : rows ≠ [] := fun empty => given (empty ▸ permuted).symm.eq_nil
  rw [if_pos ⟨someRow, sameTotal ▸ close⟩] at total
  rw [drafted, isAmount]
  exact ⟨permuted, someRow, total.symm, fun night member =>
    within night (permuted.mem_iff.mp member)⟩

theorem NewTransaction.creditRefund_nights
    (written : NewTransaction env state call after transaction)
    (refund : transaction.IsRefund)
    (credit : transaction.refundComponent = .roundingCredit) :
    written.draft.nights = [] := by
  have columns := written.columns
  rw [columns.isRefund] at refund
  rw [columns.component] at credit
  obtain ⟨manual, found, applied, amount, nights, surcharge, receipt, -, isSource, -, areNights, -,
    -, isDraft⟩ := draftPayment_eq_ok written.drafted
  obtain ⟨payment, rfl, -⟩ := sourceOfCall_refund refund isSource
  simp only [nightsOfCall, if_pos credit] at areNights
  cases areNights
  exact congrArg PaymentDraft.nights isDraft

section

variable (written : NewTransaction env state call after transaction)
  (allocated : FullyAllocated state.ledger state.nightCharges reservation source)
include written allocated

theorem NewTransaction.refundStep :
    ∃ selected, RefundStep state.nightCharges reservation source state.ledger
        after.ledger selected ∧
      (selected ≠ [] -> CountsAsRefund transaction reservation source.id ∧
        transaction.refundComponent = .payment ∧ selected.Perm
          call.request.companyNightChargeRefundAllocations) := by
  have rows := written.flushed.refundRows reservation source.id
  have legacy := written.flushed.legacyRefunds reservation source.id
  have applied := written.flushed.appliedRefunds reservation source.id
  have nights := written.flushed.sourceNights state.nightCharges reservation allocated.stored
  rw [← written.isDraft] at rows legacy applied
  by_cases counts : CountsAsRefund transaction reservation source.id
  · rw [if_pos counts] at rows applied
    obtain ⟨own, named, refund, completed⟩ := counts
    cases component : transaction.refundComponent with
    | payment =>
      have same : written.checked.reservation.id = reservation.id := by
        rw [written.reservationId, ← written.columns.reservationId, own]
      have someNight := allocated.someNight
      rw [← sourceNights_congr same] at someNight
      obtain ⟨permuted, someRow, total, within⟩ := written.selectedNights
        refund component named allocated.stored someNight
      rw [sourceNights_congr same, refundableOnCharge_congr same] at within
      refine ⟨written.draft.nights, ?_, fun _ => ⟨⟨own, named, refund, completed⟩, rfl, permuted⟩⟩
      refine ⟨nights, rows, ?_, ?_, ?_, ?_⟩
      · rw [legacy, if_neg (someRow ·.2), add_zero]
      · rw [applied, total]
      · exact (permuted.map Prod.fst).nodup_iff.mpr call.request.refundNightsDistinct
      · intro night member
        exact ⟨(within night member).1, call.request.refundAmountsPositive night
            (permuted.mem_iff.mp member), (within night member).2⟩
    | roundingCredit =>
      have none := written.creditRefund_nights refund component
      have nothing := written.creditRefund component
      rw [none] at rows
      rw [nothing, ite_self, add_zero] at legacy
      refine ⟨[], ⟨nights, rows, legacy, ?_, List.nodup_nil, ?_⟩, ?_⟩
      · rw [applied, nothing, List.map_nil, List.sum_nil]
      · intro night member
        cases member
      · intro some
        exact absurd rfl some
  · rw [if_neg counts, List.nil_append] at rows
    rw [if_neg counts, add_zero] at applied
    rw [if_neg (counts ·.1), add_zero] at legacy
    refine ⟨[], ⟨nights, rows, legacy, ?_, List.nodup_nil, ?_⟩, ?_⟩
    · rw [applied, List.map_nil, List.sum_nil, add_zero]
    · intro night member
      cases member
    · intro some
      exact absurd rfl some

theorem NewTransaction.fullyAllocated :
    FullyAllocated after.ledger state.nightCharges reservation source := by
  have nights := written.flushed.sourceNights state.nightCharges reservation allocated.stored
  refine ⟨?_, allocated.own, allocated.payment, ?_, ?_, ?_, ?_⟩
  · rw [written.flushed.transactions]
    exact List.mem_cons_of_mem _ allocated.stored
  · rw [nights]
    exact allocated.someNight
  · rw [nights]
    exact allocated.distinct
  · rw [nights]
    exact allocated.fits
  · rw [nights]
    exact allocated.whole

theorem NewTransaction.nightsCovered
    (covered : NightsCovered state.ledger state.nightCharges reservation source) :
    NightsCovered after.ledger state.nightCharges reservation source := by
  obtain ⟨selected, step, -⟩ := written.refundStep allocated
  exact step.nightsCovered allocated.distinct covered

/-- Guard of the refunds of a payment of nights.  Either the rounded shares
of its nights make up for the refunds that name none, or the request selects
at most what the refunds have left of the payment. -/
def SelectionCovered (reservation : ReservationFinancials)
    (source : Transaction) (state : PaymentState)
    (event : PaymentEnvironment × PaymentCall) : Prop :=
  event.2.request.reservationId = reservation.id -> event.2.request.IsRefund ->
    event.2.request.refundComponent = .payment ->
    event.2.request.refundOfTransactionId = some source.id ->
    transactionStatus event.2 = .completed -> legacyRefunds state.ledger reservation source.id ≤
          ((sourceNights state.ledger state.nightCharges reservation source.id).map fun night =>
              legacyShare state.ledger reservation source.id source.amount night.2).sum ∨
        (event.2.request.companyNightChargeRefundAllocations.map Prod.snd).sum ≤
          source.amount - appliedRefunds state.ledger reservation source.id

theorem NewTransaction.appliedRefunds_le_iff
    (covered : NightsCovered state.ledger state.nightCharges reservation source)
    (within : appliedRefunds state.ledger reservation source.id ≤ source.amount) :
    appliedRefunds after.ledger reservation source.id ≤ source.amount ↔
      SelectionCovered reservation source state (env, call) := by
  obtain ⟨selected, step, origin⟩ := written.refundStep allocated
  have columns := written.columns
  have applied := step.applied
  constructor
  · intro kept own refund principal named completed
    right
    by_cases some : selected = []
    · -- nothing selected: a completed refund of nights always selects some
      have counts : CountsAsRefund transaction reservation source.id := by
        refine ⟨columns.reservationId.trans own, columns.source.trans named,
          columns.isRefund.mpr refund, columns.status.trans completed⟩
      have rows := written.flushed.refundRows reservation source.id
      rw [← written.isDraft, if_pos counts, step.rows, some, List.nil_append] at rows
      have same : written.checked.reservation.id = reservation.id :=
        written.reservationId.trans own
      have someNight := allocated.someNight
      rw [← sourceNights_congr same] at someNight
      have given := (written.selectedNights counts.2.2.1
        (columns.component.trans principal) counts.2.1 allocated.stored
        someNight).2.1
      exact absurd (List.self_eq_append_left.mp rows) given
    · obtain ⟨-, -, permuted⟩ := origin some
      have sameTotal := (permuted.map Prod.snd).sum_eq
      change (call.request.companyNightChargeRefundAllocations.map Prod.snd).sum ≤ _
      omega
  · intro guarded
    by_cases some : selected = []
    · rw [applied, some, List.map_nil, List.sum_nil]
      omega
    · obtain ⟨⟨own, named, refund, completed⟩, principal, permuted⟩ := origin some
      have sameTotal := (permuted.map Prod.snd).sum_eq
      rcases guarded (columns.reservationId.symm.trans own) (columns.isRefund.mp refund)
        (columns.component.symm.trans principal) (columns.source.symm.trans named)
        (columns.status.symm.trans completed) with shares | fits
      · apply (written.nightsCovered allocated covered).applied_le
          (written.fullyAllocated allocated)
        rw [step.legacy, step.nights]
        simp only [legacyShare_congr step.legacy]
        exact shares
      · change (call.request.companyNightChargeRefundAllocations.map Prod.snd).sum ≤ _ at fits
        omega

end

theorem processPayment_nightCharges
    (processed : processPayment env state call = .ok (after, transaction)) :
    after.nightCharges = state.nightCharges := by
  obtain ⟨checked, -, replay | ⟨-, draft, -, written⟩⟩ := processPayment_eq_ok processed
  · obtain ⟨_, -, -, -, rfl⟩ := replay
    rfl
  · simp only [writePayment, bind_eq_ok, pure_eq_ok] at written
    obtain ⟨_, -, _, -, result⟩ := written
    cases result
    rfl

/-- What every run of calls keeps for a payment of nights. -/
structure NightRefundsKept
    (reservation : ReservationFinancials)
    (source : Transaction)
    (state : PaymentState) : Prop where
  allocated : FullyAllocated state.ledger state.nightCharges reservation source
  covered : NightsCovered state.ledger state.nightCharges reservation source

theorem NightRefundsKept.step {event : PaymentEnvironment × PaymentCall}
    (kept : NightRefundsKept reservation source state)
    (taken : paymentStep state event = some after) :
    NightRefundsKept reservation source after ∧
      (appliedRefunds state.ledger reservation source.id ≤ source.amount ->
        SelectionCovered reservation source state event ->
          appliedRefunds after.ledger reservation source.id ≤ source.amount) := by
  obtain ⟨transaction, processed⟩ := paymentStep_eq_some taken
  have charges := processPayment_nightCharges processed
  rcases exists_newTransaction processed with ⟨rfl, -⟩ | ⟨⟨written⟩⟩
  · exact ⟨kept, fun within _ => within⟩
  · refine ⟨⟨?_, ?_⟩, fun within guarded => ?_⟩
    · rw [charges]
      exact written.fullyAllocated kept.allocated
    · rw [charges]
      exact written.nightsCovered kept.allocated kept.covered
    · exact (written.appliedRefunds_le_iff kept.allocated kept.covered within).mpr guarded

/-- Over any run of calls no night of a fully allocated payment returns more
than it received, after any earlier refunds without nights.  The refunds stay
within the payment when every refund of it is guarded. -/
theorem reaches_nightRefunds_covered
    {guard : PaymentState -> PaymentEnvironment × PaymentCall -> Prop}
    {start finish : PaymentState}
    (allocated : FullyAllocated start.ledger start.nightCharges reservation source)
    (earlier : ∀ row ∈ completedRefunds start.ledger reservation source.id,
      explicitlyAllocated start.ledger row.id = false)
    (within : appliedRefunds start.ledger reservation source.id ≤ source.amount)
    (reached : Reaches paymentStep guard start finish) :
    (∀ night ∈ sourceNights finish.ledger finish.nightCharges reservation source.id,
      refundedOnCharge finish.ledger reservation source.id night.1 +
          legacyShare finish.ledger reservation source.id source.amount night.2 ≤ night.2) ∧
      ((∀ state event, guard state event -> SelectionCovered reservation source state event) ->
        appliedRefunds finish.ledger reservation source.id ≤ source.amount) := by
  have initial : NightRefundsKept reservation source start :=
    ⟨allocated, allocated.nightsCovered earlier⟩
  refine ⟨?_, fun guarded => ?_⟩
  · have kept : NightRefundsKept reservation source finish :=
      reached.invariant initial fun before _ taken => (before.step taken).1
    exact kept.covered.covered
  · have both : NightRefundsKept reservation source finish ∧
        appliedRefunds finish.ledger reservation source.id ≤ source.amount := by
      induction reached with
      | refl => exact ⟨initial, within⟩
      | next _ allowed taken ih =>
        obtain ⟨kept, fits⟩ := ih.1.step taken
        exact ⟨kept, fits ih.2 (guarded _ _ allowed)⟩
    exact both.2

end Step

/-- Company reservation with extra nights. -/
def nightlyReservation : ReservationFinancials where
  id := 7
  totalAmount := 50000
  companyId := some 3

/-- A confirmed transaction of the reservation, in its currency. -/
def nightlyTransaction (id amount : Int) (kind : TransactionType) (sourceId : Option Int) :
    Transaction where
  id := id
  reservationId := 7
  amount := amount
  currency := "ARS"
  tenderAmount := some amount
  tenderCurrency := some "ARS"
  grossAmount := some amount
  transactionType := kind
  paymentMethod := .creditCard
  status := .completed
  refundOfTransactionId := sourceId

/-- The payment of the three nights. -/
def nightlyPayment : Transaction :=
  nightlyTransaction 2 3000 .partialPayment none

/-- A base payment of 100.00, the payment of 30.00 for three nights and an
earlier refund of 10.00 without nights. -/
def nightlyTransactions : List Transaction :=
  [nightlyTransaction 3 1000 .refund (some 2), nightlyPayment,
    nightlyTransaction 1 10000 .partialPayment none]

def nightlyAllocations : List NightAllocation :=
  [⟨2, 1, 1000⟩, ⟨2, 2, 1000⟩, ⟨2, 3, 1000⟩]

theorem nightly_distinctIds : (nightlyTransactions.map Transaction.id).Nodup := by
  decide

theorem nightly_idsBelow : ∀ row ∈ nightlyTransactions, row.id < 4 := by
  decide

theorem nightly_sourcesBelow : ∀ row ∈ nightlyTransactions, ∀ source,
    row.refundOfTransactionId = some source -> source < 4 := by
  simp [nightlyTransactions, nightlyPayment, nightlyTransaction]

theorem nightly_allocationsBelow : ∀ row ∈ nightlyAllocations, row.transactionId < 4 := by
  decide

def nightlyLedger : Ledger where
  transactions := nightlyTransactions
  allocations := nightlyAllocations
  nextTransactionId := 4
  distinctIds := nightly_distinctIds
  idsBelow := nightly_idsBelow
  sourcesBelow := nightly_sourcesBelow
  allocationsBelow := nightly_allocationsBelow

/-- The reservation with its three nights and an open drawer. -/
def nightlyState : PaymentState :=
  { stateOf nightlyReservation [{ id := 1, currencyCode := "ARS" }] with
    ledger := nightlyLedger
    nightCharges := [⟨1, 7, 10, 1000, "ARS"⟩, ⟨2, 7, 11, 1000, "ARS"⟩, ⟨3, 7, 12, 1000, "ARS"⟩] }

/-- 6.67 of the first two nights and the rest of a refund of the third. -/
def threeNights (last : Int) : List (Int × Int) :=
  [(1, 667), (2, 667), (3, last)]

theorem threeNights_distinct (last : Int) : ((threeNights last).map Prod.fst).Nodup := by
  change [1, 2, 3].Nodup
  decide

theorem threeNights_positive {last : Int} (positive : 0 < last) :
    ∀ night ∈ threeNights last, 0 < night.2 := by
  simp [threeNights, positive]

theorem threeNights_ofRefund (last : Int) :
    TransactionType.refund ≠ .refund -> threeNights last = [] :=
  (absurd rfl ·)

theorem sixSixtySix_positive : (0 : Int) < 666 := by
  decide

theorem sixSixtySeven_positive : (0 : Int) < 667 := by
  decide

/-- A refund of 20.00 in cash that names the three nights. -/
def nightlyRefund (last : Int) (positive : 0 < last) : PaymentCall where
  request :=
    { reservationId := 7, amount := 2000, paymentMethod := .cash, transactionType := .refund
      refundOfTransactionId := some 2, refundReason := some "ajuste"
      companyNightChargeRefundAllocations := threeNights last
      refundNightsDistinct := threeNights_distinct last
      refundAmountsPositive := threeNights_positive positive
      nightsOfRefundsOnly := threeNights_ofRefund last }

theorem nightly_fullyAllocated : FullyAllocated nightlyState.ledger nightlyState.nightCharges
      nightlyReservation nightlyPayment where
  stored := List.mem_cons_of_mem _ List.mem_cons_self
  own := rfl
  payment := by decide
  someNight := by decide
  distinct := by decide
  fits := by decide
  whole := by decide

theorem nightly_earlier : ∀ row ∈ completedRefunds nightlyState.ledger nightlyReservation
      nightlyPayment.id, explicitlyAllocated nightlyState.ledger row.id =
        false := by
  decide

/-- A refund that selects exactly what is left is guarded and accepted. -/
theorem reaches_nightRefunds_covered_sample :
    ∃ finish, Reaches paymentStep (SelectionCovered nightlyReservation nightlyPayment)
        nightlyState finish ∧
      appliedRefunds finish.ledger nightlyReservation 2 ≤ 3000 := by
  have accepted : (paymentStep nightlyState (quietEnvironment,
      nightlyRefund 666 sixSixtySix_positive)).isSome = true := by
    decide +kernel
  obtain ⟨finish, taken⟩ := Option.isSome_iff_exists.mp accepted
  have guarded : SelectionCovered nightlyReservation nightlyPayment
      nightlyState (quietEnvironment, nightlyRefund 666 sixSixtySix_positive) := by
    intro _ _ _ _ _
    right
    decide
  have reached := Reaches.refl.next guarded taken
  have kept := reaches_nightRefunds_covered nightly_fullyAllocated
    nightly_earlier (by decide) reached
  exact ⟨finish, reached, kept.2 fun _ _ allowed => allowed⟩

/-- The earlier refund of 10.00 counts 3.33 for each night, so that 6.67 of
each can still be selected.  The refund of 20.00 applies 20.01, and the
payment of 30.00 returns 30.01. -/
theorem nightRefunds_exceed_payment :
    FullyAllocated nightlyState.ledger nightlyState.nightCharges nightlyReservation nightlyPayment ∧
      (∀ row ∈ completedRefunds nightlyState.ledger nightlyReservation
        nightlyPayment.id, explicitlyAllocated nightlyState.ledger row.id = false) ∧
      appliedRefunds nightlyState.ledger nightlyReservation 2 = 1000 ∧
      (run paymentStep nightlyState [(quietEnvironment,
          nightlyRefund 667 sixSixtySeven_positive)]).map
        (appliedRefunds ·.ledger nightlyReservation 2) =
          some 3001 ∧ nightlyPayment.amount = 3000 := by
  refine ⟨nightly_fullyAllocated, nightly_earlier, by decide, ?_, rfl⟩
  decide +kernel

end HotelPms.Payments
