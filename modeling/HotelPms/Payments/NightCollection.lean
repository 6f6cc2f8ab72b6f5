import HotelPms.Payments.CompanyNights
import Mathlib.Algebra.Order.BigOperators.Group.List

/-!
# Collecting the balance of a company

What a company owes besides its nights can be collected without naming nights
as long as the price of the stay is all there is besides them.  A consumption
or another extra is part of the balance and not of the price, so it is out of
reach of a payment.
-/

namespace HotelPms.Payments

open Checked

section

variable (ledger : Ledger) (charges : List CompanyNightCharge)
  (reservation : ReservationFinancials) (adjustments : List BillingAdjustment)

/-- Due on all nights with something due. -/
def outstandingDues : Int :=
  ((outstandingCharges ledger charges reservation).map (dueOnCharge ledger)).sum

def collectibleBalance : Int :=
  reservation.operationalBalanceDue adjustments (reservation.paidAmountWithLegacyFallback ledger)

/-- Every amount up to the balance less the nights is accepted without nights. -/
def BaseCollectible : Prop :=
  ∀ (today amount : Int) (paymentCurrency : String),
    amount ≤ collectibleBalance ledger reservation adjustments -
      outstandingDues ledger charges reservation ->
    prepareCompanyNightChargePayment ledger charges reservation today amount paymentCurrency
      [] = .ok []

/-- Nights that a payment in the currency of the reservation may select. -/
structure Selectable (paymentCurrency : String) (chargeIds : List Int) : Prop where
  chosen : chargeIds ≠ []
  distinct : chargeIds.Nodup
  outstanding : ∀ id ∈ chargeIds, id ∈
    (outstandingCharges ledger charges reservation).map CompanyNightCharge.id
  notPending : ∀ id ∈ chargeIds, chargePending ledger id = false
  named : reservation.currency ≠ ""
  tender : normalizeCurrency paymentCurrency = reservation.currency
  charged : ∀ charge ∈ chargesOfReservation charges reservation, charge.id ∈ chargeIds ->
    normalizeCurrency charge.currencyCode = reservation.currency

/-- Selected nights are paid with exactly what is due on them. -/
def NightsCollectible : Prop :=
  ∀ (today amount : Int) (paymentCurrency : String) (chargeIds : List Int),
    Selectable ledger charges reservation paymentCurrency chargeIds ->
    ((∃ plan, prepareCompanyNightChargePayment ledger charges reservation today amount
        paymentCurrency chargeIds = .ok plan) ↔
      amount = (chargeIds.map (dueById ledger charges reservation)).sum)

/-- Billed to the reservation besides its stay and its nights. -/
def otherAdjustments : Int :=
  reservation.adjustmentTotal adjustments -
    ((chargesOfReservation charges reservation).map CompanyNightCharge.amount).sum

/-- Paid and not assigned to nights. -/
def unassignedPaid : Int :=
  reservation.paidAmountWithLegacyFallback ledger -
    ((chargesOfReservation charges reservation).map (paidOnCharge ledger ·.id)).sum

/-- Paid on nights beyond their amount. -/
def overpaidNights : Int :=
  ((chargesOfReservation charges reservation).map fun charge =>
    max 0 (paidOnCharge ledger charge.id - charge.amount)).sum

/-- The other adjustments are covered by what the nights are overpaid by and
what the payments without nights exceed the price of the stay by. -/
def OthersCovered : Prop :=
  otherAdjustments charges reservation adjustments ≤ overpaidNights ledger charges reservation +
    (unassignedPaid ledger charges reservation -
      min reservation.totalAmount (max 0 (unassignedPaid ledger charges reservation)))
deriving Decidable

theorem outstandingDues_add : outstandingDues ledger charges reservation +
        ((chargesOfReservation charges reservation).map fun charge =>
          paidOnCharge ledger charge.id).sum =
      ((chargesOfReservation charges reservation).map CompanyNightCharge.amount).sum +
        overpaidNights ledger charges reservation := by
  unfold outstandingDues outstandingCharges overpaidNights
  induction chargesOfReservation charges reservation with
  | nil => rfl
  | cons charge rows ih =>
    have split : dueOnCharge ledger charge + paidOnCharge ledger charge.id =
        charge.amount + max 0 (paidOnCharge ledger charge.id - charge.amount) := by
      unfold dueOnCharge
      omega
    have nonneg : 0 ≤ dueOnCharge ledger charge := le_max_left _ _
    simp only [List.map_cons, List.sum_cons, List.filter_cons, decide_eq_true_eq]
    split
    · rw [List.map_cons, List.sum_cons]
      omega
    · omega

theorem outstandingDues_nonneg : 0 ≤ outstandingDues ledger charges reservation := by
  refine List.sum_nonneg fun due member => ?_
  obtain ⟨charge, -, rfl⟩ := List.mem_map.mp member
  exact le_max_left _ _

end

variable {ledger : Ledger} {charges : List CompanyNightCharge}
  {reservation : ReservationFinancials} {adjustments : List BillingAdjustment}

theorem prepare_base_eq_ok (isCompany : reservation.companyId ≠ none)
    (present : reservation.deletedAt = none)
    (hasNights : chargesOfReservation charges reservation ≠ []) {today amount : Int}
    {paymentCurrency : String} :
    prepareCompanyNightChargePayment ledger charges reservation today amount paymentCurrency
        [] = .ok [] ↔ amount ≤ baseDue ledger charges reservation := by
  unfold prepareCompanyNightChargePayment
  by_cases covered : amount ≤ baseDue ledger charges reservation
  · simp [present, isCompany, hasNights, covered, raiseIf]
  · simp [present, isCompany, hasNights, covered, bind_eq_ok]

theorem baseCollectible_iff (isCompany : reservation.companyId ≠ none)
    (present : reservation.deletedAt = none)
    (hasNights : chargesOfReservation charges reservation ≠ []) :
    BaseCollectible ledger charges reservation adjustments ↔
      collectibleBalance ledger reservation adjustments = 0 ∨
        OthersCovered ledger charges reservation adjustments := by
  have dues := outstandingDues_add ledger charges reservation
  have nonneg := outstandingDues_nonneg ledger charges reservation
  have greatest : BaseCollectible ledger charges reservation adjustments ↔
      collectibleBalance ledger reservation adjustments -
        outstandingDues ledger charges reservation ≤ baseDue ledger charges reservation := by
    simp only [BaseCollectible, prepare_base_eq_ok isCompany present hasNights]
    exact ⟨(· 0 _ "" le_rfl), fun within _ _ _ upTo => upTo.trans within⟩
  rw [greatest]
  unfold OthersCovered otherAdjustments unassignedPaid collectibleBalance baseDue
    ReservationFinancials.operationalBalanceDue
  dsimp only
  omega

theorem nightsCollectible (isCompany : reservation.companyId ≠ none)
    (present : reservation.deletedAt = none) :
    NightsCollectible ledger charges reservation := by
  intro today amount paymentCurrency chargeIds selectable
  obtain ⟨id, member⟩ := List.exists_mem_of_ne_nil chargeIds selectable.chosen
  have isDue : outstandingCharges ledger charges reservation ≠ [] := by
    intro none
    have known := selectable.outstanding id member
    rw [none] at known
    cases known
  have hasNights : chargesOfReservation charges reservation ≠ [] := by
    intro none
    unfold outstandingCharges at isDue
    rw [none] at isDue
    exact isDue rfl
  have known : ∀ id ∈ chargeIds,
      ∃ charge ∈ outstandingCharges ledger charges reservation, charge.id = id := by
    simpa only [List.mem_map] using selectable.outstanding
  unfold prepareCompanyNightChargePayment checkSelectedNights
  simp +contextual [present, isCompany, hasNights, isDue, bind_eq_ok, pure_eq_ok, known,
    selectable.chosen, selectable.distinct, selectable.notPending, selectable.tender,
    selectable.named, selectable.charged, -bind_pure_comp]

/-- A company balance can be collected when its other adjustments are covered;
its nights can always be paid with what is due on them. -/
theorem prepareCompanyNightChargePayment_collects_iff (isCompany : reservation.companyId ≠ none)
    (present : reservation.deletedAt = none) :
    BaseCollectible ledger charges reservation adjustments ∧
        NightsCollectible ledger charges reservation ↔
      chargesOfReservation charges reservation = [] ∨
        collectibleBalance ledger reservation adjustments = 0 ∨
          OthersCovered ledger charges reservation adjustments := by
  rw [and_iff_left (nightsCollectible isCompany present)]
  by_cases hasNights : chargesOfReservation charges reservation = []
  · refine ⟨fun _ => .inl hasNights, fun _ _ _ _ _ => ?_⟩
    unfold prepareCompanyNightChargePayment
    simp [present, isCompany, hasNights, raiseIf]
  · rw [baseCollectible_iff isCompany present hasNights, or_iff_right hasNights]

/-- A stay of 100.00 of a company with a night of 20.00. -/
def companyStay : ReservationFinancials where
  id := 1
  totalAmount := 10000
  companyId := some 1

def companyNight : CompanyNightCharge where
  id := 1
  reservationId := 1
  stayDate := 0
  amount := 2000
  currencyCode := "ARS"

theorem prepareCompanyNightChargePayment_collects_iff_stay :
    BaseCollectible .empty [companyNight] companyStay [⟨1, 2000⟩] ∧
      NightsCollectible .empty [companyNight] companyStay :=
  (prepareCompanyNightChargePayment_collects_iff (by decide) rfl).mpr
    (.inr (.inr (by decide +kernel)))

/-- With a consumption of 10.00 the stay and the consumption cannot be paid together. -/
theorem consumption_not_collectible :
    ¬(BaseCollectible .empty [companyNight] companyStay [⟨1, 2000⟩, ⟨1, 1000⟩] ∧
      NightsCollectible .empty [companyNight] companyStay) := by
  rintro ⟨base, -⟩
  have accepted := base 0 11000 "ARS" (by decide +kernel)
  exact absurd accepted (by decide +kernel)

end HotelPms.Payments
