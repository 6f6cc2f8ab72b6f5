import HotelPms.Quotes.ReservationPricing

/-!
# Negotiated totals across nights

A total that the operator types is stored with its nightly rate, rounded to
two decimals.  When the stay changes, the stored rate times the new number of
nights is the new total.
-/

namespace HotelPms.Quotes

open Checked Decimal FloatFormat

variable {F : Type} [FloatFormat F]

structure PricingSnapshot (F : Type) where
  pricingSource : String
  companyId : Option Int
  nightlyRate : Option F
  nights : Int
  totalAmount : F

def pricingWithTotal (settings : Option (DepositSettings F))
    (pricing : ReservationPricingResult F) (totalAmount nightlyRate : F)
    (pricingSource : String) (companyId : Option Int)
    (currencyCode : Option String) :
    Except String (ReservationPricingResult F × PricingSnapshot F) := do
  let total := round2 totalAmount
  let nightly := round2 nightlyRate
  let depositAmount ← computeDepositAmount settings total pricing.nights
    (pricing.breakdown.map NightPrice.price)
  let priced := { pricing with
    nightlyRate := nightly
    totalAmount := total
    currencyCode := (currencyCode.filter (· ≠ "")).getD pricing.currencyCode
    depositAmount
    subtotalAmount := total
    taxAmount := ofRat 0
    feeAmount := ofRat 0
    commissionAmount := ofRat 0
    netAmount := total
    pricingSource
    taxBreakdown := []
    breakdown := [] }
  pure (priced, {
    pricingSource, companyId, nights := pricing.nights
    nightlyRate := some nightly
    totalAmount := total })

def applyManualTotalOverride (settings : Option (DepositSettings F))
    (pricing : ReservationPricingResult F) (totalAmount : Int)
    (targetCurrency : Option String) :
    Except String (ReservationPricingResult F × PricingSnapshot F) :=
  let nightly : F := if pricing.nights = 0 then ofRat 0
    else ofCents totalAmount / ofRat pricing.nights
  pricingWithTotal settings pricing (ofCents totalAmount) nightly "manual_total_override" none
    (targetCurrency.map fun code => (Text.strip code).toUpper)

structure PricedReservation (F : Type) where
  checkInDate : Int
  checkOutDate : Int
  totalAmount : ℚ
  pricingSnapshot : Option (PricingSnapshot F)

/-- A stored rate, when it is not negative. -/
def PricedReservation.storedNightlyRate (reservation : PricedReservation F) : Option ℚ :=
  ((reservation.pricingSnapshot.bind PricingSnapshot.nightlyRate).map toRat).filter (0 ≤ ·)

/-- Average of the booked total, for snapshots without a nightly rate. -/
def PricedReservation.averageNightlyRate (reservation : PricedReservation F) : Except String ℚ := do
  let originalNights := reservation.checkOutDate - reservation.checkInDate
  raiseIf (originalNights ≤ 0 ∨ reservation.totalAmount < 0)
    ("No se puede recalcular de forma segura el precio nocturno de la " ++ "reserva")
  pure (inContext (reservation.totalAmount / originalNights))

def preservedNightlyTotalForNights (reservation : PricedReservation F)
    (nights : Int) : Except String Int := do
  raiseIf (nights ≤ 0) "La fecha de salida debe ser posterior a la fecha de entrada"
  let nightly ← match reservation.storedNightlyRate with
    | some nightly => pure nightly
    | none => reservation.averageNightlyRate
  let total := quantize 2 (inContext (nightly * nights))
  raiseIf (10 ^ 28 ≤ |total|) "decimal.InvalidOperation"
  pure total

def manualOverrideTotalForNights (reservation : PricedReservation F)
    (nights : Int) : Except String (Option Int) :=
  match reservation.pricingSnapshot with
  | none => .ok none
  | some snapshot =>
    if snapshot.pricingSource ≠ "manual_total_override" then .ok none
    else (preservedNightlyTotalForNights reservation nights).map some

/-- Nights between the first and the last date of the calendar. -/
def longestStay : Int := 3652058

/-- Both functions carry an amount to a number of nights. -/
def PricedReservation.Carries (reservation : PricedReservation F) (nights amount : Int) : Prop :=
  preservedNightlyTotalForNights reservation nights = .ok amount ∧
  manualOverrideTotalForNights reservation nights = .ok (some amount)

/-- The booked nights carry the total itself, and no longer stay less. -/
structure PricedReservation.CarriesTotal (reservation : PricedReservation F)
    (total nights : Int) : Prop where
  same : reservation.Carries nights total
  longer : ∀ longer, nights ≤ longer → longer ≤ longestStay →
    ∃ amount, reservation.Carries longer amount ∧ total ≤ amount

/-- The nightly rate of a total is its quotient rounded to two decimals. -/
class RoundsNightlyRates (F : Type) [FloatFormat F] : Prop where
  nearest : ∀ total nights : Int, 0 ≤ total -> total < 10 ^ 12 -> 0 < nights -> ∃ cents : Int,
      toRat (round2 (ofCents total / ofRat nights : F)) = (cents : ℚ) / 100 ∧
      2 * |total - nights * cents| ≤ nights

instance exactRoundsNightlyRates : RoundsNightlyRates ℚ where
  nearest total nights _ _ positive := by
    have above : (0 : ℚ) < nights := by exact_mod_cast positive
    have apart := abs_roundHalfEven_sub_le ((total : ℚ) / nights)
    rw [abs_sub_comm] at apart
    have scaled : (total : ℚ) / 100 / nights * 10 ^ 2 = total / nights := by
      ring
    refine ⟨roundHalfEven ((total : ℚ) / nights), ?_, ?_⟩
    · change (roundHalfEven ((total : ℚ) / 100 / nights * 10 ^ 2) : ℚ) / 100 = _
      rw [scaled]
    · have product : (total : ℚ) - nights * roundHalfEven ((total : ℚ) / nights) =
          nights * (total / nights - roundHalfEven ((total : ℚ) / nights)) := by
        rw [mul_sub, mul_div_cancel₀ _ above.ne']
      have nearest : 2 * |(total : ℚ) -
          nights * roundHalfEven ((total : ℚ) / nights)| ≤ nights := by
        rw [product, abs_mul, abs_of_pos above]
        nlinarith
      exact_mod_cast nearest

variable {settings : Option (DepositSettings F)} {pricing result : ReservationPricingResult F}
  {total : Int} {currency : Option String} {snapshot : PricingSnapshot F}
  {reservation : PricedReservation F}

theorem applyManualTotalOverride_snapshot (stays : pricing.nights ≠ 0)
    (applied : applyManualTotalOverride settings pricing total currency = .ok (result, snapshot)) :
    snapshot.pricingSource = "manual_total_override" ∧
    snapshot.nightlyRate = some (round2 (ofCents total / ofRat pricing.nights : F)) := by
  unfold applyManualTotalOverride pricingWithTotal at applied
  rw [if_neg stays] at applied
  simp only [bind_eq_ok, pure_eq_ok, Prod.mk.injEq] at applied
  obtain ⟨-, -, -, rfl⟩ := applied
  exact ⟨rfl, rfl⟩

/-- A stored rate in cents carries its product with the nights. -/
theorem PricedReservation.carries_product {cents nights : Int}
    (stored : reservation.pricingSnapshot = some snapshot)
    (source : snapshot.pricingSource = "manual_total_override")
    {rate : F} (isRate : snapshot.nightlyRate = some rate)
    (rateCents : toRat rate = (cents : ℚ) / 100) (nonneg : 0 ≤ cents)
    (positive : 0 < nights) (small : cents * nights < 10 ^ 28)
    (amount : Int) :
    reservation.Carries nights amount ↔ amount = cents * nights := by
  have rated : reservation.storedNightlyRate = some ((cents : ℚ) / 100) := by
    have above : (0 : ℚ) ≤ (cents : ℚ) / 100 :=
      div_nonneg (by exact_mod_cast nonneg) (by norm_num)
    unfold storedNightlyRate
    rw [stored, Option.bind_some, isRate, Option.map_some, rateCents,
      Option.filter_some, if_pos (decide_eq_true above)]
  have bounded : |cents * nights| < 10 ^ 28 := by
    rw [abs_of_nonneg (mul_nonneg nonneg positive.le)]
    exact small
  have product : quantize 2 (inContext ((cents : ℚ) / 100 * nights)) = cents * nights := by
    have scaled : (cents : ℚ) / 100 * nights = ((cents * nights : Int) : ℚ) / 100 := by
      push_cast
      ring
    rw [scaled, inContext_cents bounded, quantize_cents]
  have preserved : preservedNightlyTotalForNights reservation nights = .ok (cents * nights) := by
    unfold preservedNightlyTotalForNights
    rw [rated]
    simp only [bind_eq_ok, raiseIf_eq_ok, pure_eq_ok]
    refine ⟨(), by omega, _, rfl, (), ?_, product⟩
    rw [product]
    exact not_le.mpr bounded
  have manual : manualOverrideTotalForNights reservation nights = .ok (some (cents * nights)) := by
    unfold manualOverrideTotalForNights
    rw [stored]
    simp only
    rw [if_neg (not_not.mpr source), preserved]
    rfl
  unfold Carries
  rw [preserved, manual]
  constructor
  · intro both
    exact (Except.ok.inj both.1).symm
  · rintro rfl
    exact ⟨rfl, rfl⟩

/-- A negotiated total is carried conservatively exactly when it is a whole
number of cents for each night. -/
theorem carriesTotal_iff [RoundsNightlyRates F]
    (stays : 0 < pricing.nights) (dated : pricing.nights ≤ longestStay)
    (nonneg : 0 ≤ total) (digits : total < 10 ^ 12)
    (applied : applyManualTotalOverride settings pricing total currency = .ok (result, snapshot))
    (stored : reservation.pricingSnapshot = some snapshot) :
    reservation.CarriesTotal total pricing.nights ↔ pricing.nights ∣ total := by
  obtain ⟨source, isRate⟩ := applyManualTotalOverride_snapshot stays.ne' applied
  obtain ⟨cents, rateCents, nearest⟩ :=
    RoundsNightlyRates.nearest (F := F) total pricing.nights nonneg digits stays
  obtain ⟨lower, upper⟩ := abs_le.mp (by omega :
    |total - pricing.nights * cents| ≤ pricing.nights / 2)
  have rateNonneg : 0 ≤ cents := by
    by_contra negative
    have : pricing.nights * cents ≤ pricing.nights * (-1) :=
      mul_le_mul_of_nonneg_left (by omega) stays.le
    omega
  have rateSmall : cents ≤ 2 * 10 ^ 12 := by
    have : 1 * cents ≤ pricing.nights * cents :=
      mul_le_mul_of_nonneg_right stays rateNonneg
    unfold longestStay at dated
    omega
  have carries : ∀ nights, pricing.nights ≤ nights → nights ≤ longestStay →
      ∀ amount, reservation.Carries nights amount ↔ amount = cents * nights := by
    intro nights later bounded
    apply PricedReservation.carries_product stored source isRate rateCents rateNonneg (by omega)
    have : cents * nights ≤ 2 * 10 ^ 12 * longestStay :=
      mul_le_mul rateSmall bounded (by omega) (by norm_num)
    exact this.trans_lt (by decide)
  constructor
  · intro carried
    have same := (carries _ le_rfl dated total).mp carried.same
    exact ⟨cents, same.trans (mul_comm cents pricing.nights)⟩
  · rintro ⟨nightly, rfl⟩
    -- the exact quotient is the only whole number that close
    have exact : nightly = cents := by
      rw [← mul_sub, abs_mul, abs_of_pos stays] at nearest
      by_contra different
      have apart : 1 ≤ |nightly - cents| :=
        Int.one_le_abs (sub_ne_zero.mpr different)
      have : pricing.nights * 1 ≤ pricing.nights * |nightly - cents| :=
        mul_le_mul_of_nonneg_left apart stays.le
      omega
    subst exact
    refine ⟨(carries _ le_rfl dated _).mpr (mul_comm _ _), ?_⟩
    intro longer later bounded
    refine ⟨nightly * longer, (carries _ later bounded _).mpr rfl, ?_⟩
    rw [mul_comm]
    exact mul_le_mul_of_nonneg_left later rateNonneg

def halfDeposit : DepositSettings ℚ where
  depositPolicyConfigured := true
  depositPercentage := 50

def unpricedStay (nights : Int) : ReservationPricingResult ℚ where
  nights := nights
  nightlyRate := 0
  totalAmount := 0
  depositAmount := 0
  subtotalAmount := 0
  taxAmount := 0
  feeAmount := 0
  commissionAmount := 0
  netAmount := 0
  currencyCode := "ARS"
  fxRateSnapshot := none
  pricingSource := "explicit_total_pending_override"
  sellableProductId := none
  ratePlanId := none
  taxPolicyId := none
  taxBreakdown := []
  breakdown := []

/-- The snapshot of a hundred for some nights. -/
def snapshotOfHundred (nights : Int) : Option (PricingSnapshot ℚ) :=
  ((applyManualTotalOverride (some halfDeposit) (unpricedStay nights) 10000
    none).map Prod.snd).toOption

def stayForHundred (nights : Int) : PricedReservation ℚ where
  checkInDate := 0
  checkOutDate := nights
  totalAmount := 100
  pricingSnapshot := snapshotOfHundred nights

theorem carriesTotal_iff_two : ∃ result snapshot, applyManualTotalOverride (some halfDeposit)
      (unpricedStay 2) 10000 none = .ok (result, snapshot) ∧
      ((stayForHundred 2).CarriesTotal 10000 2 ↔ (2 : Int) ∣ 10000) := by
  have accepted : (applyManualTotalOverride (some halfDeposit)
      (unpricedStay 2) 10000 none).toOption.isSome := by decide +kernel
  obtain ⟨⟨result, snapshot⟩, isSome⟩ := Option.isSome_iff_exists.mp accepted
  have applied := toOption_eq_some isSome
  have stored : (stayForHundred 2).pricingSnapshot = some snapshot := by
    change snapshotOfHundred 2 = _
    unfold snapshotOfHundred
    rw [applied]
    rfl
  exact ⟨result, snapshot, applied,
    carriesTotal_iff (by decide) (by decide) (by decide) (by decide) applied stored⟩

/-- A hundred for three nights comes back a cent short. -/
theorem hundredForThree_loses_cent :
    (applyManualTotalOverride (some halfDeposit) (unpricedStay 3) 10000 none).toOption.isSome ∧
    (preservedNightlyTotalForNights (stayForHundred 3) 3).toOption = some 9999 ∧
    ¬(stayForHundred 3).CarriesTotal 10000 3 := by
  have carried : (preservedNightlyTotalForNights
      (stayForHundred 3) 3).toOption = some 9999 := by decide +kernel
  refine ⟨by decide +kernel, carried, ?_⟩
  intro carriesTotal
  have same := carriesTotal.same.1
  rw [toOption_eq_some carried] at same
  cases same

end HotelPms.Quotes
