import HotelPms.Foundation.ContextSum
import HotelPms.Links.Creation
import HotelPms.Payments.Surcharges

/-!
# Taking a surcharge off

The amount before a surcharge is computed again from the final amount when no
quote was kept.  A fixed surcharge and a percentage on top of the amount are
taken off exactly.  Under a discount several amounts share one final amount,
so only a quote gives the amount back; what is computed stays as close as the
cent the discount was rounded to.
-/

namespace HotelPms.Links

open Checked Decimal Hotel Payments

/-- Amount of a surcharge as its column keeps it, in ten-thousandths. -/
def InTenThousandths (amount : ℚ) (units : Int) : Prop :=
  amount = units / 10 ^ 4 ∧ |units| < 10 ^ 12

variable {amount : ℚ} {base units : Int}

theorem InTenThousandths.divisor_pos (kept : InTenThousandths amount units)
    (above : -100 < amount) : 0 < 10 ^ 6 + units := by
  rw [kept.1, lt_div_iff₀ (by norm_num)] at above
  have : (-(100 * 10 ^ 4) : Int) < units := by exact_mod_cast above
  omega

theorem percentageOf_inTenThousandths (kept : InTenThousandths amount units)
    (small : |base| < 10 ^ 16) :
    percentageOf base amount = roundHalfUp (base * units / 10 ^ 6) := by
  have digits : |base * units| < 10 ^ 28 := by
    rw [abs_mul]
    have := kept.2
    nlinarith [abs_nonneg units]
  have product : (base : ℚ) * amount = ((base * units : Int) : ℚ) / 10 ^ 4 := by
    rw [kept.1]
    push_cast
    ring
  have hundredth : ((base * units : Int) : ℚ) / 10 ^ 4 / 100 =
      ((base * units : Int) : ℚ) / 10 ^ 6 := by
    ring
  unfold percentageOf quantizeHalfUp
  rw [product, inContext_scaled digits, hundredth, inContext_scaled digits,
    pow_zero, mul_one, Int.cast_mul]

theorem divisor_inTenThousandths (kept : InTenThousandths amount units) :
    inContext (1 + inContext (amount / 100)) = ((10 ^ 6 + units : Int) : ℚ) / 10 ^ 6 := by
  have bounds := abs_lt.mp kept.2
  have hundredth : amount / 100 = (units : ℚ) / 10 ^ 6 := by
    rw [kept.1]
    ring
  have whole : 1 + (units : ℚ) / 10 ^ 6 = ((10 ^ 6 + units : Int) : ℚ) / 10 ^ 6 := by
    field_simp
    norm_num
  rw [hundredth, inContext_scaled (abs_lt.mpr ⟨by omega, by omega⟩), whole,
    inContext_scaled (abs_lt.mpr ⟨by omega, by omega⟩)]

/-- The quotient is off by the cent the surcharge was rounded to, and by the
digits of the context. -/
theorem abs_quotient_sub_le (surcharge : Int) (error : ℚ)
    (above : 0 < 10 ^ 6 + units) (small : |base| < 10 ^ 16)
    (rounded : |(surcharge : ℚ) - base * units / 10 ^ 6| ≤ error)
    (cent : error ≤ 1 / 2) :
    |inContext (((base + surcharge : Int) : ℚ) / (((10 ^ 6 + units : Int) : ℚ) / 10 ^ 6)) - base| ≤
      error * 10 ^ 6 / (10 ^ 6 + units : Int) + 2 / 10 ^ 11 := by
  have positive : (0 : ℚ) < (10 ^ 6 + units : Int) := by exact_mod_cast above
  have one : (1 : ℚ) ≤ (10 ^ 6 + units : Int) := by exact_mod_cast above
  have quotient : ((base + surcharge : Int) : ℚ) / (((10 ^ 6 + units : Int) : ℚ) / 10 ^ 6) =
        base + (surcharge - base * units / 10 ^ 6) * 10 ^ 6 / (10 ^ 6 + units : Int) := by
    field_simp
    push_cast
    ring
  have size : |(base : ℚ)| < 10 ^ 16 := by exact_mod_cast small
  rw [quotient]
  set divisor : ℚ := ((10 ^ 6 + units : Int) : ℚ)
  set rest : ℚ := (surcharge - base * units / 10 ^ 6) * 10 ^ 6 / divisor
  have near : |rest| ≤ error * 10 ^ 6 / divisor := by
    rw [abs_div, abs_mul, abs_of_pos positive, abs_of_pos (by norm_num : (0 : ℚ) < 10 ^ 6)]
    gcongr
  have half : error * 10 ^ 6 / divisor ≤ 10 ^ 6 / 2 := by
    rw [div_le_iff₀ positive]
    linarith
  have length := abs_add_le (base : ℚ) rest
  have context := abs_inContext_sub_le ((base : ℚ) + rest)
  calc |inContext (base + rest) - base|
      ≤ |inContext (base + rest) - (base + rest)| + |base + rest - base| :=
        abs_sub_le _ _ _
    _ ≤ |(base : ℚ) + rest| / 10 ^ 27 + |rest| := by
        rw [add_sub_cancel_left]
        linarith
    _ ≤ error * 10 ^ 6 / divisor + 2 / 10 ^ 11 := by
        linarith

/-- What a percentage takes off again: the amount itself where the percentage
is not a discount or comes to whole cents, and otherwise an amount within the
cent the discount was rounded to. -/
structure TakesOff (amount : ℚ) (base returned : Int) : Prop where
  surcharge : 0 ≤ amount -> returned = base
  wholeCents : (∃ cents : Int, base * amount / 100 = cents) -> returned = base
  discount : 2 * (100 + amount) * |returned - base| ≤ 100 + amount + 100

theorem takesOff_quantize (kept : InTenThousandths amount units)
    (above : -100 < amount) (small : |base| < 10 ^ 16) :
    TakesOff amount base (quantize 0 (inContext (((base + percentageOf base amount : Int) : ℚ) /
        inContext (1 + inContext (amount / 100))))) := by
  have positive := kept.divisor_pos above
  have percentage : (base : ℚ) * amount / 100 = base * units / 10 ^ 6 := by
    rw [kept.1]
    ring
  have near := fun error => abs_quotient_sub_le
    (roundHalfUp (base * units / 10 ^ 6)) error positive small
  rw [divisor_inTenThousandths kept, percentageOf_inTenThousandths kept small]
  unfold quantize
  rw [pow_zero, mul_one]
  generalize inContext (((base + roundHalfUp ((base : ℚ) * units / 10 ^ 6) : Int) : ℚ) /
      (((10 ^ 6 + units : Int) : ℚ) / 10 ^ 6)) = value at near ⊢
  have half := near _ (abs_roundHalfUp_sub_le _) le_rfl
  have divides : (0 : ℚ) < (10 ^ 6 + units : Int) := by exact_mod_cast positive
  have whole : (∃ cents : Int, base * amount / 100 = cents) -> roundHalfEven value = base := by
    rintro ⟨cents, isCents⟩
    rw [percentage] at isCents
    apply roundHalfEven_eq_of_near
    refine (near 0 ?_ (by norm_num)).trans_lt ?_
    · rw [isCents, roundHalfUp_intCast, sub_self, abs_zero]
    · norm_num
  have surcharge : 0 ≤ units -> roundHalfEven value = base := by
    intro surcharge
    rcases surcharge.eq_or_lt with none | surcharge
    · exact whole ⟨0, by rw [kept.1, ← none]; norm_num⟩
    · apply roundHalfEven_eq_of_near
      have large : (10 ^ 6 + 1 : ℚ) ≤ (10 ^ 6 + units : Int) := by
        exact_mod_cast (by omega : (10 ^ 6 + 1 : Int) ≤ 10 ^ 6 + units)
      have least : (1 / 2 : ℚ) * 10 ^ 6 / (10 ^ 6 + units : Int) ≤
          1 / 2 * 10 ^ 6 / (10 ^ 6 + 1) := by
        gcongr
      linarith
  refine ⟨fun nonneg => surcharge ?_, whole, ?_⟩
  · rw [kept.1, le_div_iff₀ (by norm_num), zero_mul] at nonneg
    exact_mod_cast nonneg
  · -- both sides are whole, so the digits of the context do not count
    have bound : 2 * (10 ^ 6 + units) * |roundHalfEven value - base| ≤ 10 ^ 6 + units + 10 ^ 6 := by
      rcases le_or_gt 0 units with nonneg | negative
      · rw [surcharge nonneg, sub_self, abs_zero, mul_zero]
        omega
      · have least : (((10 ^ 6 + units : Int)) : ℚ) ≤ 10 ^ 6 := by
          exact_mod_cast (by omega : 10 ^ 6 + units ≤ 10 ^ 6)
        have apart := abs_sub_le (roundHalfEven value : ℚ) value base
        have rounded := abs_roundHalfEven_sub_le value
        have total : 2 * ((10 ^ 6 + units : Int) : ℚ) *
            |(roundHalfEven value : ℚ) - base| < (10 ^ 6 + units : Int) + 10 ^ 6 + 1 := by
          have scaled := mul_le_mul_of_nonneg_left
            (apart.trans (add_le_add rounded half)) divides.le
          have cleared : ((10 ^ 6 + units : Int) : ℚ) *
              (1 / 2 * 10 ^ 6 / (10 ^ 6 + units : Int)) = 10 ^ 6 / 2 := by
            field_simp
          rw [mul_add, mul_add, cleared] at scaled
          generalize ((10 ^ 6 + units : Int) : ℚ) = divisor at least scaled ⊢
          linarith
        have : 2 * (10 ^ 6 + units) * |roundHalfEven value - base| <
            10 ^ 6 + units + 10 ^ 6 + 1 := by
          exact_mod_cast total
        omega
    have cast : 2 * ((10 : ℚ) ^ 6 + units) *
        |(roundHalfEven value : ℚ) - base| ≤ 10 ^ 6 + units + 10 ^ 6 := by
      exact_mod_cast bound
    rw [kept.1]
    push_cast
    linarith

variable {env : PaymentEnvironment} {surcharges : List PaymentSurcharge}
  {method : PaymentMethod} {currencyCode : String} {record : PaymentSurcharge}
  {info : SurchargeInfo}

/-- The surcharge of no amount: the same if it is fixed. -/
theorem calculatePaymentSurcharge_zero (active : activeSurcharge surcharges method = some record)
    (surcharged : calculatePaymentSurcharge env surcharges method base
      currencyCode none = .ok info) :
    ∃ zero, calculatePaymentSurcharge env surcharges method 0 currencyCode none = .ok zero ∧
      (record.surchargeType = "fixed" -> zero = info) ∧
      (record.surchargeType ≠ "fixed" -> info.amount = percentageOf base record.amount) := by
  unfold activeSurcharge at active
  unfold calculatePaymentSurcharge configuredSurcharge at surcharged ⊢
  simp only [active, bind_eq_ok, raiseIf_eq_ok] at surcharged ⊢
  obtain ⟨_, wellFormed, configured⟩ := surcharged
  by_cases fixed : record.surchargeType = "fixed"
  · rw [if_pos fixed] at configured
    refine ⟨info, ⟨(), wellFormed, ?_⟩, fun _ => rfl, (absurd fixed ·)⟩
    rw [if_pos fixed]
    exact configured
  · rw [if_neg fixed] at configured
    cases configured
    refine ⟨{ amount := percentageOf 0 record.amount },
      ⟨(), wellFormed, ?_⟩, (absurd · fixed), fun _ => rfl⟩
    rw [if_neg fixed]
    rfl

/-- A percentage in force on card payments. -/
def cardPercentage (amount : ℚ) : PaymentSurcharge :=
  { id := 1, paymentMethod := .creditCard, surchargeType := "percentage", amount := amount }

end HotelPms.Links
