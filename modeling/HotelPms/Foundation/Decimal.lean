import Mathlib.Algebra.Order.Floor.Ring
import Mathlib.Data.Int.Log
import Mathlib.Data.Rat.Floor

/-!
# Decimal arithmetic

Rounding to an integer on ties to even and on ties away from zero, the context
that keeps twenty-eight significant digits after a multiplication or a
division, and quantization to a number of places.  Values are rationals;
quantized values are integers counted in units of the last place.
-/

namespace Decimal

/-- Nearest integer, ties to the even one. -/
def roundHalfEven (value : ℚ) : Int :=
  let below := ⌊value⌋
  if value - below < 1 / 2 then below
  else if 1 / 2 < value - below then below + 1
  else if below % 2 = 0 then below
  else below + 1

/-- Nearest integer, ties away from zero. -/
def roundHalfUp (value : ℚ) : Int :=
  if 0 ≤ value then ⌊value + 1 / 2⌋ else -⌊-value + 1 / 2⌋

/-- The whole part, without rounding. -/
def truncate (value : ℚ) : Int :=
  if 0 ≤ value then ⌊value⌋ else -⌊-value⌋

/-- Digits an operation keeps. -/
def contextPrecision : Int := 28

/-- Result of an operation, rounded to the precision of the context. -/
def inContext (value : ℚ) : ℚ :=
  if value = 0 then 0
  else
    let scale : ℚ := 10 ^ (contextPrecision - 1 - Int.log 10 |value|)
    roundHalfEven (value * scale) / scale

/-- Units of the last place of a value, ties to even. -/
def quantize (places : Nat) (value : ℚ) : Int :=
  roundHalfEven (value * 10 ^ places)

/-- Units of the last place of a value, ties away from zero. -/
def quantizeHalfUp (places : Nat) (value : ℚ) : Int :=
  roundHalfUp (value * 10 ^ places)

/-- A whole number is its own nearest integer. -/
theorem roundHalfEven_intCast (number : Int) : roundHalfEven (number : ℚ) = number := by
  unfold roundHalfEven
  simp

/-- Rounding keeps the order. -/
theorem roundHalfEven_mono {low high : ℚ} (ordered : low ≤ high) :
    roundHalfEven low ≤ roundHalfEven high := by
  unfold roundHalfEven
  simp only
  rcases (Int.floor_mono ordered).eq_or_lt with same | apart
  · rw [same]
    split_ifs <;> first | omega | (exfalso; linarith)
  · split_ifs <;> omega

theorem roundHalfUp_intCast (number : Int) : roundHalfUp (number : ℚ) = number := by
  unfold roundHalfUp
  split_ifs
  · rw [Int.floor_eq_iff]
    constructor <;> linarith
  · have same : ⌊-(number : ℚ) + 1 / 2⌋ = -number := by
      rw [Int.floor_eq_iff]
      push_cast
      constructor <;> linarith
    rw [same, neg_neg]

theorem quantize_cents (cents : Int) : quantize 2 ((cents : ℚ) / 100) = cents := by
  have scaled : (cents : ℚ) / 100 * 10 ^ 2 = (cents : ℚ) := by
    norm_num
  unfold quantize
  rw [scaled, roundHalfEven_intCast]

variable {value : ℚ}

theorem roundHalfEven_nonneg (nonneg : 0 ≤ value) : 0 ≤ roundHalfEven value := by
  rw [← roundHalfEven_intCast 0]
  exact roundHalfEven_mono (by exact_mod_cast nonneg)

theorem inContext_nonneg (nonneg : 0 ≤ value) : 0 ≤ inContext value := by
  unfold inContext
  split_ifs with zero
  · exact le_refl 0
  · have scale : (0 : ℚ) ≤ 10 ^ (contextPrecision - 1 - Int.log 10 |value|) :=
      zpow_nonneg (by norm_num) _
    have rounded := roundHalfEven_nonneg (mul_nonneg nonneg scale)
    exact div_nonneg (Int.cast_nonneg rounded) scale

variable {places : Nat} {bound scaled : Int}

theorem quantize_nonneg (nonneg : 0 ≤ value) : 0 ≤ quantize places value := by
  apply roundHalfEven_nonneg
  exact mul_nonneg nonneg (by positivity)

theorem abs_roundHalfEven_sub_le (value : ℚ) :
    |(roundHalfEven value : ℚ) - value| ≤ 1 / 2 := by
  have below := Int.floor_le value
  have above := Int.lt_floor_add_one value
  unfold roundHalfEven
  simp only
  rw [abs_le]
  split_ifs
  all_goals
    push_cast
    constructor <;> linarith

theorem roundHalfEven_eq_of_near {number : Int}
    (near : |value - number| < 1 / 2) : roundHalfEven value = number := by
  have rounded := abs_le.mp (abs_roundHalfEven_sub_le value)
  have apart := abs_lt.mp near
  have above : (roundHalfEven value : ℚ) < (number + 1 : Int) := by
    push_cast
    linarith
  have below : ((number - 1 : Int) : ℚ) < roundHalfEven value := by
    push_cast
    linarith
  have := Int.cast_lt.mp above
  have := Int.cast_lt.mp below
  omega

/-- Rounding to the context moves a value by less than its last digit. -/
theorem abs_inContext_sub_le (value : ℚ) :
    |inContext value - value| ≤ |value| / 10 ^ 27 := by
  unfold inContext
  split_ifs with zero
  · simp [zero]
  · have positive : (0 : ℚ) < 10 ^ (contextPrecision - 1 - Int.log 10 |value|) :=
      zpow_pos (by norm_num) _
    have leading : (10 : ℚ) ^ Int.log 10 |value| ≤ |value| :=
      Int.zpow_log_le_self (by norm_num) (abs_pos.mpr zero)
    have digits : (10 : ℚ) ^ Int.log 10 |value| *
        10 ^ (contextPrecision - 1 - Int.log 10 |value|) = 10 ^ 27 := by
      rw [← zpow_add₀ (by norm_num), add_sub_cancel]
      rfl
    have rounded := abs_roundHalfEven_sub_le
      (value * 10 ^ (contextPrecision - 1 - Int.log 10 |value|))
    set scale : ℚ := 10 ^ (contextPrecision - 1 - Int.log 10 |value|)
    have error : |(roundHalfEven (value * scale) : ℚ) / scale - value| * scale ≤ 1 / 2 := by
      rw [← abs_of_pos positive, ← abs_mul, abs_of_pos positive, sub_mul,
        div_mul_cancel₀ _ positive.ne']
      exact rounded
    have large : 10 ^ 27 ≤ |value| * scale :=
      digits ▸ mul_le_mul_of_nonneg_right leading positive.le
    apply le_of_mul_le_mul_right (error.trans _) positive
    linarith

/-- A quotient by a rounded ratio stays close to the exact quotient. -/
theorem abs_inContext_div_inContext_sub_le {ratio amount : ℚ}
    (positive : 0 < ratio) (nonneg : 0 ≤ amount) :
    |inContext (amount / inContext ratio) - amount / ratio| ≤ 4 * (amount / ratio) / 10 ^ 27 := by
  have near := abs_inContext_sub_le ratio
  rw [abs_of_pos positive] at near
  have half : ratio / 2 ≤ inContext ratio := by
    have := (abs_le.mp near).1
    nlinarith
  have rounded : 0 < inContext ratio := by linarith
  have exactNonneg : 0 ≤ amount / ratio := div_nonneg nonneg positive.le
  have quotientNonneg : 0 ≤ amount / inContext ratio :=
    div_nonneg nonneg rounded.le
  -- the error of the ratio, then the error of the quotient
  have first : |amount / inContext ratio - amount / ratio| ≤ 2 * (amount / ratio) / 10 ^ 27 := by
    have difference : amount / inContext ratio - amount / ratio =
        amount / ratio * ((ratio - inContext ratio) / inContext ratio) := by
      field_simp
    have relative : |(ratio - inContext ratio) / inContext ratio| ≤ 2 / 10 ^ 27 := by
      rw [abs_div, abs_of_pos rounded, abs_sub_comm, div_le_iff₀ rounded]
      nlinarith
    rw [difference, abs_mul, abs_of_nonneg exactNonneg]
    have := mul_le_mul_of_nonneg_left relative exactNonneg
    linarith
  have second := abs_inContext_sub_le (amount / inContext ratio)
  rw [abs_of_nonneg quotientNonneg] at second
  have above := (abs_le.mp first).2
  calc |inContext (amount / inContext ratio) - amount / ratio|
      ≤ |inContext (amount / inContext ratio) - amount / inContext ratio| +
        |amount / inContext ratio - amount / ratio| := abs_sub_le _ _ _
    _ ≤ 4 * (amount / ratio) / 10 ^ 27 := by linarith

theorem roundHalfEven_le (below : value ≤ bound) : roundHalfEven value ≤ bound := by
  rw [← roundHalfEven_intCast bound]
  exact roundHalfEven_mono below

/-- Rounding exceeds a whole bound from half a unit above it on, and at half a
unit above an odd bound. -/
theorem lt_roundHalfEven_iff : bound < roundHalfEven value ↔
      bound + 1 / 2 < value ∨ (value = bound + 1 / 2 ∧ bound % 2 = 1) := by
  have below := Int.floor_le value
  have above := Int.lt_floor_add_one value
  rcases lt_trichotomy ⌊value⌋ bound with less | same | more
  · have cast : (⌊value⌋ : ℚ) + 1 ≤ bound := by exact_mod_cast less
    have low : roundHalfEven value ≤ bound := roundHalfEven_le (by linarith)
    refine iff_of_false (not_lt.mpr low) ?_
    rintro (high | ⟨half, -⟩) <;> linarith
  · unfold roundHalfEven
    simp only [same]
    split_ifs with low high even
    · refine iff_of_false (lt_irrefl _) ?_
      rintro (high | ⟨half, -⟩) <;> linarith
    · exact iff_of_true (by omega) (.inl (by linarith))
    · refine iff_of_false (lt_irrefl _) ?_
      rintro (high | ⟨-, odd⟩)
      · linarith
      · omega
    · exact iff_of_true (by omega) (.inr ⟨by linarith, by omega⟩)
  · have cast : (bound : ℚ) + 1 ≤ ⌊value⌋ := by exact_mod_cast more
    have high : bound + 1 ≤ roundHalfEven value := by
      rw [← roundHalfEven_intCast (bound + 1)]
      apply roundHalfEven_mono
      push_cast
      linarith
    exact iff_of_true (by omega) (.inl (by linarith))

theorem roundHalfEven_nonpos (below : value ≤ 1 / 2) : roundHalfEven value ≤ 0 := by
  have half : roundHalfEven (1 / 2) = 0 := by decide +kernel
  rw [← half]
  exact roundHalfEven_mono below

theorem roundHalfUp_le (below : value ≤ bound) : roundHalfUp value ≤ bound := by
  unfold roundHalfUp
  split_ifs
  · have : ⌊value + 1 / 2⌋ < bound + 1 := by
      rw [Int.floor_lt]
      push_cast
      linarith
    omega
  · have : -bound ≤ ⌊-value + 1 / 2⌋ := by
      rw [Int.le_floor]
      push_cast
      linarith
    omega

/-- A value that the digits of the context hold is kept. -/
theorem inContext_of_whole (whole : value * 10 ^ (contextPrecision - 1 - Int.log 10 |value|) =
      scaled) : inContext value = value := by
  have positive : (0 : ℚ) < 10 ^ (contextPrecision - 1 - Int.log 10 |value|) :=
    zpow_pos (by norm_num) _
  unfold inContext
  split_ifs with zero
  · exact zero.symm
  · simp only
    rw [whole, roundHalfEven_intCast, ← whole]
    exact mul_div_cancel_right₀ value positive.ne'

/-- A value whose digits fit in the context is kept. -/
theorem inContext_scaled (small : |scaled| < 10 ^ 28) :
    inContext ((scaled : ℚ) / 10 ^ places) = scaled / 10 ^ places := by
  rcases eq_or_ne scaled 0 with rfl | nonzero
  · simp [inContext]
  · have unit : (0 : ℚ) < 10 ^ places := by positivity
    have exponent : Int.log 10 |(scaled : ℚ) / 10 ^ places| + places < 28 := by
      rw [← lt_sub_iff_add_lt, ← Int.lt_zpow_iff_log_lt (by norm_num)]
      · rw [abs_div, abs_of_pos unit, div_lt_iff₀ unit, ← zpow_natCast,
          Nat.cast_ofNat, ← zpow_add₀ (by norm_num), sub_add_cancel]
        exact_mod_cast small
      · exact abs_pos.mpr (div_ne_zero (by exact_mod_cast nonzero) unit.ne')
    obtain ⟨rest, isRest⟩ : ∃ rest : Nat, contextPrecision - 1 -
        Int.log 10 |(scaled : ℚ) / 10 ^ places| = rest + places := by
      refine ⟨(contextPrecision - 1 - places - Int.log 10 |(scaled : ℚ) / 10 ^ places|).toNat, ?_⟩
      unfold contextPrecision
      omega
    refine @inContext_of_whole _ (scaled * 10 ^ rest) ?_
    rw [isRest, zpow_add₀ (by norm_num), zpow_natCast, zpow_natCast]
    push_cast
    field_simp

theorem inContext_cents {cents : Int} (small : |cents| < 10 ^ 28) :
    inContext ((cents : ℚ) / 100) = (cents : ℚ) / 100 := by
  have kept := @inContext_scaled 2 _ small
  exact kept

theorem inContext_le_of_whole {value bound : ℚ} (nonneg : 0 ≤ bound) (below : value ≤ bound)
    (whole : 0 < value -> ∃ scaled : Int,
      bound * 10 ^ (contextPrecision - 1 - Int.log 10 |value|) = scaled) :
    inContext value ≤ bound := by
  unfold inContext
  split_ifs with zero
  · exact nonneg
  · have positive : (0 : ℚ) < 10 ^ (contextPrecision - 1 - Int.log 10 |value|) :=
      zpow_pos (by norm_num) _
    rw [div_le_iff₀ positive]
    rcases le_or_gt value 0 with negative | above
    · have rounded : roundHalfEven
          (value * 10 ^ (contextPrecision - 1 - Int.log 10 |value|)) ≤ 0 := by
        apply roundHalfEven_le
        exact mul_nonpos_of_nonpos_of_nonneg negative positive.le
      have roundedCast := Int.cast_le (R := ℚ).mpr rounded
      have product : (0 : ℚ) ≤ bound * 10 ^ (contextPrecision - 1 - Int.log 10 |value|) :=
        mul_nonneg nonneg positive.le
      push_cast at roundedCast
      linarith
    · obtain ⟨scaled, isScaled⟩ := whole above
      rw [isScaled]
      have rounded : roundHalfEven (value * 10 ^ (contextPrecision - 1 - Int.log 10 |value|)) ≤
            scaled := by
        apply roundHalfEven_le
        rw [← isScaled]
        exact mul_le_mul_of_nonneg_right below positive.le
      exact_mod_cast rounded

theorem zpow_log_le_inContext (positive : 0 < value) :
    (10 : ℚ) ^ Int.log 10 value ≤ inContext value := by
  have leading : (10 : ℚ) ^ Int.log 10 value ≤ value :=
    Int.zpow_log_le_self (by norm_num) positive
  unfold inContext
  rw [if_neg positive.ne', abs_of_pos positive]
  have scale : (0 : ℚ) < 10 ^ (contextPrecision - 1 - Int.log 10 value) :=
    zpow_pos (by norm_num) _
  have digits : (10 : ℚ) ^ Int.log 10 value *
      10 ^ (contextPrecision - 1 - Int.log 10 value) = ((10 ^ 27 : Int) : ℚ) := by
    rw [← zpow_add₀ (by norm_num), add_sub_cancel]
    rfl
  rw [le_div_iff₀ scale, digits, Int.cast_le, ← roundHalfEven_intCast (10 ^ 27)]
  apply roundHalfEven_mono
  rw [← digits]
  exact mul_le_mul_of_nonneg_right leading scale.le

/-- The context keeps the order: values of different lengths have a power of
ten between them. -/
theorem inContext_mono {low high : ℚ} (positive : 0 < low)
    (ordered : low ≤ high) : inContext low ≤ inContext high := by
  have above := positive.trans_le ordered
  rcases (Int.log_mono_right (b := 10) positive ordered).eq_or_lt with same | longer
  · unfold inContext
    rw [if_neg positive.ne', if_neg above.ne', abs_of_pos positive, abs_of_pos above, same]
    have scale : (0 : ℚ) < 10 ^ (contextPrecision - 1 - Int.log 10 high) :=
      zpow_pos (by norm_num) _
    apply div_le_div_of_nonneg_right _ scale.le
    rw [Int.cast_le]
    exact roundHalfEven_mono (mul_le_mul_of_nonneg_right ordered scale.le)
  · have short : low < (10 : ℚ) ^ (Int.log 10 low + 1) :=
      Int.lt_zpow_succ_log_self (by norm_num) low
    calc inContext low ≤ 10 ^ (Int.log 10 low + 1) := by
          apply inContext_le_of_whole (zpow_nonneg (by norm_num) _) short.le
          intro _
          refine ⟨10 ^ 28, ?_⟩
          rw [abs_of_pos positive, ← zpow_add₀ (by norm_num),
            show Int.log 10 low + 1 + (contextPrecision - 1 -
              Int.log 10 low) = 28 by unfold contextPrecision; ring]
          rfl
      _ ≤ 10 ^ Int.log 10 high :=
        zpow_le_zpow_right₀ (by norm_num) (by omega)
      _ ≤ inContext high := zpow_log_le_inContext above

/-- A bound whose digits fit in the context still bounds in it. -/
theorem inContext_le_scaled (nonneg : 0 ≤ scaled)
    (digits : scaled < 10 ^ 28) (below : value ≤ scaled / 10 ^ places) :
    inContext value ≤ scaled / 10 ^ places := by
  rcases le_or_gt value 0 with negative | above
  · have bounded : (0 : ℚ) ≤ scaled / 10 ^ places :=
      div_nonneg (by exact_mod_cast nonneg) (by positivity)
    exact inContext_le_of_whole bounded below (absurd · (not_lt.mpr negative))
  · rw [← inContext_scaled (abs_lt.mpr ⟨by omega, digits⟩)]
    exact inContext_mono above below

theorem inContext_le (nonneg : 0 ≤ bound) (digits : bound < 10 ^ 28)
    (below : value ≤ bound) : inContext value ≤ bound := by
  rw [← div_one (bound : ℚ), ← pow_zero 10] at below ⊢
  exact inContext_le_scaled nonneg digits below

theorem inContext_le_half (below : value ≤ 1 / 2) : inContext value ≤ 1 / 2 := by
  have half : (1 / 2 : ℚ) = (5 : Int) / 10 ^ 1 := by norm_num
  rw [half] at below ⊢
  exact inContext_le_scaled (by norm_num) (by norm_num) below

theorem quantizeHalfUp_le (below : value ≤ bound) : quantizeHalfUp 0 value ≤ bound := by
  apply roundHalfUp_le
  rw [pow_zero, mul_one]
  exact below

end Decimal
