import HotelPms.Foundation.Decimal
import Mathlib.Algebra.BigOperators.Group.List.Basic
import Mathlib.Algebra.Order.BigOperators.Group.List
import Mathlib.Algebra.Order.BigOperators.Group.Multiset
import Mathlib.Data.Rat.Cast.Order
import Mathlib.Tactic.Linarith

/-!
# Sums in a decimal context

Adding up a list with every partial sum rounded to the digits of the context.
Whole amounts add up exactly; the sum of other amounts is off by a multiple of
the last digit of the context, and its order matters no more than that.
-/

namespace Decimal

def contextSum (values : List ℚ) : ℚ :=
  values.foldl (fun total value => inContext (total + value)) 0

theorem roundHalfEven_rest_nonpos (value : ℚ) :
    roundHalfEven (inContext (value - roundHalfEven value)) ≤ 0 := by
  apply roundHalfEven_nonpos
  apply inContext_le_half
  have within := abs_le.mp (abs_roundHalfEven_sub_le value)
  linarith

theorem abs_roundHalfUp_sub_le (value : ℚ) :
    |(roundHalfUp value : ℚ) - value| ≤ 1 / 2 := by
  unfold roundHalfUp
  rw [abs_le]
  split_ifs
  · have below := Int.floor_le (value + 1 / 2)
    have above := Int.lt_floor_add_one (value + 1 / 2)
    constructor <;> linarith
  · have below := Int.floor_le (-value + 1 / 2)
    have above := Int.lt_floor_add_one (-value + 1 / 2)
    push_cast
    constructor <;> linarith

/-- Whole values of at most twenty-eight digits are kept. -/
theorem inContext_intCast {value : Int} (digits : |value| < 10 ^ 28) : inContext value = value := by
  have kept := @inContext_scaled 0 _ digits
  rwa [pow_zero, div_one] at kept

theorem abs_sum_le_sum_abs {M : Type*} [AddCommGroup M] [LinearOrder M] [IsOrderedAddMonoid M]
    (values : List M) :
    |values.sum| ≤ (values.map (|·|)).sum := by
  have bound := Multiset.abs_sum_le_sum_abs (s := (values : Multiset M))
  rwa [Multiset.sum_coe, Multiset.map_coe, Multiset.sum_coe] at bound

theorem abs_sum_map_sub_le {α : Type*} {items : List α} {first second bound : α -> ℚ}
    (close : ∀ item ∈ items, |first item - second item| ≤ bound item) :
    |(items.map first).sum - (items.map second).sum| ≤ (items.map bound).sum := by
  induction items with
  | nil => simp
  | cons item items ih =>
    have here := close item List.mem_cons_self
    have rest := ih (List.forall_mem_cons.mp close).2
    simp only [List.map_cons, List.sum_cons]
    rw [add_sub_add_comm]
    exact (abs_add_le _ _).trans (add_le_add here rest)

/-- Whole amounts add up exactly while they fit in the context. -/
theorem contextSum_intCast {values : List Int} (digits : (values.map (|·|)).sum < 10 ^ 28) :
    contextSum (values.map Int.cast) = (values.sum : ℚ) := by
  have run : ∀ (values : List Int) (start : Int),
      |start| + (values.map (|·|)).sum < 10 ^ 28 ->
      (values.map Int.cast).foldl (fun total value => inContext (total + value)) (start : ℚ) =
        ((start + values.sum : Int) : ℚ) := by
    intro values
    induction values with
    | nil => simp
    | cons value values ih =>
      intro start within
      rw [List.map_cons, List.sum_cons] at within
      have triangle := abs_add_le start value
      have rest : 0 ≤ (values.map (|·|)).sum :=
        List.sum_nonneg fun size member => by
          obtain ⟨value, -, rfl⟩ := List.mem_map.mp member
          exact abs_nonneg value
      rw [List.map_cons, List.foldl_cons, ← Int.cast_add, inContext_intCast (by omega), ih _ (by
        omega), List.sum_cons, add_assoc]
  have exact' := run values 0 (by simpa using digits)
  rwa [Int.cast_zero, zero_add] at exact'

theorem abs_contextSum_sub_le {values : List ℚ} {size : ℚ} (sizes : (values.map (|·|)).sum ≤ size)
    (short : 2 * (values.length : ℚ) ≤ 10 ^ 27) :
    |contextSum values - values.sum| ≤ values.length * (2 * size / 10 ^ 27) := by
  have sizeNonneg : 0 ≤ size := by
    refine le_trans (List.sum_nonneg ?_) sizes
    intro length member
    obtain ⟨value, -, rfl⟩ := List.mem_map.mp member
    exact abs_nonneg value
  -- the error after each term, over the prefix already added
  have run : ∀ (values : List ℚ) (start exact' : ℚ) (done : Nat),
      |exact'| + (values.map (|·|)).sum ≤ size ->
      2 * ((done + values.length : Nat) : ℚ) ≤ 10 ^ 27 ->
      |start - exact'| ≤ done * (2 * size / 10 ^ 27) ->
      |values.foldl (fun total value => inContext (total + value)) start - (exact' + values.sum)| ≤
        ((done + values.length : Nat) : ℚ) * (2 * size / 10 ^ 27) := by
    intro values
    induction values with
    | nil =>
      intro start exact' done _ _ error
      simpa using error
    | cons value values ih =>
      intro start exact' done within bounded error
      rw [List.map_cons, List.sum_cons] at within
      rw [List.foldl_cons, List.sum_cons, ← add_assoc]
      have rest : 0 ≤ (values.map (|·|)).sum := by
        apply List.sum_nonneg
        intro length member
        obtain ⟨value, -, rfl⟩ := List.mem_map.mp member
        exact abs_nonneg value
      have triangle := abs_add_le exact' value
      have lengths : done + (value :: values).length = done + 1 + values.length := by
        rw [List.length_cons]
        omega
      rw [lengths] at bounded ⊢
      apply ih _ _ (done + 1) (by linarith) bounded
      have small : (done : ℚ) * (2 * size / 10 ^ 27) ≤ size := by
        have counted : (2 : ℚ) * done ≤ 10 ^ 27 := by
          push_cast at bounded
          linarith
        calc (done : ℚ) * (2 * size / 10 ^ 27) = 2 * done * size / 10 ^ 27 := by ring
          _ ≤ 10 ^ 27 * size / 10 ^ 27 := by gcongr
          _ = size := by field_simp
      have moved : |start + value - (exact' + value)| ≤ done * (2 * size / 10 ^ 27) := by
        rwa [add_sub_add_right_eq_sub]
      have reach : |start + value| ≤ 2 * size := by
        have near := abs_sub_abs_le_abs_sub (start + value) (exact' + value)
        linarith
      have rounded := abs_inContext_sub_le (start + value)
      calc |inContext (start + value) - (exact' + value)|
          ≤ |inContext (start + value) - (start + value)| +
            |start + value - (exact' + value)| := abs_sub_le _ _ _
        _ ≤ 2 * size / 10 ^ 27 + done * (2 * size / 10 ^ 27) := by
            linarith
        _ = ((done + 1 : Nat) : ℚ) * (2 * size / 10 ^ 27) := by
            push_cast
            ring
  have bound := run values 0 0 0 (by simpa using sizes) (by simpa using short) (by simp)
  simpa [contextSum] using bound

end Decimal
