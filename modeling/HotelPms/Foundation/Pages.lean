import Mathlib.Data.List.Basic

/-!
# Pages of a list

Cutting a list into pages of one size loses nothing and repeats nothing, also
when a page is made of the end of one list and the start of another.
-/

namespace Pages

variable {α : Type*}

theorem flatMap_range (items : List α) (size pages : Nat) :
    (List.range pages).flatMap (fun page => (items.drop (page * size)).take size) =
      items.take (pages * size) := by
  induction pages with
  | zero => simp
  | succ pages ih =>
    rw [List.range_succ, List.flatMap_append, ih,
      List.flatMap_singleton, Nat.succ_mul, List.take_add]

theorem flatMap_pages (items : List α) {size : Nat} (positive : 0 < size) :
    (List.range ((items.length + size - 1) / size)).flatMap (fun page =>
        (items.drop (page * size)).take size) = items := by
  rw [flatMap_range]
  apply List.take_of_length_le
  have enough := @Nat.lt_div_mul_add (items.length + size - 1) size positive
  omega

/-- A page cut across two lists. -/
theorem slice_append (first second : List α) (start size : Nat) :
    let head := (first.drop start).take (min size (first.length - start))
    head ++ (second.drop (start - first.length)).take (size - head.length) =
      ((first ++ second).drop start).take size := by
  simp only [List.drop_append, List.take_append, List.length_take, List.length_drop]
  congr 1
  · rw [← List.length_drop, ← List.take_eq_take_min]
  · congr 1
    omega

end Pages
