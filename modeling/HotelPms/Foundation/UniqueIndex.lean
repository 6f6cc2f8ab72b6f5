import HotelPms.Foundation.Table

/-!
# Unique indexes over selected rows

A unique index may cover only the rows that meet a condition.  Rows it covers
differ in its key.  A new row must differ from those covered, and a row that is
rewritten must be covered already, under the same key.
-/

namespace Table

variable {ρ κ ι : Type*} {key : ρ -> κ} {keep : ρ -> Prop} {row : ρ} {rows : List ρ}

/-- Rows that meet the condition differ in the key. -/
def UniqueWhere (key : ρ -> κ) (keep : ρ -> Prop) (rows : List ρ) : Prop :=
  ∀ first ∈ rows, ∀ second ∈ rows, keep first -> keep second ->
    key first = key second -> first = second

theorem UniqueWhere.nil (key : ρ -> κ) (keep : ρ -> Prop) : UniqueWhere key keep [] := by
  intro first member
  cases member

theorem UniqueWhere.append (unique : UniqueWhere key keep rows)
    (fresh : ∀ other ∈ rows, keep other -> key other ≠ key row) :
    UniqueWhere key keep (rows ++ [row]) := by
  intro first firstIn second secondIn firstKept secondKept same
  rcases List.mem_append.mp firstIn with firstOld | firstNew
  · rcases List.mem_append.mp secondIn with secondOld | secondNew
    · exact unique first firstOld second secondOld firstKept secondKept same
    · rw [List.mem_singleton.mp secondNew] at same
      exact absurd same (fresh first firstOld firstKept)
  · rcases List.mem_append.mp secondIn with secondOld | secondNew
    · rw [List.mem_singleton.mp firstNew] at same
      exact absurd same.symm (fresh second secondOld secondKept)
    · rw [List.mem_singleton.mp firstNew, List.mem_singleton.mp secondNew]

theorem UniqueWhere.replace [DecidableEq ι] {number : ρ -> ι} (unique : UniqueWhere key keep rows)
    (kept : ∀ old ∈ rows, number old = number row -> keep row -> keep old ∧ key old = key row) :
    UniqueWhere key keep (Table.replace number row rows) := by
  have differs : ∀ other ∈ rows, number other ≠ number row -> keep other ->
      number row ∈ rows.map number -> keep row -> key other ≠ key row := by
    intro other otherIn isOther otherKept known rowKept same
    obtain ⟨old, oldIn, isOld⟩ := List.mem_map.mp known
    obtain ⟨oldKept, sameKey⟩ := kept old oldIn isOld rowKept
    have := unique other otherIn old oldIn otherKept oldKept (same.trans sameKey.symm)
    exact isOther (this ▸ isOld)
  intro first firstIn second secondIn firstKept secondKept same
  rcases mem_replace_iff.mp firstIn with ⟨rfl, known⟩ | ⟨firstOld, isFirst⟩
  · rcases mem_replace_iff.mp secondIn with ⟨rfl, -⟩ | ⟨old, isSecond⟩
    · rfl
    · exact absurd same.symm (differs second old isSecond secondKept known firstKept)
  · rcases mem_replace_iff.mp secondIn with ⟨rfl, known⟩ | ⟨old, -⟩
    · exact absurd same (differs first firstOld isFirst firstKept known secondKept)
    · exact unique first firstOld second old firstKept secondKept same

end Table
