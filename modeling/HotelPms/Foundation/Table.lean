import Mathlib.Algebra.BigOperators.Group.List.Basic
import Mathlib.Data.List.Nodup
import Mathlib.Tactic.Abel

/-!
# Tables with a key

A table is a list of rows, and a key column tells its rows apart.  A row is
found by its key, and replaced by another row with the same key.  Numbered
tables hand out their keys in order, so that a new row takes the next one.
-/

namespace Table

variable {ρ κ : Type*} [DecidableEq κ]

/-- The row with a key. -/
def find (key : ρ -> κ) (k : κ) (rows : List ρ) : Option ρ :=
  rows.find? (key · = k)

/-- The row with the key of `row` becomes `row`. -/
def replace (key : ρ -> κ) (row : ρ) (rows : List ρ) : List ρ :=
  rows.map fun other => if key other = key row then row else other

variable {key : ρ -> κ} {row other : ρ} {rows : List ρ} {k : κ}

theorem find_eq_some (found : find key k rows = some row) : row ∈ rows ∧ key row = k := by
  have matched := List.find?_some found
  rw [decide_eq_true_eq] at matched
  exact ⟨List.mem_of_find?_eq_some found, matched⟩

theorem find_eq_none (absent : find key k rows = none) : ∀ row ∈ rows, key row ≠ k := by
  intro row member
  have differs := List.find?_eq_none.mp absent row member
  rwa [decide_eq_true_eq] at differs

omit [DecidableEq κ] in
theorem eq_of_key (distinct : (rows.map key).Nodup) (member : row ∈ rows) (otherIn : other ∈ rows)
    (same : key row = key other) : row = other :=
  List.inj_on_of_nodup_map distinct member otherIn same

omit [DecidableEq κ] in
theorem key_mem_map_filter
    (distinct : (rows.map key).Nodup) (member : row ∈ rows) (keep : ρ -> Bool) :
    key row ∈ (rows.filter keep).map key ↔ keep row = true := by
  constructor
  · intro listed
    obtain ⟨other, selected, same⟩ := List.mem_map.mp listed
    obtain ⟨otherIn, kept⟩ := List.mem_filter.mp selected
    exact eq_of_key distinct member otherIn same.symm ▸ kept
  · intro kept
    exact List.mem_map_of_mem (List.mem_filter.mpr ⟨member, kept⟩)

theorem find_of_mem (distinct : (rows.map key).Nodup) (member : row ∈ rows) :
    find key (key row) rows = some row := by
  cases found : find key (key row) rows with
  | none => exact absurd rfl (find_eq_none found row member)
  | some other =>
    obtain ⟨otherIn, same⟩ := find_eq_some found
    rw [eq_of_key distinct otherIn member same]

theorem find_append_eq_some {more : List ρ} (found : find key k rows = some row) :
    find key k (rows ++ more) = some row := by
  unfold find at found ⊢
  rw [List.find?_append, found]
  rfl

theorem filter_key (distinct : (rows.map key).Nodup) (member : row ∈ rows) :
    (rows.filter (key · = key row)) = [row] := by
  induction rows with
  | nil => cases member
  | cons first rows ih =>
    rw [List.map_cons, List.nodup_cons] at distinct
    rcases List.mem_cons.mp member with rfl | later
    · have none : rows.filter (key · = key row) = [] := by
        rw [List.filter_eq_nil_iff]
        intro other otherIn same
        rw [decide_eq_true_eq] at same
        exact distinct.1 (same ▸ List.mem_map_of_mem otherIn)
      rw [List.filter_cons_of_pos (by simp), none]
    · have differs : key first ≠ key row := by
        intro same
        exact distinct.1 (same ▸ List.mem_map_of_mem later)
      rw [List.filter_cons_of_neg (by simp [differs])]
      exact ih distinct.2 later

@[simp] theorem map_key_replace :
    (replace key row rows).map key = rows.map key := by
  unfold replace
  rw [List.map_map]
  apply List.map_congr_left
  intro other _
  simp only [Function.comp_apply]
  split_ifs with same
  · exact same.symm
  · rfl

theorem mem_replace_iff : other ∈ replace key row rows ↔
      (other = row ∧ key row ∈ rows.map key) ∨ (other ∈ rows ∧ key other ≠ key row) := by
  unfold replace
  rw [List.mem_map]
  constructor
  · rintro ⟨old, oldIn, rfl⟩
    split_ifs with same
    · exact .inl ⟨rfl, same ▸ List.mem_map_of_mem oldIn⟩
    · exact .inr ⟨oldIn, same⟩
  · rintro (⟨rfl, known⟩ | ⟨member, differs⟩)
    · obtain ⟨old, oldIn, same⟩ := List.mem_map.mp known
      exact ⟨old, oldIn, if_pos same⟩
    · exact ⟨other, member, if_neg differs⟩

theorem mem_replace (member : other ∈ replace key row rows) :
    other = row ∨ (other ∈ rows ∧ key other ≠ key row) :=
  (mem_replace_iff.mp member).imp_left And.left

theorem mem_replace_self (known : key row ∈ rows.map key) : row ∈ replace key row rows :=
  mem_replace_iff.mpr (.inl ⟨rfl, known⟩)

theorem mem_replace_of_ne (member : other ∈ rows)
    (differs : key other ≠ key row) : other ∈ replace key row rows :=
  mem_replace_iff.mpr (.inr ⟨member, differs⟩)

/-- Every row has its successor in the changed table. -/
theorem exists_mem_replace (key : ρ -> κ) (row : ρ) (member : other ∈ rows) :
    ∃ kept ∈ replace key row rows, key kept = key other ∧ (kept = other ∨ kept = row) := by
  by_cases same : key other = key row
  · exact ⟨row, mem_replace_self (same ▸ List.mem_map_of_mem member), same.symm, .inr rfl⟩
  · exact ⟨other, mem_replace_of_ne member same, rfl, .inl rfl⟩

theorem find_replace_self (key : ρ -> κ) (row : ρ)
    (distinct : (rows.map key).Nodup) (known : key row ∈ rows.map key) :
    find key (key row) (replace key row rows) = some row := by
  apply find_of_mem _ (mem_replace_self known)
  rw [map_key_replace]
  exact distinct

theorem find_replace_of_ne (differs : key row ≠ k) :
    find key k (replace key row rows) = find key k rows := by
  induction rows with
  | nil => rfl
  | cons first rows ih =>
    unfold find replace at ih ⊢
    rw [List.map_cons, List.find?_cons, List.find?_cons]
    by_cases same : key first = key row
    · have other : key first ≠ k := same ▸ differs
      rw [if_pos same, decide_eq_false differs, decide_eq_false other]
      exact ih
    · rw [if_neg same, ih]

theorem map_replace {β : Type*} (column : ρ -> β)
    (kept : ∀ old ∈ rows, key old = key row -> column old = column row) :
    (replace key row rows).map column = rows.map column := by
  unfold replace
  rw [List.map_map]
  apply List.map_congr_left
  intro old oldIn
  simp only [Function.comp_apply]
  split_ifs with same
  · exact (kept old oldIn same).symm
  · rfl

/-- A replacement moves the total of a column by the difference of the
rows. -/
theorem sum_replace {M : Type*} [AddCommGroup M]
    (key : ρ -> κ) (value : ρ -> M) (row : ρ) (distinct : (rows.map key).Nodup)
    {old : ρ} (member : old ∈ rows) (same : key old = key row) :
    ((replace key row rows).map value).sum = (rows.map value).sum - value old + value row := by
  induction rows with
  | nil => cases member
  | cons first rows ih =>
    rw [List.map_cons, List.nodup_cons] at distinct
    rcases List.mem_cons.mp member with rfl | later
    · have untouched : replace key row rows = rows := by
        unfold replace
        rw [List.map_congr_left (g := id), List.map_id]
        intro other otherIn
        apply if_neg
        intro sameOther
        apply distinct.1
        rw [same, ← sameOther]
        exact List.mem_map_of_mem otherIn
      have split : replace key row (old :: rows) = row :: replace key row rows := by
        simp [replace, same]
      rw [split, untouched]
      simp only [List.map_cons, List.sum_cons]
      abel
    · have differs : key first ≠ key row := by
        intro sameFirst
        apply distinct.1
        rw [sameFirst, ← same]
        exact List.mem_map_of_mem later
      have split : replace key row (first :: rows) =
          first :: replace key row rows := by
        simp [replace, differs]
      rw [split]
      simp only [List.map_cons, List.sum_cons]
      rw [ih distinct.2 later]
      abel

/-- The row takes the place of the one with its key, or is added. -/
def upsert (key : ρ -> κ) (row : ρ) (rows : List ρ) : List ρ :=
  if key row ∈ rows.map key then replace key row rows else rows ++ [row]

theorem nodup_upsert (key : ρ -> κ) (row : ρ) (distinct : (rows.map key).Nodup) :
    ((upsert key row rows).map key).Nodup := by
  unfold upsert
  split_ifs with known
  · rw [map_key_replace]
    exact distinct
  · rw [List.map_append, List.map_singleton, ← List.concat_eq_append]
    exact distinct.concat known

theorem mem_upsert (member : other ∈ upsert key row rows) :
    other = row ∨ (other ∈ rows ∧ key other ≠ key row) := by
  unfold upsert at member
  split_ifs at member with known
  · exact mem_replace member
  · rcases List.mem_append.mp member with old | new
    · refine .inr ⟨old, fun same => known ?_⟩
      rw [← same]
      exact List.mem_map_of_mem old
    · exact .inl (List.mem_singleton.mp new)

theorem find_upsert_self (key : ρ -> κ) (row : ρ) (distinct : (rows.map key).Nodup) :
    find key (key row) (upsert key row rows) = some row := by
  apply find_of_mem (nodup_upsert key row distinct)
  unfold upsert
  split_ifs with known
  · exact mem_replace_self known
  · simp

theorem find_upsert_of_ne (differs : key row ≠ k) :
    find key k (upsert key row rows) = find key k rows := by
  unfold upsert
  split_ifs with known
  · exact find_replace_of_ne differs
  · unfold find
    simp [differs]

/-- The keys of a table are distinct and below the next one. -/
structure Numbered (key : ρ -> Int) (next : Int) (rows : List ρ) : Prop where
  distinct : (rows.map key).Nodup
  below : ∀ row ∈ rows, key row < next

namespace Numbered

variable {key : ρ -> Int} {next : Int} {row : ρ} {rows : List ρ}

theorem nil (key : ρ -> Int) (next : Int) : Numbered key next [] where
  distinct := List.nodup_nil
  below := by simp

theorem append (numbered : Numbered key next rows) (isNext : key row = next) :
    Numbered key (next + 1) (rows ++ [row]) where
  distinct := by
    rw [List.map_append, List.nodup_append]
    refine ⟨numbered.distinct, List.nodup_singleton _, ?_⟩
    intro old oldIn new newIn same
    obtain ⟨other, otherIn, rfl⟩ := List.mem_map.mp oldIn
    have below := numbered.below other otherIn
    rw [List.map_singleton, List.mem_singleton] at newIn
    omega
  below := by
    intro other member
    rcases List.mem_append.mp member with old | new
    · have := numbered.below other old
      omega
    · rw [List.mem_singleton.mp new]
      omega

theorem of_map_key_eq {after : List ρ} (numbered : Numbered key next rows)
    (same : after.map key = rows.map key) : Numbered key next after where
  distinct := by
    rw [same]
    exact numbered.distinct
  below := by
    intro row member
    have known : key row ∈ after.map key := List.mem_map_of_mem member
    rw [same] at known
    obtain ⟨old, oldIn, sameKey⟩ := List.mem_map.mp known
    rw [← sameKey]
    exact numbered.below old oldIn

theorem replace (numbered : Numbered key next rows) (row : ρ) (isOld : key row < next) :
    Numbered key next (Table.replace key row rows) where
  distinct := by
    rw [map_key_replace]
    exact numbered.distinct
  below := by
    intro other member
    rcases mem_replace member with rfl | ⟨old, -⟩
    · exact isOld
    · exact numbered.below other old

theorem ne_next (numbered : Numbered key next rows) (member : row ∈ rows) : key row ≠ next :=
  Int.ne_of_lt (numbered.below row member)

end Numbered

end Table
