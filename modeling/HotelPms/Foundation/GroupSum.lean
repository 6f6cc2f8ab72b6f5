import Mathlib.Algebra.BigOperators.Group.List.Basic
import Mathlib.Data.List.Dedup
import Mathlib.Tactic.Abel

/-!
# Grouped sums and keyed tables

`SELECT key, SUM(value) GROUP BY key` over a table: one entry for each key that
occurs, with the total of its rows.  A key that does not occur has no entry,
and its total is zero.
-/

namespace GroupSum

section Lookup

variable {ρ κ V W : Type*} [DecidableEq κ]

theorem lookup_keyed (entry : κ -> V) (keys : List κ) (k : κ) :
    (keys.map fun key => (key, entry key)).lookup k =
      if k ∈ keys then some (entry k) else none := by
  split_ifs with member
  · exact List.lookup_graph entry member
  · rw [List.lookup_eq_none_iff]
    intro pair pairIn
    obtain ⟨other, otherIn, rfl⟩ := List.mem_map.mp pairIn
    rw [bne_iff_ne]
    rintro rfl
    exact member otherIn

theorem lookup_of_mem (key : ρ -> κ) (entry : ρ -> V) {rows : List ρ}
    (distinct : (rows.map key).Nodup) {row : ρ} (member : row ∈ rows) :
    (rows.map fun row => (key row, entry row)).lookup (key row) = some (entry row) := by
  induction rows with
  | nil => cases member
  | cons first rows ih =>
    rw [List.map_cons, List.nodup_cons] at distinct
    rw [List.map_cons, List.lookup_cons]
    rcases List.mem_cons.mp member with rfl | later
    · rw [beq_self_eq_true]
    · have differs : key row ≠ key first := by
        intro same
        exact distinct.1 (same ▸ List.mem_map_of_mem later)
      rw [beq_false_of_ne differs]
      exact ih distinct.2 later

theorem lookup_of_mem_distinct {table : List (κ × V)} (distinct : (table.map Prod.fst).Nodup)
    {pair : κ × V} (member : pair ∈ table) :
    table.lookup pair.1 = some pair.2 := by
  have read := lookup_of_mem Prod.fst Prod.snd distinct member
  rwa [List.map_id'' fun _ => rfl] at read

theorem lookup_map_value (change : V -> W) (table : List (κ × V)) (k : κ) :
    (table.map fun pair => (pair.1, change pair.2)).lookup k = (table.lookup k).map change := by
  induction table with
  | nil => rfl
  | cons pair table ih =>
    rw [List.map_cons, List.lookup_cons, List.lookup_cons]
    cases k == pair.1
    · exact ih
    · rfl

theorem lookup_eq_some_of_entries {table : List (κ × V)} {k : κ} {value : V}
    (present : (k, value) ∈ table)
    (entries : ∀ other, (k, other) ∈ table -> other = value) :
    table.lookup k = some value := by
  cases read : table.lookup k with
  | none =>
    have differs := List.lookup_eq_none_iff.mp read _ present
    simp at differs
  | some other =>
    obtain ⟨before, after, split, -⟩ := List.lookup_eq_some_iff.mp read
    have member : (k, other) ∈ table := by
      rw [split]
      exact List.mem_append_right _ List.mem_cons_self
    rw [entries other member]

theorem filter_flatMap_key (key : ρ -> κ) (tag : V -> κ) {items : ρ -> List V}
    (tagged : ∀ row, ∀ item ∈ items row, tag item = key row)
    (rows : List ρ) (k : κ) :
    (rows.flatMap items).filter (tag · = k) = (rows.filter (key · = k)).flatMap items := by
  induction rows with
  | nil => rfl
  | cons row rows ih =>
    rw [List.flatMap_cons, List.filter_append, ih]
    by_cases same : key row = k
    · have kept : (items row).filter (tag · = k) = items row := by
        rw [List.filter_eq_self]
        intro item member
        rw [tagged row item member]
        exact decide_eq_true same
      rw [kept, List.filter_cons_of_pos (by simp [same]), List.flatMap_cons]
    · have none : (items row).filter (tag · = k) = [] := by
        rw [List.filter_eq_nil_iff]
        intro item member
        rw [tagged row item member, decide_eq_true_eq]
        exact same
      rw [none, List.filter_cons_of_neg (by simp [same]), List.nil_append]

/-- Rows that give nothing need not be read. -/
theorem flatMap_filter_of_nil {items : ρ -> List V} {keep : ρ -> Bool} {rows : List ρ}
    (nothing : ∀ row ∈ rows, keep row = false -> items row = []) :
    (rows.filter keep).flatMap items = rows.flatMap items := by
  induction rows with
  | nil => rfl
  | cons row rows ih =>
    have rest := ih (List.forall_mem_cons.mp nothing).2
    rw [List.flatMap_cons, List.filter_cons]
    cases kept : keep row with
    | true => rw [if_pos rfl, List.flatMap_cons, rest]
    | false =>
      rw [if_neg Bool.false_ne_true, rest, nothing row List.mem_cons_self kept, List.nil_append]

theorem flatMap_filter_perm (key : ρ -> κ) {keys : List κ} (distinct : keys.Nodup) (rows : List ρ) :
    (keys.flatMap fun k => rows.filter (key · = k)).Perm (rows.filter (key · ∈ keys)) := by
  induction keys with
  | nil => simp
  | cons k keys ih =>
    rw [List.nodup_cons] at distinct
    refine ((ih distinct.2).append_left _).trans ?_
    clear ih
    induction rows with
    | nil => simp
    | cons row rows ih =>
      by_cases same : key row = k
      · have later : key row ∉ keys := same ▸ distinct.1
        simpa [List.filter_cons, same, distinct.1] using ih
      · by_cases later : key row ∈ keys
        · simp only [List.filter_cons, same, later, decide_false, decide_true, List.mem_cons,
            false_or, if_true, Bool.false_eq_true, if_false] at ih ⊢
          exact List.perm_middle.trans (ih.cons row)
        · simpa [List.filter_cons, same, later] using ih

end Lookup

section Sums

variable {ρ M : Type*}

theorem sum_map_filter [AddCommMonoid M] (keep : ρ -> Bool) (value : ρ -> M) (rows : List ρ) :
    ((rows.filter keep).map value).sum =
      (rows.map fun row => if keep row = true then value row else 0).sum := by
  induction rows with
  | nil => rfl
  | cons row rows ih =>
    rw [List.map_cons, List.sum_cons, ← ih]
    by_cases kept : keep row = true
    · rw [if_pos kept, List.filter_cons_of_pos kept, List.map_cons, List.sum_cons]
    · rw [if_neg kept, List.filter_cons_of_neg kept, zero_add]

theorem sum_map_sub [AddCommGroup M] (before lost : ρ -> M) {after : ρ -> M} {rows : List ρ}
    (each : ∀ row ∈ rows, after row = before row - lost row) :
    (rows.map after).sum = (rows.map before).sum - (rows.map lost).sum := by
  induction rows with
  | nil => simp
  | cons row rows ih =>
    have others := ih (List.forall_mem_cons.mp each).2
    rw [List.map_cons, List.map_cons, List.map_cons, List.sum_cons,
      List.sum_cons, List.sum_cons, others, each row List.mem_cons_self]
    abel

end Sums

section Totals

variable {ρ κ M : Type*} [DecidableEq κ] [AddCommMonoid M]

/-- Total of the rows with a key. -/
def totalOf (key : ρ -> κ) (value : ρ -> M) (rows : List ρ) (k : κ) : M :=
  ((rows.filter (key · = k)).map value).sum

/-- Keys of a table with their totals. -/
def groupSum (key : ρ -> κ) (value : ρ -> M) (rows : List ρ) : List (κ × M) :=
  (rows.map key).dedup.map fun k => (k, totalOf key value rows k)

variable {key : ρ -> κ} {value : ρ -> M} {rows : List ρ} {k : κ}

theorem totalOf_eq_zero (absent : k ∉ rows.map key) : totalOf key value rows k = 0 := by
  have none : (rows.filter (key · = k)) = [] := by
    rw [List.filter_eq_nil_iff]
    intro row member
    simp only [decide_eq_true_eq]
    rintro rfl
    exact absent (List.mem_map_of_mem member)
  rw [totalOf, none]
  rfl

theorem getD_lookup_groupSum :
    ((groupSum key value rows).lookup k).getD 0 = totalOf key value rows k := by
  rw [groupSum, lookup_keyed]
  split_ifs with member
  · rfl
  · rw [List.mem_dedup] at member
    exact (totalOf_eq_zero member).symm

theorem totalOf_filter {keep : ρ -> Bool} (kept : ∀ row ∈ rows, key row = k -> keep row = true) :
    totalOf key value (rows.filter keep) k = totalOf key value rows k := by
  unfold totalOf
  rw [List.filter_filter]
  congr 2
  apply List.filter_congr
  intro row member
  by_cases same : key row = k
  · simp [same, kept row member same]
  · simp [same]

/-- Adding rows adds their totals. -/
theorem totalOf_append (first second : List ρ) : totalOf key value (first ++ second) k =
      totalOf key value first k + totalOf key value second k := by
  simp [totalOf]

theorem totalOf_of_mem_distinct (key : ρ -> κ) (value : ρ -> M) {rows : List ρ}
    (distinct : (rows.map key).Nodup) {row : ρ} (member : row ∈ rows) :
    totalOf key value rows (key row) = value row := by
  induction rows with
  | nil => cases member
  | cons first rows ih =>
    rw [List.map_cons, List.nodup_cons] at distinct
    have split : totalOf key value (first :: rows) (key row) =
        totalOf key value [first] (key row) + totalOf key value rows (key row) := by
      rw [← totalOf_append]
      rfl
    rw [split]
    rcases List.mem_cons.mp member with rfl | later
    · rw [totalOf_eq_zero distinct.1]
      simp [totalOf]
    · have differs : key first ≠ key row := by
        intro same
        exact distinct.1 (same ▸ List.mem_map_of_mem later)
      rw [ih distinct.2 later]
      simp [totalOf, differs]

theorem sum_totalOf
    (key : ρ -> κ) (value : ρ -> M) (rows : List ρ) {keys : List κ} (distinct : keys.Nodup)
    (known : ∀ row ∈ rows, key row ∈ keys) :
    (keys.map (totalOf key value rows)).sum = (rows.map value).sum := by
  induction rows with
  | nil =>
    have empty : totalOf key value [] = fun _ : κ => 0 := rfl
    rw [empty]
    simp
  | cons row rows ih =>
    have head : ∀ k, totalOf key value (row :: rows) k =
        (if key row = k then value row else 0) + totalOf key value rows k := by
      intro k
      by_cases same : key row = k
      · simp [totalOf, same]
      · simp [totalOf, same]
    have rest := ih (List.forall_mem_cons.mp known).2
    rw [List.map_congr_left fun k _ => head k, List.sum_map_add, rest, List.map_cons, List.sum_cons]
    have elsewhere : ∀ k, k ≠ key row -> k ∈ keys -> (if key row = k then value row else 0) = 0 := by
      intro k differs _
      exact if_neg differs.symm
    rw [List.sum_map_eq_nsmul_single (key row) _ elsewhere, List.count_eq_one_of_mem distinct (known
      row List.mem_cons_self), one_nsmul, if_pos rfl]

end Totals

end GroupSum
