import Mathlib.Data.List.Sort

/-!
# Stable sorting by a key

`sortByKey` orders a list by a key and keeps equal keys in their original
order, as the library sort of most scripting languages does.
-/

namespace KeySort

variable {α κ : Type*} [LinearOrder κ]

def sortByKey (key : α -> κ) (items : List α) : List α :=
  items.insertionSort fun first second => key first ≤ key second

variable (key : α -> κ) (items : List α)

theorem sortByKey_perm : (sortByKey key items).Perm items :=
  List.perm_insertionSort _ items

@[simp] theorem mem_sortByKey {item : α} :
    item ∈ sortByKey key items ↔ item ∈ items :=
  (sortByKey_perm key items).mem_iff

theorem sortByKey_pairwise : (sortByKey key items).Pairwise fun first second =>
      key first ≤ key second := by
  exact List.pairwise_insertionSort _ items

/-- Sorting keeps the images of a list up to order, hence their
distinctness. -/
theorem nodup_map_sortByKey {β : Type*} {image : α -> β} (nodup : (items.map image).Nodup) :
    ((sortByKey key items).map image).Nodup :=
  ((sortByKey_perm key items).map image).nodup_iff.mpr nodup

theorem filter_orderedInsert (keep : α -> Bool) (item : α) {sorted : List α}
    (ordered : sorted.Pairwise fun first second => key first ≤ key second) :
    (sorted.orderedInsert (fun first second => key first ≤ key second) item).filter keep =
      if keep item = true then (sorted.filter keep).orderedInsert
          (fun first second => key first ≤ key second) item
      else sorted.filter keep := by
  induction sorted with
  | nil =>
    by_cases kept : keep item = true
    · simp [kept]
    · simp [kept]
  | cons head rest ih =>
    rw [List.pairwise_cons] at ordered
    rw [List.orderedInsert_cons]
    by_cases before : key item ≤ key head
    · rw [if_pos before]
      by_cases kept : keep item = true
      · rw [if_pos kept, List.filter_cons_of_pos kept]
        -- whatever the selection begins with, the row goes before it
        cases selected : (head :: rest).filter keep with
        | nil => rfl
        | cons first others =>
          have member : first ∈ head :: rest := by
            refine List.mem_of_mem_filter ?_ (p := keep)
            rw [selected]
            exact List.mem_cons_self
          have smaller : key item ≤ key first := by
            rcases List.mem_cons.mp member with rfl | later
            · exact before
            · exact before.trans (ordered.1 first later)
          rw [List.orderedInsert_cons, if_pos smaller]
      · rw [if_neg kept, List.filter_cons_of_neg kept]
    · rw [if_neg before]
      have rest := ih ordered.2
      by_cases keptHead : keep head = true
      · rw [List.filter_cons_of_pos keptHead, rest, List.filter_cons_of_pos keptHead]
        split_ifs
        · rw [List.orderedInsert_cons, if_neg before]
        · rfl
      · rw [List.filter_cons_of_neg keptHead, rest, List.filter_cons_of_neg keptHead]

theorem sortByKey_filter (keep : α -> Bool) :
    sortByKey key (items.filter keep) = (sortByKey key items).filter keep := by
  induction items with
  | nil => rfl
  | cons item items ih =>
    have ordered := sortByKey_pairwise key items
    unfold sortByKey at ih ordered ⊢
    rw [List.insertionSort_cons, filter_orderedInsert key keep item ordered, ← ih]
    by_cases kept : keep item = true
    · rw [if_pos kept, List.filter_cons_of_pos kept, List.insertionSort_cons]
    · rw [if_neg kept, List.filter_cons_of_neg kept]

theorem pairwise_orderedInsert_stable {before : α -> α -> Prop} {item : α} {sorted : List α}
    (ordered : sorted.Pairwise fun first second =>
      key first < key second ∨ key first = key second ∧ before first second)
    (mayPrecede : ∀ other ∈ sorted, before item other) :
    (sorted.orderedInsert (fun first second => key first ≤ key second)
        item).Pairwise fun first second =>
      key first < key second ∨ key first = key second ∧ before first second := by
  induction sorted with
  | nil => exact List.pairwise_singleton _ _
  | cons head rest ih =>
    have whole := ordered
    rw [List.pairwise_cons] at ordered
    rw [List.orderedInsert_cons]
    by_cases precedes : key item ≤ key head
    · rw [if_pos precedes, List.pairwise_cons]
      refine ⟨fun other member => ?_, whole⟩
      have smaller : key item ≤ key other := by
        rcases List.mem_cons.mp member with rfl | later
        · exact precedes
        · rcases ordered.1 other later with less | same
          · exact precedes.trans less.le
          · exact precedes.trans same.1.le
      rcases smaller.lt_or_eq with less | same
      · exact .inl less
      · exact .inr ⟨same, mayPrecede other member⟩
    · rw [if_neg precedes, List.pairwise_cons]
      refine ⟨fun other member => ?_, ih ordered.2 (List.forall_mem_cons.mp mayPrecede).2⟩
      rcases (List.mem_orderedInsert _).mp member with rfl | later
      · exact .inl (not_le.mp precedes)
      · exact ordered.1 other later

theorem sortByKey_pairwise_stable {before : α -> α -> Prop} (ordered : items.Pairwise before) :
    (sortByKey key items).Pairwise fun first second => key first < key second ∨
        key first = key second ∧ before first second := by
  induction items with
  | nil => exact List.Pairwise.nil
  | cons item items ih =>
    rw [List.pairwise_cons] at ordered
    refine pairwise_orderedInsert_stable key (ih ordered.2) ?_
    intro other member
    exact ordered.1 other ((mem_sortByKey key items).mp member)

variable {items}

/-- The first row by two keys, the second one telling rows apart, is the row
that precedes every other one. -/
theorem head?_sortByKey_sortByKey {κ' : Type*} [LinearOrder κ'] {first : α -> κ} {second : α -> κ'}
    (distinct : (items.map second).Nodup) {best : α} :
    (sortByKey first (sortByKey second items)).head? = some best ↔
      best ∈ items ∧ ∀ item ∈ items, first best < first item ∨
        first best = first item ∧ second best ≤ second item := by
  have ordered := sortByKey_pairwise_stable first (sortByKey second items)
    (sortByKey_pairwise second items)
  have sameRows : ∀ item, item ∈ sortByKey first (sortByKey second items) ↔ item ∈ items := by
    intro item
    rw [mem_sortByKey, mem_sortByKey]
  constructor
  · intro found
    obtain ⟨rest, split⟩ := List.head?_eq_some_iff.mp found
    refine ⟨(sameRows best).mp (by rw [split]; exact List.mem_cons_self), ?_⟩
    intro item member
    rw [← sameRows, split] at member
    rw [split, List.pairwise_cons] at ordered
    rcases List.mem_cons.mp member with rfl | later
    · exact .inr ⟨rfl, le_rfl⟩
    · exact ordered.1 item later
  · rintro ⟨member, precedes⟩
    cases sorted : sortByKey first (sortByKey second items) with
    | nil =>
      have listed := (sameRows best).mpr member
      rw [sorted] at listed
      cases listed
    | cons head rest =>
      have headIn : head ∈ items :=
        (sameRows head).mp (by rw [sorted]; exact List.mem_cons_self)
      have bestIn := (sameRows best).mpr member
      rw [sorted] at bestIn
      rcases List.mem_cons.mp bestIn with rfl | later
      · rfl
      · rw [sorted, List.pairwise_cons] at ordered
        have headFirst := ordered.1 best later
        have same : second best = second head := by
          rcases precedes head headIn with less | ⟨_, below⟩
          · rcases headFirst with above | ⟨same, -⟩
            · exact absurd less above.asymm
            · exact absurd same less.ne'
          · rcases headFirst with above | ⟨-, above⟩
            · exact absurd ‹first best = first head› above.ne'
            · exact le_antisymm below above
        rw [List.inj_on_of_nodup_map distinct member headIn same]
        rfl

theorem sortByKey_map {β : Type*} (image : β -> α) (rows : List β) :
    sortByKey key (rows.map image) = (sortByKey (fun row => key (image row)) rows).map image := by
  induction rows with
  | nil => rfl
  | cons row rows ih =>
    unfold sortByKey at ih ⊢
    rw [List.map_cons, List.insertionSort_cons, ih, List.insertionSort_cons]
    generalize rows.insertionSort
      (fun first second => key (image first) ≤ key (image second)) = sorted
    induction sorted with
    | nil => rfl
    | cons head rest insertHypothesis =>
      rw [List.map_cons, List.orderedInsert_cons, List.orderedInsert_cons]
      split_ifs
      · rfl
      · rw [List.map_cons, insertHypothesis]

end KeySort
