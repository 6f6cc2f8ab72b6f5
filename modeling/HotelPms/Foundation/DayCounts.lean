import Mathlib.Data.List.Dedup
import Mathlib.Data.List.Nodup
import Mathlib.Data.List.Perm.Subperm

/-!
# Counts by day

A loop that visits the days of a half-open range and adds one to the counter
of each, run over the ranges of several items, counts for every day the items
whose range covers it.  Counts are split by a second predicate.
-/

namespace DayCounts

variable {α : Type}

def loopDays (first finish : Int) : List Int :=
  (List.range (finish - first).toNat).map fun step : Nat => first + (step : Int)

@[simp] theorem mem_loopDays {first finish day : Int} :
    day ∈ loopDays first finish ↔ first ≤ day ∧ day < finish := by
  unfold loopDays
  rw [List.mem_map]
  constructor
  · rintro ⟨step, member, rfl⟩
    have below := List.mem_range.mp member
    omega
  · rintro ⟨started, unfinished⟩
    refine ⟨(day - first).toNat, List.mem_range.mpr ?_, ?_⟩ <;> omega

theorem nodup_loopDays (first finish : Int) : (loopDays first finish).Nodup := by
  refine List.Nodup.map ?_ List.nodup_range
  intro step other same
  have equal : first + (step : Int) = first + (other : Int) := same
  omega

theorem count_loopDays (first finish day : Int) : (loopDays first finish).count day =
      if first ≤ day ∧ day < finish then 1 else 0 := by
  split_ifs with visited
  · exact List.count_eq_one_of_mem (nodup_loopDays first finish) (mem_loopDays.mpr visited)
  · exact List.count_eq_zero_of_not_mem fun member => visited (mem_loopDays.mp member)

theorem count_flatMap_loopDays (items : List α) (first finish : α -> Int) (day : Int) :
    (items.flatMap fun item => loopDays (first item) (finish item)).count day =
      items.countP fun item =>
        decide (first item ≤ day ∧ day < finish item) := by
  induction items with
  | nil => rfl
  | cons item items ih =>
    rw [List.flatMap_cons, List.count_append, ih, List.countP_cons, count_loopDays, Nat.add_comm]
    simp only [decide_eq_true_eq]

theorem countP_split (items : List α) (counted second : α -> Prop)
    [DecidablePred counted] [DecidablePred second] :
    items.countP (counted ·) = items.countP (fun item => counted item ∧ second item) +
        items.countP fun item => decide (counted item ∧ ¬second item) := by
  rw [List.countP_eq_countP_filter_add items _ fun item =>
    decide (second item), List.countP_filter, List.countP_filter]
  simp only [Bool.decide_and, decide_not]

theorem countP_congr_prop {items : List α} {first second : α -> Prop}
    [DecidablePred first] [DecidablePred second]
    (equivalent : ∀ item ∈ items, first item ↔ second item) :
    items.countP (first ·) = items.countP fun item => decide (second item) := by
  refine List.countP_congr fun item member => ?_
  rw [decide_eq_true_iff, decide_eq_true_iff]
  exact equivalent item member

theorem countP_le_of_keys {β κ : Type} {rows : List α} {items : List β}
    {counted : α -> Prop} [DecidablePred counted]
    {valued : β -> Prop} [DecidablePred valued] (key : α -> κ) (value : β -> κ)
    (distinct : (rows.map key).Nodup)
    (held : ∀ row ∈ rows, counted row -> ∃ item ∈ items, valued item ∧ value item = key row) :
    (rows.countP (counted ·)) ≤ items.countP fun item => decide (valued item) := by
  rw [List.countP_eq_length_filter, List.countP_eq_length_filter,
    ← List.length_map key, ← List.length_map value]
  refine (List.subperm_of_subset
    (distinct.sublist (List.Sublist.map _ List.filter_sublist)) ?_).length_le
  intro found member
  obtain ⟨row, rowIn, rfl⟩ := List.mem_map.mp member
  obtain ⟨stored, isCounted⟩ := List.mem_filter.mp rowIn
  obtain ⟨item, itemIn, isValued, same⟩ := held row stored (of_decide_eq_true isCounted)
  exact List.mem_map.mpr ⟨item, List.mem_filter.mpr ⟨itemIn, decide_eq_true isValued⟩, same⟩

theorem length_dedup_eq_countP {keys : List Int} {rows : List α} {key : α -> Int}
    (distinct : (rows.map key).Nodup)
    (known : ∀ value ∈ keys, value ∈ rows.map key) :
    keys.dedup.length = rows.countP fun row => decide (key row ∈ keys) := by
  have same : List.Perm keys.dedup ((rows.map key).filter (· ∈ keys)) := by
    refine (List.perm_ext_iff_of_nodup (List.nodup_dedup _) (distinct.filter _)).mpr fun value => ?_
    rw [List.mem_dedup, List.mem_filter, decide_eq_true_iff]
    exact ⟨fun member => ⟨known value member, member⟩, And.right⟩
  rw [same.length_eq, ← List.countP_eq_length_filter, List.countP_map]
  rfl

end DayCounts
