import HotelPms.Foundation.KeySort

/-!
# Rows in different orders

Tables with a key are read in one order and compared in another.  A search for
a key, or for a row that is the only one of its kind, finds the same row in
every order; and two lists that are the same when sorted by key are the same
list when their keys come in the same order.
-/

namespace RowOrder

open KeySort

variable {ρ κ : Type*}

variable {key : ρ -> κ}

theorem find?_of_distinct {rows : List ρ} {row : ρ} {keep : ρ -> Bool}
    (distinct : (rows.map key).Nodup) (member : row ∈ rows)
    (kept : keep row = true)
    (byKey : ∀ other ∈ rows, keep other = true -> key other = key row) :
    rows.find? keep = some row := by
  cases found : rows.find? keep with
  | none =>
    have absent := List.find?_eq_none.mp found row member
    exact absurd kept absent
  | some other =>
    have otherIn := List.mem_of_find?_eq_some found
    have same := byKey other otherIn (List.find?_some found)
    exact congrArg some (List.inj_on_of_nodup_map distinct otherIn member same)

theorem find?_eq_filter [DecidableEq κ] {rows : List ρ}
    {keep flag : ρ -> Bool} (k : κ) (distinct : (rows.map key).Nodup)
    (keeps : ∀ row, keep row = true ↔ key row = k ∧ flag row = true) :
    rows.find? keep = (rows.find? (key · = k)).filter flag := by
  cases found : rows.find? fun row => decide (key row = k) with
  | none =>
    rw [Option.filter_none, List.find?_eq_none]
    intro row member kept
    exact List.find?_eq_none.mp found row member (decide_eq_true ((keeps row).mp kept).1)
  | some row =>
    have member := List.mem_of_find?_eq_some found
    have isKey := List.find?_some found
    rw [decide_eq_true_eq] at isKey
    cases flagged : flag row with
    | true =>
      rw [Option.filter_some_pos flagged]
      apply find?_of_distinct distinct member
      · exact (keeps row).mpr ⟨isKey, flagged⟩
      · intro other _ kept
        exact ((keeps other).mp kept).1.trans isKey.symm
    | false =>
      rw [Option.filter_some_neg flagged, List.find?_eq_none]
      intro other otherIn kept
      obtain ⟨otherKey, otherFlagged⟩ := (keeps other).mp kept
      have same : other = row := List.inj_on_of_nodup_map distinct otherIn
        member (otherKey.trans isKey.symm)
      rw [same, flagged] at otherFlagged
      cases otherFlagged

theorem eq_of_map_key_eq {rows others : List ρ} (sameKeys : rows.map key = others.map key)
    (sameRows : ∀ row ∈ rows, ∀ other ∈ others, key row = key other -> row = other) :
    rows = others := by
  induction rows generalizing others with
  | nil => exact (List.map_eq_nil_iff.mp sameKeys.symm).symm
  | cons row rows ih =>
    cases others with
    | nil => cases sameKeys
    | cons other others =>
      rw [List.map_cons, List.map_cons, List.cons.injEq] at sameKeys
      have sameHead : row = other :=
        sameRows row List.mem_cons_self other List.mem_cons_self sameKeys.1
      have sameRest : rows = others := by
        apply ih sameKeys.2
        intro first member second otherIn
        exact sameRows first (List.mem_cons_of_mem _ member) second (List.mem_cons_of_mem _ otherIn)
      rw [sameHead, sameRest]

theorem eq_of_sortByKey_eq [LinearOrder κ] {rows others : List ρ} (distinct : (rows.map key).Nodup)
    (sameSorted : sortByKey key rows = sortByKey key others)
    (sameKeys : rows.map key = others.map key) : rows = others := by
  apply eq_of_map_key_eq sameKeys
  intro row member other otherIn same
  have moved : other ∈ rows := by
    rw [← mem_sortByKey key, sameSorted, mem_sortByKey]
    exact otherIn
  exact List.inj_on_of_nodup_map distinct member moved same

theorem sortByKey_filter_congr [LinearOrder κ] {rows others : List ρ} (keep : ρ -> Bool)
    (sameSorted : sortByKey key rows = sortByKey key others) :
    sortByKey key (rows.filter keep) = sortByKey key (others.filter keep) := by
  rw [sortByKey_filter, sortByKey_filter, sameSorted]

theorem find?_image_congr {ρ' ι : Type*} {rows : List ρ} {others : List ρ'}
    {image : ρ -> ι} {imageOther : ρ' -> ι}
    (same : rows.map image = others.map imageOther) (keep : ι -> Bool) :
    (rows.find? fun row => keep (image row)).map image =
      (others.find? fun row => keep (imageOther row)).map imageOther := by
  have found := congrArg (List.find? keep) same
  rw [List.find?_map, List.find?_map] at found
  exact found

end RowOrder
