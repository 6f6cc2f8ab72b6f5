import HotelPms.Foundation.Table
import Mathlib.Data.List.Induction
import Mathlib.Logic.Function.Basic

/-!
# Joins, dictionaries and missing rows

`LEFT OUTER JOIN` pairs each row with its matches, or with nothing when it has
none.  A dictionary that is filled in a loop keeps the last value of each key.
Inserting rows with `ON CONFLICT DO NOTHING` keeps the rows that are there.
-/

namespace OuterJoin

variable {ρ V : Type*}

/-- The matches of a row, or nothing once. -/
def matchesOrNone (values : List V) : List (Option V) :=
  match values with
  | [] => [none]
  | _ => values.map some

/-- Pair each row with its matches. -/
def leftJoin (rows : List ρ) (values : ρ -> List V) : List (ρ × Option V) :=
  rows.flatMap fun row => (matchesOrNone (values row)).map fun value => (row, value)

theorem some_mem_matchesOrNone {values : List V} {value : V} :
    some value ∈ matchesOrNone values ↔ value ∈ values := by
  cases values with
  | nil => simp [matchesOrNone]
  | cons first rest => simp [matchesOrNone]

theorem exists_mem_matchesOrNone (values : List V) : ∃ value, value ∈ matchesOrNone values := by
  cases values with
  | nil => exact ⟨none, List.mem_singleton_self none⟩
  | cons first rest => exact ⟨some first, List.mem_cons_self⟩

theorem mem_leftJoin {rows : List ρ} {values : ρ -> List V} {row : ρ} {value : Option V} :
    (row, value) ∈ leftJoin rows values ↔ row ∈ rows ∧ value ∈ matchesOrNone (values row) := by
  unfold leftJoin
  rw [List.mem_flatMap]
  constructor
  · rintro ⟨other, otherIn, paired⟩
    obtain ⟨matched, isMatch, equal⟩ := List.mem_map.mp paired
    cases equal
    exact ⟨otherIn, isMatch⟩
  · rintro ⟨member, isMatch⟩
    exact ⟨row, member, List.mem_map_of_mem isMatch⟩

end OuterJoin

namespace Dictionary

variable {κ V : Type*} [DecidableEq κ]

/-- Entries of the rows that have a value. -/
def column {ρ : Type*} (key : ρ -> κ) (value : ρ -> Option V) (rows : List ρ) : List (κ × V) :=
  rows.filterMap fun row => (value row).map fun found => (key row, found)

omit [DecidableEq κ] in
theorem mem_column {ρ : Type*} {key : ρ -> κ} {value : ρ -> Option V}
    {rows : List ρ} {k : κ} {v : V} :
    (k, v) ∈ column key value rows ↔ ∃ row ∈ rows, key row = k ∧ value row = some v := by
  unfold column
  rw [List.mem_filterMap]
  constructor
  · rintro ⟨row, member, read⟩
    obtain ⟨found, isFound, equal⟩ := Option.map_eq_some_iff.mp read
    cases equal
    exact ⟨row, member, rfl, isFound⟩
  · rintro ⟨row, member, rfl, isFound⟩
    exact ⟨row, member, by rw [isFound, Option.map_some]⟩

/-- Fill a dictionary from its entries, one after the other. -/
def ofEntries (entries : List (κ × V)) : κ -> Option V :=
  entries.foldl (fun dictionary entry => Function.update dictionary entry.1 (some entry.2))
    fun _ => none

theorem ofEntries_append_singleton (entries : List (κ × V)) (entry : κ × V) :
    ofEntries (entries ++ [entry]) =
      Function.update (ofEntries entries) entry.1 (some entry.2) := by
  unfold ofEntries
  rw [List.foldl_append]
  rfl

variable {entries : List (κ × V)} {key : κ} {value : V}

theorem mem_of_ofEntries (read : ofEntries entries key = some value) : (key, value) ∈ entries := by
  induction entries using List.reverseRecOn with
  | nil => cases read
  | append_singleton entries entry ih =>
    rw [ofEntries_append_singleton, Function.update_apply] at read
    split_ifs at read with same
    · cases read
      rw [same]
      exact List.mem_concat_self
    · exact List.mem_append_left _ (ih read)

theorem ofEntries_ne_none (member : (key, value) ∈ entries) : ofEntries entries key ≠ none := by
  induction entries using List.reverseRecOn with
  | nil => cases member
  | append_singleton entries entry ih =>
    rw [ofEntries_append_singleton, Function.update_apply]
    split_ifs with same
    · exact Option.some_ne_none _
    · apply ih
      rcases List.mem_append.mp member with old | new
      · exact old
      · rw [List.mem_singleton] at new
        exact absurd (congrArg Prod.fst new) same

theorem ofEntries_eq_some_iff (oneValue : ∀ first second, (key, first) ∈ entries ->
      (key, second) ∈ entries -> first = second) :
    ofEntries entries key = some value ↔ (key, value) ∈ entries := by
  constructor
  · exact mem_of_ofEntries
  · intro member
    cases read : ofEntries entries key with
    | none => exact absurd read (ofEntries_ne_none member)
    | some other => rw [oneValue other value (mem_of_ofEntries read) member]

theorem ofEntries_congr {others : List (κ × V)} (oneValue : ∀ first second, (key, first) ∈ entries ->
      (key, second) ∈ entries -> first = second)
    (same : ∀ value, (key, value) ∈ others ↔ (key, value) ∈ entries) :
    ofEntries others key = ofEntries entries key := by
  apply Option.ext
  intro value
  rw [ofEntries_eq_some_iff oneValue, ofEntries_eq_some_iff, same]
  intro first second firstIn secondIn
  exact oneValue first second ((same first).mp firstIn) ((same second).mp secondIn)

end Dictionary

namespace Table

variable {ρ κ : Type*} [DecidableEq κ]

/-- Insert a row unless its key is there. -/
def insertNew (key : ρ -> κ) (rows : List ρ) (value : ρ) : List ρ :=
  if key value ∈ rows.map key then rows else rows ++ [value]

/-- Insert the rows whose keys are not there yet. -/
def insertMissing (key : ρ -> κ) (rows values : List ρ) : List ρ :=
  values.foldl (insertNew key) rows

variable {key : ρ -> κ} {rows values : List ρ}

theorem nodup_insertMissing (distinct : (rows.map key).Nodup) :
    ((insertMissing key rows values).map key).Nodup := by
  induction values generalizing rows with
  | nil => exact distinct
  | cons value values ih =>
    apply ih
    unfold insertNew
    split_ifs with known
    · exact distinct
    · rw [List.map_append, List.nodup_append]
      refine ⟨distinct, List.nodup_singleton _, ?_⟩
      intro old oldIn new newIn same
      rw [List.map_singleton, List.mem_singleton] at newIn
      exact known (newIn ▸ same ▸ oldIn)

theorem mem_insertMissing {row : ρ} (member : row ∈ insertMissing key rows values) :
    row ∈ rows ∨ row ∈ values := by
  induction values generalizing rows with
  | nil => exact .inl member
  | cons value values ih =>
    rcases ih member with kept | later
    · unfold insertNew at kept
      split_ifs at kept
      · exact .inl kept
      · rcases List.mem_append.mp kept with old | new
        · exact .inl old
        · rw [List.mem_singleton.mp new]
          exact .inr List.mem_cons_self
    · exact .inr (List.mem_cons_of_mem _ later)

theorem subset_insertMissing : rows ⊆ insertMissing key rows values := by
  induction values generalizing rows with
  | nil => exact List.Subset.refl rows
  | cons value values ih =>
    refine List.Subset.trans ?_ ih
    unfold insertNew
    split_ifs
    · exact List.Subset.refl rows
    · exact List.subset_append_left rows [value]

theorem key_mem_insertMissing {value : ρ} (member : value ∈ values) :
    key value ∈ (insertMissing key rows values).map key := by
  induction values generalizing rows with
  | nil => cases member
  | cons first values ih =>
    rcases List.mem_cons.mp member with rfl | later
    · show key value ∈ (insertMissing key (insertNew key rows value) values).map key
      apply List.map_subset key subset_insertMissing
      unfold insertNew
      split_ifs with known
      · exact known
      · rw [List.map_append]
        exact List.mem_concat_self
    · exact ih later

end Table
