import Mathlib.Logic.Function.Basic

/-!
# Exclusive row locks

A lock table names the holder of every locked row.  A row is locked for an
owner only while it is free or already the owner's, and an owner's locks go
together when its transaction ends.
-/

/-- Holder of each locked row. -/
structure LockTable (Row Owner : Type*) where
  holder : Row -> Option Owner

namespace LockTable

variable {Row Owner : Type*} {locks : LockTable Row Owner} {row other : Row} {owner another : Owner}

/-- No row is locked. -/
def empty : LockTable Row Owner := ⟨fun _ => none⟩

/-- The owner may lock the row without waiting. -/
def Available (locks : LockTable Row Owner) (row : Row) (owner : Owner) :
    Prop :=
  locks.holder row = none ∨ locks.holder row = some owner

instance [DecidableEq Owner] : Decidable (locks.Available row owner) :=
  inferInstanceAs (Decidable (_ ∨ _))

/-- Lock a row for an owner. -/
def acquire [DecidableEq Row] (locks : LockTable Row Owner) (row : Row) (owner : Owner) :
    LockTable Row Owner :=
  ⟨Function.update locks.holder row (some owner)⟩

/-- Give back every lock of an owner. -/
def release [DecidableEq Owner]
    (locks : LockTable Row Owner) (owner : Owner) : LockTable Row Owner :=
  ⟨fun row =>
    if locks.holder row = some owner then none else locks.holder row⟩

@[simp] theorem acquire_self [DecidableEq Row] :
    (locks.acquire row owner).holder row = some owner :=
  Function.update_self ..

/-- An acquisition takes no lock away. -/
theorem Available.acquire_eq_some [DecidableEq Row] (available : locks.Available row owner)
    (held : locks.holder other = some another) :
    (locks.acquire row owner).holder other = some another := by
  by_cases same : other = row
  · subst same
    rw [acquire_self]
    rcases available with free | own
    · rw [free] at held
      cases held
    · rw [← own, held]
  · simp only [acquire]
    rw [Function.update_of_ne same]
    exact held

theorem Available.eq_of_held (available : locks.Available row owner)
    (held : locks.holder row = some another) : another = owner := by
  rcases available with free | own
  · rw [free] at held
    cases held
  · rw [own] at held
    exact (Option.some.inj held).symm

theorem release_eq_some [DecidableEq Owner]
    (held : locks.holder row = some another) (different : another ≠ owner) :
    (locks.release owner).holder row = some another := by
  simp only [release]
  rw [if_neg]
  · exact held
  · rw [held]
    intro same
    exact different (Option.some.inj same)

end LockTable
