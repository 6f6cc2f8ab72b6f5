import HotelPms.Foundation.Checked

/-!
# Two runs of a checked computation

Two sequences return the same value, or raise the same error, when their first
parts do and the rest agrees on every value that the first part can return.
-/

namespace Checked

variable {ε ε' α β : Type}

variable {computation : Except ε α}

/-- Two sequences agree step by step. -/
theorem bind_congr_ok {other : Except ε α} {continuation continuationOther : α -> Except ε β}
    (same : computation = other)
    (rest : ∀ value, computation = .ok value -> continuation value = continuationOther value) :
    (computation >>= continuation) = (other >>= continuationOther) := by
  subst same
  cases computation with
  | error error => rfl
  | ok value => exact rest value rfl

theorem map_eq_ok {change : α -> β} {result : β} : computation.map change = .ok result ↔
      ∃ value, computation = .ok value ∧ change value = result := by
  cases computation <;> simp [Except.map]

@[simp] theorem mapError_eq_ok {rename : ε -> ε'} {value : α} :
    computation.mapError rename = .ok value ↔ computation = .ok value := by
  cases computation with
  | error error => simp [Except.mapError]
  | ok result => simp [Except.mapError]

theorem FailsWith.mapError {kind : ε' -> Prop} {rename : ε -> ε'}
    (named : FailsWith (fun error => kind (rename error)) computation) :
    FailsWith kind (computation.mapError rename) := by
  cases computation with
  | error error => exact .error (named error rfl)
  | ok value => exact .ok

end Checked
