import Mathlib.Order.Filter.Extr
import Mathlib.Data.List.Lex

/-!
# Successive maximisation

Several objectives are optimised in order of importance by maximising the
first, fixing its value, and maximising the next over what is left.
-/

namespace LexOptimum

section Points

variable {α β : Type*}

/-- The members of a model at which an objective has a given value. -/
def fixAt (model : Set α) (objective : α -> β) (value : β) : Set α :=
  {point | point ∈ model ∧ objective point = value}

theorem fixAt_subset (model : Set α) (objective : α -> β) (value : β) :
    fixAt model objective value ⊆ model :=
  fun _ member => member.1

end Points

variable {α β : Type*} [LinearOrder β]

/-- The members of a model at which an objective is greatest. -/
def argmax (model : Set α) (objective : α -> β) : Set α :=
  {point | point ∈ model ∧ IsMaxOn objective model point}

/-- Fixing an objective at its greatest value leaves exactly its maximisers. -/
theorem fixAt_eq_argmax {model : Set α} {objective : α -> β} {best : α}
    (bestMember : best ∈ argmax model objective) :
    fixAt model objective (objective best) = argmax model objective := by
  ext point
  constructor
  · rintro ⟨member, sameValue⟩
    refine ⟨member, fun other otherIn => ?_⟩
    have otherLe := bestMember.2 otherIn
    rwa [sameValue]
  · rintro ⟨member, greatest⟩
    exact ⟨member, le_antisymm (bestMember.2 member) (greatest bestMember.1)⟩

end LexOptimum
