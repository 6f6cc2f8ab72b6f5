import Mathlib.Data.Set.Insert
import Mathlib.Logic.Function.Basic

/-!
# Holders and marked resources

Each holder has at most one resource, and some resources are marked.  The marks
are exact when the marked resources are those that someone holds.  The lemmas
below say which changes of the marks go with a holder that takes a resource,
leaves it or changes it for another.
-/

namespace Holdings

variable {α ρ : Type*} {holds : α -> Option ρ} {marks : Set ρ}

/-- The resources that someone holds. -/
def held (holds : α -> Option ρ) : Set ρ :=
  {resource | ∃ holder, holds holder = some resource}

/-- The resources that someone other than `self` holds. -/
def heldByOthers (holds : α -> Option ρ) (self : α) : Set ρ :=
  {resource | ∃ holder, holder ≠ self ∧ holds holder = some resource}

theorem mem_held {resource : ρ} (self : α) :
    resource ∈ held holds ↔ resource ∈ heldByOthers holds self ∨ holds self = some resource := by
  constructor
  · rintro ⟨holder, holding⟩
    by_cases same : holder = self
    · exact .inr (same ▸ holding)
    · exact .inl ⟨holder, same, holding⟩
  · rintro (⟨holder, -, holding⟩ | holding)
    · exact ⟨holder, holding⟩
    · exact ⟨self, holding⟩

variable [DecidableEq α]

@[simp] theorem heldByOthers_update (holds : α -> Option ρ) (self : α) (taken : Option ρ) :
    heldByOthers (Function.update holds self taken) self = heldByOthers holds self := by
  ext resource
  constructor
  · rintro ⟨holder, other, holding⟩
    rw [Function.update_of_ne other] at holding
    exact ⟨holder, other, holding⟩
  · rintro ⟨holder, other, holding⟩
    refine ⟨holder, other, ?_⟩
    rw [Function.update_of_ne other]
    exact holding

theorem mem_held_update {resource : ρ} {self : α} {taken : Option ρ} :
    resource ∈ held (Function.update holds self taken) ↔
      resource ∈ heldByOthers holds self ∨ taken = some resource := by
  rw [mem_held self, heldByOthers_update, Function.update_self]

/-- The marked resources are those that someone holds. -/
def Exact (marks : Set ρ) (holds : α -> Option ρ) : Prop :=
  ∀ resource, resource ∈ marks ↔ resource ∈ held holds

variable {self : α} {source target : ρ}

section

variable (exact : Exact marks holds)
include exact

omit [DecidableEq α] in
theorem Exact.mem (holding : holds self = some source) : source ∈ marks :=
  (exact source).mpr ⟨self, holding⟩

theorem Exact.take (free : holds self = none) :
    Exact (insert target marks) (Function.update holds self (some target)) := by
  intro resource
  rw [Set.mem_insert_iff, exact resource, mem_held self, mem_held_update, free]
  grind

theorem Exact.join (free : holds self = none) (marked : target ∈ marks) :
    Exact marks (Function.update holds self (some target)) := by
  have same : insert target marks = marks := Set.insert_eq_of_mem marked
  rw [← same]
  exact exact.take free

theorem Exact.leave (holding : holds self = some source)
    (alone : source ∉ heldByOthers holds self) :
    Exact (marks \ {source}) (Function.update holds self none) := by
  intro resource
  rw [Set.mem_sdiff, exact resource, mem_held self, mem_held_update, holding, Set.mem_singleton_iff]
  grind

theorem Exact.change (holding : holds self = some source) {after : Set ρ} (marked : target ∈ after)
    (released : source ≠ target -> (source ∈ after ↔ source ∈ heldByOthers holds self))
    (rest : ∀ resource, resource ≠ source -> resource ≠ target ->
      (resource ∈ after ↔ resource ∈ marks)) :
    Exact after (Function.update holds self (some target)) := by
  intro resource
  have before := exact resource
  rw [mem_held self, holding] at before
  rw [mem_held_update]
  by_cases isTarget : resource = target
  · subst isTarget
    exact ⟨fun _ => .inr rfl, fun _ => marked⟩
  · by_cases isSource : resource = source
    · grind
    · grind

theorem Exact.move (holding : holds self = some source)
    (sourceShared : source ∈ heldByOthers holds self)
    (targetShared : target ∈ heldByOthers holds self) :
    Exact marks (Function.update holds self (some target)) :=
  exact.change holding ((exact target).mpr ((mem_held self).mpr (.inl targetShared)))
    (fun _ => ⟨fun _ => sourceShared, fun _ => exact.mem holding⟩)
    (fun _ _ _ => Iff.rfl)

end

end Holdings
