import Mathlib.Data.List.Basic
import Mathlib.Data.List.Induction

/-!
# Guarded runs of a transition function

A system moves from state to state by events; an event that is not enabled
has no successor.  A run is guarded when each of its steps meets a condition
on the state it starts from.  An invariant of every guarded step holds in
every state a guarded run reaches.
-/

/-- The members of a log that grew by one. -/
theorem List.mem_added {α : Type*} {log : List α} {entry added : α} :
    entry ∈ log ++ [added] ↔ entry ∈ log ∨ entry = added := by
  rw [List.mem_append, List.mem_singleton]

namespace Transition

variable {σ ε : Type*}

/-- Take a list of events in order. -/
def run (step : σ -> ε -> Option σ) (start : σ) (events : List ε) : Option σ :=
  events.foldlM step start

/-- States reached from `start` by steps that meet the guard. -/
inductive Reaches
    (step : σ -> ε -> Option σ)
    (guard : σ -> ε -> Prop)
    (start : σ) : σ -> Prop
  | refl : Reaches step guard start start
  | next {middle finish : σ} {event : ε}
      (reached : Reaches step guard start middle)
      (guarded : guard middle event)
      (taken : step middle event = some finish) :
      Reaches step guard start finish

theorem run_append (step : σ -> ε -> Option σ) (start : σ) (first last : List ε) :
    run step start (first ++ last) = (run step start first).bind (run step · last) := by
  unfold run
  rw [List.foldlM_append]
  rfl

theorem run_singleton (step : σ -> ε -> Option σ) (start : σ) (event : ε) :
    run step start [event] = step start event := by
  unfold run
  simp only [List.foldlM_cons, List.foldlM_nil, bind_pure]

theorem run_invariant {step : σ -> ε -> Option σ} {start finish : σ}
    {property : List ε -> σ -> Prop} (initial : property [] start)
    (preserved : ∀ {events before event after}, property events before ->
      step before event = some after -> property (events ++ [event]) after)
    {events : List ε}
    (ran : run step start events = some finish) : property events finish := by
  induction events using List.reverseRecOn generalizing finish with
  | nil =>
    obtain rfl : start = finish := by simpa [run] using ran
    exact initial
  | append_singleton events event ih =>
    rw [run_append] at ran
    obtain ⟨before, first, last⟩ := Option.bind_eq_some_iff.mp ran
    rw [run_singleton] at last
    exact preserved (ih first) last

theorem run_of_foldlM_eq_ok {η : Type*} {compute : σ -> ε -> Except η σ}
    {events : List ε} {start finish : σ}
    (folded : events.foldlM compute start = .ok finish) :
    run (fun state event => (compute state event).toOption) start events = some finish := by
  induction events generalizing start with
  | nil =>
    obtain rfl : start = finish := by
      simpa [pure, Except.pure] using folded
    rfl
  | cons event events ih =>
    rw [List.foldlM_cons] at folded
    rw [run, List.foldlM_cons]
    cases computed : compute start event with
    | error error =>
      rw [computed] at folded
      cases folded
    | ok middle =>
      rw [computed] at folded
      exact ih folded

namespace Reaches

variable {step : σ -> ε -> Option σ} {guard : σ -> ε -> Prop} {start middle finish : σ}

theorem invariant {property : σ -> Prop} (initial : property start)
    (preserved : ∀ {before event after}, property before ->
      guard before event -> step before event = some after -> property after)
    (reached : Reaches step guard start finish) : property finish := by
  induction reached with
  | refl => exact initial
  | next _ guarded taken ih =>
    exact preserved ih guarded taken

theorem trans (first : Reaches step guard start middle)
    (second : Reaches step guard middle finish) :
    Reaches step guard start finish := by
  induction second with
  | refl => exact first
  | next _ guarded taken ih =>
    exact .next ih guarded taken

end Reaches

/-- Every step of the run of a list of events meets the guard. -/
def Guarded (step : σ -> ε -> Option σ) (guard : σ -> ε -> Prop) : σ -> List ε -> Prop
  | _, [] => True
  | state, event :: rest =>
    guard state event ∧
      match step state event with
      | some after => Guarded step guard after rest
      | none => True

instance decidableGuarded (step : σ -> ε -> Option σ) (guard : σ -> ε -> Prop)
    [∀ state event, Decidable (guard state event)] :
    ∀ state events, Decidable (Guarded step guard state events)
  | _, [] => .isTrue trivial
  | state, event :: rest =>
    have : Decidable (match step state event with
        | some after => Guarded step guard after rest
        | none => True) :=
      match step state event with
      | some after => decidableGuarded step guard after rest
      | none => .isTrue trivial
    inferInstanceAs (Decidable (_ ∧ _))

variable {step : σ -> ε -> Option σ}

theorem guarded_of_forall {guard : σ -> ε -> Prop} (always : ∀ state event, guard state event)
    (start : σ) (events : List ε) : Guarded step guard start events := by
  induction events generalizing start with
  | nil => trivial
  | cons event rest ih =>
    refine ⟨always start event, ?_⟩
    split
    · exact ih _
    · trivial

theorem guarded_of_mem {guard : σ -> ε -> Prop} {events : List ε}
    (always : ∀ event ∈ events, ∀ state, guard state event) (start : σ) :
    Guarded step guard start events := by
  induction events generalizing start with
  | nil => trivial
  | cons event rest ih =>
    refine ⟨always event List.mem_cons_self start, ?_⟩
    split
    · exact ih ((List.forall_mem_cons.mp always).2) _
    · trivial

theorem reaches_of_run {guard : σ -> ε -> Prop} {events : List ε} {start finish : σ}
    (guarded : Guarded step guard start events)
    (taken : run step start events = some finish) :
    Reaches step guard start finish := by
  induction events generalizing start with
  | nil =>
    obtain rfl : start = finish := by simpa [run] using taken
    exact .refl
  | cons event rest ih =>
    obtain ⟨middle, first, others⟩ := Option.bind_eq_some_iff.mp taken
    obtain ⟨here, onwards⟩ := guarded
    rw [first] at onwards
    exact (Reaches.refl.next here first).trans (ih onwards others)

end Transition
