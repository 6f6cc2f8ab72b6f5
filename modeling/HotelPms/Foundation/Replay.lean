import Mathlib.Data.List.Chain

/-!
# Logs that replay to a state

A log of changes replays to a state when every change starts where the one
before it has ended, and the last one ends in the state.  Appending the change
from the state to another one makes the log replay to that one.
-/

namespace Replay

variable {ρ σ : Type*} {source target : ρ -> σ} {entries : List ρ} {entry : ρ} {current : σ}

/-- The changes of a log follow each other up to a state. -/
structure Replays (source target : ρ -> σ) (entries : List ρ) (current : σ) :
    Prop where
  chain : entries.IsChain fun earlier later => source later = target earlier
  last : ∀ entry, entries.getLast? = some entry -> target entry = current

/-- Nothing has changed. -/
theorem Replays.nil (source target : ρ -> σ) (current : σ) : Replays source target [] current := by
  constructor
  · exact .nil
  · intro entry isLast
    cases isLast

/-- One more change. -/
theorem Replays.append (replays : Replays source target entries current)
    (starts : source entry = current) :
    Replays source target (entries ++ [entry]) (target entry) := by
  constructor
  · apply replays.chain.append (List.isChain_singleton entry)
    intro earlier isLast later isFirst
    rw [← Option.some.inj isFirst, starts]
    exact (replays.last earlier isLast).symm
  · intro last isLast
    rw [List.getLast?_append, List.getLast?_singleton, Option.some_or] at isLast
    rw [Option.some.inj isLast]

end Replay
