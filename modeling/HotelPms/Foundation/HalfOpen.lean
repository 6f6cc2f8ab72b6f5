import Mathlib.Order.Interval.Set.Basic
import Mathlib.Order.WithBot

/-!
# Half-open windows and exclusive bookings

A window `(start, finish)` stands for the points `start ≤ t < finish`.  The
endpoint test `Overlap` is the one date-range code uses; on nonempty windows it
agrees with sharing a point.  A window without end is one over the points with
a top.  A family of bookings is exclusive when no two bookings of one resource
overlap.  The rules below say when exclusiveness survives adding or moving
bookings.
-/

namespace HalfOpen

variable {τ : Type*} [LinearOrder τ]

/-- Endpoint test for two half-open windows. -/
def Overlap (first second : τ × τ) : Prop :=
  first.1 < second.2 ∧ second.1 < first.2
deriving Decidable

theorem Overlap.symm {first second : τ × τ}
    (overlap : Overlap first second) : Overlap second first :=
  ⟨overlap.2, overlap.1⟩

/-- Nonempty windows pass the endpoint test exactly when they share a point. -/
theorem overlap_iff_exists_mem {first second : τ × τ}
    (firstNonempty : first.1 < first.2) (secondNonempty : second.1 < second.2) :
    Overlap first second ↔
      ∃ point, point ∈ Set.Ico first.1 first.2 ∧ point ∈ Set.Ico second.1 second.2 := by
  constructor
  · rintro ⟨before, after⟩
    exact ⟨max first.1 second.1, ⟨le_max_left _ _, max_lt firstNonempty after⟩,
      ⟨le_max_right _ _, max_lt before secondNonempty⟩⟩
  · rintro ⟨point, ⟨firstStart, firstEnd⟩, secondStart, secondEnd⟩
    exact ⟨firstStart.trans_lt secondEnd, secondStart.trans_lt firstEnd⟩

/-- A point shared by two windows passes the endpoint test, empty or not. -/
theorem overlap_of_mem {first second : τ × τ} {point : τ}
    (inFirst : point ∈ Set.Ico first.1 first.2)
    (inSecond : point ∈ Set.Ico second.1 second.2) : Overlap first second :=
  ⟨inFirst.1.trans_lt inSecond.2, inSecond.1.trans_lt inFirst.2⟩

/-- Shrinking a window cannot create an overlap. -/
theorem Overlap.mono {inner outer other : τ × τ} (startLe : outer.1 ≤ inner.1)
    (finishLe : inner.2 ≤ outer.2)
    (overlap : Overlap inner other) : Overlap outer other :=
  ⟨startLe.trans_lt overlap.1, overlap.2.trans_le finishLe⟩

theorem Overlap.of_grown {start grownFrom grownTo : τ} {other : τ × τ}
    (nonempty : other.1 < other.2) (overlap : Overlap (start, grownTo) other) :
    Overlap (start, grownFrom) other ∨ Overlap (grownFrom, grownTo) other := by
  rcases lt_or_ge other.1 grownFrom with before | after
  · exact .inl ⟨overlap.1, before⟩
  · exact .inr ⟨after.trans_lt nonempty, overlap.2⟩

def openEnded (start : τ) (finish : Option τ) : WithTop τ × WithTop τ :=
  (start, finish.elim ⊤ WithTop.some)

theorem coe_lt_openEnded_snd {start point : τ} {finish : Option τ} :
    (point : WithTop τ) < (openEnded start finish).2 ↔
      ∀ last, finish = some last -> point < last := by
  cases finish with
  | none => simp [openEnded]
  | some last => simp [openEnded]

theorem overlap_openEnded {start start' : τ} {finish finish' : Option τ} :
    Overlap (openEnded start finish) (openEnded start' finish') ↔
      (∀ last, finish' = some last -> start < last) ∧ ∀ last, finish = some last -> start' < last :=
  and_congr coe_lt_openEnded_snd coe_lt_openEnded_snd

theorem Overlap.of_grown_openEnded {start grownFrom grownTo start' : τ} {finish' : Option τ}
    (ordered : ∀ last, finish' = some last -> start' < last)
    (overlap : Overlap (openEnded start (some grownTo)) (openEnded start' finish')) :
    Overlap (openEnded start (some grownFrom)) (openEnded start' finish') ∨
      Overlap (openEnded grownFrom (some grownTo)) (openEnded start' finish') :=
  overlap.of_grown (coe_lt_openEnded_snd.mpr ordered)

variable {ι ρ : Type*}

/-- No two bookings of the collection hold one resource at overlapping
windows. -/
def Exclusive (resource : ι -> Option ρ) (window : ι -> τ × τ) (bookings : Set ι) : Prop :=
  ∀ first ∈ bookings, ∀ second ∈ bookings, first ≠ second ->
    ∀ held, resource first = some held -> resource second = some held ->
      ¬Overlap (window first) (window second)

namespace Exclusive

variable {resource resource' : ι -> Option ρ} {window window' : ι -> τ × τ}
  {bookings bookings' : Set ι}

theorem subset (exclusive : Exclusive resource window bookings) (contained : bookings' ⊆ bookings) :
    Exclusive resource window bookings' := by
  intro first firstIn second secondIn
  exact exclusive first (contained firstIn) second (contained secondIn)

theorem of_changed (changed : Set ι) (exclusive : Exclusive resource window bookings)
    (keptMember : ∀ item ∈ bookings', item ∉ changed -> item ∈ bookings)
    (keptResource : ∀ item ∈ bookings', item ∉ changed ->
      ∀ held, resource' item = some held -> resource item = some held)
    (keptWindow : ∀ item ∈ bookings', item ∉ changed ->
      ∀ other, Overlap (window' item) other -> Overlap (window item) other)
    (compatible : ∀ item ∈ bookings', item ∈ changed -> ∀ other ∈ bookings', item ≠ other ->
        ∀ held, resource' item = some held -> resource' other = some held ->
          ¬Overlap (window' item) (window' other)) :
    Exclusive resource' window' bookings' := by
  intro first firstIn second secondIn different held firstHolds secondHolds overlap
  by_cases firstChanged : first ∈ changed
  · exact compatible first firstIn firstChanged second secondIn different held
      firstHolds secondHolds overlap
  by_cases secondChanged : second ∈ changed
  · exact compatible second secondIn secondChanged first firstIn
      different.symm held secondHolds firstHolds overlap.symm
  · have oldOverlap : Overlap (window first) (window second) :=
      (keptWindow second secondIn secondChanged _
        (keptWindow first firstIn firstChanged _ overlap).symm).symm
    exact exclusive first (keptMember first firstIn firstChanged)
      second (keptMember second secondIn secondChanged) different held
      (keptResource first firstIn firstChanged held firstHolds)
      (keptResource second secondIn secondChanged held secondHolds) oldOverlap

end Exclusive

end HalfOpen
