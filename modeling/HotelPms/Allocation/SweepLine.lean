import HotelPms.Allocation.Slots
import HotelPms.Foundation.KeySort
import Mathlib.Data.List.Lex
import Mathlib.Data.List.FinRange

/-!
# Overlapping pairs by a sweep line

The solver model lists every pair of overlapping reservations once.  The sweep
visits the reservations by check-in date and keeps an active list of those
that can still meet a later one.
-/

namespace HotelPms.Allocation

open HalfOpen KeySort

/-- The active reservation indices and the pairs found so far. -/
structure SweepState (reservations : List ReservationSlot) where
  active : List (Fin reservations.length)
  pairs : List (Fin reservations.length × Fin reservations.length)

section Sweep

variable (reservations : List ReservationSlot)

/-- Body of the sweep: drop the stays that ended, pair the rest with the
current one, and make it active. -/
def sweepStep (state : SweepState reservations)
    (current : Fin reservations.length) : SweepState reservations :=
  if (reservations.get current).checkOut ≤ (reservations.get current).checkIn then
    state
  else
    let active := state.active.filter fun earlier =>
      (reservations.get current).checkIn < (reservations.get earlier).checkOut
    { active := active ++ [current]
      pairs := state.pairs ++ active.map fun earlier => (min earlier current, max earlier current) }

/-- Sweep order: check-in, then check-out, then position. -/
def sweepKey (index : Fin reservations.length) : List Int :=
  [(reservations.get index).checkIn, (reservations.get index).checkOut, index.val]

/-- Each overlapping pair of reservation indices once, smaller index first. -/
def overlappingReservationPairs : List (Fin reservations.length × Fin reservations.length) :=
  ((sortByKey (sweepKey reservations) (List.finRange reservations.length)).foldl
    (sweepStep reservations) { active := [], pairs := [] }).pairs

end Sweep

variable {reservations : List ReservationSlot}

/-- Relation between the sweep state and the indices visited so far. -/
structure SweepInvariant
    (visited : List (Fin reservations.length))
    (state : SweepState reservations) : Prop where
  activeVisited : ∀ index ∈ state.active, index ∈ visited ∧ 0 < (reservations.get index).nights
  /-- A stay that left the active list ended before some visited check-in. -/
  activeComplete : ∀ index ∈ visited, 0 < (reservations.get index).nights -> index ∈ state.active ∨
      ∃ later ∈ visited, (reservations.get index).checkOut ≤ (reservations.get later).checkIn
  pairs : ∀ first second, (first, second) ∈ state.pairs ↔
    first ∈ visited ∧ second ∈ visited ∧ first < second ∧ 0 < (reservations.get first).nights ∧
      0 < (reservations.get second).nights ∧
      Overlap (reservations.get first).stay (reservations.get second).stay

variable {visited : List (Fin reservations.length)}
  {state : SweepState reservations} {current : Fin reservations.length}

theorem SweepInvariant.skip (invariant : SweepInvariant visited state)
    (noNights : ¬0 < (reservations.get current).nights) :
    SweepInvariant (visited ++ [current]) state where
  activeVisited index active := by
    obtain ⟨seen, nights⟩ := invariant.activeVisited index active
    exact ⟨List.mem_append_left _ seen, nights⟩
  activeComplete index seen nights := by
    rcases List.mem_append.mp seen with seen | seen
    · rcases invariant.activeComplete index seen nights with active | ⟨later, laterSeen, ended⟩
      · exact Or.inl active
      · exact Or.inr ⟨later, List.mem_append_left _ laterSeen, ended⟩
    · rw [List.mem_singleton.mp seen] at nights
      exact absurd nights noNights
  pairs first second := by
    rw [invariant.pairs first second]
    constructor
    · rintro ⟨firstSeen, secondSeen, rest⟩
      exact ⟨List.mem_append_left _ firstSeen, List.mem_append_left _ secondSeen, rest⟩
    · rintro ⟨firstSeen, secondSeen, lt, firstNights, secondNights, overlap⟩
      refine ⟨?_, ?_, lt, firstNights, secondNights, overlap⟩
      · refine (List.mem_append.mp firstSeen).resolve_right fun here => ?_
        rw [List.mem_singleton.mp here] at firstNights
        exact noNights firstNights
      · refine (List.mem_append.mp secondSeen).resolve_right fun here => ?_
        rw [List.mem_singleton.mp here] at secondNights
        exact noNights secondNights

theorem SweepInvariant.mem_surviving (invariant : SweepInvariant visited state)
    (currentNights : 0 < (reservations.get current).nights)
    (later : ∀ index ∈ visited,
      (reservations.get index).checkIn ≤ (reservations.get current).checkIn)
    (index : Fin reservations.length) :
    index ∈ state.active.filter (fun earlier =>
        (reservations.get current).checkIn < (reservations.get earlier).checkOut) ↔
      index ∈ visited ∧ 0 < (reservations.get index).nights ∧
        Overlap (reservations.get index).stay (reservations.get current).stay := by
  simp only [List.mem_filter, decide_eq_true_eq, Overlap, ReservationSlot.stay]
  simp only [ReservationSlot.nights] at currentNights
  constructor
  · rintro ⟨active, unfinished⟩
    obtain ⟨seen, nights⟩ := invariant.activeVisited index active
    have := later index seen
    exact ⟨seen, nights, by omega, unfinished⟩
  · rintro ⟨seen, nights, _, unfinished⟩
    refine ⟨?_, unfinished⟩
    rcases invariant.activeComplete index seen nights with active | ⟨other, otherSeen, ended⟩
    · exact active
    · have := later other otherSeen
      omega

theorem SweepInvariant.visit (invariant : SweepInvariant visited state) (fresh : current ∉ visited)
    (currentNights : 0 < (reservations.get current).nights)
    (later : ∀ index ∈ visited,
      (reservations.get index).checkIn ≤ (reservations.get current).checkIn) :
    SweepInvariant (visited ++ [current]) (sweepStep reservations state current) := by
  have surviving := invariant.mem_surviving currentNights later
  have stays : ¬(reservations.get current).checkOut ≤ (reservations.get current).checkIn := by
    simp only [ReservationSlot.nights] at currentNights
    omega
  rw [sweepStep, if_neg stays]
  refine { activeVisited := ?_, activeComplete := ?_, pairs := ?_ }
  · intro index active
    rcases List.mem_append.mp active with active | active
    · obtain ⟨seen, nights, _⟩ := (surviving index).mp active
      exact ⟨List.mem_append_left _ seen, nights⟩
    · rw [List.mem_singleton.mp active]
      exact ⟨by simp, currentNights⟩
  · intro index seen nights
    rcases List.mem_append.mp seen with seen | seen
    · by_cases ended : (reservations.get index).checkOut ≤ (reservations.get current).checkIn
      · exact Or.inr ⟨current, by simp, ended⟩
      · have := later index seen
        refine Or.inl (List.mem_append_left _ ((surviving index).mpr ⟨seen, nights, ?_, ?_⟩))
        · simp only [ReservationSlot.stay]
          omega
        · simp only [ReservationSlot.stay]
          omega
    · exact Or.inl (by simp [List.mem_singleton.mp seen])
  · intro first second
    simp only [List.mem_append, List.mem_map, Prod.mk.injEq,
      invariant.pairs first second, List.mem_singleton]
    constructor
    · rintro (⟨firstSeen, secondSeen, rest⟩ | ⟨earlier, active, rfl, rfl⟩)
      · exact ⟨Or.inl firstSeen, Or.inl secondSeen, rest⟩
      · obtain ⟨seen, nights, overlap⟩ := (surviving earlier).mp active
        have different : earlier ≠ current := fun same => fresh (same ▸ seen)
        rcases lt_or_gt_of_ne different with lt | lt
        · rw [min_eq_left lt.le, max_eq_right lt.le]
          exact ⟨Or.inl seen, Or.inr rfl, lt, nights, currentNights, overlap⟩
        · rw [min_eq_right lt.le, max_eq_left lt.le]
          exact ⟨Or.inr rfl, Or.inl seen, lt, currentNights, nights, overlap.symm⟩
    · rintro ⟨firstSeen | rfl, secondSeen | rfl, lt, firstNights, secondNights, overlap⟩
      · exact Or.inl ⟨firstSeen, secondSeen, lt, firstNights, secondNights, overlap⟩
      · exact Or.inr ⟨first, (surviving first).mpr ⟨firstSeen, firstNights, overlap⟩,
          min_eq_left lt.le, max_eq_right lt.le⟩
      · exact Or.inr ⟨second, (surviving second).mpr ⟨secondSeen, secondNights, overlap.symm⟩,
          min_eq_right lt.le, max_eq_left lt.le⟩
      · exact absurd lt (lt_irrefl _)

theorem sweep_invariant (visited : List (Fin reservations.length)) (distinct : visited.Nodup)
    (byCheckIn : visited.Pairwise fun first second =>
      (reservations.get first).checkIn ≤ (reservations.get second).checkIn) :
    SweepInvariant visited (visited.foldl (sweepStep reservations)
      { active := [], pairs := [] }) := by
  induction visited using List.reverseRecOn with
  | nil => exact ⟨by simp, by simp, by simp⟩
  | append_singleton visited current ih =>
    rw [List.nodup_append'] at distinct
    rw [List.pairwise_append] at byCheckIn
    have invariant := ih distinct.1 byCheckIn.1
    rw [List.foldl_append, List.foldl_cons, List.foldl_nil]
    by_cases nights : 0 < (reservations.get current).nights
    · refine invariant.visit (fun seen => ?_) nights fun index seen =>
        byCheckIn.2.2 index seen current (by simp)
      exact distinct.2.2 seen (by simp)
    · have skipped : (reservations.get current).checkOut ≤ (reservations.get current).checkIn := by
        simp only [ReservationSlot.nights] at nights
        omega
      rw [sweepStep, if_pos skipped]
      exact invariant.skip nights

theorem ordered_pair_injective (current : Fin reservations.length) :
    Function.Injective fun earlier : Fin reservations.length =>
      (min earlier current, max earlier current) := by
  intro first second same
  obtain ⟨sameMin, sameMax⟩ := Prod.mk.inj same
  rcases le_total first current with firstLe | firstLe <;> rcases le_total second current with
    secondLe | secondLe <;> simp only [min_eq_left, min_eq_right, max_eq_left, max_eq_right,
    firstLe, secondLe] at sameMin sameMax
  · exact sameMin
  · exact sameMin.trans sameMax
  · exact sameMax.trans sameMin
  · exact sameMax

theorem SweepInvariant.nodup_step (invariant : SweepInvariant visited state)
    (fresh : current ∉ visited)
    (distinct : state.active.Nodup ∧ state.pairs.Nodup) :
    (sweepStep reservations state current).active.Nodup ∧
      (sweepStep reservations state current).pairs.Nodup := by
  unfold sweepStep
  split_ifs
  · exact distinct
  · constructor
    · refine List.Nodup.append (distinct.1.filter _) (List.nodup_singleton _) ?_
      intro index active single
      rw [List.mem_singleton.mp single] at active
      exact fresh (invariant.activeVisited _ (List.mem_of_mem_filter active)).1
    · refine distinct.2.append ((distinct.1.filter _).map (ordered_pair_injective current)) ?_
      rintro ⟨first, second⟩ old added
      obtain ⟨firstSeen, secondSeen, -⟩ := (invariant.pairs first second).mp old
      obtain ⟨earlier, -, same⟩ := List.mem_map.mp added
      cases same
      rcases le_total earlier current with le | le
      · exact fresh (max_eq_right le ▸ secondSeen)
      · exact fresh (min_eq_right le ▸ firstSeen)

theorem sweep_nodup (visited : List (Fin reservations.length)) (distinct : visited.Nodup)
    (byCheckIn : visited.Pairwise fun first second =>
      (reservations.get first).checkIn ≤ (reservations.get second).checkIn) :
    (visited.foldl (sweepStep reservations) { active := [], pairs := [] }).active.Nodup ∧
      (visited.foldl (sweepStep reservations) { active := [], pairs := [] }).pairs.Nodup := by
  induction visited using List.reverseRecOn with
  | nil => exact ⟨List.nodup_nil, List.nodup_nil⟩
  | append_singleton visited current ih =>
    rw [List.nodup_append'] at distinct
    rw [List.pairwise_append] at byCheckIn
    rw [List.foldl_append, List.foldl_cons, List.foldl_nil]
    exact (sweep_invariant _ distinct.1 byCheckIn.1).nodup_step
      (fun seen => distinct.2.2 seen (by simp))
      (ih distinct.1 byCheckIn.1)

/-- The sweep order never goes back in check-in date. -/
theorem checkIn_le_of_sweepKey_le {first second : Fin reservations.length}
    (keyLe : sweepKey reservations first ≤ sweepKey reservations second) :
    (reservations.get first).checkIn ≤ (reservations.get second).checkIn := by
  by_contra decreasing
  have earlier : (reservations.get second).checkIn <
      (reservations.get first).checkIn := not_le.mp decreasing
  have keyLt : sweepKey reservations second < sweepKey reservations first :=
    List.cons_lt_cons_iff.mpr (Or.inl earlier)
  exact absurd keyLe (not_le_of_gt keyLt)

theorem sweepOrder (reservations : List ReservationSlot) :
    (sortByKey (sweepKey reservations) (List.finRange reservations.length)).Nodup ∧
      (sortByKey (sweepKey reservations)
        (List.finRange reservations.length)).Pairwise fun first second =>
          (reservations.get first).checkIn ≤ (reservations.get second).checkIn :=
  ⟨(sortByKey_perm (sweepKey reservations) _).nodup_iff.mpr (List.nodup_finRange _),
    (sortByKey_pairwise (sweepKey reservations) _).imp checkIn_le_of_sweepKey_le⟩

theorem mem_overlappingReservationPairs (first second : Fin reservations.length) :
    (first, second) ∈ overlappingReservationPairs reservations ↔
      first < second ∧ 0 < (reservations.get first).nights ∧ 0 < (reservations.get second).nights ∧
        Overlap (reservations.get first).stay (reservations.get second).stay := by
  have invariant := sweep_invariant _ (sweepOrder reservations).1 (sweepOrder reservations).2
  rw [overlappingReservationPairs, invariant.pairs first second]
  simp

/-- The pairs of the sweep, without duplicates, are those of the pairwise
overlap test among stays that leave after they arrive. -/
theorem overlappingReservationPairs_exact (reservations : List ReservationSlot) :
    (overlappingReservationPairs reservations).Nodup ∧ ∀ first second : Fin reservations.length,
        (first, second) ∈ overlappingReservationPairs reservations ↔
          first < second ∧ (reservations.get first).checkIn < (reservations.get first).checkOut ∧
            (reservations.get second).checkIn < (reservations.get second).checkOut ∧
            checkOverlap (reservations.get first) (reservations.get second) = true := by
  constructor
  · exact (sweep_nodup _ (sweepOrder reservations).1 (sweepOrder reservations).2).2
  · intro first second
    rw [mem_overlappingReservationPairs, checkOverlap_iff]
    simp only [ReservationSlot.nights, Int.sub_pos]

end HotelPms.Allocation
