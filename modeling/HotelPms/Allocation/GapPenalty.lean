import HotelPms.Allocation.CpModel

/-!
# One-night gaps

What the gap variables of the solver model add up to.  A gap variable exists
on the days that some candidate of the room covers, so the penalty leaves out
the gaps that no candidate could fill.
-/

namespace HotelPms.Allocation

section Gaps

variable (reservations : List ReservationSlot) (rooms : List RoomSlot) (forbidden : ForbiddenRooms)
  (horizon : Int × Int)
  (point : CpPoint reservations rooms)
  (x : Fin reservations.length -> Fin rooms.length -> Bool)

/-- Sum of the gap variables of the model. -/
def gapPenalty : Nat :=
  ∑ room, ((possibleGapDays reservations rooms forbidden horizon room).map
    fun day => (point.gap room day).toNat).sum

variable {reservations rooms}

/-- Under the assignment some stay in the room covers a day of the horizon. -/
def OccupiedOn (room : Fin rooms.length) (day : Nat) : Prop :=
  ∃ reservation, x reservation room = true ∧
    (reservations.get reservation).checkIn ≤ horizon.1 + day ∧
    horizon.1 + day < (reservations.get reservation).checkOut
deriving Decidable

/-- An empty inner day of a room between two occupied ones. -/
def IsGap (room : Fin rooms.length) (day : Nat) : Prop :=
  (0 < day ∧ day < totalDays horizon - 1) ∧ OccupiedOn horizon x room (day - 1) ∧
    OccupiedOn horizon x room (day + 1) ∧
    ¬OccupiedOn horizon x room day
deriving Decidable

def oneNightGaps : Finset (Fin rooms.length × Nat) :=
  (Finset.univ ×ˢ Finset.range (totalDays horizon)).filter fun gap => IsGap horizon x gap.1 gap.2

/-- The same assignment with the auxiliary variables it forces. -/
def completed : CpPoint reservations rooms :=
  let isOccupied := fun room day =>
    (coveringReservations reservations rooms forbidden horizon room day).any (point.x · room)
  { point with
    isOccupied := isOccupied
    gap := fun room day =>
      isOccupied room (day - 1) && isOccupied room (day + 1) && !isOccupied room day
    roomUsage := fun room => (candidateReservations reservations rooms forbidden room).any
        (point.x · room) }

end Gaps

variable {reservations : List ReservationSlot} {rooms : List RoomSlot}
  {forbidden : ForbiddenRooms} {horizon : Int × Int}
  {point : CpPoint reservations rooms} {room : Fin rooms.length} {day : Nat}

/-- Three Boolean neighbours and the gap between them. -/
theorem gap_bounds (before now after : Bool) :
    (before && after && !now).toNat ≤ before.toNat ∧ (before && after && !now).toNat ≤ after.toNat ∧
      (before && after && !now).toNat + now.toNat ≤ 1 ∧
      before.toNat + after.toNat ≤ (before && after && !now).toNat + now.toNat + 1 := by
  revert before now after
  decide

theorem gap_of_bounds {before now after gap : Bool}
    (bounds : gap.toNat ≤ before.toNat ∧ gap.toNat ≤ after.toNat ∧ gap.toNat + now.toNat ≤ 1 ∧
      before.toNat + after.toNat ≤ gap.toNat + now.toNat + 1) :
    gap = (before && after && !now) := by
  revert before now after gap
  decide

/-- Every feasible assignment is part of a point of the whole model. -/
theorem HardConstraints.completed
    (constraints : HardConstraints reservations rooms forbidden point) :
    CpConstraints reservations rooms forbidden horizon (completed forbidden horizon point) where
  compatible := constraints.compatible
  assigned := constraints.assigned
  lockedAssigned := constraints.lockedAssigned
  apart := constraints.apart
  lockedRoom := constraints.lockedRoom
  occupied _ _ _ := rfl
  gap _ _ _ := gap_bounds _ _ _
  roomUsage _ := rfl

theorem mem_coveringReservations {reservation : Fin reservations.length}
    (inHorizon : day < totalDays horizon) :
    reservation ∈ coveringReservations reservations rooms forbidden horizon room day ↔
      room ∈ compatibleRoomIndexes reservations rooms forbidden reservation ∧
        reservations[reservation].checkIn ≤ horizon.1 + day ∧
        horizon.1 + day < reservations[reservation].checkOut := by
  simp only [coveringReservations, candidateReservations, List.mem_filter,
    List.mem_finRange, true_and, decide_eq_true_eq, and_congr_right_iff]
  omega

namespace CpConstraints

variable (constraints : CpConstraints reservations rooms forbidden horizon point)
include constraints

/-- A day is occupied exactly where its variable exists and is set. -/
theorem occupiedOn_iff (inHorizon : day < totalDays horizon) : OccupiedOn horizon point.x room day ↔
      coveringReservations reservations rooms forbidden horizon room day ≠ [] ∧
        point.isOccupied room day = true := by
  constructor
  · rintro ⟨reservation, isSet, covers⟩
    have covering : reservation ∈ coveringReservations reservations rooms
        forbidden horizon room day := (mem_coveringReservations inHorizon).mpr
      ⟨constraints.compatible reservation room isSet, covers⟩
    have candidates := List.ne_nil_of_mem covering
    refine ⟨candidates, ?_⟩
    rw [constraints.occupied room day candidates]
    exact List.any_eq_true.mpr ⟨reservation, covering, isSet⟩
  · rintro ⟨candidates, occupied⟩
    rw [constraints.occupied room day candidates] at occupied
    obtain ⟨reservation, covering, isSet⟩ := List.any_eq_true.mp occupied
    exact ⟨reservation, isSet, ((mem_coveringReservations inHorizon).mp covering).2⟩

theorem gap_iff :
    day ∈ possibleGapDays reservations rooms forbidden horizon room ∧ point.gap room day = true ↔
      IsGap horizon point.x room day ∧
        coveringReservations reservations rooms forbidden horizon room day ≠ [] := by
  by_cases inner : 0 < day ∧ day < totalDays horizon - 1
  swap
  · simp only [possibleGapDays, List.mem_filter, Bool.and_eq_true, decide_eq_true_eq, IsGap]
    tauto
  have before := @occupiedOn_iff _ _ _ _ _ room (day - 1) constraints (by omega)
  have now := @occupiedOn_iff _ _ _ _ _ room day constraints (by omega)
  have after := @occupiedOn_iff _ _ _ _ _ room (day + 1) constraints (by omega)
  have possible : day ∈ possibleGapDays reservations rooms forbidden horizon room ↔
        coveringReservations reservations rooms forbidden horizon room day ≠ [] ∧
          coveringReservations reservations rooms forbidden horizon room (day - 1) ≠ [] ∧
          coveringReservations reservations rooms forbidden horizon room (day + 1) ≠ [] := by
    simp only [possibleGapDays, List.mem_filter, List.mem_range, Bool.and_eq_true,
      decide_eq_true_eq, Bool.not_eq_true', List.isEmpty_eq_false_iff, and_assoc]
    constructor
    · rintro ⟨-, -, -, candidates⟩
      exact candidates
    · intro candidates
      exact ⟨by omega, inner.1, inner.2, candidates⟩
  rw [IsGap, before, now, after]
  constructor
  · rintro ⟨member, isSet⟩
    have bounds := constraints.gap room day member
    rw [gap_of_bounds bounds] at isSet
    simp only [Bool.and_eq_true, Bool.not_eq_true'] at isSet
    obtain ⟨today, yesterday, tomorrow⟩ := possible.mp member
    exact ⟨⟨inner, ⟨yesterday, isSet.1.1⟩, ⟨tomorrow, isSet.1.2⟩,
      fun occupied => by simp [isSet.2] at occupied⟩, today⟩
  · rintro ⟨⟨-, yesterday, tomorrow, empty⟩, today⟩
    have member := possible.mpr ⟨today, yesterday.1, tomorrow.1⟩
    refine ⟨member, ?_⟩
    rw [gap_of_bounds (constraints.gap room day member)]
    simp [yesterday.2, tomorrow.2, today] at empty ⊢
    exact empty

theorem gapPenalty_eq : gapPenalty reservations rooms forbidden horizon point =
      ((oneNightGaps horizon point.x).filter fun gap =>
        coveringReservations reservations rooms forbidden horizon gap.1 gap.2 ≠ []).card := by
  rw [oneNightGaps, Finset.filter_filter, Finset.card_filter, Finset.sum_product]
  refine Finset.sum_congr rfl fun room _ => ?_
  simp only [← constraints.gap_iff]
  calc ((possibleGapDays reservations rooms forbidden horizon room).map
        fun day => (point.gap room day).toNat).sum
      = ∑ day ∈ (Finset.range (totalDays horizon)).filter fun day =>
          day ∈ possibleGapDays reservations rooms forbidden horizon room,
            (point.gap room day).toNat := by
        have distinct : (possibleGapDays reservations rooms forbidden horizon
            room).Nodup := List.nodup_range.filter _
        rw [← List.sum_toFinset _ distinct]
        refine Finset.sum_congr ?_ fun _ _ => rfl
        ext day
        simp [possibleGapDays]
    _ = ∑ day ∈ Finset.range (totalDays horizon),
          if day ∈ possibleGapDays reservations rooms forbidden horizon
            room ∧ point.gap room day = true then 1 else 0 := by
        rw [Finset.sum_filter]
        refine Finset.sum_congr rfl fun day _ => ?_
        cases point.gap room day <;> simp

end CpConstraints

/-- The gap variables of every feasible assignment are forced, and they count
its one-night gaps exactly when some candidate of the room covers each gap. -/
theorem gapPenalty_eq_card_iff (constraints : HardConstraints reservations rooms forbidden point) :
    (∃ whole, CpConstraints reservations rooms forbidden horizon whole ∧ whole.x = point.x) ∧
      ∀ whole, CpConstraints reservations rooms forbidden horizon whole -> whole.x = point.x ->
        (gapPenalty reservations rooms forbidden horizon whole =
            (oneNightGaps horizon point.x).card ↔
          ∀ gap ∈ oneNightGaps horizon point.x,
            coveringReservations reservations rooms forbidden horizon gap.1 gap.2 ≠ []) := by
  refine ⟨⟨_, constraints.completed, rfl⟩, ?_⟩
  intro whole wholeConstraints same
  rw [wholeConstraints.gapPenalty_eq, same, Finset.card_filter_eq_iff]

def nightAt (id day : Int) : ReservationSlot where
  reservationId := id
  categoryId := 1
  checkIn := day
  checkOut := day + 1
  currentRoomId := none
  isLocked := false

/-- The first two stays sit in the only room. -/
def besideGap (reservations : List ReservationSlot) : CpPoint reservations [sampleRoom] where
  x reservation _ := decide (reservation.val < 2)
  isAssigned reservation := decide (reservation.val < 2)
  isOccupied _ _ := false
  gap _ _ := false
  roomUsage _ := false

theorem besideGap_hardConstraints :
    HardConstraints [nightAt 1 0, nightAt 2 2] [sampleRoom] (fun _ => ∅) (besideGap _) where
  compatible := by decide
  assigned := by decide
  lockedAssigned := by decide
  apart := by decide
  lockedRoom := by decide

theorem besideGap_hardConstraints_middle :
    HardConstraints [nightAt 1 0, nightAt 2 2, nightAt 3 1] [sampleRoom]
      (fun _ => ∅) (besideGap _) where
  compatible := by decide
  assigned := by decide
  lockedAssigned := by decide
  apart := by decide
  lockedRoom := by decide

/-- A free night that a stay without a room could fill is counted. -/
theorem gapPenalty_eq_card_middle : gapPenalty [nightAt 1 0, nightAt 2 2, nightAt 3 1] [sampleRoom]
        (fun _ => ∅) (0, 3) (completed (fun _ => ∅) (0, 3) (besideGap _)) =
      (oneNightGaps (0, 3) (besideGap [nightAt 1 0, nightAt 2 2, nightAt 3 1]).x).card :=
  ((gapPenalty_eq_card_iff besideGap_hardConstraints_middle).2 _
    besideGap_hardConstraints_middle.completed rfl).mpr (by decide)

/-- A free night that no stay could fill is not. -/
theorem unfillable_gap_not_counted :
    HardConstraints [nightAt 1 0, nightAt 2 2] [sampleRoom] (fun _ => ∅) (besideGap _) ∧
      (∀ whole, CpConstraints [nightAt 1 0, nightAt 2 2] [sampleRoom]
          (fun _ => ∅) (0, 3) whole -> whole.x = (besideGap _).x ->
        gapPenalty _ _ (fun _ => ∅) (0, 3) whole = 0) ∧
      (oneNightGaps (0, 3) (besideGap [nightAt 1 0, nightAt 2 2]).x).card = 1 := by
  refine ⟨besideGap_hardConstraints, ?_, by decide⟩
  intro whole constraints same
  rw [constraints.gapPenalty_eq, same]
  decide

end HotelPms.Allocation
