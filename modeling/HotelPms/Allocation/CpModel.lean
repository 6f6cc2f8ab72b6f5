import HotelPms.Allocation.LockProtection
import HotelPms.Allocation.SweepLine
import Mathlib.Algebra.BigOperators.Fin
import Mathlib.Algebra.Order.BigOperators.Group.Finset

/-!
# The solver model

The 0/1 model the engine hands to the solver: one variable for every
reservation and room, the hard constraints on them, and the auxiliary
variables of the objective.  `SoundPlan` says what the constraints are for.
Every point of the model reads back as a sound plan, every sound plan is a
point of the model, and a successful greedy run is one.
-/

namespace HotelPms.Allocation

open HalfOpen KeySort

/-- Every explicit veto and every block of a reservation's own slot. -/
def combinedForbiddenRoomIds (reservations : List ReservationSlot)
    (forbidden : ForbiddenRooms) : ForbiddenRooms :=
  fun reservationId =>
    forbidden reservationId ∪ ((reservations.filter fun reservation =>
          reservation.reservationId = reservationId).flatMap
        ReservationSlot.blockedRoomIds).toFinset

/-- Values of the Boolean variables of the model. -/
structure CpPoint
    (reservations : List ReservationSlot)
    (rooms : List RoomSlot) where
  /-- `x r h`: the reservation sits in the room. -/
  x : Fin reservations.length -> Fin rooms.length -> Bool
  isAssigned : Fin reservations.length -> Bool
  /-- Occupancy of a room on a day of the horizon. -/
  isOccupied : Fin rooms.length -> Nat -> Bool
  /-- A one-night gap of a room on a day of the horizon. -/
  gap : Fin rooms.length -> Nat -> Bool
  roomUsage : Fin rooms.length -> Bool

section Model

variable (reservations : List ReservationSlot) (rooms : List RoomSlot) (forbidden : ForbiddenRooms)

/-- Rooms a reservation has a variable for. -/
def compatibleRoomIndexes (reservation : Fin reservations.length) : Finset (Fin rooms.length) :=
  {room | Eligible forbidden reservations[reservation] rooms[room]}

/-- Reservations that have a variable for a room. -/
def candidateReservations (room : Fin rooms.length) : List (Fin reservations.length) :=
  (List.finRange reservations.length).filter fun reservation =>
    room ∈ compatibleRoomIndexes reservations rooms forbidden reservation

/-- The constraints on the assignment variables. -/
structure HardConstraints (point : CpPoint reservations rooms) : Prop where
  /-- Incompatible pairs have no variable and read as zero. -/
  compatible : ∀ reservation room, point.x reservation room = true ->
    room ∈ compatibleRoomIndexes reservations rooms forbidden reservation
  assigned : ∀ reservation, ∑ room, (point.x reservation room).toNat =
      (point.isAssigned reservation).toNat
  lockedAssigned : ∀ reservation : Fin reservations.length,
    reservations[reservation].isLocked = true -> point.isAssigned reservation = true
  apart : ∀ pair ∈ overlappingReservationPairs reservations,
    ∀ room ∈ compatibleRoomIndexes reservations rooms forbidden pair.1 ∩
        compatibleRoomIndexes reservations rooms forbidden pair.2,
      (point.x pair.1 room).toNat + (point.x pair.2 room).toNat ≤ 1
  lockedRoom : ∀ reservation : Fin reservations.length, reservations[reservation].isLocked = true ->
    ∀ current, reservations[reservation].currentRoomId = some current ->
    ∀ room ∈ compatibleRoomIndexes reservations rooms forbidden reservation,
      point.x reservation room = decide (rooms[room].roomId = current)

/-- Dates with at least one stay. -/
def allDates : Finset Int :=
  reservations.toFinset.biUnion ReservationSlot.dateRange

/-- The horizon the objective looks at: the one given, else the dates with a
stay, else thirty days from today. -/
def solveHorizon (optimizationHorizon : Option (Int × Int)) (today : Int) : Int × Int :=
  match optimizationHorizon with
  | some horizon => horizon
  | none =>
    if stays : (allDates reservations).Nonempty then
      ((allDates reservations).min' stays, (allDates reservations).max' stays + 1)
    else (today, today + 30)

variable (point : CpPoint reservations rooms) (horizon : Int × Int)

/-- Number of days of a horizon, thirty when it is empty. -/
def totalDays : Nat :=
  if horizon.2 - horizon.1 ≤ 0 then 30 else (horizon.2 - horizon.1).toNat

/-- Candidates of a room whose stay covers a day of the horizon. -/
def coveringReservations (room : Fin rooms.length) (day : Nat) : List (Fin reservations.length) :=
  (candidateReservations reservations rooms forbidden room).filter fun reservation =>
      max (reservations[reservation].checkIn - horizon.1) 0 ≤ day ∧
        day < min (reservations[reservation].checkOut - horizon.1) (totalDays horizon)

def possibleGapDays (room : Fin rooms.length) : List Nat :=
  let occupiedCandidate := fun day =>
    !(coveringReservations reservations rooms forbidden horizon room day).isEmpty
  (List.range (totalDays horizon)).filter fun day =>
    decide (0 < day) && decide (day < totalDays horizon - 1) &&
      occupiedCandidate day && occupiedCandidate (day - 1) &&
      occupiedCandidate (day + 1)

/-- All constraints of the model: the hard ones and the definitions of the
auxiliary variables. -/
structure CpConstraints
    (horizon : Int × Int)
    (point : CpPoint reservations rooms) : Prop
    extends HardConstraints reservations rooms forbidden point where
  occupied : ∀ room day, coveringReservations reservations rooms forbidden horizon room day ≠ [] ->
    point.isOccupied room day = (coveringReservations reservations rooms forbidden horizon room
        day).any (point.x · room)
  gap : ∀ room, ∀ day ∈ possibleGapDays reservations rooms forbidden horizon room,
      (point.gap room day).toNat ≤ (point.isOccupied room (day - 1)).toNat ∧
      (point.gap room day).toNat ≤ (point.isOccupied room (day + 1)).toNat ∧
      (point.gap room day).toNat + (point.isOccupied room day).toNat ≤ 1 ∧
      (point.isOccupied room (day - 1)).toNat + (point.isOccupied room (day + 1)).toNat ≤
        (point.gap room day).toNat + (point.isOccupied room day).toNat + 1
  roomUsage : ∀ room, point.roomUsage room =
    (candidateReservations reservations rooms forbidden room).any (point.x · room)

/-! ## Plans -/

/-- What a plan may do: rooms are eligible and shared by no overlapping stays,
locked reservations are placed, and in their own room if they have one. -/
structure SoundPlan (assignments : AList fun _ : Int => Int) : Prop where
  eligible : ∀ reservation ∈ reservations, ∀ roomId,
    assignments.lookup reservation.reservationId = some roomId ->
      ∃ room ∈ rooms, room.roomId = roomId ∧ Eligible forbidden reservation room
  exclusive : Exclusive (assignments.lookup ·.reservationId)
    ReservationSlot.stay {reservation | reservation ∈ reservations}
  lockedPlaced : ∀ reservation ∈ reservations, reservation.isLocked = true ->
      assignments.lookup reservation.reservationId ≠ none
  lockedKept : ∀ reservation ∈ reservations, reservation.isLocked = true ->
    ∀ current, reservation.currentRoomId = some current ->
      assignments.lookup reservation.reservationId = some current

def pointOfPlan (assignments : AList fun _ : Int => Int) : CpPoint reservations rooms :=
  let x := fun (reservation : Fin reservations.length) (room : Fin rooms.length) =>
    decide (assignments.lookup reservations[reservation].reservationId = some rooms[room].roomId)
  let isOccupied := fun room day =>
    (coveringReservations reservations rooms forbidden horizon room day).any (x · room)
  { x := x
    isAssigned := fun reservation =>
      (assignments.lookup reservations[reservation].reservationId).isSome
    isOccupied := isOccupied
    gap := fun room day =>
      isOccupied room (day - 1) && isOccupied room (day + 1) && !isOccupied room day
    roomUsage := fun room => (candidateReservations reservations rooms forbidden room).any
        (x · room) }

variable {reservations rooms}

/-- First room whose variable is set for a reservation. -/
def chosenRoom (reservation : Fin reservations.length) : Option (Fin rooms.length) :=
  (List.finRange rooms.length).find? (point.x reservation ·)

/-- Record the room a point gives one reservation. -/
def readStep (assignments : AList fun _ : Int => Int)
    (reservation : Fin reservations.length) : AList fun _ : Int => Int :=
  match chosenRoom point reservation with
  | some room =>
    assignments.insert reservations[reservation].reservationId rooms[room].roomId
  | none => assignments

/-- The assignments read off a point, reservation by reservation. -/
def readAssignments : AList fun _ : Int => Int :=
  (List.finRange reservations.length).foldl (readStep point) ∅

end Model

variable {reservations : List ReservationSlot} {rooms : List RoomSlot} {forbidden : ForbiddenRooms}

@[simp] theorem mem_compatibleRoomIndexes
    (reservation : Fin reservations.length) (room : Fin rooms.length) :
    room ∈ compatibleRoomIndexes reservations rooms forbidden reservation ↔
      Eligible forbidden reservations[reservation] rooms[room] := by
  simp [compatibleRoomIndexes]

theorem index_eq_of_reservationId_eq
    (distinctIds : (reservations.map ReservationSlot.reservationId).Nodup)
    {first second : Fin reservations.length}
    (sameId : reservations[first].reservationId =
      reservations[second].reservationId) : first = second := by
  have same := slot_eq_of_reservationId_eq distinctIds
    (List.getElem_mem first.isLt) (List.getElem_mem second.isLt) sameId
  exact Fin.ext ((List.Nodup.getElem_inj_iff distinctIds.of_map).mp same)

theorem index_eq_of_roomId_eq (distinctRooms : (rooms.map RoomSlot.roomId).Nodup)
    {first second : Fin rooms.length}
    (sameId : rooms[first].roomId = rooms[second].roomId) : first = second := by
  have same := room_eq_of_roomId_eq distinctRooms
    (List.getElem_mem first.isLt) (List.getElem_mem second.isLt) sameId
  exact Fin.ext ((List.Nodup.getElem_inj_iff distinctRooms.of_map).mp same)

theorem lookup_readAssignments
    (distinctIds : (reservations.map ReservationSlot.reservationId).Nodup)
    (point : CpPoint reservations rooms)
    (reservation : Fin reservations.length) :
    (readAssignments point).lookup reservations[reservation].reservationId =
      (chosenRoom point reservation).map (rooms[·].roomId) := by
  have prefixRead (indices : List (Fin reservations.length)) (distinct : indices.Nodup) :
      (indices.foldl (readStep point) ∅).lookup reservations[reservation].reservationId =
      if reservation ∈ indices then
        (chosenRoom point reservation).map (rooms[·].roomId)
      else none := by
    induction indices using List.reverseRecOn with
    | nil => simp
    | append_singleton indices index ih =>
      rw [List.nodup_append'] at distinct
      have read := ih distinct.1
      rw [List.foldl_append, List.foldl_cons, List.foldl_nil, readStep]
      by_cases same : reservation = index
      · subst same
        have fresh : reservation ∉ indices := fun seen => distinct.2.2 seen (by simp)
        cases chosen : chosenRoom point reservation with
        | none => simpa [chosen] using read
        | some room => simp
      · have differentId : reservations[reservation].reservationId ≠
            reservations[index].reservationId := fun sameId =>
          same (index_eq_of_reservationId_eq distinctIds sameId)
        cases chosenRoom point index with
        | none => simpa [same] using read
        | some room =>
          rw [AList.lookup_insert_ne differentId]
          simpa [same] using read
  have read := prefixRead _ (List.nodup_finRange reservations.length)
  rwa [if_pos (List.mem_finRange reservation)] at read

theorem exists_slot_of_lookup {point : CpPoint reservations rooms} {id roomId : Int}
    (found : (readAssignments point).lookup id = some roomId) :
    ∃ slot ∈ reservations, slot.reservationId = id := by
  have prefixRead (indices : List (Fin reservations.length))
      (read : (indices.foldl (readStep point) ∅).lookup id = some roomId) :
      ∃ slot ∈ reservations, slot.reservationId = id := by
    induction indices using List.reverseRecOn with
    | nil => simp at read
    | append_singleton indices index ih =>
      rw [List.foldl_append, List.foldl_cons, List.foldl_nil, readStep] at read
      cases chosen : chosenRoom point index with
      | none =>
        rw [chosen] at read
        exact ih read
      | some room =>
        rw [chosen] at read
        by_cases same : id = reservations[index].reservationId
        · exact ⟨reservations[index], List.getElem_mem index.isLt, same.symm⟩
        · rw [AList.lookup_insert_ne same] at read
          exact ih read
  exact prefixRead _ found

theorem exists_chosenRoom_iff (point : CpPoint reservations rooms)
    (reservation : Fin reservations.length) :
    (chosenRoom point reservation).isSome = true ↔ ∃ room, point.x reservation room = true := by
  simp [chosenRoom]

theorem x_of_chosenRoom {point : CpPoint reservations rooms}
    {reservation : Fin reservations.length} {room : Fin rooms.length}
    (chosen : chosenRoom point reservation = some room) :
    point.x reservation room = true := by
  simpa using List.find?_some chosen

namespace HardConstraints

variable {point : CpPoint reservations rooms}

section

variable (constraints : HardConstraints reservations rooms forbidden point)
include constraints

theorem unique_room {reservation : Fin reservations.length} {first second : Fin rooms.length}
    (firstSet : point.x reservation first = true)
    (secondSet : point.x reservation second = true) : first = second := by
  by_contra different
  have atLeastTwo : (point.x reservation first).toNat + (point.x reservation second).toNat ≤
        ∑ room, (point.x reservation room).toNat :=
    Finset.add_le_sum (f := fun room => (point.x reservation room).toNat)
      (fun _ _ => Nat.zero_le _) (Finset.mem_univ first)
      (Finset.mem_univ second) different
  rw [constraints.assigned reservation, firstSet, secondSet] at atLeastTwo
  have atMostOne := Bool.toNat_le (point.isAssigned reservation)
  simp only [Bool.toNat_true] at atLeastTwo
  omega

theorem chosenRoom_eq_some_iff (reservation : Fin reservations.length) (room : Fin rooms.length) :
    chosenRoom point reservation = some room ↔ point.x reservation room = true := by
  refine ⟨x_of_chosenRoom, fun isSet => ?_⟩
  obtain ⟨chosen, found⟩ := Option.isSome_iff_exists.mp
    ((exists_chosenRoom_iff point reservation).mpr ⟨room, isSet⟩)
  rw [found, constraints.unique_room (x_of_chosenRoom found) isSet]

theorem x_iff_lookup (distinctIds : (reservations.map ReservationSlot.reservationId).Nodup)
    (distinctRooms : (rooms.map RoomSlot.roomId).Nodup)
    (reservation : Fin reservations.length) (room : Fin rooms.length) :
    point.x reservation room = true ↔
      (readAssignments point).lookup reservations[reservation].reservationId =
        some rooms[room].roomId := by
  rw [← constraints.chosenRoom_eq_some_iff,
    lookup_readAssignments distinctIds, Option.map_eq_some_iff]
  constructor
  · intro chosen
    exact ⟨room, chosen, rfl⟩
  · rintro ⟨other, chosen, sameId⟩
    rw [chosen, index_eq_of_roomId_eq distinctRooms sameId]

omit constraints in
theorem exists_x_of_lookup (distinctIds : (reservations.map ReservationSlot.reservationId).Nodup)
    (reservation : Fin reservations.length) {roomId : Int}
    (found : (readAssignments point).lookup reservations[reservation].reservationId = some roomId) :
    ∃ room, point.x reservation room = true ∧ rooms[room].roomId = roomId := by
  rw [lookup_readAssignments distinctIds, Option.map_eq_some_iff] at found
  obtain ⟨room, chosen, sameId⟩ := found
  exact ⟨room, x_of_chosenRoom chosen, sameId⟩

theorem exists_x_of_isAssigned {reservation : Fin reservations.length}
    (assigned : point.isAssigned reservation = true) :
    ∃ room, point.x reservation room = true := by
  have sumOne := constraints.assigned reservation
  rw [assigned] at sumOne
  by_contra unset
  push Not at unset
  simp [unset] at sumOne

theorem not_both {first second : Fin reservations.length}
    (paired : (first, second) ∈ overlappingReservationPairs reservations)
    {room : Fin rooms.length} (firstSet : point.x first room = true)
    (secondSet : point.x second room = true) : False := by
  have atMostOne := constraints.apart (first, second) paired room (Finset.mem_inter.mpr
      ⟨constraints.compatible first room firstSet, constraints.compatible second room secondSet⟩)
  simp only [firstSet, secondSet, Bool.toNat_true] at atMostOne
  omega

theorem soundPlan (distinctIds : (reservations.map ReservationSlot.reservationId).Nodup)
    (distinctRooms : (rooms.map RoomSlot.roomId).Nodup)
    (positiveNights : ∀ reservation ∈ reservations, 0 < reservation.nights) :
    SoundPlan reservations rooms forbidden (readAssignments point) where
  eligible reservation member roomId found := by
    obtain ⟨position, positionLt, rfl⟩ := List.getElem_of_mem member
    obtain ⟨room, isSet, sameId⟩ := exists_x_of_lookup distinctIds ⟨position, positionLt⟩ found
    exact ⟨rooms[room], List.getElem_mem room.isLt, sameId,
      (mem_compatibleRoomIndexes _ _).mp (constraints.compatible _ room isSet)⟩
  exclusive := by
    intro first firstIn second secondIn different roomId firstHolds secondHolds overlap
    obtain ⟨firstPosition, firstLt, rfl⟩ := List.getElem_of_mem firstIn
    obtain ⟨secondPosition, secondLt, rfl⟩ := List.getElem_of_mem secondIn
    obtain ⟨firstRoom, firstSet, firstId⟩ := exists_x_of_lookup
      distinctIds ⟨firstPosition, firstLt⟩ firstHolds
    obtain ⟨secondRoom, secondSet, secondId⟩ := exists_x_of_lookup
      distinctIds ⟨secondPosition, secondLt⟩ secondHolds
    obtain rfl := index_eq_of_roomId_eq distinctRooms (firstId.trans secondId.symm)
    have firstNights := positiveNights _ firstIn
    have secondNights := positiveNights _ secondIn
    have apart : firstPosition ≠ secondPosition := by
      rintro rfl
      exact different rfl
    rcases lt_or_gt_of_ne apart with lt | lt
    · exact constraints.not_both ((mem_overlappingReservationPairs
        ⟨firstPosition, firstLt⟩ ⟨secondPosition, secondLt⟩).mpr
          ⟨lt, firstNights, secondNights, overlap⟩) firstSet secondSet
    · exact constraints.not_both ((mem_overlappingReservationPairs
        ⟨secondPosition, secondLt⟩ ⟨firstPosition, firstLt⟩).mpr
          ⟨lt, secondNights, firstNights, overlap.symm⟩) secondSet firstSet
  lockedPlaced reservation member locked := by
    obtain ⟨position, positionLt, rfl⟩ := List.getElem_of_mem member
    obtain ⟨room, isSet⟩ := constraints.exists_x_of_isAssigned
      (constraints.lockedAssigned ⟨position, positionLt⟩ locked)
    have found := (constraints.x_iff_lookup distinctIds distinctRooms _ room).mp isSet
    intro unassigned
    exact Option.some_ne_none _ (found.symm.trans unassigned)
  lockedKept reservation member locked current holds := by
    obtain ⟨position, positionLt, rfl⟩ := List.getElem_of_mem member
    obtain ⟨room, isSet⟩ := constraints.exists_x_of_isAssigned
      (constraints.lockedAssigned ⟨position, positionLt⟩ locked)
    have inRoom := constraints.lockedRoom ⟨position, positionLt⟩ locked
      current holds room (constraints.compatible _ room isSet)
    rw [isSet] at inRoom
    rw [← of_decide_eq_true inRoom.symm]
    exact (constraints.x_iff_lookup distinctIds distinctRooms _ room).mp isSet

end

end HardConstraints

/-! ## Sound plans are points of the model -/

namespace SoundPlan

variable {assignments : AList fun _ : Int => Int}

theorem pointOfPlan_x (horizon : Int × Int)
    (reservation : Fin reservations.length) (room : Fin rooms.length) :
    (pointOfPlan reservations rooms forbidden horizon assignments).x reservation room =
      decide (assignments.lookup reservations[reservation].reservationId =
        some rooms[room].roomId) := rfl

theorem pointOfPlan_isAssigned (horizon : Int × Int) (reservation : Fin reservations.length) :
    (pointOfPlan reservations rooms forbidden horizon assignments).isAssigned reservation =
      (assignments.lookup reservations[reservation].reservationId).isSome := rfl

section

variable (plan : SoundPlan reservations rooms forbidden assignments)
include plan

theorem sum_x (distinctRooms : (rooms.map RoomSlot.roomId).Nodup) (horizon : Int × Int)
    (reservation : Fin reservations.length) :
    ∑ room, ((pointOfPlan reservations rooms forbidden horizon
        assignments).x reservation room).toNat =
      ((pointOfPlan reservations rooms forbidden horizon
        assignments).isAssigned reservation).toNat := by
  simp only [pointOfPlan_x, pointOfPlan_isAssigned]
  cases found : assignments.lookup reservations[reservation].reservationId with
  | none => simp
  | some roomId =>
    obtain ⟨room, member, rfl, _⟩ := plan.eligible _
      (List.getElem_mem reservation.isLt) roomId found
    obtain ⟨position, positionLt, rfl⟩ := List.getElem_of_mem member
    rw [Finset.sum_eq_single (⟨position, positionLt⟩ : Fin rooms.length)]
    · simp
    · intro other _ different
      have differentId : rooms[position].roomId ≠ rooms[other].roomId := by
        intro sameId
        have same : other = ⟨position, positionLt⟩ :=
          index_eq_of_roomId_eq distinctRooms sameId.symm
        exact different same
      simpa using differentId
    · simp

theorem eligible_of_x (distinctRooms : (rooms.map RoomSlot.roomId).Nodup) {horizon : Int × Int}
    {reservation : Fin reservations.length} {room : Fin rooms.length}
    (isSet : (pointOfPlan reservations rooms forbidden horizon
      assignments).x reservation room = true) :
    Eligible forbidden reservations[reservation] rooms[room] := by
  obtain ⟨other, otherIn, sameId, eligible⟩ := plan.eligible _
    (List.getElem_mem reservation.isLt) _ (of_decide_eq_true isSet)
  rwa [room_eq_of_roomId_eq distinctRooms otherIn (List.getElem_mem room.isLt) sameId] at eligible

section

variable (distinctIds : (reservations.map ReservationSlot.reservationId).Nodup)
  (distinctRooms : (rooms.map RoomSlot.roomId).Nodup)
include distinctIds distinctRooms

theorem hardConstraints (horizon : Int × Int) : HardConstraints reservations rooms forbidden
      (pointOfPlan reservations rooms forbidden horizon assignments) where
  compatible reservation room isSet :=
    (mem_compatibleRoomIndexes reservation room).mpr (plan.eligible_of_x distinctRooms isSet)
  assigned := plan.sum_x distinctRooms horizon
  lockedAssigned reservation locked :=
    Option.ne_none_iff_isSome.mp (plan.lockedPlaced _ (List.getElem_mem reservation.isLt) locked)
  apart := by
    rintro ⟨first, second⟩ paired room _
    obtain ⟨lt, _, _, overlap⟩ := (mem_overlappingReservationPairs first second).mp paired
    have different : reservations[first] ≠ reservations[second] := by
      intro same
      exact lt.ne (index_eq_of_reservationId_eq distinctIds (by rw [same]))
    have notBoth : ¬((pointOfPlan reservations rooms forbidden horizon
        assignments).x first room = true ∧
        (pointOfPlan reservations rooms forbidden horizon
        assignments).x second room = true) := by
      rintro ⟨firstSet, secondSet⟩
      exact plan.exclusive _ (List.getElem_mem first.isLt) _
        (List.getElem_mem second.isLt) different _
        (of_decide_eq_true firstSet) (of_decide_eq_true secondSet) overlap
    generalize (pointOfPlan reservations rooms forbidden horizon
      assignments).x first room = firstValue at notBoth ⊢
    generalize (pointOfPlan reservations rooms forbidden horizon
      assignments).x second room = secondValue at notBoth ⊢
    revert firstValue secondValue
    decide
  lockedRoom reservation locked current holds room _ := by
    have kept := plan.lockedKept _ (List.getElem_mem reservation.isLt) locked current holds
    rw [pointOfPlan_x, Fin.getElem_fin, kept]
    exact decide_eq_decide.mpr ⟨fun same => (Option.some.inj same).symm, fun same => by rw [same]⟩

theorem cpConstraints (horizon : Int × Int) : CpConstraints reservations rooms forbidden horizon
      (pointOfPlan reservations rooms forbidden horizon assignments) where
  toHardConstraints := plan.hardConstraints distinctIds distinctRooms horizon
  occupied _ _ _ := rfl
  gap room day _ := by
    have gapDefinition : (pointOfPlan reservations rooms forbidden horizon
        assignments).gap room day =
      ((pointOfPlan reservations rooms forbidden horizon assignments).isOccupied room (day - 1) &&
        (pointOfPlan reservations rooms forbidden horizon assignments).isOccupied room (day + 1) &&
        !(pointOfPlan reservations rooms forbidden horizon assignments).isOccupied room day) := rfl
    rw [gapDefinition]
    generalize (pointOfPlan reservations rooms forbidden horizon
      assignments).isOccupied room = isOccupied
    cases isOccupied (day - 1) <;> cases isOccupied day <;>
      cases isOccupied (day + 1) <;> decide
  roomUsage _ := rfl

end

end

end SoundPlan

theorem soundPlan_of_success {policyConstraints : PolicyConstraints} {policyWeights : PolicyWeights}
    (distinctIds : (reservations.map ReservationSlot.reservationId).Nodup)
    (distinctRooms : (rooms.map RoomSlot.roomId).Nodup)
    (success : (runAllocationGreedy rooms policyConstraints policyWeights
      forbidden reservations).success = true) :
    SoundPlan reservations rooms forbidden
      (runAllocationGreedy rooms policyConstraints policyWeights forbidden
        reservations).assignments := by
  have invariant : GreedyInvariant rooms forbidden (greedyOrder reservations)
      (greedyRun rooms policyConstraints policyWeights forbidden (greedyOrder reservations)) :=
    runAllocationGreedy_invariant distinctRooms distinctIds
  have allPlaced (reservation : ReservationSlot) (member : reservation ∈ reservations) :
      (runAllocationGreedy rooms policyConstraints policyWeights forbidden
        reservations).assignments.lookup reservation.reservationId ≠
          none := by
    intro unassigned
    have listed := (mem_unassignedReservations reservations reservation.reservationId).mpr
      ⟨List.mem_map_of_mem member, unassigned⟩
    rw [(runAllocationGreedy_success_iff reservations).mp success] at listed
    exact List.not_mem_nil listed
  refine { eligible := ?_, exclusive := ?_, lockedPlaced := ?_, lockedKept := ?_ }
  · intro reservation member roomId found
    obtain ⟨other, otherIn, sameId, room, roomIn, sameRoom, eligible⟩ :=
      invariant.assigned _ roomId found
    have same := slot_eq_of_reservationId_eq distinctIds
      ((mem_sortByKey priorityKey reservations).mp otherIn) member sameId
    exact ⟨room, roomIn, sameRoom, same ▸ eligible⟩
  · exact invariant.exclusive.subset fun reservation member =>
      (mem_sortByKey priorityKey reservations).mpr member
  · intro reservation member _
    exact allPlaced reservation member
  · intro reservation member locked current holds
    obtain ⟨before, after, order⟩ := List.append_of_mem
      ((mem_sortByKey priorityKey reservations).mpr member)
    obtain ⟨roomId, chosen⟩ := Option.ne_none_iff_exists'.mp (allPlaced reservation member)
    have atTurn := chosen
    rw [lookup_runAllocationGreedy_eq_choice distinctIds distinctRooms order] at atTurn
    rw [chosen, (greedyChoice_eq_some distinctRooms atTurn).2.2 locked current holds]

/-- A successful greedy run satisfies every constraint of the solver model,
and every point satisfying the hard constraints reads back as a conflict-free,
eligible and lock-respecting plan with exactly the rooms the point sets. -/
theorem greedy_refines_cpModel (reservations : List ReservationSlot)
    (rooms : List RoomSlot) (policyConstraints : PolicyConstraints)
    (policyWeights : PolicyWeights) (forbidden : ForbiddenRooms)
    (horizon : Int × Int)
    (distinctIds : (reservations.map ReservationSlot.reservationId).Nodup)
    (distinctRooms : (rooms.map RoomSlot.roomId).Nodup)
    (positiveNights : ∀ reservation ∈ reservations, 0 < reservation.nights) :
    ((runAllocationGreedy rooms policyConstraints policyWeights forbidden
        reservations).success = true ->
      CpConstraints reservations rooms forbidden horizon
        (pointOfPlan reservations rooms forbidden horizon
          (runAllocationGreedy rooms policyConstraints policyWeights
            forbidden reservations).assignments)) ∧
    ∀ point, HardConstraints reservations rooms forbidden point ->
      SoundPlan reservations rooms forbidden (readAssignments point) ∧
        ∀ reservation room, point.x reservation room = true ↔
          (readAssignments point).lookup reservations[reservation].reservationId =
            some rooms[room].roomId := by
  constructor
  · intro success
    exact (soundPlan_of_success distinctIds distinctRooms
      success).cpConstraints distinctIds distinctRooms horizon
  · intro point constraints
    exact ⟨constraints.soundPlan distinctIds distinctRooms positiveNights,
      constraints.x_iff_lookup distinctIds distinctRooms⟩

/-- The greedy plan for one stay and one room is a point of the model. -/
theorem greedy_refines_cpModel_sample :
    CpConstraints [sampleLongStay] [sampleRoom] (fun _ => ∅) (0, 3)
      (pointOfPlan [sampleLongStay] [sampleRoom] (fun _ => ∅) (0, 3)
        (runAllocationGreedy [sampleRoom] {} {} (fun _ => ∅) [sampleLongStay]).assignments) :=
  (greedy_refines_cpModel [sampleLongStay] [sampleRoom] {} {} (fun _ => ∅)
    (0, 3) (by decide) (by decide) (by decide)).1 (by decide)

end HotelPms.Allocation
