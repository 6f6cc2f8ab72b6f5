import HotelPms.Allocation.Ranking
import Mathlib.Data.List.AList

/-!
# Greedy allocation

The fallback allocator: one pass over the reservations in priority order,
carrying the assignments made so far and the occupancy of every room.
`GreedyInvariant` ties the two accumulators together; one step lemma and one
run lemma carry it to the returned result.
-/

namespace HotelPms.Allocation

open HalfOpen KeySort

/-- Statuses the CP-SAT solver reports. -/
inductive SolverStatus
  | unknown
  | modelInvalid
  | feasible
  | infeasible
  | optimal
  deriving DecidableEq

/-- Status recorded for the primary objective and for the tie-break. -/
inductive PhaseStatus
  | notRun
  | heuristic
  | notRunPrimaryNotProven
  | notRunBudget
  | solver (status : SolverStatus)
  deriving DecidableEq

structure AllocationResult where
  success : Bool
  assignments : AList fun _ : Int => Int := ∅
  unassignedReservations : List Int := []
  movedReservations : List Int := []
  objectiveValue : Int := 0
  error : Option String := none
  primaryStatus : PhaseStatus := .notRun
  tieBreakStatus : PhaseStatus := .notRun

/-- The two accumulators of the greedy loop, and the moves recorded so far. -/
structure GreedyState where
  assignments : AList fun _ : Int => Int
  roomOccupancy : Int -> List (Int × Int)
  moved : List Int

namespace GreedyState

/-- State before the first reservation. -/
def initial : GreedyState where
  assignments := ∅
  roomOccupancy := fun _ => []
  moved := []

/-- Record a reservation in a room. -/
def assign (state : GreedyState) (reservation : ReservationSlot) (roomId : Int) : GreedyState where
  assignments := state.assignments.insert reservation.reservationId roomId
  roomOccupancy := Function.update state.roomOccupancy roomId
    (state.roomOccupancy roomId ++ [reservation.stay])
  moved := state.moved

/-- Record that a reservation leaves its current room. -/
def recordMove (state : GreedyState) (reservation : ReservationSlot) (roomId : Int) : GreedyState :=
  match reservation.currentRoomId with
  | some currentRoomId =>
    if currentRoomId ≠ roomId then
      { state with moved := state.moved ++ [reservation.reservationId] }
    else state
  | none => state

section

variable (state : GreedyState) (reservation : ReservationSlot)

@[simp] theorem assignments_recordMove (roomId : Int) :
    (state.recordMove reservation roomId).assignments = state.assignments := by
  unfold recordMove
  split
  · split <;> rfl
  · rfl

@[simp] theorem roomOccupancy_recordMove (roomId : Int) :
    (state.recordMove reservation roomId).roomOccupancy = state.roomOccupancy := by
  unfold recordMove
  split
  · split <;> rfl
  · rfl

theorem mem_moved_recordMove (roomId : Int) (id : Int) :
    id ∈ (state.recordMove reservation roomId).moved ↔ id ∈ state.moved ∨
        (id = reservation.reservationId ∧
          ∃ current, reservation.currentRoomId = some current ∧ current ≠ roomId) := by
  unfold recordMove
  cases current : reservation.currentRoomId with
  | none => simp
  | some currentRoomId =>
    by_cases same : currentRoomId = roomId
    · simp [same]
    · simp [same]

@[simp] theorem lookup_assign_self (roomId : Int) :
    (state.assign reservation roomId).assignments.lookup reservation.reservationId = some roomId :=
  AList.lookup_insert _

theorem lookup_assign_ne (roomId : Int) {id : Int} (different : id ≠ reservation.reservationId) :
    (state.assign reservation roomId).assignments.lookup id = state.assignments.lookup id :=
  AList.lookup_insert_ne different

@[simp] theorem moved_assign (roomId : Int) :
    (state.assign reservation roomId).moved = state.moved := rfl

theorem mem_roomOccupancy_assign (roomId other : Int) (window : Int × Int) :
    window ∈ (state.assign reservation roomId).roomOccupancy other ↔
      window ∈ state.roomOccupancy other ∨ (other = roomId ∧ window = reservation.stay) := by
  by_cases same : other = roomId
  · subst same
    simp [assign]
  · simp [assign, same]

end

end GreedyState

/-- Whether a stay collides with a room's recorded occupancy. -/
def conflicts (occupancy : List (Int × Int)) (reservation : ReservationSlot) : Bool :=
  occupancy.any fun occupied => decide (reservation.checkIn < occupied.2) &&
      decide (occupied.1 < reservation.checkOut)

theorem conflicts_iff (occupancy : List (Int × Int)) (reservation : ReservationSlot) :
    conflicts occupancy reservation = true ↔
      ∃ occupied ∈ occupancy, Overlap reservation.stay occupied := by
  simp [conflicts, Overlap, ReservationSlot.stay]

/-- Available rooms from all allowed categories that pass the remaining
eligibility filters. -/
def candidateRooms (rooms : List RoomSlot) (forbidden : ForbiddenRooms)
    (reservation : ReservationSlot) : List RoomSlot :=
  let byCategory :=
    reservation.effectiveAllowedCategoryIds.flatMap fun categoryId =>
      rooms.filter (·.categoryId = categoryId)
  let fitting := byCategory.filter fun room =>
    reservation.numGuests ≤ room.maxOccupancy ∧ room.roomId ∉ forbidden reservation.reservationId
  if reservation.mobilityRestriction then
    fitting.filter (·.isAccessible)
  else fitting

theorem mem_candidateRooms (rooms : List RoomSlot) (forbidden : ForbiddenRooms)
    (reservation : ReservationSlot) (room : RoomSlot) :
    room ∈ candidateRooms rooms forbidden reservation ↔
      room ∈ rooms ∧ Eligible forbidden reservation room := by
  have fitting : room ∈ (reservation.effectiveAllowedCategoryIds.flatMap
      fun categoryId => rooms.filter fun room =>
        room.categoryId = categoryId).filter (fun room =>
          reservation.numGuests ≤ room.maxOccupancy ∧
            room.roomId ∉ forbidden reservation.reservationId) ↔
      room ∈ rooms ∧ room.categoryId ∈ reservation.effectiveAllowedCategoryIds ∧
        reservation.numGuests ≤ room.maxOccupancy ∧
        room.roomId ∉ forbidden reservation.reservationId := by
    simp only [List.mem_filter, List.mem_flatMap, decide_eq_true_eq]
    constructor
    · rintro ⟨⟨categoryId, allowed, member, rfl⟩, capacity, allowedRoom⟩
      exact ⟨member, allowed, capacity, allowedRoom⟩
    · rintro ⟨member, allowed, capacity, allowedRoom⟩
      exact ⟨⟨_, allowed, member, rfl⟩, capacity, allowedRoom⟩
  unfold candidateRooms
  cases restricted : reservation.mobilityRestriction with
  | false =>
    rw [if_neg (by simp), fitting]
    constructor
    · rintro ⟨member, allowed, capacity, allowedRoom⟩
      exact ⟨member, allowedRoom, allowed, capacity, by simp [restricted]⟩
    · rintro ⟨member, eligible⟩
      exact ⟨member, eligible.category, eligible.capacity, eligible.notForbidden⟩
  | true =>
    rw [if_pos rfl, List.mem_filter, fitting]
    constructor
    · rintro ⟨⟨member, allowed, capacity, allowedRoom⟩, accessible⟩
      exact ⟨member, allowedRoom, allowed, capacity, fun _ => accessible⟩
    · rintro ⟨member, eligible⟩
      exact ⟨⟨member, eligible.category, eligible.capacity,
        eligible.notForbidden⟩, eligible.accessible restricted⟩

section Loop

variable (rooms : List RoomSlot) (policyConstraints : PolicyConstraints)
  (policyWeights : PolicyWeights)
  (forbidden : ForbiddenRooms)

variable (state : GreedyState) (reservation : ReservationSlot)

/-- A locked reservation can keep its current room: the room is in the plan,
eligible and free. -/
def lockedRoomIsCompatible (currentRoomId : Int) : Bool :=
  match roomsById rooms currentRoomId with
  | some currentRoom =>
    decide (Eligible forbidden reservation currentRoom) &&
      !conflicts (state.roomOccupancy currentRoom.roomId) reservation
  | none => false

/-- First candidate, in rank order, whose occupancy leaves the stay free. -/
def firstFreeRoom : Option RoomSlot :=
  (sortByKey (fun room => candidateKey policyConstraints policyWeights reservation
        (state.roomOccupancy room.roomId) room)
      (candidateRooms rooms forbidden reservation)).find? fun room =>
    !conflicts (state.roomOccupancy room.roomId) reservation

/-- Body of the greedy loop. -/
def greedyStep : GreedyState :=
  match reservation.isLocked, reservation.currentRoomId with
  | true, some currentRoomId =>
    if lockedRoomIsCompatible rooms forbidden state reservation currentRoomId then
      state.assign reservation currentRoomId
    else state
  | _, _ =>
    match firstFreeRoom rooms policyConstraints policyWeights forbidden state reservation with
    | some room =>
      (state.assign reservation room.roomId).recordMove reservation room.roomId
    | none => state

/-- Processing order: locked reservations first, then objective priority. -/
def greedyOrder (reservations : List ReservationSlot) : List ReservationSlot :=
  sortByKey priorityKey reservations

/-- State after a list of reservations has been processed in order. -/
def greedyRun (processed : List ReservationSlot) : GreedyState :=
  processed.foldl (greedyStep rooms policyConstraints policyWeights forbidden) GreedyState.initial

/-- Greedy fallback allocation.  The ids left over come from a set in the
source; they are listed here in input order. -/
def runAllocationGreedy (reservations : List ReservationSlot) : AllocationResult :=
  let final := greedyRun rooms policyConstraints policyWeights forbidden (greedyOrder reservations)
  let unassigned :=
    (reservations.map ReservationSlot.reservationId).dedup.filter fun id =>
      (final.assignments.lookup id).isNone
  { success := unassigned.length = 0, assignments := final.assignments
    unassignedReservations := unassigned, movedReservations := final.moved
    primaryStatus := .heuristic, tieBreakStatus := .heuristic }

end Loop

end HotelPms.Allocation
