import HotelPms.Allocation.Greedy

/-!
# Soundness and maximality of greedy allocation

The loop is analysed through `greedyChoice`, the room one reservation takes in
a given state.  `GreedyInvariant` relates the accumulators to the reservations
processed so far; it holds initially, is kept by every step, and therefore
holds of the state the result is read from.
-/

namespace HotelPms.Allocation

open HalfOpen KeySort

section Choice

variable {rooms : List RoomSlot} {policyConstraints : PolicyConstraints}
  {policyWeights : PolicyWeights}
  {forbidden : ForbiddenRooms}

/-- Room the loop gives a reservation in the present state, if any. -/
def greedyChoice (rooms : List RoomSlot) (policyConstraints : PolicyConstraints)
    (policyWeights : PolicyWeights) (forbidden : ForbiddenRooms)
    (state : GreedyState) (reservation : ReservationSlot) : Option Int :=
  match reservation.isLocked, reservation.currentRoomId with
  | true, some currentRoomId =>
    if lockedRoomIsCompatible rooms forbidden state reservation currentRoomId then
      some currentRoomId
    else none
  | _, _ =>
    (firstFreeRoom rooms policyConstraints policyWeights forbidden state
      reservation).map RoomSlot.roomId

theorem greedyStep_eq_choice (state : GreedyState) (reservation : ReservationSlot) :
    greedyStep rooms policyConstraints policyWeights forbidden state reservation =
      match greedyChoice rooms policyConstraints policyWeights forbidden state reservation with
      | some roomId =>
        (state.assign reservation roomId).recordMove reservation roomId
      | none => state := by
  unfold greedyStep greedyChoice
  cases locked : reservation.isLocked with
  | false =>
    cases firstFreeRoom rooms policyConstraints policyWeights forbidden state reservation <;> rfl
  | true =>
    cases current : reservation.currentRoomId with
    | none =>
      cases firstFreeRoom rooms policyConstraints policyWeights forbidden state reservation <;> rfl
    | some currentRoomId =>
      by_cases compatible : lockedRoomIsCompatible rooms forbidden state
        reservation currentRoomId = true
      · simp [compatible, GreedyState.recordMove, current]
      · simp [compatible]

theorem lockedRoomIsCompatible_iff
    (distinctRooms : (rooms.map RoomSlot.roomId).Nodup) (state : GreedyState)
    (reservation : ReservationSlot) (currentRoomId : Int) :
    lockedRoomIsCompatible rooms forbidden state reservation currentRoomId = true ↔
      ∃ room ∈ rooms, room.roomId = currentRoomId ∧ Eligible forbidden reservation room ∧
        conflicts (state.roomOccupancy currentRoomId) reservation = false := by
  unfold lockedRoomIsCompatible
  cases found : roomsById rooms currentRoomId with
  | none =>
    simp only [Bool.false_eq_true, false_iff]
    rintro ⟨room, member, rfl, _⟩
    rw [roomsById_eq_some_of_mem distinctRooms member] at found
    cases found
  | some currentRoom =>
    obtain ⟨member, rfl⟩ := roomsById_eq_some found
    simp only [Bool.and_eq_true, decide_eq_true_eq, Bool.not_eq_true']
    constructor
    · rintro ⟨eligible, free⟩
      exact ⟨currentRoom, member, rfl, eligible, free⟩
    · rintro ⟨room, roomIn, sameId, eligible, free⟩
      rw [room_eq_of_roomId_eq distinctRooms roomIn member sameId] at eligible
      exact ⟨eligible, free⟩

variable {state : GreedyState} {reservation : ReservationSlot}

variable {room : RoomSlot}

theorem firstFreeRoom_eq_some
    (chosen : firstFreeRoom rooms policyConstraints policyWeights forbidden
      state reservation = some room) :
    room ∈ rooms ∧ Eligible forbidden reservation room ∧
      conflicts (state.roomOccupancy room.roomId) reservation = false := by
  have candidate := (mem_sortByKey _ _).mp (List.mem_of_find?_eq_some chosen)
  obtain ⟨member, eligible⟩ := (mem_candidateRooms rooms forbidden reservation room).mp candidate
  exact ⟨member, eligible, by simpa using List.find?_some chosen⟩

theorem firstFreeRoom_eq_none (none_free : firstFreeRoom rooms policyConstraints policyWeights
      forbidden state reservation = none)
    (member : room ∈ rooms)
    (eligible : Eligible forbidden reservation room) :
    conflicts (state.roomOccupancy room.roomId) reservation = true := by
  have candidate :=
    (mem_candidateRooms rooms forbidden reservation room).mpr ⟨member, eligible⟩
  have occupied := List.find?_eq_none.mp none_free room ((mem_sortByKey _ _).mpr candidate)
  simpa using occupied

theorem greedyChoice_eq_some (distinctRooms : (rooms.map RoomSlot.roomId).Nodup) {roomId : Int}
    (chosen : greedyChoice rooms policyConstraints policyWeights forbidden
      state reservation = some roomId) :
    (∃ room ∈ rooms, room.roomId = roomId ∧ Eligible forbidden reservation room) ∧
      conflicts (state.roomOccupancy roomId) reservation = false ∧
      (reservation.isLocked = true -> ∀ current,
        reservation.currentRoomId = some current -> current = roomId) := by
  have fromFree (room : RoomSlot)
      (free : firstFreeRoom rooms policyConstraints policyWeights forbidden
        state reservation = some room) :
      (∃ other ∈ rooms, other.roomId = room.roomId ∧ Eligible forbidden reservation other) ∧
        conflicts (state.roomOccupancy room.roomId) reservation = false := by
    obtain ⟨member, eligible, apart⟩ := firstFreeRoom_eq_some free
    exact ⟨⟨room, member, rfl, eligible⟩, apart⟩
  unfold greedyChoice at chosen
  cases locked : reservation.isLocked with
  | false =>
    simp only [locked, Option.map_eq_some_iff] at chosen
    obtain ⟨room, free, rfl⟩ := chosen
    exact ⟨(fromFree room free).1, (fromFree room free).2, by simp⟩
  | true =>
    cases current : reservation.currentRoomId with
    | none =>
      simp only [locked, current, Option.map_eq_some_iff] at chosen
      obtain ⟨room, free, rfl⟩ := chosen
      exact ⟨(fromFree room free).1, (fromFree room free).2, by simp⟩
    | some currentRoomId =>
      simp only [locked, current] at chosen
      split at chosen
      · next compatible =>
        cases chosen
        obtain ⟨room, member, sameId, eligible, free⟩ :=
          (lockedRoomIsCompatible_iff distinctRooms state reservation roomId).mp compatible
        exact ⟨⟨room, member, sameId, eligible⟩, free, by simp⟩
      · cases chosen

theorem greedyChoice_eq_none (skipped : greedyChoice rooms policyConstraints policyWeights forbidden
      state reservation = none)
    (unlocked : ¬(reservation.isLocked = true ∧ reservation.currentRoomId ≠ none))
    (member : room ∈ rooms)
    (eligible : Eligible forbidden reservation room) :
    conflicts (state.roomOccupancy room.roomId) reservation = true := by
  unfold greedyChoice at skipped
  cases locked : reservation.isLocked with
  | false =>
    simp only [locked, Option.map_eq_none_iff] at skipped
    exact firstFreeRoom_eq_none skipped member eligible
  | true =>
    cases current : reservation.currentRoomId with
    | none =>
      simp only [locked, current, Option.map_eq_none_iff] at skipped
      exact firstFreeRoom_eq_none skipped member eligible
    | some currentRoomId => exact absurd ⟨locked, by simp [current]⟩ unlocked

theorem greedyChoice_locked (distinctRooms : (rooms.map RoomSlot.roomId).Nodup)
    (locked : reservation.isLocked = true)
    (member : room ∈ rooms)
    (current : reservation.currentRoomId = some room.roomId)
    (eligible : Eligible forbidden reservation room)
    (free : conflicts (state.roomOccupancy room.roomId) reservation = false) :
    greedyChoice rooms policyConstraints policyWeights forbidden state
      reservation = some room.roomId := by
  have compatible : lockedRoomIsCompatible rooms forbidden state reservation room.roomId = true :=
    (lockedRoomIsCompatible_iff distinctRooms state reservation
      room.roomId).mpr ⟨room, member, rfl, eligible, free⟩
  simp [greedyChoice, locked, current, compatible]

end Choice

/-! ## The loop invariant -/

/-- Relation between the accumulators and the reservations processed so
far. -/
structure GreedyInvariant
    (rooms : List RoomSlot)
    (forbidden : ForbiddenRooms)
    (processed : List ReservationSlot)
    (state : GreedyState) : Prop where
  /-- Every assignment gives a processed reservation an eligible room. -/
  assigned : ∀ id roomId, state.assignments.lookup id = some roomId ->
    ∃ reservation ∈ processed, reservation.reservationId = id ∧
      ∃ room ∈ rooms, room.roomId = roomId ∧ Eligible forbidden reservation room
  /-- A room is occupied by exactly the stays assigned to it. -/
  occupied : ∀ roomId window, window ∈ state.roomOccupancy roomId ↔ ∃ reservation ∈ processed,
      state.assignments.lookup reservation.reservationId = some roomId ∧ reservation.stay = window
  /-- Stays assigned to one room do not overlap. -/
  exclusive : Exclusive (state.assignments.lookup ·.reservationId) ReservationSlot.stay
    {reservation | reservation ∈ processed}
  /-- The recorded moves are the reservations placed away from their room. -/
  moved : ∀ id, id ∈ state.moved ↔ ∃ reservation ∈ processed, reservation.reservationId = id ∧
      ∃ current roomId, reservation.currentRoomId = some current ∧
        state.assignments.lookup id = some roomId ∧ current ≠ roomId
  /-- A reservation left out finds every eligible room taken. -/
  maximal : ∀ reservation ∈ processed, state.assignments.lookup reservation.reservationId = none ->
    ¬(reservation.isLocked = true ∧ reservation.currentRoomId ≠ none) ->
    ∀ room ∈ rooms, Eligible forbidden reservation room ->
      conflicts (state.roomOccupancy room.roomId) reservation = true

namespace GreedyInvariant

variable {rooms : List RoomSlot} {policyConstraints : PolicyConstraints}
  {policyWeights : PolicyWeights}
  {forbidden : ForbiddenRooms}
  {processed : List ReservationSlot}
  {state : GreedyState}
  {reservation : ReservationSlot}

theorem initial : GreedyInvariant rooms forbidden [] GreedyState.initial where
  assigned := by simp [GreedyState.initial]
  occupied := by simp [GreedyState.initial]
  exclusive := by simp [Exclusive]
  moved := by simp [GreedyState.initial]
  maximal := by simp

theorem lookup_fresh (invariant : GreedyInvariant rooms forbidden processed state) {id : Int}
    (fresh : id ∉ processed.map ReservationSlot.reservationId) :
    state.assignments.lookup id = none := by
  cases found : state.assignments.lookup id with
  | none => rfl
  | some roomId =>
    obtain ⟨other, otherIn, sameId, _⟩ := invariant.assigned id roomId found
    exact absurd (List.mem_map.mpr ⟨other, otherIn, sameId⟩) fresh

section

variable (fresh : reservation.reservationId ∉ processed.map ReservationSlot.reservationId)
  (invariant : GreedyInvariant rooms forbidden processed state)
include fresh invariant

theorem skip (full : ¬(reservation.isLocked = true ∧ reservation.currentRoomId ≠ none) ->
      ∀ room ∈ rooms, Eligible forbidden reservation room ->
        conflicts (state.roomOccupancy room.roomId) reservation = true) :
    GreedyInvariant rooms forbidden (processed ++ [reservation]) state := by
  have unassigned := invariant.lookup_fresh fresh
  refine { assigned := ?_, occupied := ?_, exclusive := ?_, moved := ?_, maximal := ?_ }
  · intro id roomId found
    obtain ⟨other, otherIn, rest⟩ := invariant.assigned id roomId found
    exact ⟨other, List.mem_append_left _ otherIn, rest⟩
  · intro roomId window
    rw [invariant.occupied roomId window]
    simp [or_and_right, exists_or, unassigned]
  · refine invariant.exclusive.of_changed {reservation} ?_ ?_ ?_ ?_
    · intro item itemIn other
      simp only [Set.mem_ofPred_eq, List.mem_append, List.mem_singleton] at itemIn
      exact itemIn.resolve_right other
    · intro item _ _ held holds
      exact holds
    · intro item _ _ other overlap
      exact overlap
    · rintro item _ rfl other _ _ held holds
      rw [unassigned] at holds
      cases holds
  · intro id
    rw [invariant.moved id]
    constructor
    · rintro ⟨other, otherIn, rest⟩
      exact ⟨other, List.mem_append_left _ otherIn, rest⟩
    · rintro ⟨other, otherIn, rfl, current, roomId, holds, found, away⟩
      rcases List.mem_append.mp otherIn with otherIn | otherIn
      · exact ⟨other, otherIn, rfl, current, roomId, holds, found, away⟩
      · rw [List.mem_singleton.mp otherIn, unassigned] at found
        cases found
  · intro other otherIn left unlocked
    rcases List.mem_append.mp otherIn with otherIn | otherIn
    · exact invariant.maximal other otherIn left unlocked
    · rw [List.mem_singleton.mp otherIn] at unlocked ⊢
      exact full unlocked

omit invariant in
theorem lookup_assign_processed
    {other : ReservationSlot} (otherIn : other ∈ processed) (roomId : Int) :
    (state.assign reservation roomId).assignments.lookup other.reservationId =
      state.assignments.lookup other.reservationId := by
  refine state.lookup_assign_ne reservation roomId fun same => fresh ?_
  exact List.mem_map.mpr ⟨other, otherIn, same⟩

variable {roomId : Int}

omit fresh in
theorem place_assigned
    (eligible : ∃ room ∈ rooms, room.roomId = roomId ∧ Eligible forbidden reservation room)
    (id assignedRoom : Int)
    (found : (state.assign reservation roomId).assignments.lookup id = some assignedRoom) :
    ∃ other ∈ processed ++ [reservation], other.reservationId = id ∧
      ∃ room ∈ rooms, room.roomId = assignedRoom ∧ Eligible forbidden other room := by
  by_cases same : id = reservation.reservationId
  · rw [same, GreedyState.lookup_assign_self] at found
    cases found
    exact ⟨reservation, by simp, same.symm, eligible⟩
  · rw [state.lookup_assign_ne reservation roomId same] at found
    obtain ⟨other, otherIn, rest⟩ := invariant.assigned id assignedRoom found
    exact ⟨other, List.mem_append_left _ otherIn, rest⟩

theorem place_occupied (roomId other : Int) (window : Int × Int) :
    window ∈ (state.assign reservation roomId).roomOccupancy other ↔
      ∃ earlier ∈ processed ++ [reservation], (state.assign reservation roomId).assignments.lookup
            earlier.reservationId = some other ∧ earlier.stay = window := by
  rw [GreedyState.mem_roomOccupancy_assign, invariant.occupied other window]
  constructor
  · rintro (⟨earlier, earlierIn, holds, rfl⟩ | ⟨rfl, rfl⟩)
    · exact ⟨earlier, List.mem_append_left _ earlierIn,
        (lookup_assign_processed fresh earlierIn roomId).trans holds, rfl⟩
    · exact ⟨reservation, by simp, GreedyState.lookup_assign_self state reservation other, rfl⟩
  · rintro ⟨earlier, earlierIn, holds, rfl⟩
    rcases List.mem_append.mp earlierIn with earlierIn | earlierIn
    · rw [lookup_assign_processed fresh earlierIn] at holds
      exact Or.inl ⟨earlier, earlierIn, holds, rfl⟩
    · rw [List.mem_singleton.mp earlierIn, GreedyState.lookup_assign_self] at holds
      cases holds
      exact Or.inr ⟨rfl, by rw [List.mem_singleton.mp earlierIn]⟩

theorem place_exclusive (free : conflicts (state.roomOccupancy roomId) reservation = false) :
    Exclusive (fun other => (state.assign reservation roomId).assignments.lookup
        other.reservationId)
      ReservationSlot.stay {other | other ∈ processed ++ [reservation]} := by
  refine invariant.exclusive.of_changed {reservation} ?_ ?_ ?_ ?_
  · intro item itemIn other
    simp only [Set.mem_ofPred_eq, List.mem_append, List.mem_singleton] at itemIn
    exact itemIn.resolve_right other
  · intro item itemIn other held holds
    simp only [Set.mem_ofPred_eq, List.mem_append, List.mem_singleton] at itemIn
    rw [lookup_assign_processed fresh (itemIn.resolve_right other)] at holds
    exact holds
  · intro item _ _ other overlap
    exact overlap
  · rintro item _ rfl other otherIn different held holds otherHolds overlap
    simp only [Set.mem_ofPred_eq, List.mem_append, List.mem_singleton] at otherIn
    have otherProcessed : other ∈ processed :=
      otherIn.resolve_right different.symm
    rw [GreedyState.lookup_assign_self] at holds
    cases holds
    rw [lookup_assign_processed fresh otherProcessed] at otherHolds
    have occupies := (invariant.occupied roomId other.stay).mpr
      ⟨other, otherProcessed, otherHolds, rfl⟩
    have taken := (conflicts_iff _ item).mpr ⟨other.stay, occupies, overlap⟩
    rw [free] at taken
    cases taken

theorem place_moved (roomId id : Int) :
    id ∈ ((state.assign reservation roomId).recordMove reservation roomId).moved ↔
      ∃ other ∈ processed ++ [reservation], other.reservationId = id ∧
        ∃ current held, other.currentRoomId = some current ∧
          (state.assign reservation roomId).assignments.lookup id = some held ∧ current ≠ held := by
  rw [GreedyState.mem_moved_recordMove, GreedyState.moved_assign, invariant.moved id]
  constructor
  · rintro (⟨earlier, earlierIn, rfl, current, held, holds, found, away⟩ |
      ⟨rfl, current, holds, away⟩)
    · exact ⟨earlier, List.mem_append_left _ earlierIn, rfl, current, held,
        holds, (lookup_assign_processed fresh earlierIn roomId).trans found,
        away⟩
    · exact ⟨reservation, by simp, rfl, current, roomId, holds,
        GreedyState.lookup_assign_self state reservation roomId, away⟩
  · rintro ⟨earlier, earlierIn, rfl, current, held, holds, found, away⟩
    rcases List.mem_append.mp earlierIn with earlierIn | earlierIn
    · rw [lookup_assign_processed fresh earlierIn] at found
      exact Or.inl ⟨earlier, earlierIn, rfl, current, held, holds, found, away⟩
    · rw [List.mem_singleton.mp earlierIn] at holds found ⊢
      rw [GreedyState.lookup_assign_self] at found
      cases found
      exact Or.inr ⟨rfl, current, holds, away⟩

theorem place_maximal (roomId : Int) (other : ReservationSlot)
    (otherIn : other ∈ processed ++ [reservation])
    (left : (state.assign reservation roomId).assignments.lookup other.reservationId = none)
    (unlocked : ¬(other.isLocked = true ∧ other.currentRoomId ≠ none))
    (room : RoomSlot) (member : room ∈ rooms)
    (eligible : Eligible forbidden other room) :
    conflicts ((state.assign reservation roomId).roomOccupancy room.roomId) other = true := by
  rcases List.mem_append.mp otherIn with otherIn | otherIn
  · rw [lookup_assign_processed fresh otherIn] at left
    obtain ⟨window, occupies, overlap⟩ := (conflicts_iff _ other).mp
      (invariant.maximal other otherIn left unlocked room member eligible)
    refine (conflicts_iff _ other).mpr ⟨window, ?_, overlap⟩
    exact (GreedyState.mem_roomOccupancy_assign state reservation roomId
      room.roomId window).mpr (Or.inl occupies)
  · rw [List.mem_singleton.mp otherIn, GreedyState.lookup_assign_self] at left
    cases left

theorem place
    (eligible : ∃ room ∈ rooms, room.roomId = roomId ∧ Eligible forbidden reservation room)
    (free : conflicts (state.roomOccupancy roomId) reservation = false) :
    GreedyInvariant rooms forbidden (processed ++ [reservation])
      ((state.assign reservation roomId).recordMove reservation roomId) := by
  refine { assigned := ?_, occupied := ?_, exclusive := ?_, moved := ?_, maximal := ?_ }
  · simp only [GreedyState.assignments_recordMove]
    exact invariant.place_assigned eligible
  · simp only [GreedyState.assignments_recordMove, GreedyState.roomOccupancy_recordMove]
    exact invariant.place_occupied fresh roomId
  · simp only [GreedyState.assignments_recordMove]
    exact invariant.place_exclusive fresh free
  · simp only [GreedyState.assignments_recordMove]
    exact invariant.place_moved fresh roomId
  · simp only [GreedyState.assignments_recordMove, GreedyState.roomOccupancy_recordMove]
    exact invariant.place_maximal fresh roomId

theorem step (distinctRooms : (rooms.map RoomSlot.roomId).Nodup) :
    GreedyInvariant rooms forbidden (processed ++ [reservation])
      (greedyStep rooms policyConstraints policyWeights forbidden state reservation) := by
  rw [greedyStep_eq_choice]
  cases chosen : greedyChoice rooms policyConstraints policyWeights forbidden state reservation with
  | none =>
    exact invariant.skip fresh fun unlocked room member eligible =>
      greedyChoice_eq_none chosen unlocked member eligible
  | some roomId =>
    obtain ⟨eligible, free, _⟩ := greedyChoice_eq_some distinctRooms chosen
    exact invariant.place fresh eligible free

end

end GreedyInvariant

section Run

variable {rooms : List RoomSlot} {policyConstraints : PolicyConstraints}
  {policyWeights : PolicyWeights}
  {forbidden : ForbiddenRooms}

theorem greedyRun_append_singleton (processed : List ReservationSlot)
    (reservation : ReservationSlot) :
    greedyRun rooms policyConstraints policyWeights forbidden (processed ++ [reservation]) =
      greedyStep rooms policyConstraints policyWeights forbidden
        (greedyRun rooms policyConstraints policyWeights forbidden processed)
        reservation := by
  simp [greedyRun, List.foldl_append]

theorem greedyRun_invariant (distinctRooms : (rooms.map RoomSlot.roomId).Nodup)
    (processed : List ReservationSlot)
    (distinctIds : (processed.map ReservationSlot.reservationId).Nodup) :
    GreedyInvariant rooms forbidden processed
      (greedyRun rooms policyConstraints policyWeights forbidden processed) := by
  induction processed using List.reverseRecOn with
  | nil => exact GreedyInvariant.initial
  | append_singleton processed reservation ih =>
    rw [List.map_append, List.map_singleton,
      ← List.concat_eq_append, List.nodup_concat] at distinctIds
    rw [greedyRun_append_singleton]
    exact (ih distinctIds.2).step distinctIds.1 distinctRooms

/-- The invariant read off the state the result is built from. -/
theorem runAllocationGreedy_invariant (distinctRooms : (rooms.map RoomSlot.roomId).Nodup)
    {reservations : List ReservationSlot}
    (distinctIds : (reservations.map ReservationSlot.reservationId).Nodup) :
    GreedyInvariant rooms forbidden (greedyOrder reservations)
      (greedyRun rooms policyConstraints policyWeights forbidden (greedyOrder reservations)) :=
  greedyRun_invariant distinctRooms _ (nodup_map_sortByKey priorityKey reservations distinctIds)

theorem mem_unassignedReservations (reservations : List ReservationSlot) (id : Int) :
    id ∈ (runAllocationGreedy rooms policyConstraints policyWeights forbidden
        reservations).unassignedReservations ↔
      id ∈ reservations.map ReservationSlot.reservationId ∧
        (runAllocationGreedy rooms policyConstraints policyWeights forbidden
          reservations).assignments.lookup id = none := by
  simp [runAllocationGreedy]

theorem runAllocationGreedy_success_iff (reservations : List ReservationSlot) :
    (runAllocationGreedy rooms policyConstraints policyWeights forbidden
        reservations).success = true ↔
      (runAllocationGreedy rooms policyConstraints policyWeights forbidden
        reservations).unassignedReservations = [] := by
  simp [runAllocationGreedy]

end Run

/-- Greedy allocation is sound and maximal: assigned rooms are eligible and
never shared by overlapping stays, the reported lists are exact, and a
reservation outside the locked branch is left out only when every eligible
room is taken by an overlapping stay of the result. -/
theorem runAllocationGreedy_sound_maximal (reservations : List ReservationSlot)
    (rooms : List RoomSlot)
    (policyConstraints : PolicyConstraints)
    (policyWeights : PolicyWeights)
    (forbidden : ForbiddenRooms)
    (distinctIds : (reservations.map ReservationSlot.reservationId).Nodup)
    (distinctRooms : (rooms.map RoomSlot.roomId).Nodup)
    (positiveNights : ∀ reservation ∈ reservations, 0 < reservation.nights) :
    let result := runAllocationGreedy rooms policyConstraints policyWeights forbidden reservations
    (∀ id roomId, result.assignments.lookup id = some roomId ->
      ∃ reservation ∈ reservations, reservation.reservationId = id ∧
        ∃ room ∈ rooms, room.roomId = roomId ∧
          room.categoryId ∈ reservation.effectiveAllowedCategoryIds ∧
          reservation.numGuests ≤ room.maxOccupancy ∧
          (reservation.mobilityRestriction = true -> room.isAccessible = true) ∧
          room.roomId ∉ forbidden reservation.reservationId) ∧
    (∀ first ∈ reservations, ∀ second ∈ reservations, first ≠ second -> ∀ roomId,
        result.assignments.lookup first.reservationId = some roomId ->
        result.assignments.lookup second.reservationId = some roomId ->
        Disjoint first.dateRange second.dateRange) ∧
    ((∀ id, id ∈ result.unassignedReservations ↔
        id ∈ reservations.map ReservationSlot.reservationId ∧ result.assignments.lookup id = none) ∧
      (result.success = true ↔ result.unassignedReservations = []) ∧
      (∀ id, id ∈ result.movedReservations ↔
        ∃ reservation ∈ reservations, reservation.reservationId = id ∧
          ∃ current roomId, reservation.currentRoomId = some current ∧
            result.assignments.lookup id = some roomId ∧
            current ≠ roomId)) ∧
    (∀ reservation ∈ reservations, reservation.reservationId ∈ result.unassignedReservations ->
      ¬(reservation.isLocked = true ∧ reservation.currentRoomId ≠ none) ->
      ∀ room ∈ rooms, Eligible forbidden reservation room -> ∃ other ∈ reservations,
          result.assignments.lookup other.reservationId = some room.roomId ∧
            ¬Disjoint other.dateRange reservation.dateRange) := by
  intro result
  have invariant : GreedyInvariant rooms forbidden (greedyOrder reservations)
      (greedyRun rooms policyConstraints policyWeights forbidden (greedyOrder reservations)) :=
    runAllocationGreedy_invariant distinctRooms distinctIds
  have inOrder (reservation : ReservationSlot) :
      reservation ∈ greedyOrder reservations ↔ reservation ∈ reservations :=
    mem_sortByKey priorityKey reservations
  refine ⟨?eligible, ?exclusive, ⟨?unassigned, ?success, ?moved⟩, ?maximal⟩
  case eligible =>
    intro id roomId found
    obtain ⟨reservation, member, sameId, room, roomIn, sameRoom, eligible⟩ :=
      invariant.assigned id roomId found
    exact ⟨reservation, (inOrder reservation).mp member, sameId, room, roomIn,
      sameRoom, eligible.category, eligible.capacity, eligible.accessible,
      eligible.notForbidden⟩
  case exclusive =>
    intro first firstIn second secondIn different roomId firstHolds secondHolds
    exact dateRange_disjoint_of_not_overlap
      (invariant.exclusive first ((inOrder first).mpr firstIn) second
        ((inOrder second).mpr secondIn) different roomId firstHolds
        secondHolds)
  case unassigned =>
    exact mem_unassignedReservations reservations
  case success =>
    exact runAllocationGreedy_success_iff reservations
  case moved =>
    intro id
    rw [show result.movedReservations = (greedyRun rooms policyConstraints policyWeights forbidden
      (greedyOrder reservations)).moved from rfl, invariant.moved id]
    simp only [inOrder]
    rfl
  case maximal =>
    intro reservation member left unlocked room roomIn eligible
    have unassigned := ((mem_unassignedReservations reservations _).mp left).2
    obtain ⟨window, occupies, overlap⟩ := (conflicts_iff _ reservation).mp (invariant.maximal
      reservation ((inOrder reservation).mpr member) unassigned unlocked room roomIn eligible)
    obtain ⟨other, otherIn, holds, rfl⟩ := (invariant.occupied room.roomId window).mp occupies
    have otherMember := (inOrder other).mp otherIn
    refine ⟨other, otherMember, holds, ?_⟩
    exact (overlap_iff_dateRange_not_disjoint (positiveNights other otherMember)
      (positiveNights reservation member)).mp overlap.symm

/-- A three-night stay without a room. -/
def sampleLongStay : ReservationSlot where
  reservationId := 1
  categoryId := 1
  checkIn := 0
  checkOut := 3
  currentRoomId := none
  isLocked := false

def sampleShortStay : ReservationSlot where
  reservationId := 2
  categoryId := 1
  checkIn := 1
  checkOut := 2
  currentRoomId := none
  isLocked := false

/-- A single room of the booked category. -/
def sampleRoom : RoomSlot where
  roomId := 7
  categoryId := 1

/-- With one room the shorter stay is left out, and the longer one is the
overlapping occupant. -/
theorem runAllocationGreedy_sound_maximal_sample : ∃ other ∈ [sampleLongStay, sampleShortStay],
      (runAllocationGreedy [sampleRoom] {} {} (fun _ => ∅)
          [sampleLongStay, sampleShortStay]).assignments.lookup
            other.reservationId = some sampleRoom.roomId ∧
        ¬Disjoint other.dateRange sampleShortStay.dateRange :=
  (runAllocationGreedy_sound_maximal [sampleLongStay, sampleShortStay]
      [sampleRoom] {} {} (fun _ => ∅) (by decide) (by decide)
      (by decide)).2.2.2
    sampleShortStay (by simp) (by decide) (by decide) sampleRoom (by simp)
    (by decide)

end HotelPms.Allocation
