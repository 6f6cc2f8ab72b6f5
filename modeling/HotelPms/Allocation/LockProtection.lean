import HotelPms.Allocation.GreedyInvariant

/-!
# Locked reservations in greedy allocation

A locked reservation is meant to stay in its current room.  The greedy order
ranks locked reservations that have no room yet in the same group, and these
choose freely.  The main result says exactly when every protected reservation
keeps its room: when no locked roomless reservation, at its turn, finds such a
room as its first free candidate for an overlapping stay.
-/

namespace HotelPms.Allocation

open HalfOpen KeySort

/-- A locked reservation whose current room is in the plan, eligible, and not
also held by an overlapping locked reservation. -/
structure ProtectedStay
    (reservations : List ReservationSlot)
    (rooms : List RoomSlot)
    (forbidden : ForbiddenRooms)
    (reservation : ReservationSlot)
    (room : RoomSlot) : Prop where
  member : reservation ∈ reservations
  locked : reservation.isLocked = true
  roomMember : room ∈ rooms
  current : reservation.currentRoomId = some room.roomId
  eligible : Eligible forbidden reservation room
  unshared : ∀ other ∈ reservations, other ≠ reservation -> other.isLocked = true ->
    other.currentRoomId = reservation.currentRoomId ->
    ¬Overlap other.stay reservation.stay

section Protection

variable (reservations : List ReservationSlot) (rooms : List RoomSlot)
  (policyConstraints : PolicyConstraints)
  (policyWeights : PolicyWeights)
  (forbidden : ForbiddenRooms)

/-- Every protected reservation is assigned to its current room. -/
def LocksKept : Prop :=
  ∀ reservation room, ProtectedStay reservations rooms forbidden reservation room ->
      (runAllocationGreedy rooms policyConstraints policyWeights forbidden
          reservations).assignments.lookup reservation.reservationId =
        some room.roomId

/-- No locked reservation without a current room, when its turn comes, has as
first free candidate the current room of a protected reservation that is still
to come and whose stay overlaps its own. -/
def NoLockedRoomTaken : Prop :=
  ∀ before roomless after, greedyOrder reservations = before ++ roomless :: after ->
    roomless.isLocked = true -> roomless.currentRoomId = none ->
    ∀ room, firstFreeRoom rooms policyConstraints policyWeights forbidden
        (greedyRun rooms policyConstraints policyWeights forbidden before)
        roomless = some room ->
      ∀ reservation ∈ after, ProtectedStay reservations rooms forbidden reservation room ->
        ¬Overlap roomless.stay reservation.stay

end Protection

variable {reservations : List ReservationSlot} {rooms : List RoomSlot}
  {policyConstraints : PolicyConstraints}
  {policyWeights : PolicyWeights}
  {forbidden : ForbiddenRooms}

theorem lookup_greedyRun_append (before after : List ReservationSlot) {id : Int}
    (absent : id ∉ after.map ReservationSlot.reservationId) :
    (greedyRun rooms policyConstraints policyWeights forbidden
        (before ++ after)).assignments.lookup id =
      (greedyRun rooms policyConstraints policyWeights forbidden before).assignments.lookup id := by
  induction after using List.reverseRecOn with
  | nil => simp
  | append_singleton after reservation ih =>
    simp only [List.map_append, List.map_cons, List.map_nil,
      List.mem_append, List.mem_singleton, not_or] at absent
    rw [← List.append_assoc, greedyRun_append_singleton, greedyStep_eq_choice]
    cases greedyChoice rooms policyConstraints policyWeights forbidden
        (greedyRun rooms policyConstraints policyWeights forbidden
          (before ++ after)) reservation with
    | none => exact ih absent.1
    | some roomId =>
      rw [GreedyState.assignments_recordMove, GreedyState.lookup_assign_ne _ _ _ absent.2]
      exact ih absent.1

theorem lookup_greedyRun_eq_choice (distinctRooms : (rooms.map RoomSlot.roomId).Nodup)
    (before after : List ReservationSlot) (reservation : ReservationSlot)
    (distinctIds : ((before ++ reservation :: after).map ReservationSlot.reservationId).Nodup) :
    (greedyRun rooms policyConstraints policyWeights forbidden
        (before ++ reservation :: after)).assignments.lookup reservation.reservationId =
      greedyChoice rooms policyConstraints policyWeights forbidden
        (greedyRun rooms policyConstraints policyWeights forbidden before)
        reservation := by
  rw [List.map_append, List.map_cons, List.nodup_append'] at distinctIds
  obtain ⟨beforeDistinct, consDistinct, apart⟩ := distinctIds
  have absentAfter := (List.nodup_cons.mp consDistinct).1
  have absentBefore : reservation.reservationId ∉ before.map ReservationSlot.reservationId :=
    fun earlier => apart earlier (by simp)
  rw [show before ++ reservation :: after = (before ++ [reservation]) ++ after by simp,
    lookup_greedyRun_append _ _ absentAfter, greedyRun_append_singleton, greedyStep_eq_choice]
  cases greedyChoice rooms policyConstraints policyWeights forbidden
      (greedyRun rooms policyConstraints policyWeights forbidden before)
      reservation with
  | none =>
    exact (greedyRun_invariant distinctRooms before beforeDistinct).lookup_fresh absentBefore
  | some roomId =>
    rw [GreedyState.assignments_recordMove, GreedyState.lookup_assign_self]

variable {before after : List ReservationSlot}

theorem isLocked_of_before {reservation earlier : ReservationSlot}
    (order : greedyOrder reservations = before ++ reservation :: after)
    (locked : reservation.isLocked = true) (precedes : earlier ∈ before) :
    earlier.isLocked = true := by
  have sorted := sortByKey_pairwise priorityKey reservations
  rw [show sortByKey priorityKey reservations = before ++ reservation :: after from order] at sorted
  have keyLe : priorityKey earlier ≤ priorityKey reservation :=
    (List.pairwise_append.mp sorted).2.2 earlier precedes reservation (by simp)
  by_contra unlocked
  rw [Bool.not_eq_true] at unlocked
  have keyLt : priorityKey reservation < priorityKey earlier := by
    simp only [priorityKey, locked, unlocked, if_true, Bool.false_eq_true, if_false]
    exact List.cons_lt_cons_iff.mpr (Or.inl (by decide))
  exact absurd keyLe (not_le_of_gt keyLt)

variable {reservation : ReservationSlot}

theorem greedyChoice_roomless {state : GreedyState} (locked : reservation.isLocked = true)
    (roomless : reservation.currentRoomId = none) :
    greedyChoice rooms policyConstraints policyWeights forbidden state reservation =
      (firstFreeRoom rooms policyConstraints policyWeights forbidden state
        reservation).map RoomSlot.roomId := by
  simp [greedyChoice, locked, roomless]

theorem roomless_of_conflict (distinctRooms : (rooms.map RoomSlot.roomId).Nodup) {room : RoomSlot}
    (order : greedyOrder reservations = before ++ reservation :: after)
    (distinctOrder : ((before ++ reservation :: after).map ReservationSlot.reservationId).Nodup)
    (protectedStay : ProtectedStay reservations rooms forbidden reservation room)
    (taken : conflicts ((greedyRun rooms policyConstraints policyWeights forbidden
        before).roomOccupancy room.roomId) reservation = true) :
    ∃ earliest roomless between, before = earliest ++ roomless :: between ∧
        roomless.isLocked = true ∧ roomless.currentRoomId = none ∧
        firstFreeRoom rooms policyConstraints policyWeights forbidden
          (greedyRun rooms policyConstraints policyWeights forbidden
            earliest) roomless = some room ∧
        Overlap roomless.stay reservation.stay := by
  have beforeDistinct : (before.map ReservationSlot.reservationId).Nodup := by
    rw [List.map_append] at distinctOrder
    exact distinctOrder.of_append_left
  have invariant : GreedyInvariant rooms forbidden before
      (greedyRun rooms policyConstraints policyWeights forbidden before) :=
    greedyRun_invariant distinctRooms before beforeDistinct
  obtain ⟨window, occupies, overlap⟩ := (conflicts_iff _ reservation).mp taken
  obtain ⟨holder, holderIn, holds, rfl⟩ := (invariant.occupied room.roomId window).mp occupies
  have holderLocked := isLocked_of_before order protectedStay.locked holderIn
  have holderMember : holder ∈ reservations := by
    refine (mem_sortByKey priorityKey reservations).mp ?_
    rw [show sortByKey priorityKey reservations = before ++ reservation :: after from order]
    exact List.mem_append_left _ holderIn
  have different : holder ≠ reservation := by
    rintro rfl
    rw [List.map_append, List.nodup_append'] at distinctOrder
    exact distinctOrder.2.2 (List.mem_map_of_mem holderIn) (by simp)
  obtain ⟨earliest, between, rfl⟩ := List.append_of_mem holderIn
  rw [lookup_greedyRun_eq_choice distinctRooms earliest between holder beforeDistinct] at holds
  cases current : holder.currentRoomId with
  | some currentRoomId =>
    obtain rfl := (greedyChoice_eq_some distinctRooms holds).2.2 holderLocked currentRoomId current
    exact absurd overlap.symm (protectedStay.unshared holder holderMember
      different holderLocked (current.trans protectedStay.current.symm))
  | none =>
    rw [greedyChoice_roomless holderLocked current, Option.map_eq_some_iff] at holds
    obtain ⟨chosen, free, sameId⟩ := holds
    obtain rfl := room_eq_of_roomId_eq distinctRooms
      (firstFreeRoom_eq_some free).1 protectedStay.roomMember sameId
    exact ⟨earliest, holder, between, rfl, holderLocked, current, free, overlap.symm⟩

/-- The result assigns a reservation what it chooses at its turn. -/
theorem lookup_runAllocationGreedy_eq_choice
    (distinctIds : (reservations.map ReservationSlot.reservationId).Nodup)
    (distinctRooms : (rooms.map RoomSlot.roomId).Nodup)
    (order : greedyOrder reservations = before ++ reservation :: after) :
    (runAllocationGreedy rooms policyConstraints policyWeights forbidden
        reservations).assignments.lookup reservation.reservationId =
      greedyChoice rooms policyConstraints policyWeights forbidden
        (greedyRun rooms policyConstraints policyWeights forbidden before)
        reservation := by
  have orderDistinct : ((greedyOrder reservations).map ReservationSlot.reservationId).Nodup :=
    nodup_map_sortByKey priorityKey reservations distinctIds
  rw [order] at orderDistinct
  rw [← lookup_greedyRun_eq_choice distinctRooms before after reservation orderDistinct, ← order]
  rfl

/-- A locked three-night stay that has no room yet. -/
def roomlessLockedStay : ReservationSlot where
  reservationId := 1
  categoryId := 1
  checkIn := 0
  checkOut := 3
  currentRoomId := none
  isLocked := true

/-- A locked one-night stay inside it that is already in room 7. -/
def settledLockedStay : ReservationSlot where
  reservationId := 2
  categoryId := 1
  checkIn := 1
  checkOut := 2
  currentRoomId := some 7
  isLocked := true

def settledRoom : RoomSlot where
  roomId := 7
  categoryId := 1

theorem settledLockedStay_protected :
    ProtectedStay [roomlessLockedStay, settledLockedStay] [settledRoom]
      (fun _ => ∅) settledLockedStay settledRoom where
  member := by simp
  locked := rfl
  roomMember := by simp
  current := rfl
  eligible := by decide
  unshared := by decide

end HotelPms.Allocation
