import HotelPms.Allocation.Greedy
import HotelPms.Foundation.Checked
import HotelPms.Hotel.State

/-!
# Applying a solver result

Every proposed move is checked before a reservation is written, and the moves
are recorded as one group.  Reservations without a room are reported after
that, so a partial result raises with its moves written.
-/

namespace HotelPms.Allocation

open Hotel

structure HotelReservation extends Reservation where
  hotelId : Int

structure RoomMovementGroup where
  id : Int
  hotelId : Int
  triggerReason : String
  notes : String
  createdByUserId : Option Int

structure RoomMoveEvent where
  hotelId : Int
  reservationId : Int
  movementGroupId : Int
  fromRoomId : Option Int
  toRoomId : Int
  reasonCode : String
  triggerEvent : Option String
  createdByUserId : Option Int

/-- The tables a solver result is applied to. -/
structure AllocationTables where
  reservations : List HotelReservation
  distinctReservations : (reservations.map (·.id)).Nodup
  /-- Manual pins, each with its hotel. -/
  locks : List (Int × ReservationAllocationLock) := []
  movementGroups : List RoomMovementGroup := []
  moveEvents : List RoomMoveEvent := []
  nextGroupId : Int := 1

/-- Arguments of an application besides the result. -/
structure ApplyCall where
  hotelId : Option Int := none
  triggerReason : String := "allocation_recalculate"
  triggerEvent : Option String := none
  createdByUserId : Option Int := none
  /-- Ids of the reservations the caller has loaded, if it has. -/
  reservationsById : Option (List Int) := none
  oneTimeLockedMoveApprovals : List Int := []

def AllocationResult.errorText (result : AllocationResult) : Option String :=
  result.error.filter (· ≠ "")

namespace ApplyCall

variable (call : ApplyCall)

/-- The caller's mapping has the reservation; without one all are read. -/
def loads (id : Int) : Bool :=
  call.reservationsById.all (id ∈ ·)

/-- The hotel is the one of the call, if the call names one. -/
def isFor (hotelId : Int) : Bool :=
  call.hotelId.all (hotelId = ·)

/-- A reservation the call applies to. -/
def Active (reservation : HotelReservation) : Prop :=
  reservation.deletedAt = none ∧ call.isFor reservation.hotelId = true
deriving Decidable

end ApplyCall

abbrev RoomMove := HotelReservation × Int

/-- The row of a reservation after the moves. -/
def writtenRow (moves : List RoomMove) (reservation : HotelReservation) : HotelReservation :=
  match moves.find? fun move => decide (move.1.id = reservation.id) with
  | some move => { reservation with roomId := some move.2 }
  | none => reservation

@[simp] theorem writtenRow_id (moves : List RoomMove) (reservation : HotelReservation) :
    (writtenRow moves reservation).id = reservation.id := by
  unfold writtenRow
  split <;> rfl

namespace AllocationTables

section

variable (tables : AllocationTables) (result : AllocationResult) (call : ApplyCall)

/-- Active reservation of the hotel that the call has found. -/
def found? (id : Int) : Option HotelReservation :=
  (tables.reservations.find? fun reservation =>
    reservation.id = id).filter fun reservation => call.loads id && decide (call.Active reservation)

/-- Assignments that change a room. -/
def candidateMoves : List RoomMove :=
  result.assignments.entries.filterMap fun entry =>
    ((tables.found? call entry.1).filter fun reservation =>
      reservation.roomId ≠ some entry.2).map fun reservation => (reservation, entry.2)

/-- An active pin of the reservation exists. -/
def hasActiveLock (reservationId : Int) : Bool :=
  tables.locks.any fun lock => call.isFor lock.1 && lock.2.isActive &&
      decide (lock.2.reservationId = reservationId)

/-- A guest has arrived, or the room is pinned and its move not approved. -/
def Protected (reservation : HotelReservation) : Prop :=
  reservation.HasPhysicalCheckIn ∨ ((reservation.allocationLocked = true ∨
        tables.hasActiveLock call reservation.id = true) ∧
      reservation.id ∉ call.oneTimeLockedMoveApprovals)
deriving Decidable

def moveEvent (move : RoomMove) : RoomMoveEvent where
  hotelId := move.1.hotelId
  reservationId := move.1.id
  movementGroupId := tables.nextGroupId
  fromRoomId := move.1.roomId
  toRoomId := move.2
  reasonCode := call.triggerReason
  triggerEvent := call.triggerEvent
  createdByUserId := call.createdByUserId

/-- Write the moves, with one group and an event for each. -/
def applyMoves (moves : List RoomMove) : AllocationTables :=
  match moves with
  | [] => tables
  | first :: _ =>
    { reservations := tables.reservations.map (writtenRow moves)
      distinctReservations := by
        simpa only [List.map_map, Function.comp_def, writtenRow_id]
          using tables.distinctReservations
      locks := tables.locks
      movementGroups := tables.movementGroups ++
        [{ id := tables.nextGroupId, hotelId := call.hotelId.getD first.1.hotelId
           triggerReason := call.triggerReason
           notes := "Allocation run moved " ++ toString moves.length ++ " reservation(s)"
           createdByUserId := call.createdByUserId }]
      moveEvents := tables.moveEvents ++ moves.map (tables.moveEvent call)
      nextGroupId := tables.nextGroupId + 1 }

/-- Apply a result: the tables it leaves, and the ids of the reservations it
returns or the error it raises. -/
def applyAllocationResult : AllocationTables × Except String (List Int) :=
  match result.errorText with
  | some error => (tables, .error error)
  | none =>
    let moves := tables.candidateMoves result call
    match moves.find? fun move => decide (tables.Protected call move.1) with
    | some move =>
      (tables, .error ("Reservation " ++ toString move.1.id ++
        " is checked in or explicitly protected from reassignment"))
    | none =>
      (tables.applyMoves call moves,
        if result.unassignedReservations = [] then
          .ok (result.assignments.entries.filterMap fun entry =>
            (tables.found? call entry.1).map (·.id))
        else
          .error ("Sin habitaciones disponibles para las reservas: " ++
            ", ".intercalate (result.unassignedReservations.map toString)))

/-- Every named reservation is in its room, and one event tells each change of
a room. -/
structure Applied (after : AllocationTables) : Prop where
  rooms : ∀ row ∈ after.reservations, call.Active row ->
    ∀ roomId, result.assignments.lookup row.id = some roomId -> row.roomId = some roomId
  ids : after.reservations.map (·.id) = tables.reservations.map (·.id)
  events : ∃ added, after.moveEvents = tables.moveEvents ++ added ∧
    (∀ event ∈ added, ∃ row ∈ tables.reservations, event.reservationId = row.id) ∧
    ∀ before ∈ tables.reservations, ∀ row ∈ after.reservations, row.id = before.id ->
        (added.filter (·.reservationId = before.id)).map
              (fun event => (event.fromRoomId, some event.toRoomId)) =
          if row.roomId = before.roomId then []
          else [(before.roomId, row.roomId)]

/-- A call that raises leaves the tables alone, and one that returns has
applied the result. -/
def AllOrNothing : Prop :=
  let outcome := tables.applyAllocationResult result call
  (∀ error, outcome.2 = .error error → outcome.1 = tables) ∧
    ∀ updated, outcome.2 = .ok updated → tables.Applied result call outcome.1

/-- The caller's mapping leaves out no reservation that would move. -/
def MovesLoaded : Prop :=
  ∀ row ∈ tables.reservations, call.Active row ->
    ∀ roomId, result.assignments.lookup row.id = some roomId ->
      row.roomId ≠ some roomId -> call.loads row.id = true

end

variable {tables : AllocationTables} {result : AllocationResult}
  {call : ApplyCall} {row : HotelReservation} {roomId : Int}

theorem found?_eq_some {id : Int} : tables.found? call id = some row ↔
      row ∈ tables.reservations ∧ row.id = id ∧ call.loads id = true ∧ call.Active row := by
  simp only [found?, Option.filter_eq_some_iff, Bool.and_eq_true, decide_eq_true_eq]
  constructor
  · rintro ⟨found, loaded, active⟩
    exact ⟨List.mem_of_find?_eq_some found, by simpa using List.find?_some found, loaded, active⟩
  · rintro ⟨member, rfl, loaded, active⟩
    refine ⟨?_, loaded, active⟩
    cases found : tables.reservations.find? fun reservation =>
        decide (reservation.id = row.id) with
    | none => simpa using List.find?_eq_none.mp found row member
    | some other =>
      have sameId : other.id = row.id := by simpa using List.find?_some found
      rw [List.inj_on_of_nodup_map tables.distinctReservations
        (List.mem_of_find?_eq_some found) member sameId]

theorem mem_candidateMoves : (row, roomId) ∈ tables.candidateMoves result call ↔
      result.assignments.lookup row.id = some roomId ∧
        row ∈ tables.reservations ∧ call.loads row.id = true ∧
        call.Active row ∧ row.roomId ≠ some roomId := by
  simp only [candidateMoves, List.mem_filterMap, Option.map_eq_some_iff, Option.filter_eq_some_iff,
    found?_eq_some, decide_eq_true_eq, Prod.mk.injEq]
  constructor
  · rintro ⟨⟨id, assigned⟩, entry, found, ⟨⟨member, rfl, loaded, active⟩, moves⟩, rfl, rfl⟩
    exact ⟨AList.mem_lookup_iff.mpr entry, member, loaded, active, moves⟩
  · rintro ⟨assigned, member, loaded, active, moves⟩
    exact ⟨⟨row.id, roomId⟩, AList.mem_lookup_iff.mp assigned, row,
      ⟨⟨member, rfl, loaded, active⟩, moves⟩, rfl, rfl⟩

theorem candidateMoves_distinct : (tables.candidateMoves result call).Pairwise fun first second =>
      first.1.id ≠ second.1.id := by
  unfold candidateMoves
  rw [List.pairwise_filterMap]
  refine (List.nodupKeys_iff_pairwise.mp result.assignments.nodupKeys).imp ?_
  intro first second different firstMove isFirst secondMove isSecond same
  simp only [Option.map_eq_some_iff, Option.filter_eq_some_iff, found?_eq_some] at isFirst isSecond
  obtain ⟨_, ⟨⟨-, firstId, -⟩, -⟩, rfl⟩ := isFirst
  obtain ⟨_, ⟨⟨-, secondId, -⟩, -⟩, rfl⟩ := isSecond
  exact different (firstId.symm.trans (same.trans secondId))

variable {moves : List RoomMove}

theorem filter_eq_singleton {move : RoomMove} (distinct : moves.Pairwise fun first second =>
      first.1.id ≠ second.1.id) (member : move ∈ moves) :
    (moves.filter (·.1.id = move.1.id)) = [move] := by
  induction distinct with
  | nil => cases member
  | cons apart _ ih =>
    rcases List.mem_cons.mp member with rfl | later
    · rw [List.filter_cons_of_pos (by simp), List.filter_eq_nil_iff.mpr]
      intro other otherIn
      simpa using (apart other otherIn).symm
    · rw [List.filter_cons_of_neg (by simpa using apart move later)]
      exact ih later

theorem writtenRow_of_mem (distinct : moves.Pairwise fun first second =>
      first.1.id ≠ second.1.id) (member : (row, roomId) ∈ moves) :
    writtenRow moves row = { row with roomId := some roomId } := by
  unfold writtenRow
  rw [← List.head?_filter, filter_eq_singleton distinct member]
  rfl

theorem writtenRow_of_forall_ne (unmoved : ∀ move ∈ moves, move.1.id ≠ row.id) :
    writtenRow moves row = row := by
  unfold writtenRow
  rw [List.find?_eq_none.mpr (by simpa using unmoved)]

theorem moves_or_not (stored : row ∈ tables.reservations) :
    (∃ roomId, (row, roomId) ∈ tables.candidateMoves result call) ∨
      ∀ move ∈ tables.candidateMoves result call, move.1.id ≠ row.id := by
  by_cases moved : ∃ roomId, (row, roomId) ∈ tables.candidateMoves result call
  · exact .inl moved
  · refine .inr ?_
    rintro ⟨other, roomId⟩ member sameId
    have otherStored := (mem_candidateMoves.mp member).2.1
    obtain rfl := List.inj_on_of_nodup_map tables.distinctReservations otherStored stored sameId
    exact moved ⟨roomId, member⟩

theorem applyMoves_reservations (moves : List RoomMove) :
    (tables.applyMoves call moves).reservations = tables.reservations.map (writtenRow moves) := by
  cases moves with
  | nil => exact (List.map_id' tables.reservations).symm
  | cons first rest => rfl

theorem applyMoves_moveEvents (moves : List RoomMove) : (tables.applyMoves call moves).moveEvents =
      tables.moveEvents ++ moves.map (tables.moveEvent call) := by
  cases moves with
  | nil => exact (List.append_nil _).symm
  | cons first rest => rfl

/-- Moves that are made leave a new group. -/
theorem applyMoves_ne (some : moves ≠ []) : tables.applyMoves call moves ≠ tables := by
  cases moves with
  | nil => exact absurd rfl some
  | cons first rest =>
    intro same
    have groups := congrArg (·.movementGroups.length) same
    simp [applyMoves] at groups

theorem roomId_of_forall_ne (loaded : tables.MovesLoaded result call)
    (stored : row ∈ tables.reservations) (active : call.Active row)
    (assigned : result.assignments.lookup row.id = some roomId)
    (unmoved : ∀ move ∈ tables.candidateMoves result call,
      move.1.id ≠ row.id) : row.roomId = some roomId := by
  by_contra moves
  exact unmoved _ (mem_candidateMoves.mpr ⟨assigned, stored,
    loaded row stored active roomId assigned moves, active, moves⟩) rfl

theorem applied_applyMoves (loaded : tables.MovesLoaded result call) :
    tables.Applied result call (tables.applyMoves call (tables.candidateMoves result call)) := by
  have distinct := @candidateMoves_distinct tables result call
  refine { rooms := ?_, ids := ?_, events := ⟨_, applyMoves_moveEvents _, ?_⟩ }
  · intro row written active roomId assigned
    rw [applyMoves_reservations] at written
    obtain ⟨before, stored, rfl⟩ := List.mem_map.mp written
    rw [writtenRow_id] at assigned
    rcases @moves_or_not tables result call _ stored with ⟨target, moved⟩ | unmoved
    · rw [writtenRow_of_mem distinct moved]
      exact (mem_candidateMoves.mp moved).1.symm.trans assigned
    · rw [writtenRow_of_forall_ne unmoved] at active ⊢
      exact roomId_of_forall_ne loaded stored active assigned unmoved
  · rw [applyMoves_reservations, List.map_map]
    exact List.map_congr_left fun row _ => writtenRow_id _ row
  · constructor
    · intro event added
      obtain ⟨move, member, rfl⟩ := List.mem_map.mp added
      exact ⟨move.1, (mem_candidateMoves.mp member).2.1, rfl⟩
    · intro before stored row written sameId
      rw [applyMoves_reservations] at written
      obtain ⟨other, otherStored, rfl⟩ := List.mem_map.mp written
      rw [writtenRow_id] at sameId
      obtain rfl := List.inj_on_of_nodup_map tables.distinctReservations otherStored stored sameId
      rw [List.filter_map, List.map_map]
      rcases @moves_or_not tables result call _ stored with ⟨target, moved⟩ | unmoved
      · have own := filter_eq_singleton distinct moved
        have changed := (mem_candidateMoves.mp moved).2.2.2.2
        rw [writtenRow_of_mem distinct moved, if_neg (Ne.symm changed)]
        exact congrArg (List.map fun move : RoomMove => (move.1.roomId, some move.2)) own
      · have none : (tables.candidateMoves result call).filter (·.1.id = other.id) = [] :=
          List.filter_eq_nil_iff.mpr fun move member same =>
            unmoved move member (of_decide_eq_true same)
        rw [writtenRow_of_forall_ne unmoved, if_pos rfl]
        exact congrArg (List.map fun move : RoomMove => (move.1.roomId, some move.2)) none

/-- Where a move is left out because the caller has not loaded it, the named
row stays elsewhere. -/
theorem movesLoaded_of_applied (applied : tables.Applied result call
      (tables.applyMoves call (tables.candidateMoves result call))) :
    tables.MovesLoaded result call := by
  intro row stored active roomId assigned moves
  by_contra unloaded
  rcases @moves_or_not tables result call _ stored with ⟨target, moved⟩ | unmoved
  · exact unloaded (mem_candidateMoves.mp moved).2.2.1
  · refine moves (applied.rooms row ?_ active roomId assigned)
    rw [applyMoves_reservations, List.mem_map]
    exact ⟨row, stored, writtenRow_of_forall_ne unmoved⟩

/-- Applying a result is all or nothing exactly when it carries an error, a
proposed move is protected, it is partial without moves, or it is whole and
the caller has loaded what moves. -/
theorem allOrNothing_iff : tables.AllOrNothing result call ↔ result.errorText ≠ none ∨
        (∃ move ∈ tables.candidateMoves result call, tables.Protected call move.1) ∨
        (result.unassignedReservations ≠ [] ∧ tables.candidateMoves result call = []) ∨
        (result.unassignedReservations = [] ∧ tables.MovesLoaded result call) := by
  unfold AllOrNothing applyAllocationResult
  cases error : result.errorText with
  | some text => simp
  | none =>
    simp only
    cases found : (tables.candidateMoves result call).find? fun move =>
        decide (tables.Protected call move.1) with
    | some move =>
      have isProtected : ∃ move ∈ tables.candidateMoves result call, tables.Protected call move.1 :=
        ⟨move, List.mem_of_find?_eq_some found, by simpa using List.find?_some found⟩
      simp [isProtected]
    | none =>
      have unprotected : ¬∃ move ∈ tables.candidateMoves result call,
          tables.Protected call move.1 := by
        rintro ⟨move, member, isProtected⟩
        have := List.find?_eq_none.mp found move member
        simp [isProtected] at this
      by_cases whole : result.unassignedReservations = []
      · rw [if_pos whole]
        constructor
        · rintro ⟨-, applied⟩
          exact .inr (.inr (.inr ⟨whole, movesLoaded_of_applied (applied _ rfl)⟩))
        · rintro (absent | absent | ⟨absent, -⟩ | ⟨-, loaded⟩)
          · exact absurd rfl absent
          · exact absurd absent unprotected
          · exact absurd whole absent
          · exact ⟨fun _ raised => (by cases raised), fun _ _ => applied_applyMoves loaded⟩
      · rw [if_neg whole]
        constructor
        · rintro ⟨unchanged, -⟩
          refine .inr (.inr (.inl ⟨whole, ?_⟩))
          by_contra moved
          exact applyMoves_ne moved (unchanged _ rfl)
        · rintro (absent | absent | ⟨-, none⟩ | ⟨absent, -⟩)
          · exact absurd rfl absent
          · exact absurd absent unprotected
          · rw [none]
            exact ⟨fun _ _ => rfl, fun _ returned => (by cases returned)⟩
          · exact absurd absent whole

theorem arrival_datesOrdered : (10 : Int) < 12 := by decide

/-- A stay without a room. -/
def arrival : HotelReservation where
  id := 1
  hotelId := 1
  roomId := none
  categoryId := 1
  checkInDate := 10
  checkOutDate := 12
  datesOrdered := arrival_datesOrdered

def arrivals : AllocationTables where
  reservations := [arrival]
  distinctReservations := List.nodup_singleton _

/-- Room 7 for the stay, and none for reservation 2. -/
def partialResult : AllocationResult where
  success := false
  assignments := (∅ : AList fun _ : Int => Int).insert 1 7
  unassignedReservations := [2]

/-- A partial result raises with its move written. -/
theorem partialResult_moves : ¬arrivals.AllOrNothing partialResult { hotelId := some 1 } := by
  intro whole
  have unchanged := whole.1 _ rfl
  have groups := congrArg (·.movementGroups.length) unchanged
  revert groups
  decide

end AllocationTables

end HotelPms.Allocation
