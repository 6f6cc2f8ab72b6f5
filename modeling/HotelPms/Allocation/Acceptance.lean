import HotelPms.Allocation.PersistedRun
import HotelPms.Foundation.Checked

/-!
# Accepting a proposal

`acceptAllocationRun` rechecks a stored plan against the present tables before
it moves anyone: the snapshots must still match, the targets must be usable,
and every proposed stay is compared with the final rooms of the plan, with the
other active stays and with the blocks.
-/

namespace HotelPms.Allocation

open HalfOpen KeySort Hotel Checked

namespace AllocationRun

variable (run : AllocationRun)

/-- Rows by reservation id. -/
def assignmentRows : List AllocationAssignment :=
  sortByKey AllocationAssignment.reservationId run.assignments

def proposedRows : List AllocationAssignment :=
  run.assignmentRows.filter (·.status = .proposed)

/-- Reservations for which the plan has a room. -/
def planIds : List Int :=
  (run.assignmentRows.filter (·.roomId.isSome)).map AllocationAssignment.reservationId

/-- Row of a reservation; the last one counts. -/
def assignment? (reservationId : Int) : Option AllocationAssignment :=
  run.assignmentRows.reverse.find? (·.reservationId = reservationId)

/-- The proposal of a row moves a locked reservation. -/
def requiresExplicitApproval (row : AllocationAssignment) : Bool :=
  ((run.explanation? row.reservationId).bind AssignmentExplanation.roomAssignmentSignal).any
      RoomAssignmentSignal.requiresExplicitApproval

def requiredLockedMoveApprovals : Finset Int :=
  ((run.proposedRows.filter run.requiresExplicitApproval).map
    AllocationAssignment.reservationId).toFinset

def lockedMovesLeftUnchanged (approvals : Finset Int) : Finset Int :=
  run.requiredLockedMoveApprovals \ approvals

def isRoomBlockPlan : Bool :=
  run.contextKind = some "room_block" ∨ run.contextKind = some "room_block_extension"

/-- Rooms the plan ends with, reservation by reservation. -/
def allPlanAssignments (approvals : Finset Int) : List (Int × Int) :=
  run.assignmentRows.filterMap fun row =>
    match row.roomId with
    | none => none
    | some roomId =>
      if row.reservationId ∈ run.lockedMovesLeftUnchanged approvals then
        ((run.explanation? row.reservationId).bind AssignmentExplanation.sourceRoomId).map
            fun sourceRoomId => (row.reservationId, sourceRoomId)
      else some (row.reservationId, roomId)

end AllocationRun

section Checks

variable (fingerprint : ReservationStatePayload -> String) (state : HotelState) (run : AllocationRun)
  (approvals : Finset Int)

def planReservation? (reservationId : Int) : Option Reservation :=
  if reservationId ∈ run.planIds then
    (state.reservation? reservationId).filter (·.deletedAt = none)
  else none

/-- The room of an applied row was recorded by an accepted proposal. -/
def appliedTargetMatches (assignment : AllocationAssignment) : Bool :=
  ((run.acceptedTargets.reverse.lookup assignment.reservationId).map
    fun target => decide (target = assignment.roomId)).getD false

/-- A plan reservation still is what its snapshot says, apart from a room the
run itself gave it. -/
def checkSourceState (reservation : Reservation) : Except String Unit :=
  match run.explanation? reservation.id, run.assignment? reservation.id with
  | some explanation, some assignment => do
    raiseIf (explanation.sourceStateFingerprint = "")
      "The allocation plan is missing a source-state snapshot"
    raiseIf (explanation.fxConfigurationSnapshot ≠ state.fxConfiguration)
      "FX configuration changed after this proposal; recalculate allocation"
    if assignment.status = .applied ∧ reservation.roomId = assignment.roomId ∧
        (explanation.sourceRoomId = none ∨ (appliedTargetMatches run assignment = true ∧
            explanation.sourceRoomId ≠ none)) then
      raiseIf ({ explanation.sourceState with roomId := none } ≠
          { reservationStatePayload reservation with roomId := none })
        "A reservation changed after this proposal; recalculate allocation"
    else
      raiseIf (explanation.sourceStateFingerprint ≠
          fingerprint (reservationStatePayload reservation))
        "A reservation changed after this proposal; recalculate allocation"
  | _, _ => .error "The allocation plan is missing a source-state snapshot"

def checkTargetRoom (reservation : Reservation) (explanation : AssignmentExplanation)
    (room : Room) : Except String Unit := do
  let allowed :=
    if explanation.allowedCategoryIds.isEmpty then [reservation.categoryId]
    else explanation.allowedCategoryIds
  raiseIf (room.categoryId ∉ allowed) "A proposed destination is no longer category-compatible"
  raiseIf (¬room.status.Reservable) "A proposed destination room is not reservable"
  raiseIf (((state.category? room.categoryId).any fun category =>
      category.maxOccupancy < reservation.numAdults + reservation.numChildren) = true)
    "A proposed destination room no longer has enough capacity"
  raiseIf (reservation.mobilityRestriction = true ∧ room.isAccessible = false)
    "A proposed destination room is not accessible"

/-- Checks of one proposed row.  The move it stands for, or none if the
reservation is locked and its move was not approved. -/
def proposedMove (row : AllocationAssignment) : Except String (Option (Int × Int)) :=
  match planReservation? state run row.reservationId, run.explanation? row.reservationId with
  | none, _ => .error "KeyError"
  | some _, none =>
    .error "The proposal is missing its source-state snapshot"
  | some reservation, some explanation => do
    raiseIf (explanation.sourceStateFingerprint = "")
      "The proposal is missing its source-state snapshot"
    raiseIf (explanation.sourceStateFingerprint ≠ fingerprint (reservationStatePayload reservation))
      "Reservation changed after this proposal; recalculate allocation"
    let expectedExplicitLock := explanation.roomAssignmentSignal.any
      RoomAssignmentSignal.explicitlyLocked
    raiseIf (decide (state.ExplicitlyLocked reservation) ≠ expectedExplicitLock)
      "A reservation lock changed after this proposal; recalculate allocation"
    raiseIf reservation.HasPhysicalCheckIn "A proposed reservation has already checked in"
    if state.ExplicitlyLocked reservation ∧ row.reservationId ∉ approvals then
      raiseIf (row.reservationId ∉ run.lockedMovesLeftUnchanged approvals)
        "Explicit one-time approval is required for this locked reservation move"
      pure none
    else
      match row.roomId with
      | none => .error "A proposed reassignment has no destination room"
      | some roomId =>
        match state.room? roomId with
        | none => .error "KeyError"
        | some room => do
          checkTargetRoom state reservation explanation room
          pure (some (row.reservationId, roomId))

/-- The stay of a move is free in its target room: in the plan, among the
other active reservations and among the blocks. -/
def checkMove (move : Int × Int) : Except String Unit :=
  match planReservation? state run move.1 with
  | none => .error "KeyError"
  | some reservation => do
    (run.allPlanAssignments approvals).forM fun other =>
      raiseIf (other.1 ≠ move.1 ∧ other.2 = move.2 ∧
          ((planReservation? state run other.1).any fun otherReservation =>
            Overlap reservation.stay otherReservation.stay) = true)
        "Proposed assignments conflict with each other; recalculate allocation"
    state.reservations.forM fun other =>
      raiseIf (other.Active ∧ other.id ∉ run.planIds ∧ other.roomId = some move.2 ∧
          Overlap reservation.stay other.stay)
        "A proposed destination is occupied by another reservation"
    raiseIf ((state.blocks.any fun block => decide (block.roomId = move.2) &&
          decide (block.BlocksWindow reservation.stay)) = true)
      "A proposed destination is now blocked"

def movedRoom (moves : List (Int × Int)) (reservationId : Int) : Option Int :=
  moves.reverse.lookup reservationId

/-- Write the rooms of a plan, all or nothing. -/
def applyAllocationResult (moves : List (Int × Int)) : Except String HotelState := do
  moves.forM fun move =>
    match planReservation? state run move.1 with
    | none => pure ()
    | some reservation =>
      raiseIf (reservation.roomId ≠ some move.2 ∧ (reservation.HasPhysicalCheckIn ∨
            (state.ExplicitlyLocked reservation ∧ move.1 ∉ approvals)))
        ("Reservation " ++ toString move.1 ++
          " is checked in or explicitly protected from reassignment")
  pure (state.assignRooms (movedRoom moves))

/-- Approved pins follow their reservation to the new room. -/
def movePins (moves : List (Int × Int)) : HotelState :=
  { state with
    locks := state.locks.map fun lock =>
      if lock.isActive = true ∧ lock.reservationId ∈ approvals then
        { lock with lockedRoomId := movedRoom moves lock.reservationId }
      else lock }

def acceptedRun : AllocationRun :=
  { run with
    assignments := run.assignments.map fun row =>
      if row.status = .proposed then
        if row.reservationId ∈ run.lockedMovesLeftUnchanged approvals then
          { row with status := .manualReview }
        else { row with status := .applied }
      else row
    acceptedTargets := run.acceptedTargets ++ (run.proposedRows.filter fun row =>
        row.reservationId ∉ run.lockedMovesLeftUnchanged approvals).map
          fun row => (row.reservationId, row.roomId) }

/-- Checks and writes of an acceptance with pending proposals. -/
def acceptProposals : Except String (HotelState × AllocationRun) := do
  raiseIf (state.activePolicyVersionId ≠ run.policyVersionId)
    "The active allocation policy changed after this proposal; recalculate allocation"
  raiseIf (∃ id ∈ run.planIds, planReservation? state run id = none)
    "A reservation in this allocation plan is no longer active"
  raiseIf (¬approvals ⊆ run.requiredLockedMoveApprovals)
    "The one-time locked-move approval does not match this proposal"
  run.planIds.forM fun id =>
    match planReservation? state run id with
    | some reservation =>
      checkSourceState fingerprint state run reservation
    | none => pure ()
  raiseIf (∃ row ∈ run.proposedRows,
      row.reservationId ∉ run.lockedMovesLeftUnchanged approvals ∧ (row.roomId.any fun roomId =>
          !(state.room? roomId).any (·.deletedAt.isNone)) = true)
    "A proposed target room is no longer available"
  let planned ← run.proposedRows.mapM (proposedMove fingerprint state run approvals)
  let moves := planned.reduceOption
  moves.forM (checkMove state run approvals)
  let moved ← applyAllocationResult state run approvals moves
  pure (movePins moved approvals moves, acceptedRun run approvals)

def acceptAllocationRun (userId : Option Int) (allowRoomBlockPlan : Bool) :
    Except String (HotelState × AllocationRun) := do
  raiseIf (run.status ≠ .succeeded) "Only successful allocation runs can be accepted"
  raiseIf (userId = none) "Allocation proposals require an authenticated user"
  raiseIf (run.isRoomBlockPlan = true ∧ allowRoomBlockPlan = false)
    "Room-block proposals must be accepted with the block mutation"
  raiseIf (allowRoomBlockPlan = true ∧ run.isRoomBlockPlan = false)
    "Allocation run is not a room-block proposal"
  if run.proposedRows = [] then
    raiseIf (¬(run.assignments ≠ [] ∧ ∀ row ∈ run.assignments, row.status = .applied))
      "Allocation run has no pending proposals"
    pure (state, run)
  else acceptProposals fingerprint state run approvals

def rejectAllocationRun : Except String AllocationRun := do
  if run.proposedRows = [] then
    raiseIf (¬(run.assignments ≠ [] ∧ ∀ row ∈ run.assignments, row.status = .rejected))
      "Allocation run has no pending proposals"
    pure run
  else
    pure { run with
      assignments := run.assignments.map fun row =>
        if row.status = .proposed then { row with status := .rejected }
        else row }

end Checks

end HotelPms.Allocation
