import HotelPms.Allocation.Objectives
import HotelPms.Foundation.LexOptimum

/-!
# Solver phases

The engine solves the model up to five times under one time budget, fixing the
value of an objective whenever the solver proves it optimal.  The solver is
represented by the outcome of each call; `SoundOutcomes` is what its answers
mean.  The plan returned attains every proven optimum.  The reported tie-break
status is complete exactly when no call of a later phase goes unanswered
unnoticed.
-/

namespace HotelPms.Allocation

open LexOptimum

/-- Calls of the solver, in order. -/
inductive SolvePhase
  | primary
  | assignedCount
  | preference
  | sourcePreference
  | lowerFloor

/-- Outcome of one call.  `noBudget` is the call that is not made because the
time ran out. -/
inductive SolveOutcome (Point : Type*)
  | noBudget
  | unknown
  | infeasible
  | modelInvalid
  | feasible (point : Point)
  | optimal (point : Point)

namespace SolveOutcome

variable {Point : Type*}

/-- The solver found a point. -/
def Answered : SolveOutcome Point -> Prop
  | feasible _ => True
  | optimal _ => True
  | _ => False

/-- The solver found a point and stopped before proving it optimal. -/
def IsFeasible : SolveOutcome Point -> Prop
  | feasible _ => True
  | _ => False

/-- The solver proved its point optimal. -/
def IsOptimal : SolveOutcome Point -> Prop
  | optimal _ => True
  | _ => False

/-- What an answer means: a point of the model, greatest if it is called
optimal. -/
def Sound (model : Set Point) (objective : Point -> Int) : SolveOutcome Point -> Prop
  | feasible point => point ∈ model
  | optimal point => point ∈ argmax model objective
  | _ => True

/-- The model after a call: a proven optimum is added as an equality. -/
def addOptimum (model : Set Point) (objective : Point -> Int) : SolveOutcome Point -> Set Point
  | optimal point => fixAt model objective (objective point)
  | _ => model

end SolveOutcome

/-- The solver the plan is read from, and the tie-break status so far. -/
structure Selection (Point : Type*) where
  selected : Point
  tieBreakStatus : PhaseStatus

/-- Take over the point and status of a call that found one. -/
def Selection.adopt {Point : Type*}
    (selection : Selection Point) : SolveOutcome Point -> Selection Point
  | .feasible point => ⟨point, .solver .feasible⟩
  | .optimal point => ⟨point, .solver .optimal⟩
  | _ => selection

section Phases

variable {Point : Type*} (hasSourceTerms hasFloorTerms : Prop)
  [Decidable hasSourceTerms] [Decidable hasFloorTerms]
  (outcomes : SolvePhase -> SolveOutcome Point)

def sourcePhase (selection : Selection Point) : Selection Point :=
  if hasSourceTerms then selection.adopt (outcomes .sourcePreference)
  else selection

/-- The lower-floor phase, run on terms and a proven status. -/
def floorPhase (selection : Selection Point) : Selection Point :=
  if hasFloorTerms ∧ selection.tieBreakStatus = .solver .optimal then
    selection.adopt (outcomes .lowerFloor)
  else selection

/-- The phases after a proven primary optimum. -/
def tieBreakPhases (primaryPoint : Point) : Selection Point :=
  let afterCount : Selection Point :=
    Selection.adopt ⟨primaryPoint, .notRunBudget⟩ (outcomes .assignedCount)
  match outcomes .assignedCount with
  | .optimal _ =>
    let afterPreference := afterCount.adopt (outcomes .preference)
    match outcomes .preference with
    | .optimal _ =>
      floorPhase hasFloorTerms outcomes (sourcePhase hasSourceTerms outcomes afterPreference)
    | _ => afterPreference
  | _ => afterCount

end Phases

def SolverStatus.name : SolverStatus -> String
  | unknown => "UNKNOWN"
  | modelInvalid => "MODEL_INVALID"
  | feasible => "FEASIBLE"
  | infeasible => "INFEASIBLE"
  | optimal => "OPTIMAL"

def noFeasibleAssignment (status : SolverStatus) : String :=
  "Solver status: " ++ status.name ++ ". No feasible assignment found."

/-- Result of a run whose first call found no feasible point. -/
def solverFailure (status : SolverStatus) : AllocationResult where
  success := false
  error := some (noFeasibleAssignment status)
  primaryStatus := .solver status

/-- Arguments of an allocation run and what it reads from its environment. -/
structure AllocationRequest where
  reservations : List ReservationSlot
  rooms : List RoomSlot
  optimizationHorizon : Option (Int × Int) := none
  policyConstraints : PolicyConstraints := {}
  policyWeights : PolicyWeights := {}
  forbiddenRoomIds : ForbiddenRooms := fun _ => ∅
  today : Int := 0
  ortoolsInstalled : Bool := true

namespace AllocationRequest

variable (request : AllocationRequest)

/-- Point of the solver model of a request. -/
abbrev Point := CpPoint request.reservations request.rooms

def forbidden : ForbiddenRooms :=
  combinedForbiddenRoomIds request.reservations request.forbiddenRoomIds

def horizon : Int × Int :=
  solveHorizon request.reservations request.optimizationHorizon request.today

/-- The points the first call may return. -/
def model : Set request.Point :=
  {point | CpConstraints request.reservations request.rooms request.forbidden request.horizon point}

def sourceTerms : ObjectiveTerms request.reservations request.rooms :=
  allocationSourcePreferenceTerms request.reservations request.rooms request.forbidden

def floorTerms : ObjectiveTerms request.reservations request.rooms :=
  lowerFloorPreferenceTerms request.reservations request.rooms
    request.forbidden request.policyConstraints

def objective : SolvePhase -> request.Point -> Int
  | .primary => objectiveValue (primaryTerms request.reservations request.rooms request.forbidden)
  | .assignedCount => assignedCount request.reservations request.rooms
  | .preference => objectiveValue (tieBreakTerms request.reservations
      request.rooms request.forbidden request.policyWeights request.horizon)
  | .sourcePreference => objectiveValue request.sourceTerms
  | .lowerFloor => objectiveValue request.floorTerms

def hasSourceTerms : Prop := request.sourceTerms.isEmpty = false
deriving Decidable

def hasFloorTerms : Prop := request.floorTerms.isEmpty = false
deriving Decidable

def supportedObjective : Bool :=
  request.policyConstraints.optimizationObjective.getD "occupied_nights" = "occupied_nights"

/-- Ids of the reservations a point leaves without a room. -/
def unassignedIds (point : request.Point) : List Int :=
  ((List.finRange request.reservations.length).filter fun reservation =>
    (chosenRoom point reservation).isNone).map fun reservation =>
      request.reservations[reservation].reservationId

/-- Ids of the unlocked reservations a point takes out of their room. -/
def movedIds (point : request.Point) : List Int :=
  ((List.finRange request.reservations.length).filter fun reservation =>
    match chosenRoom point reservation, request.reservations[reservation].currentRoomId with
    | some room, some current =>
      decide (current ≠ request.rooms[room].roomId) && !request.reservations[reservation].isLocked
    | _, _ => false).map (request.reservations[·].reservationId)

/-- Result read off the selected point. -/
def resultOf (primaryStatus : SolverStatus)
    (selection : Selection request.Point) : AllocationResult where
  success := (request.unassignedIds selection.selected).length = 0
  assignments := readAssignments selection.selected
  unassignedReservations := request.unassignedIds selection.selected
  movedReservations := request.movedIds selection.selected
  objectiveValue := request.objective .primary selection.selected
  primaryStatus := .solver primaryStatus
  tieBreakStatus := selection.tieBreakStatus

/-- Greedy run with the request's rooms, policy and combined vetoes. -/
def greedy : AllocationResult :=
  runAllocationGreedy request.rooms request.policyConstraints
    request.policyWeights request.forbidden request.reservations

/-- Result of the greedy run that replaces an undecided first call. -/
def fallback : AllocationResult :=
  { request.greedy with
    error :=
      if request.greedy.success then none
      else some (noFeasibleAssignment .unknown)
    primaryStatus := .heuristic
    tieBreakStatus := .heuristic }

end AllocationRequest

/-- Assign rooms to reservations, given the outcomes of the solver calls. -/
def runAllocation (request : AllocationRequest)
    (outcomes : SolvePhase -> SolveOutcome request.Point) : AllocationResult :=
  if request.reservations.isEmpty then { success := true }
  else if request.supportedObjective = false then
    { success := false
      error := some ("Room allocation only supports occupied nights and " ++
        "room continuity; use rate recommendations for pricing decisions.") }
  else if request.ortoolsInstalled = false then request.greedy
  else
    match outcomes .primary with
    | .noBudget => solverFailure .unknown
    | .unknown => request.fallback
    | .infeasible => solverFailure .infeasible
    | .modelInvalid => solverFailure .modelInvalid
    | .feasible point =>
      request.resultOf .feasible ⟨point, .notRunPrimaryNotProven⟩
    | .optimal point =>
      request.resultOf .optimal
        (tieBreakPhases request.hasSourceTerms request.hasFloorTerms outcomes point)

end HotelPms.Allocation
