import HotelPms.Allocation.CpModel

/-!
# Objectives of the solver model

Every objective is a list of variables with coefficients.  The occupied nights
come first, then the number of assigned reservations, then room continuity and
the other preferences, and last the source and lower-floor preferences, which
may have no terms at all.
-/

namespace HotelPms.Allocation

/-- Variables that occur with a coefficient. -/
inductive CpVariable
    (reservations : List ReservationSlot)
    (rooms : List RoomSlot)
  | x (reservation : Fin reservations.length) (room : Fin rooms.length)
  | roomUsage (room : Fin rooms.length)
  | gap (room : Fin rooms.length) (day : Nat)

def CpPoint.value {reservations : List ReservationSlot} {rooms : List RoomSlot}
    (point : CpPoint reservations rooms) : CpVariable reservations rooms -> Bool
  | .x reservation room => point.x reservation room
  | .roomUsage room => point.roomUsage room
  | .gap room day => point.gap room day

/-- Weighted sum of Boolean variables. -/
abbrev ObjectiveTerms (reservations : List ReservationSlot) (rooms : List RoomSlot) :=
  List (CpVariable reservations rooms × Int)

/-- Value of a weighted sum at a point. -/
def objectiveValue {reservations : List ReservationSlot} {rooms : List RoomSlot}
    (terms : ObjectiveTerms reservations rooms)
    (point : CpPoint reservations rooms) : Int :=
  (terms.map fun term => if point.value term.1 then term.2 else 0).sum

namespace PolicyWeights

variable (weights : PolicyWeights)

def stabilityWeight : Int := weights.stability.getD 5

def exactMatchWeight : Int := weights.preferExactMatch.getD 500

def roomUsageWeight : Int := weights.roomUsagePenalty.getD 50

def fallbackPriorityWeight : Int := weights.fallbackPriorityPenalty.getD 25

def oneNightGapWeight : Int :=
  weights.minimizeOneNightGaps.getD (weights.roomUsageWeight * 2)

def roomScoreWeight : Int := weights.roomScoreTiebreaker.getD 1

def clampedPriorStayBonus : Int :=
  max 0 (min (weights.priorStayRoomBonus.getD 100) (max (weights.exactMatchWeight - 1) 0))

end PolicyWeights

section Terms

variable (reservations : List ReservationSlot) (rooms : List RoomSlot) (forbidden : ForbiddenRooms)
  (policyConstraints : PolicyConstraints)
  (policyWeights : PolicyWeights)

/-- The assignment variables, reservation by reservation. -/
def compatiblePairs : List (Fin reservations.length × Fin rooms.length) :=
  (List.finRange reservations.length).flatMap fun reservation =>
    ((List.finRange rooms.length).filter fun room =>
      room ∈ compatibleRoomIndexes reservations rooms forbidden
        reservation).map fun room => (reservation, room)

/-- Terms over the assignment variables, with a coefficient where the rule
gives one. -/
def pairTerms (coefficient : ReservationSlot -> RoomSlot -> Option Int) :
    ObjectiveTerms reservations rooms :=
  (compatiblePairs reservations rooms forbidden).filterMap fun pair =>
    (coefficient reservations[pair.1] rooms[pair.2]).map fun weight => (.x pair.1 pair.2, weight)

/-- Occupied nights. -/
def primaryTerms : ObjectiveTerms reservations rooms :=
  pairTerms reservations rooms forbidden fun reservation _ => some (max 0 reservation.nights)

/-- Number of reservations marked assigned. -/
def assignedCount (point : CpPoint reservations rooms) : Int :=
  ((List.finRange reservations.length).map fun reservation =>
    if point.isAssigned reservation then 1 else 0).sum

/-- The current room satisfies category, capacity and accessibility. -/
def currentRoomIsCompatible (reservation : ReservationSlot) : Bool :=
  match reservation.currentRoomId.bind (roomsById rooms) with
  | some currentRoom =>
    decide (currentRoom.categoryId ∈ reservation.effectiveAllowedCategoryIds) &&
      decide (reservation.numGuests ≤ currentRoom.maxOccupancy) &&
      (!reservation.mobilityRestriction || currentRoom.isAccessible)
  | none => false

def stabilityBonus : ObjectiveTerms reservations rooms :=
  pairTerms reservations rooms forbidden fun reservation room =>
    if reservation.currentRoomId = some room.roomId ∧ reservation.isLocked = false then
      some policyWeights.stabilityWeight
    else none

def priorStayRoomBonusTerms : ObjectiveTerms reservations rooms :=
  pairTerms reservations rooms forbidden fun reservation room =>
    if currentRoomIsCompatible rooms reservation = false ∧
        some room.roomId = reservation.priorStayRoomId then
      some policyWeights.clampedPriorStayBonus
    else none

def guestRoomAvoidancePenaltyTerms : ObjectiveTerms reservations rooms :=
  pairTerms reservations rooms forbidden fun reservation room =>
    if currentRoomIsCompatible rooms reservation = false ∧
        room.roomId ∈ reservation.avoidedRoomIds then
      some (-clampedAvoidancePenalty policyWeights)
    else none

def categoryMatchBonus : ObjectiveTerms reservations rooms :=
  pairTerms reservations rooms forbidden fun reservation room =>
    if room.categoryId = reservation.categoryId then
      some policyWeights.exactMatchWeight
    else none

def fallbackPenalties : ObjectiveTerms reservations rooms :=
  pairTerms reservations rooms forbidden fun reservation room =>
    if room.categoryId = reservation.categoryId then none
    else
      some (-(reservation.categoryPriority room.categoryId * policyWeights.fallbackPriorityWeight))

def roomScoreBonus : ObjectiveTerms reservations rooms :=
  pairTerms reservations rooms forbidden fun _ room =>
    room.score.map fun score => max 0 (min score 10) * policyWeights.roomScoreWeight

def roomUsagePenalties : ObjectiveTerms reservations rooms :=
  (List.finRange rooms.length).map fun room => (.roomUsage room, -policyWeights.roomUsageWeight)

def gapPenalties (horizon : Int × Int) : ObjectiveTerms reservations rooms :=
  (List.finRange rooms.length).flatMap fun room =>
    (possibleGapDays reservations rooms forbidden horizon room).map fun day =>
      (.gap room day, -policyWeights.oneNightGapWeight)

/-- Terms of the preference phase. -/
def tieBreakTerms (horizon : Int × Int) : ObjectiveTerms reservations rooms :=
  stabilityBonus reservations rooms forbidden policyWeights ++
    priorStayRoomBonusTerms reservations rooms forbidden policyWeights ++
    categoryMatchBonus reservations rooms forbidden policyWeights ++
    roomScoreBonus reservations rooms forbidden policyWeights ++
    roomUsagePenalties reservations rooms policyWeights ++
    fallbackPenalties reservations rooms forbidden policyWeights ++
    guestRoomAvoidancePenaltyTerms reservations rooms forbidden policyWeights ++
    gapPenalties reservations rooms forbidden policyWeights horizon

def allocationSourcePreferenceTerms : ObjectiveTerms reservations rooms :=
  pairTerms reservations rooms forbidden fun reservation room =>
    let score := allocationSourcePreferenceScore reservation room
    if score ≠ 0 then some score else none

/-- Highest floor among the rooms a reservation has a variable for. -/
def highestCandidateFloor (reservation : ReservationSlot) : Int :=
  ((rooms.filter (Eligible forbidden reservation ·)).map RoomSlot.floor).max?.getD 0

def lowerFloorPreferenceTerms : ObjectiveTerms reservations rooms :=
  pairTerms reservations rooms forbidden fun reservation room =>
    if reservation.mobilityRestriction = true ∧ policyConstraints.hotelHasElevator = some false then
      let floorBonus :=
        highestCandidateFloor rooms forbidden reservation - room.floor
      if 0 < floorBonus then some floorBonus else none
    else none

end Terms

end HotelPms.Allocation
