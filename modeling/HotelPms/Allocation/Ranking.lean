import HotelPms.Allocation.Slots
import HotelPms.Foundation.KeySort
import Mathlib.Algebra.Ring.Int.Defs
import Mathlib.Data.List.Lex

/-!
# Candidate ranking

The soft signals by which the engine orders the rooms a reservation could
take: one-night gaps, adjacency, guest-room history, channel preferences and
the policy weights.  Composite sort keys are integer lists compared
lexicographically.
-/

namespace HotelPms.Allocation

open KeySort

/-- Configured weights.  A missing entry takes the engine's default. -/
structure PolicyWeights where
  stability : Option Int := none
  preferExactMatch : Option Int := none
  roomUsagePenalty : Option Int := none
  unassignedPenalty : Option Int := none
  fallbackPriorityPenalty : Option Int := none
  minimizeOneNightGaps : Option Int := none
  roomScoreTiebreaker : Option Int := none
  priorStayRoomBonus : Option Int := none
  guestRoomAvoidancePenalty : Option Int := none

/-- Configured constraints the solver reads. -/
structure PolicyConstraints where
  optimizationObjective : Option String := none
  hotelHasElevator : Option Bool := none
  allowCategoryFallback : Option Bool := none

variable (reservation : ReservationSlot)

/-- Number of single-night gaps left if the reservation joins the occupancy
of a room. -/
def oneNightGapPenaltyForRoom (occupancy : List (Int × Int)) : Int :=
  let stays := sortByKey Prod.fst (occupancy ++ [reservation.stay])
  ((stays.zip stays.tail).countP fun pair => pair.2.1 - pair.1.2 = 1 : Nat)

/-- Number of existing stays that touch the candidate stay. -/
def adjacencyBonusForRoom (occupancy : List (Int × Int)) : Int :=
  (occupancy.map fun occupied => (if occupied.2 = reservation.checkIn then 1 else 0) +
      (if occupied.1 = reservation.checkOut then 1 else 0)).sum

def guestRoomSignalScore (room : RoomSlot) (priorStayRoomBonus avoidedRoomPenalty : Int) : Int :=
  (if some room.roomId = reservation.priorStayRoomId then priorStayRoomBonus else 0) -
  (if room.roomId ∈ reservation.avoidedRoomIds then avoidedRoomPenalty else 0)

/-- Case folding of the characters that fold to a single ASCII letter.  No
other character folds to text occurring in the codes compared below. -/
def casefoldChar (char : Char) : Char :=
  if char = '\u017f' then 's'
  else if char = '\u212a' then 'k'
  else char.toLower

def casefold (text : String) : String :=
  text.map casefoldChar

/-- Operator-facing group of the persisted channel and source fields. -/
def reservationChannelGroup : Option String :=
  if reservation.companyId.isSome then some "company"
  else
    let channel := casefold (reservation.channelCode.getD "")
    let source := casefold (reservation.source.getD "")
    if channel ∈ ["booking", "expedia", "despegar", "other_ota"] ∨
        source ∈ ["booking", "expedia", "other_ota"] then
      some "ota"
    else if channel = "company" then some "company"
    else if channel ∈ ["website_direct", "whatsapp", "phone", "walk_in",
        "other_direct"] ∨ source = "direct" then
      some "direct"
    else none

/-- Score of explicit room preferences.  Unmatched and unknown are neutral. -/
def allocationSourcePreferenceScore (room : RoomSlot) : Int :=
  (match reservation.companyId with
    | some companyId =>
      if companyId ∈ room.allocationPriorityCompanyIds then 2 else 0
    | none => 0) +
  (match reservationChannelGroup reservation with
    | some group =>
      if group ∈ room.allocationPriorityChannelGroups then 1 else 0
    | none => 0)

def clampedAvoidancePenalty (weights : PolicyWeights) : Int :=
  max 0 (min (weights.guestRoomAvoidancePenalty.getD 1000)
    (max (weights.unassignedPenalty.getD 10000 - 1) 0))

/-- Position of a reservation in the greedy order: locked first, then more
nights, then earlier check-in. -/
def priorityKey : List Int :=
  [if reservation.isLocked then 0 else 1, -max 0 reservation.nights, reservation.checkIn,
    -reservation.nights]

/-- Sort key of one candidate room against the room's present occupancy.  A
reservation that already has a room gets two extra components that prefer
keeping it. -/
def candidateKey (policyConstraints : PolicyConstraints)
    (policyWeights : PolicyWeights) (reservation : ReservationSlot)
    (occupancy : List (Int × Int)) (room : RoomSlot) : List Int :=
  let priorStayRoomBonus := max 0 (policyWeights.priorStayRoomBonus.getD 100)
  let signal := -guestRoomSignalScore reservation room priorStayRoomBonus
    (clampedAvoidancePenalty policyWeights)
  let exactMatch := if room.categoryId = reservation.categoryId then 0 else 1
  let gap := oneNightGapPenaltyForRoom reservation occupancy
  let adjacency := -adjacencyBonusForRoom reservation occupancy
  let priority := reservation.categoryPriority room.categoryId
  let score := -room.score.getD 0
  let usage := -(occupancy.length : Int)
  let source := -allocationSourcePreferenceScore reservation room
  let lowerFloor :=
    if reservation.mobilityRestriction = true ∧
        policyConstraints.hotelHasElevator = some false then room.floor
    else 0
  match reservation.currentRoomId with
  | some currentRoomId =>
    let hasGuestRoomSignal :=
      reservation.priorStayRoomId.isSome || !reservation.avoidedRoomIds.isEmpty
    [if hasGuestRoomSignal = true ∧ room.roomId = currentRoomId then 0 else 1,
      signal, exactMatch, gap, adjacency,
      if room.roomId = currentRoomId then 0 else 1,
      priority, score, usage, source, lowerFloor]
  | none =>
    [signal, exactMatch, gap, adjacency, priority, score, usage, source, lowerFloor]

end HotelPms.Allocation
