import HotelPms.Allocation.BuildSlots

/-!
# Persisted allocation runs

A run stores one assignment row and one explanation for each reservation of
the solver's plan.  Changes of an existing room become proposals; first rooms
are applied at once.  The explanation keeps a snapshot of the reservation and
its fingerprint, so that a stale proposal can be recognised.  `WellFormed`
collects what the rows of a run satisfy from its creation on.
-/

namespace HotelPms.Allocation

open Hotel

inductive AssignmentStatus
  | proposed
  | applied
  | locked
  | rejected
  | manualReview
  deriving DecidableEq

inductive RunStatus
  | pending
  | running
  | succeeded
  | failed
  | partiallySucceeded
  deriving DecidableEq

/-- Assignment-relevant fields of a reservation. -/
structure ReservationStatePayload where
  reservationId : Int
  roomId : Option Int
  status : ReservationStatus
  checkInDate : Int
  checkOutDate : Int
  categoryId : Int
  sellableProductId : Option Int
  numAdults : Int
  numChildren : Int
  mobilityRestriction : Bool
  allocationLocked : Bool
  actualCheckIn : Option Int
  deriving DecidableEq

def reservationStatePayload (reservation : Reservation) : ReservationStatePayload where
  reservationId := reservation.id
  roomId := reservation.roomId
  status := reservation.status
  checkInDate := reservation.checkInDate
  checkOutDate := reservation.checkOutDate
  categoryId := reservation.categoryId
  sellableProductId := reservation.sellableProductId
  numAdults := reservation.numAdults
  numChildren := reservation.numChildren
  mobilityRestriction := reservation.mobilityRestriction
  allocationLocked := reservation.allocationLocked
  actualCheckIn := reservation.actualCheckIn

/-- Part of an explanation that concerns the reassignment lock. -/
structure RoomAssignmentSignal where
  explicitlyLocked : Bool
  requiresExplicitApproval : Bool

structure AssignmentExplanation where
  reservationId : Int
  allowedCategoryIds : List Int
  sourceRoomId : Option Int
  sourceState : ReservationStatePayload
  sourceStateFingerprint : String
  fxConfigurationSnapshot : FxConfigurationSnapshot
  roomAssignmentSignal : Option RoomAssignmentSignal

structure AllocationAssignment where
  reservationId : Int
  roomId : Option Int
  status : AssignmentStatus

/-- A stored run with its rows. -/
structure AllocationRun where
  status : RunStatus
  policyVersionId : Int
  assignments : List AllocationAssignment
  assignmentExplanations : List AssignmentExplanation
  /-- Kind of the additional constraints the run was asked for. -/
  contextKind : Option String := none
  /-- Rooms recorded by accepted proposals. -/
  acceptedTargets : List (Int × Option Int) := []

namespace AllocationRun

/-- Explanation of a reservation; the latest row counts. -/
def explanation? (run : AllocationRun) (reservationId : Int) : Option AssignmentExplanation :=
  run.assignmentExplanations.reverse.find? fun explanation =>
    explanation.reservationId = reservationId

theorem explanation?_eq_some {run : AllocationRun} {reservationId : Int}
    {explanation : AssignmentExplanation}
    (found : run.explanation? reservationId = some explanation) :
    explanation ∈ run.assignmentExplanations ∧ explanation.reservationId = reservationId := by
  refine ⟨List.mem_reverse.mp (List.mem_of_find?_eq_some found), ?_⟩
  simpa using List.find?_some found

end AllocationRun

section Creation

variable (fingerprint : ReservationStatePayload -> String)
  (fxConfiguration : FxConfigurationSnapshot)
  (applyInitial initialApplied : Bool)
  (reservations : List Reservation)
  (slots : List ReservationSlot)
  (result : AllocationResult)

variable (reservation : Reservation) (roomId : Int)

/-- Explanation of the room planned for a reservation. -/
def createAssignmentExplanation (reservationSlot : Option ReservationSlot)
    (roomId : Int) : AssignmentExplanation where
  reservationId := reservation.id
  allowedCategoryIds :=
    match reservationSlot with
    | some slot => slot.effectiveAllowedCategoryIds
    | none => [reservation.categoryId]
  sourceRoomId := reservation.roomId
  sourceState := reservationStatePayload reservation
  sourceStateFingerprint := fingerprint (reservationStatePayload reservation)
  fxConfigurationSnapshot := fxConfiguration
  roomAssignmentSignal := reservationSlot.map fun slot =>
    { explicitlyLocked := slot.explicitlyLocked
      requiresExplicitApproval :=
        slot.explicitlyLocked && decide (slot.currentRoomId ≠ some roomId) }

/-- A first room is written at once, unless the run only proposes. -/
def IsProposal : Prop :=
  reservation.roomId ≠ some roomId ∧ (reservation.roomId ≠ none ∨ applyInitial = false)
deriving Decidable

/-- The row's room is a first room to be written at once. -/
def IsInitial : Prop :=
  reservation.roomId ≠ some roomId ∧ ¬IsProposal applyInitial reservation roomId
deriving Decidable

/-- Status a row ends the run with.  First rooms that were not written, since
the plan is partial or their recheck failed, go to manual review. -/
def assignmentStatus : AssignmentStatus :=
  if IsProposal applyInitial reservation roomId then .proposed
  else if IsInitial applyInitial reservation roomId ∧
      ¬(result.success = true ∧ initialApplied = true) then
    .manualReview
  else .applied

/-- Active reservation rows that occur in the plan, with their rooms. -/
def plannedRows : List (Reservation × Int) :=
  result.assignments.entries.filterMap fun entry =>
    (reservations.find? fun reservation =>
      reservation.id = entry.1 ∧ reservation.deletedAt = none).map
        fun reservation => (reservation, entry.2)

/-- Some first room had to be written by the run. -/
def hasInitial : Bool :=
  (plannedRows reservations result).any fun row => IsInitial applyInitial row.1 row.2

/-- Rows a finished run stores for the solver's result.  `initialApplied`
tells whether the first rooms passed their recheck under lock. -/
def runPersistedAllocation (policyVersionId : Int)
    (contextKind : Option String) : AllocationRun where
  status :=
    if result.success = true ∧
        (hasInitial applyInitial reservations result = true -> initialApplied = true) then
      .succeeded
    else .failed
  policyVersionId := policyVersionId
  assignments := (plannedRows reservations result).map fun row =>
    { reservationId := row.1.id, roomId := some row.2
      status := assignmentStatus applyInitial initialApplied result row.1 row.2 }
  assignmentExplanations := (plannedRows reservations result).map fun row =>
    createAssignmentExplanation fingerprint fxConfiguration row.1
      (slots.find? (·.reservationId = row.1.id)) row.2
  contextKind := contextKind

end Creation

/-- An explanation agrees with its own snapshot. -/
structure AssignmentExplanation.WellFormed
    (fingerprint : ReservationStatePayload → String)
    (explanation : AssignmentExplanation) : Prop where
  sourceRoom : explanation.sourceRoomId = explanation.sourceState.roomId
  snapshot : explanation.sourceStateFingerprint = fingerprint explanation.sourceState
  approval : ∀ signal, explanation.roomAssignmentSignal = some signal →
    signal.requiresExplicitApproval = true → signal.explicitlyLocked = true

/-- A row of a plan that can be accepted: a proposal, or a row whose
reservation had no room or the very room of the row when the run was made. -/
structure AllocationAssignment.WellFormed
    (run : AllocationRun)
    (row : AllocationAssignment) : Prop where
  hasRoom : row.roomId ≠ none
  status : row.status = .proposed ∨ row.status = .applied
  source : row.status = .applied -> ∃ explanation ∈
    run.assignmentExplanations, explanation.reservationId = row.reservationId ∧
        (explanation.sourceRoomId = none ∨ explanation.sourceRoomId = row.roomId)

/-- The rows of a run from its creation on.  Once proposals are accepted or
rejected none is left. -/
structure AllocationRun.WellFormed
    (fingerprint : ReservationStatePayload → String)
    (run : AllocationRun) : Prop where
  explanations : ∀ explanation ∈ run.assignmentExplanations, explanation.WellFormed fingerprint
  distinct : (run.assignmentExplanations.map AssignmentExplanation.reservationId).Nodup
  distinctRows : (run.assignments.map AllocationAssignment.reservationId).Nodup
  rows : run.status = .succeeded → (∀ row ∈ run.assignments, row.WellFormed run) ∨
      ∀ row ∈ run.assignments, row.status ≠ .proposed

section Creation

variable {fingerprint : ReservationStatePayload -> String}
  {fxConfiguration : FxConfigurationSnapshot}
  {applyInitial initialApplied : Bool}
  {reservations : List Reservation}
  {slots : List ReservationSlot}
  {result : AllocationResult}

theorem plannedRows_distinct : ((plannedRows reservations result).map (·.1.id)).Nodup := by
  have sublist (entries : List (Sigma fun _ : Int => Int)) :
      List.Sublist ((entries.filterMap fun entry =>
          (reservations.find? fun reservation =>
            reservation.id = entry.1 ∧ reservation.deletedAt = none).map
              fun reservation => (reservation, entry.2)).map (·.1.id))
        (entries.map Sigma.fst) := by
    induction entries with
    | nil => simp
    | cons entry entries ih =>
      cases found : reservations.find? fun reservation =>
          reservation.id = entry.1 ∧ reservation.deletedAt = none with
      | none =>
        rw [List.filterMap_cons_none (by rw [found]; rfl)]
        exact ih.cons _
      | some reservation =>
        have sameId : reservation.id = entry.1 := by
          have selected := List.find?_some found
          simp only [decide_eq_true_eq] at selected
          exact selected.1
        rw [List.filterMap_cons_some (by rw [found]; rfl), List.map_cons, sameId]
        exact ih.cons_cons _
  exact (sublist result.assignments.entries).nodup result.assignments.nodupKeys

theorem createAssignmentExplanation_wellFormed (reservation : Reservation)
    (reservationSlot : Option ReservationSlot) (roomId : Int) :
    (createAssignmentExplanation fingerprint fxConfiguration reservation
      reservationSlot roomId).WellFormed fingerprint where
  sourceRoom := rfl
  snapshot := rfl
  approval signal stored := by
    simp only [createAssignmentExplanation, Option.map_eq_some_iff] at stored
    obtain ⟨slot, _, rfl⟩ := stored
    intro required
    exact (Bool.and_eq_true _ _ ▸ required).1

theorem runPersistedAllocation_wellFormed (policyVersionId : Int) (contextKind : Option String) :
    (runPersistedAllocation fingerprint fxConfiguration applyInitial
      initialApplied reservations slots result policyVersionId
        contextKind).WellFormed fingerprint where
  explanations := by
    intro explanation member
    obtain ⟨row, _, rfl⟩ := List.mem_map.mp member
    exact createAssignmentExplanation_wellFormed _ _ _
  distinct := by
    simp only [runPersistedAllocation, List.map_map]
    exact plannedRows_distinct
  distinctRows := by
    simp only [runPersistedAllocation, List.map_map]
    exact plannedRows_distinct
  rows := by
    intro succeeded
    refine Or.inl fun stored member => ?_
    obtain ⟨row, rowIn, rfl⟩ := List.mem_map.mp member
    have complete : result.success = true ∧
        (hasInitial applyInitial reservations result = true → initialApplied = true) := by
      by_contra incomplete
      simp [runPersistedAllocation, incomplete] at succeeded
    have notReviewed : ¬(IsInitial applyInitial row.1 row.2 ∧
        ¬(result.success = true ∧ initialApplied = true)) := by
      rintro ⟨initial, failed⟩
      refine failed ⟨complete.1, complete.2 ?_⟩
      exact List.any_eq_true.mpr ⟨row, rowIn, decide_eq_true initial⟩
    refine { hasRoom := by simp, status := ?_, source := ?_ }
    · simp only [assignmentStatus, notReviewed, if_false]
      split
      · exact Or.inl rfl
      · exact Or.inr rfl
    · intro applied
      refine ⟨_, List.mem_map_of_mem rowIn, rfl, ?_⟩
      simp only [assignmentStatus, notReviewed, if_false] at applied
      split at applied
      · cases applied
      · next kept =>
        by_cases roomless : row.1.roomId = none
        · exact Or.inl roomless
        · refine Or.inr ?_
          by_contra changed
          exact kept ⟨changed, Or.inl roomless⟩

end Creation

end HotelPms.Allocation
