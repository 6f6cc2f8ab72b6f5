import HotelPms.Allocation.Phases

/-!
# What a phased solve proves

With sound solver answers the selected point stays inside the model of every
later phase, so the plan attains each proven optimum.  The tie-break status is
a different matter: it keeps the status of the last answered call, so an
unanswered one leaves "optimal" standing.  The main result says exactly for
which outcomes the reported status is right.
-/

namespace HotelPms.Allocation

open LexOptimum

namespace SolveOutcome

variable {Point : Type*} {model : Set Point} {objective : Point -> Int}
  {outcome : SolveOutcome Point}

theorem addOptimum_subset : outcome.addOptimum model objective ⊆ model := by
  cases outcome with
  | optimal point => exact fixAt_subset model objective (objective point)
  | _ => exact subset_rfl

/-- After a sound proof of optimality exactly the maximisers remain. -/
theorem addOptimum_eq_argmax (sound : outcome.Sound model objective) (proven : outcome.IsOptimal) :
    outcome.addOptimum model objective = argmax model objective := by
  cases outcome with
  | optimal point => exact fixAt_eq_argmax sound
  | _ => exact proven.elim

variable {selection : Selection Point}

theorem adopt_mem_addOptimum (sound : outcome.Sound model objective)
    (member : selection.selected ∈ model) :
    (selection.adopt outcome).selected ∈ outcome.addOptimum model objective := by
  cases outcome with
  | optimal point => exact ⟨sound.1, rfl⟩
  | feasible point => exact sound
  | _ => exact member

theorem adopt_status_iff (proven : selection.tieBreakStatus = .solver .optimal) :
    (selection.adopt outcome).tieBreakStatus = .solver .optimal ↔ ¬outcome.IsFeasible := by
  cases outcome <;> simp [Selection.adopt, IsFeasible, proven]

theorem adopt_status_of_isOptimal (proven : outcome.IsOptimal) :
    (selection.adopt outcome).tieBreakStatus = .solver .optimal := by
  cases outcome with
  | optimal point => rfl
  | _ => exact proven.elim

theorem answered_iff : outcome.Answered ↔ outcome.IsOptimal ∨ outcome.IsFeasible := by
  cases outcome <;> simp [Answered, IsOptimal, IsFeasible]

theorem isOptimal_iff : outcome.IsOptimal ↔ ∃ point, outcome = optimal point := by
  cases outcome <;> simp [IsOptimal]

theorem not_isFeasible_of_isOptimal (proven : outcome.IsOptimal) : ¬outcome.IsFeasible := by
  obtain ⟨point, rfl⟩ := isOptimal_iff.mp proven
  exact id

end SolveOutcome

namespace AllocationRequest

variable (request : AllocationRequest) (outcomes : SolvePhase -> SolveOutcome request.Point)

/-- The run gets as far as the first solver call. -/
def ReachesSolver : Prop :=
  request.reservations.isEmpty = false ∧
    request.supportedObjective = true ∧ request.ortoolsInstalled = true

def PhaseRun : SolvePhase -> Prop
  | .primary => request.ReachesSolver
  | .assignedCount =>
    request.ReachesSolver ∧ (outcomes .primary).IsOptimal
  | .preference =>
    request.ReachesSolver ∧ (outcomes .primary).IsOptimal ∧ (outcomes .assignedCount).IsOptimal
  | .sourcePreference =>
    request.ReachesSolver ∧ (outcomes .primary).IsOptimal ∧ (outcomes .assignedCount).IsOptimal ∧
      (outcomes .preference).IsOptimal ∧ request.hasSourceTerms
  | .lowerFloor =>
    request.ReachesSolver ∧ (outcomes .primary).IsOptimal ∧ (outcomes .assignedCount).IsOptimal ∧
      (outcomes .preference).IsOptimal ∧ request.hasFloorTerms ∧
      ¬(request.hasSourceTerms ∧ (outcomes .sourcePreference).IsFeasible)

/-- The phase was run and returned an optimum. -/
def Proven (phase : SolvePhase) : Prop :=
  request.PhaseRun outcomes phase ∧ (outcomes phase).IsOptimal

def modelAfterPrimary : Set request.Point :=
  (outcomes .primary).addOptimum request.model (request.objective .primary)

def modelAfterCount : Set request.Point :=
  (outcomes .assignedCount).addOptimum (request.modelAfterPrimary outcomes)
    (request.objective .assignedCount)

def modelAfterPreference : Set request.Point :=
  (outcomes .preference).addOptimum (request.modelAfterCount outcomes)
    (request.objective .preference)

def modelAfterSource : Set request.Point :=
  if request.hasSourceTerms then
    (outcomes .sourcePreference).addOptimum (request.modelAfterPreference outcomes)
      (request.objective .sourcePreference)
  else request.modelAfterPreference outcomes

/-- Constraints added so far when a phase is called. -/
def phaseModel : SolvePhase -> Set request.Point
  | .primary => request.model
  | .assignedCount => request.modelAfterPrimary outcomes
  | .preference => request.modelAfterCount outcomes
  | .sourcePreference => request.modelAfterPreference outcomes
  | .lowerFloor => request.modelAfterSource outcomes

/-- Every call that is made returns a sound answer for its model. -/
def SoundOutcomes : Prop :=
  ∀ phase, request.PhaseRun outcomes phase ->
    (outcomes phase).Sound (request.phaseModel outcomes phase) (request.objective phase)

/-- The plan is read off a point that attains the optimum of every phase that
returned one. -/
def AttainsProvenOptima (result : AllocationResult) : Prop :=
  request.Proven outcomes .primary -> ∃ selected : request.Point,
      result.assignments = readAssignments selected ∧
      ∀ phase, request.Proven outcomes phase ->
        selected ∈ argmax (request.phaseModel outcomes phase) (request.objective phase)

def TieBreakProven : Prop :=
  request.Proven outcomes .assignedCount ∧ request.Proven outcomes .preference ∧
    (request.hasSourceTerms -> request.Proven outcomes .sourcePreference) ∧
    (request.hasFloorTerms -> request.Proven outcomes .lowerFloor)

/-- No call is left unanswered behind a proven one: the preference phase finds
a point if it is run, and after a proven one each later phase with terms finds
a point, unless one of them stops short of a proof. -/
def TieBreakAnswered : Prop :=
  request.PhaseRun outcomes .preference -> (outcomes .preference).Answered ∧
    ((outcomes .preference).IsOptimal ->
      ((request.hasSourceTerms -> (outcomes .sourcePreference).Answered) ∧
        (request.hasFloorTerms -> (outcomes .lowerFloor).Answered)) ∨
      (request.hasSourceTerms ∧ (outcomes .sourcePreference).IsFeasible) ∨
      (request.hasFloorTerms ∧ (outcomes .lowerFloor).IsFeasible))

end AllocationRequest

section Run

variable {request : AllocationRequest} {outcomes : SolvePhase -> SolveOutcome request.Point}

/-- The selection a run with a proven primary optimum ends with. -/
abbrev finalSelection (request : AllocationRequest)
    (outcomes : SolvePhase -> SolveOutcome request.Point)
    (primaryPoint : request.Point) : Selection request.Point :=
  tieBreakPhases request.hasSourceTerms request.hasFloorTerms outcomes primaryPoint

theorem runAllocation_of_primary_optimal (reaches : request.ReachesSolver)
    {primaryPoint : request.Point}
    (primary : outcomes .primary = .optimal primaryPoint) :
    runAllocation request outcomes = request.resultOf .optimal
        (finalSelection request outcomes primaryPoint) := by
  obtain ⟨nonempty, supported, installed⟩ := reaches
  simp [runAllocation, nonempty, supported, installed, primary]

theorem tieBreakStatus_ne_optimal (unproven : ¬request.Proven outcomes .primary) :
    (runAllocation request outcomes).tieBreakStatus ≠ .solver .optimal := by
  unfold runAllocation
  split
  · simp
  split
  · simp
  split
  · simp [AllocationRequest.greedy, runAllocationGreedy]
  · next nonempty supported installed =>
    cases primary : outcomes .primary with
    | unknown => simp [AllocationRequest.fallback]
    | feasible point => simp [AllocationRequest.resultOf]
    | optimal point =>
      refine absurd ⟨⟨?_, ?_, ?_⟩, ?_⟩ unproven
      · simpa using nonempty
      · simpa using supported
      · simpa using installed
      · simp [primary, SolveOutcome.IsOptimal]
    | _ => simp [solverFailure]

theorem sourcePhase_status_iff {selection : Selection request.Point}
    (proven : selection.tieBreakStatus = .solver .optimal) :
    (sourcePhase request.hasSourceTerms outcomes selection).tieBreakStatus = .solver .optimal ↔
      (request.hasSourceTerms -> ¬(outcomes .sourcePreference).IsFeasible) := by
  by_cases terms : request.hasSourceTerms
  · rw [sourcePhase, if_pos terms, SolveOutcome.adopt_status_iff proven]
    exact ⟨fun notFeasible _ => notFeasible, (· terms)⟩
  · rw [sourcePhase, if_neg terms]
    exact ⟨fun _ present => absurd present terms, fun _ => proven⟩

theorem floorPhase_status_iff (selection : Selection request.Point) :
    (floorPhase request.hasFloorTerms outcomes selection).tieBreakStatus = .solver .optimal ↔
      selection.tieBreakStatus = .solver .optimal ∧
        (request.hasFloorTerms -> ¬(outcomes .lowerFloor).IsFeasible) := by
  by_cases entered : request.hasFloorTerms ∧ selection.tieBreakStatus = .solver .optimal
  · rw [floorPhase, if_pos entered, SolveOutcome.adopt_status_iff entered.2]
    exact ⟨fun notFeasible => ⟨entered.2, fun _ => notFeasible⟩, (·.2 entered.1)⟩
  · rw [floorPhase, if_neg entered]
    constructor
    · intro proven
      exact ⟨proven, (absurd ⟨·, proven⟩ entered)⟩
    · exact And.left

theorem finalSelection_of_count (primaryPoint : request.Point)
    (unproven : ¬(outcomes .assignedCount).IsOptimal) :
    finalSelection request outcomes primaryPoint =
      Selection.adopt ⟨primaryPoint, .notRunBudget⟩ (outcomes .assignedCount) := by
  unfold finalSelection tieBreakPhases
  cases count : outcomes .assignedCount with
  | optimal point => simp [count, SolveOutcome.IsOptimal] at unproven
  | _ => rfl

abbrev preferenceSelection (outcomes : SolvePhase -> SolveOutcome request.Point)
    (primaryPoint : request.Point) : Selection request.Point :=
  (Selection.adopt ⟨primaryPoint, .notRunBudget⟩
    (outcomes .assignedCount)).adopt (outcomes .preference)

theorem finalSelection_of_preference (primaryPoint : request.Point)
    (countProven : (outcomes .assignedCount).IsOptimal)
    (unproven : ¬(outcomes .preference).IsOptimal) :
    finalSelection request outcomes primaryPoint = preferenceSelection outcomes primaryPoint := by
  obtain ⟨countPoint, count⟩ := SolveOutcome.isOptimal_iff.mp countProven
  unfold finalSelection tieBreakPhases preferenceSelection
  cases preference : outcomes .preference with
  | optimal point => simp [preference, SolveOutcome.IsOptimal] at unproven
  | _ => simp [count]

theorem finalSelection_of_proven (primaryPoint : request.Point)
    (countProven : (outcomes .assignedCount).IsOptimal)
    (preferenceProven : (outcomes .preference).IsOptimal) :
    finalSelection request outcomes primaryPoint = floorPhase request.hasFloorTerms outcomes
        (sourcePhase request.hasSourceTerms outcomes
          (preferenceSelection outcomes primaryPoint)) := by
  obtain ⟨countPoint, count⟩ := SolveOutcome.isOptimal_iff.mp countProven
  obtain ⟨preferencePoint, preference⟩ := SolveOutcome.isOptimal_iff.mp preferenceProven
  simp [finalSelection, tieBreakPhases, preferenceSelection, count, preference]

section Sound

variable {primaryPoint : request.Point} (sound : request.SoundOutcomes outcomes)
  (reaches : request.ReachesSolver)
  (primary : outcomes .primary = .optimal primaryPoint)

include sound reaches primary

theorem primaryPoint_mem : primaryPoint ∈ request.modelAfterPrimary outcomes := by
  have primarySound := sound .primary reaches
  rw [primary] at primarySound
  rw [AllocationRequest.modelAfterPrimary, primary]
  exact ⟨primarySound.1, rfl⟩

theorem countSelection_mem : (Selection.adopt ⟨primaryPoint, .notRunBudget⟩
      (outcomes .assignedCount)).selected ∈ request.modelAfterCount outcomes := by
  have primaryProven : (outcomes .primary).IsOptimal :=
    SolveOutcome.isOptimal_iff.mpr ⟨primaryPoint, primary⟩
  exact SolveOutcome.adopt_mem_addOptimum (sound .assignedCount ⟨reaches, primaryProven⟩)
    (primaryPoint_mem sound reaches primary)

section

variable (countProven : (outcomes .assignedCount).IsOptimal)
include countProven

theorem preferenceSelection_mem : (preferenceSelection outcomes primaryPoint).selected ∈
      request.modelAfterPreference outcomes := by
  have primaryProven : (outcomes .primary).IsOptimal :=
    SolveOutcome.isOptimal_iff.mpr ⟨primaryPoint, primary⟩
  exact SolveOutcome.adopt_mem_addOptimum (sound .preference ⟨reaches, primaryProven, countProven⟩)
    (countSelection_mem sound reaches primary)

theorem sourcePhase_mem (preferenceProven : (outcomes .preference).IsOptimal) :
    (sourcePhase request.hasSourceTerms outcomes
      (preferenceSelection outcomes primaryPoint)).selected ∈
        request.modelAfterSource outcomes := by
  have primaryProven : (outcomes .primary).IsOptimal :=
    SolveOutcome.isOptimal_iff.mpr ⟨primaryPoint, primary⟩
  have member := preferenceSelection_mem sound reaches primary countProven
  by_cases terms : request.hasSourceTerms
  · rw [sourcePhase, if_pos terms, AllocationRequest.modelAfterSource, if_pos terms]
    exact SolveOutcome.adopt_mem_addOptimum (sound .sourcePreference
        ⟨reaches, primaryProven, countProven, preferenceProven, terms⟩)
      member
  · rwa [sourcePhase, if_neg terms, AllocationRequest.modelAfterSource, if_neg terms]

omit sound in
theorem floorPhase_entered_iff (preferenceProven : (outcomes .preference).IsOptimal) :
    request.hasFloorTerms ∧ (sourcePhase request.hasSourceTerms outcomes
          (preferenceSelection outcomes primaryPoint)).tieBreakStatus =
            .solver .optimal ↔ request.PhaseRun outcomes .lowerFloor := by
  have primaryProven : (outcomes .primary).IsOptimal :=
    SolveOutcome.isOptimal_iff.mpr ⟨primaryPoint, primary⟩
  rw [sourcePhase_status_iff (SolveOutcome.adopt_status_of_isOptimal preferenceProven)]
  simp only [AllocationRequest.PhaseRun, reaches, primaryProven, countProven,
    preferenceProven, true_and, not_and]

theorem floorPhase_mem (preferenceProven : (outcomes .preference).IsOptimal) :
    (finalSelection request outcomes primaryPoint).selected ∈ request.modelAfterSource outcomes ∧
      (request.PhaseRun outcomes .lowerFloor ->
        (finalSelection request outcomes primaryPoint).selected ∈
          (outcomes .lowerFloor).addOptimum (request.modelAfterSource outcomes)
            (request.objective .lowerFloor)) := by
  have member := sourcePhase_mem sound reaches primary countProven preferenceProven
  have entered := floorPhase_entered_iff reaches primary countProven preferenceProven
  rw [finalSelection_of_proven primaryPoint countProven preferenceProven]
  by_cases run : request.PhaseRun outcomes .lowerFloor
  · rw [floorPhase, if_pos (entered.mpr run)]
    have adopted := SolveOutcome.adopt_mem_addOptimum (sound .lowerFloor run) member
    exact ⟨SolveOutcome.addOptimum_subset adopted, fun _ => adopted⟩
  · rw [floorPhase, if_neg fun rest => run (entered.mp rest)]
    exact ⟨member, (absurd · run)⟩

end

theorem finalSelection_mem_addOptimum {phase : SolvePhase} (run : request.PhaseRun outcomes phase) :
    (finalSelection request outcomes primaryPoint).selected ∈
      (outcomes phase).addOptimum (request.phaseModel outcomes phase)
        (request.objective phase) := by
  by_cases countProven : (outcomes .assignedCount).IsOptimal
  · by_cases preferenceProven : (outcomes .preference).IsOptimal
    · obtain ⟨inSource, inFloor⟩ := floorPhase_mem sound reaches primary
        countProven preferenceProven
      have inPreference : (finalSelection request outcomes primaryPoint).selected ∈
            request.modelAfterPreference outcomes := by
        rw [AllocationRequest.modelAfterSource] at inSource
        split at inSource
        · exact SolveOutcome.addOptimum_subset inSource
        · exact inSource
      have inCount := SolveOutcome.addOptimum_subset inPreference
      cases phase with
      | primary => exact SolveOutcome.addOptimum_subset inCount
      | assignedCount => exact inCount
      | preference => exact inPreference
      | sourcePreference =>
        rwa [AllocationRequest.modelAfterSource, if_pos run.2.2.2.2] at inSource
      | lowerFloor => exact inFloor run
    · have inPreference := preferenceSelection_mem sound reaches primary countProven
      rw [← finalSelection_of_preference primaryPoint countProven preferenceProven] at inPreference
      have inCount := SolveOutcome.addOptimum_subset inPreference
      cases phase with
      | primary => exact SolveOutcome.addOptimum_subset inCount
      | assignedCount => exact inCount
      | preference => exact inPreference
      | sourcePreference => exact absurd run.2.2.2.1 preferenceProven
      | lowerFloor => exact absurd run.2.2.2.1 preferenceProven
  · have inCount := countSelection_mem sound reaches primary
    rw [← finalSelection_of_count primaryPoint countProven] at inCount
    cases phase with
    | primary => exact SolveOutcome.addOptimum_subset inCount
    | assignedCount => exact inCount
    | preference => exact absurd run.2.2 countProven
    | sourcePreference => exact absurd run.2.2.1 countProven
    | lowerFloor => exact absurd run.2.2.1 countProven

end Sound

theorem addOptimum_of_proven (sound : request.SoundOutcomes outcomes)
    {phase : SolvePhase} (proven : request.Proven outcomes phase) :
    (outcomes phase).addOptimum (request.phaseModel outcomes phase)
        (request.objective phase) = argmax (request.phaseModel outcomes phase)
        (request.objective phase) :=
  SolveOutcome.addOptimum_eq_argmax (sound phase proven.1) proven.2

theorem runAllocation_attainsProvenOptima (sound : request.SoundOutcomes outcomes) :
    request.AttainsProvenOptima outcomes (runAllocation request outcomes) := by
  rintro ⟨reaches, primaryProven⟩
  obtain ⟨primaryPoint, primary⟩ := SolveOutcome.isOptimal_iff.mp primaryProven
  refine ⟨(finalSelection request outcomes primaryPoint).selected, ?_, ?_⟩
  · rw [runAllocation_of_primary_optimal reaches primary]
    rfl
  · intro phase proven
    rw [← addOptimum_of_proven sound proven]
    exact finalSelection_mem_addOptimum sound reaches primary proven.1

theorem tieBreakStatus_of_primary_optimal (reaches : request.ReachesSolver)
    {primaryPoint : request.Point}
    (primary : outcomes .primary = .optimal primaryPoint) :
    (runAllocation request outcomes).tieBreakStatus = .solver .optimal ↔
      (outcomes .assignedCount).IsOptimal ∧ ¬(outcomes .preference).IsFeasible ∧
        ((outcomes .preference).IsOptimal ->
          (request.hasSourceTerms -> ¬(outcomes .sourcePreference).IsFeasible) ∧
          (request.hasFloorTerms -> ¬(outcomes .lowerFloor).IsFeasible)) := by
  rw [runAllocation_of_primary_optimal reaches primary]
  show (finalSelection request outcomes primaryPoint).tieBreakStatus = _ ↔ _
  by_cases countProven : (outcomes .assignedCount).IsOptimal
  · by_cases preferenceProven : (outcomes .preference).IsOptimal
    · have notFeasible :=
        SolveOutcome.not_isFeasible_of_isOptimal preferenceProven
      rw [finalSelection_of_proven primaryPoint countProven preferenceProven, floorPhase_status_iff,
        sourcePhase_status_iff (SolveOutcome.adopt_status_of_isOptimal preferenceProven)]
      simp only [countProven, notFeasible, preferenceProven,
        not_false_eq_true, true_and, forall_const]
    · rw [finalSelection_of_preference primaryPoint countProven
        preferenceProven, preferenceSelection, SolveOutcome.adopt_status_iff
          (SolveOutcome.adopt_status_of_isOptimal countProven)]
      simp only [countProven, preferenceProven, true_and, false_implies, and_true]
  · rw [finalSelection_of_count primaryPoint countProven]
    simp only [countProven, false_and, iff_false]
    cases count : outcomes .assignedCount with
    | optimal point => simp [count, SolveOutcome.IsOptimal] at countProven
    | _ => simp [Selection.adopt]

/-- The plan attains every proven optimum, and a reported optimal tie-break
stands for proven phases exactly when no later phase goes unanswered. -/
theorem tieBreakStatus_proven_iff (request : AllocationRequest)
    (outcomes : SolvePhase -> SolveOutcome request.Point)
    (sound : request.SoundOutcomes outcomes) :
    (request.AttainsProvenOptima outcomes (runAllocation request outcomes) ∧
      ((runAllocation request outcomes).tieBreakStatus = .solver .optimal ->
        request.TieBreakProven outcomes)) ↔
      request.TieBreakAnswered outcomes := by
  rw [and_iff_right (runAllocation_attainsProvenOptima sound)]
  by_cases primaryProven : request.Proven outcomes .primary
  · have reaches : request.ReachesSolver := primaryProven.1
    obtain ⟨primaryPoint, primary⟩ := SolveOutcome.isOptimal_iff.mp primaryProven.2
    rw [tieBreakStatus_of_primary_optimal reaches primary]
    constructor
    · intro honest run
      have countProven := run.2.2
      refine ⟨?_, fun preferenceProven => ?_⟩
      · by_contra unanswered
        rw [SolveOutcome.answered_iff, not_or] at unanswered
        have proven := honest ⟨countProven, unanswered.2, (absurd · unanswered.1)⟩
        exact unanswered.1 proven.2.1.2
      · by_contra unanswered
        simp only [not_or, not_and] at unanswered
        have proven := honest ⟨countProven,
          SolveOutcome.not_isFeasible_of_isOptimal preferenceProven,
          fun _ => unanswered.2⟩
        exact unanswered.1
          (fun terms => SolveOutcome.answered_iff.mpr (Or.inl (proven.2.2.1 terms).2))
          fun terms => SolveOutcome.answered_iff.mpr (Or.inl (proven.2.2.2 terms).2)
    · rintro answered ⟨countProven, preferenceNotFeasible, later⟩
      have preferenceRun : request.PhaseRun outcomes .preference :=
        ⟨reaches, primaryProven.2, countProven⟩
      obtain ⟨preferenceAnswered, laterAnswered⟩ := answered preferenceRun
      have preferenceProven :=
        (SolveOutcome.answered_iff.mp preferenceAnswered).resolve_right preferenceNotFeasible
      obtain ⟨sourceNotFeasible, floorNotFeasible⟩ := later preferenceProven
      obtain ⟨sourceAnswered, floorAnswered⟩ :=
        (laterAnswered preferenceProven).resolve_right fun stopped =>
          stopped.elim (fun source => sourceNotFeasible source.1 source.2)
            fun floor => floorNotFeasible floor.1 floor.2
      refine ⟨⟨⟨reaches, primaryProven.2⟩, countProven⟩,
        ⟨preferenceRun, preferenceProven⟩, fun terms => ?_, fun terms => ?_⟩
      · exact ⟨⟨reaches, primaryProven.2, countProven, preferenceProven,
          terms⟩, (SolveOutcome.answered_iff.mp
            (sourceAnswered terms)).resolve_right (sourceNotFeasible terms)⟩
      · exact ⟨⟨reaches, primaryProven.2, countProven, preferenceProven,
          terms, fun source => sourceNotFeasible source.1 source.2⟩,
          (SolveOutcome.answered_iff.mp
            (floorAnswered terms)).resolve_right (floorNotFeasible terms)⟩
  · constructor
    · intro _ run
      exact absurd ⟨run.1, run.2.1⟩ primaryProven
    · intro _ reported
      exact absurd reported (tieBreakStatus_ne_optimal primaryProven)

end Run

/-- One three-night stay and one room. -/
def sampleRequest : AllocationRequest where
  reservations := [sampleLongStay]
  rooms := [sampleRoom]

/-- The stay sits in the room. -/
def samplePoint : sampleRequest.Point :=
  pointOfPlan [sampleLongStay] [sampleRoom] sampleRequest.forbidden sampleRequest.horizon
    (runAllocationGreedy [sampleRoom] {} {} sampleRequest.forbidden [sampleLongStay]).assignments

/-- The first two calls are proven and the third answers as given. -/
def sampleOutcomes (preference : SolveOutcome sampleRequest.Point) :
    SolvePhase -> SolveOutcome sampleRequest.Point
  | .primary => .optimal samplePoint
  | .assignedCount => .optimal samplePoint
  | .preference => preference
  | _ => .noBudget

theorem samplePoint_mem : samplePoint ∈ sampleRequest.model :=
  (soundPlan_of_success (by decide) (by decide) (by decide)).cpConstraints (by decide) (by decide) _

theorem samplePoint_primary (point : sampleRequest.Point) :
    sampleRequest.objective .primary point ≤ sampleRequest.objective .primary samplePoint := by
  have value : sampleRequest.objective .primary point =
      (if point.x ⟨0, by decide⟩ ⟨0, by decide⟩ then 3 else 0) + 0 := rfl
  have best : sampleRequest.objective .primary samplePoint = 3 := rfl
  rw [value, best]
  split <;> decide

theorem samplePoint_assignedCount (point : sampleRequest.Point) :
    sampleRequest.objective .assignedCount point ≤
      sampleRequest.objective .assignedCount samplePoint := by
  have value : sampleRequest.objective .assignedCount point =
      (if point.isAssigned ⟨0, by decide⟩ then 1 else 0) + 0 := rfl
  have best : sampleRequest.objective .assignedCount samplePoint = 1 := rfl
  rw [value, best]
  split <;> decide

theorem sampleOutcomes_sound {preference : SolveOutcome sampleRequest.Point}
    (answer : preference = .unknown ∨ preference = .feasible samplePoint) :
    sampleRequest.SoundOutcomes (sampleOutcomes preference) := by
  have inPrimary : samplePoint ∈ sampleRequest.modelAfterPrimary (sampleOutcomes preference) :=
    ⟨samplePoint_mem, rfl⟩
  intro phase run
  cases phase with
  | primary => exact ⟨samplePoint_mem, fun point _ => samplePoint_primary point⟩
  | assignedCount =>
    exact ⟨inPrimary, fun point _ => samplePoint_assignedCount point⟩
  | preference =>
    rcases answer with rfl | rfl
    · trivial
    · exact ⟨inPrimary, rfl⟩
  | sourcePreference => trivial
  | lowerFloor => trivial

/-- When the third call finds nothing, the status is still reported optimal
although the preference phase proved nothing. -/
theorem unansweredPreference_reported_optimal :
    sampleRequest.SoundOutcomes (sampleOutcomes .unknown) ∧ (runAllocation sampleRequest
        (sampleOutcomes .unknown)).tieBreakStatus = .solver .optimal ∧
      ¬sampleRequest.TieBreakProven (sampleOutcomes .unknown) := by
  refine ⟨sampleOutcomes_sound (Or.inl rfl), by decide, ?_⟩
  exact (·.2.1.2)

/-- A third call that stops at a feasible point is reported correctly. -/
theorem tieBreakStatus_proven_iff_sample :
    sampleRequest.AttainsProvenOptima (sampleOutcomes (.feasible samplePoint))
        (runAllocation sampleRequest (sampleOutcomes (.feasible samplePoint))) ∧
      ((runAllocation sampleRequest
          (sampleOutcomes (.feasible samplePoint))).tieBreakStatus = .solver .optimal ->
        sampleRequest.TieBreakProven (sampleOutcomes (.feasible samplePoint))) :=
  (tieBreakStatus_proven_iff sampleRequest (sampleOutcomes (.feasible samplePoint))
    (sampleOutcomes_sound (Or.inr rfl))).mpr fun _ => ⟨trivial, (·.elim)⟩

section EveryPlan

open HalfOpen KeySort

/-- Assigned rooms are eligible and apart, and a success is a sound plan for
all. -/
structure AllocationRequest.Safe (request : AllocationRequest) (result : AllocationResult) :
    Prop where
  eligible : ∀ reservation ∈ request.reservations, ∀ roomId,
    result.assignments.lookup reservation.reservationId = some roomId ->
      ∃ room ∈ request.rooms, room.roomId = roomId ∧ Eligible request.forbidden reservation room
  exclusive : Exclusive (result.assignments.lookup ·.reservationId) ReservationSlot.stay
    {reservation | reservation ∈ request.reservations}
  whole : result.success = true ->
    SoundPlan request.reservations request.rooms request.forbidden result.assignments ∧
      ∀ reservation ∈ request.reservations,
        result.assignments.lookup reservation.reservationId ≠ none

namespace AllocationRequest.Safe

variable {request : AllocationRequest}

theorem of_failed {result : AllocationResult} (nothing : result.assignments = ∅)
    (failed : result.success = false) : request.Safe result := by
  constructor <;> simp [nothing, failed, Exclusive]

section

variable (distinctIds : (request.reservations.map ReservationSlot.reservationId).Nodup)
  (distinctRooms : (request.rooms.map RoomSlot.roomId).Nodup)
include distinctIds distinctRooms

theorem greedy : request.Safe request.greedy := by
  have invariant : GreedyInvariant request.rooms request.forbidden
      (greedyOrder request.reservations) (greedyRun request.rooms request.policyConstraints
        request.policyWeights request.forbidden (greedyOrder request.reservations)) :=
    runAllocationGreedy_invariant distinctRooms distinctIds
  have inOrder (reservation : ReservationSlot) :
      reservation ∈ greedyOrder request.reservations ↔ reservation ∈ request.reservations :=
    mem_sortByKey priorityKey request.reservations
  refine ⟨fun reservation member roomId found => ?_,
    invariant.exclusive.subset fun reservation => (inOrder reservation).mpr, fun success =>
    ⟨soundPlan_of_success distinctIds distinctRooms success, fun reservation member left => ?_⟩⟩
  · obtain ⟨other, otherIn, sameId, room, roomIn, sameRoom, eligible⟩ :=
      invariant.assigned _ roomId found
    have same := slot_eq_of_reservationId_eq distinctIds ((inOrder other).mp otherIn) member sameId
    exact ⟨room, roomIn, sameRoom, same ▸ eligible⟩
  · have listed := (mem_unassignedReservations request.reservations _).mpr
      ⟨List.mem_map_of_mem member, left⟩
    rw [(runAllocationGreedy_success_iff request.reservations).mp success] at listed
    exact List.not_mem_nil listed

theorem resultOf (positiveNights : ∀ reservation ∈ request.reservations, 0 < reservation.nights)
    (primaryStatus : SolverStatus) {selection : Selection request.Point}
    (member : selection.selected ∈ request.model) :
    request.Safe (request.resultOf primaryStatus selection) := by
  have plan := HardConstraints.soundPlan (CpConstraints.toHardConstraints member) distinctIds
    distinctRooms positiveNights
  refine ⟨plan.eligible, plan.exclusive, fun success => ⟨plan, fun reservation listed left => ?_⟩⟩
  obtain ⟨position, positionLt, rfl⟩ := List.getElem_of_mem listed
  have placed : request.unassignedIds selection.selected = [] :=
    List.length_eq_zero_iff.mp (of_decide_eq_true success)
  have unplaced := (lookup_readAssignments distinctIds selection.selected
    ⟨position, positionLt⟩).symm.trans left
  simp only [unassignedIds, List.map_eq_nil_iff, List.filter_eq_nil_iff] at placed
  exact placed ⟨position, positionLt⟩ (List.mem_finRange _)
    (Option.isNone_iff_eq_none.mpr (Option.map_eq_none_iff.mp unplaced))

end

end AllocationRequest.Safe

/-- Whatever the solver answers, and without it, a run returns a safe result:
also when the greedy run or a later phase decides. -/
theorem runAllocation_safe (request : AllocationRequest)
    (outcomes : SolvePhase -> SolveOutcome request.Point) (sound : request.SoundOutcomes outcomes)
    (distinctIds : (request.reservations.map ReservationSlot.reservationId).Nodup)
    (distinctRooms : (request.rooms.map RoomSlot.roomId).Nodup)
    (positiveNights : ∀ reservation ∈ request.reservations, 0 < reservation.nights) :
    request.Safe (runAllocation request outcomes) := by
  have greedy := AllocationRequest.Safe.greedy distinctIds distinctRooms
  unfold runAllocation
  split_ifs with empty unsupported uninstalled
  · rw [List.isEmpty_iff] at empty
    refine ⟨by simp [empty], by simp [empty, Exclusive], fun _ => ?_⟩
    simp only [empty, List.not_mem_nil, false_implies, implies_true, and_true]
    constructor <;> simp [Exclusive]
  · exact .of_failed rfl rfl
  · exact greedy
  have reaches : request.ReachesSolver :=
    ⟨by simpa using empty, by simpa using unsupported, by simpa using uninstalled⟩
  split
  · exact .of_failed rfl rfl
  · exact ⟨greedy.eligible, greedy.exclusive, greedy.whole⟩
  · exact .of_failed rfl rfl
  · exact .of_failed rfl rfl
  · next point primary =>
    have member := sound .primary reaches
    rw [primary] at member
    exact .resultOf distinctIds distinctRooms positiveNights _ member
  · next point primary =>
    have run : request.PhaseRun outcomes .primary := reaches
    exact .resultOf distinctIds distinctRooms positiveNights _
      (SolveOutcome.addOptimum_subset (finalSelection_mem_addOptimum sound reaches primary run))

theorem runAllocation_safe_sample :
    sampleRequest.Safe (runAllocation sampleRequest (sampleOutcomes .unknown)) :=
  runAllocation_safe sampleRequest _ (sampleOutcomes_sound (Or.inl rfl)) (by decide) (by decide)
    (by decide)

end EveryPlan

end HotelPms.Allocation
