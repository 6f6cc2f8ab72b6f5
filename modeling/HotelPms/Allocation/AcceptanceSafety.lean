import HotelPms.Allocation.Acceptance
import Mathlib.Data.List.ReduceOption

/-!
# An accepted proposal books no room twice

The final state mixes moved reservations, plan reservations that stay where
they are, locked moves left unchanged and reservations outside the plan.  For
each plan reservation the final room is the one the checks compared with:
`mem_allPlanAssignments` for a proposed row, the snapshot for the others.
-/

namespace HotelPms.Allocation

open HalfOpen KeySort Hotel Checked

section Rows

variable {state : HotelState} {run : AllocationRun} {approvals : Finset Int}

variable {row : AllocationAssignment}

theorem AllocationRun.mem_assignmentRows : row ∈ run.assignmentRows ↔ row ∈ run.assignments :=
  mem_sortByKey _ _

theorem AllocationRun.mem_proposedRows :
    row ∈ run.proposedRows ↔ row ∈ run.assignments ∧ row.status = .proposed := by
  simp [AllocationRun.proposedRows, AllocationRun.mem_assignmentRows]

variable {id : Int}

theorem AllocationRun.mem_planIds :
    id ∈ run.planIds ↔ ∃ row ∈ run.assignments, row.reservationId = id ∧ row.roomId ≠ none := by
  simp only [AllocationRun.planIds, List.mem_map, List.mem_filter,
    AllocationRun.mem_assignmentRows, Option.isSome_iff_ne_none]
  constructor
  · rintro ⟨row, ⟨member, hasRoom⟩, rfl⟩
    exact ⟨row, member, rfl, hasRoom⟩
  · rintro ⟨row, member, rfl, hasRoom⟩
    exact ⟨row, ⟨member, hasRoom⟩, rfl⟩

theorem AllocationRun.row_eq_of_reservationId_eq
    (distinctRows : (run.assignments.map AllocationAssignment.reservationId).Nodup)
    {first second : AllocationAssignment} (firstIn : first ∈ run.assignments)
    (secondIn : second ∈ run.assignments)
    (sameId : first.reservationId = second.reservationId) : first = second :=
  List.inj_on_of_nodup_map distinctRows firstIn secondIn sameId

theorem AllocationRun.assignment?_eq_some (found : run.assignment? id = some row) :
    row ∈ run.assignments ∧ row.reservationId = id := by
  have member := List.mem_reverse.mp (List.mem_of_find?_eq_some found)
  exact ⟨AllocationRun.mem_assignmentRows.mp member, by simpa using List.find?_some found⟩

theorem planReservation?_eq_some {reservation : Reservation}
    (found : planReservation? state run id = some reservation) :
    id ∈ run.planIds ∧ reservation ∈ state.reservations ∧
      reservation.id = id ∧ reservation.deletedAt = none := by
  unfold planReservation? at found
  split at found
  · next planned =>
    obtain ⟨selected, exists_⟩ := Option.filter_eq_some_iff.mp found
    obtain ⟨member, sameId⟩ := HotelState.reservation?_eq_some selected
    exact ⟨planned, member, sameId, of_decide_eq_true exists_⟩
  · cases found

theorem AllocationRun.mem_requiredLockedMoveApprovals :
    id ∈ run.requiredLockedMoveApprovals ↔ ∃ row ∈ run.proposedRows, row.reservationId = id ∧
        run.requiresExplicitApproval row = true := by
  simp only [AllocationRun.requiredLockedMoveApprovals, List.mem_toFinset,
    List.mem_map, List.mem_filter]
  constructor
  · rintro ⟨row, ⟨member, required⟩, rfl⟩
    exact ⟨row, member, rfl, required⟩
  · rintro ⟨row, member, rfl, required⟩
    exact ⟨row, ⟨member, required⟩, rfl⟩

theorem AllocationRun.mem_lockedMovesLeftUnchanged : id ∈ run.lockedMovesLeftUnchanged approvals ↔
      id ∈ run.requiredLockedMoveApprovals ∧ id ∉ approvals :=
  Finset.mem_sdiff

theorem AllocationRun.mem_allPlanAssignments {roomId : Int}
    (member : row ∈ run.assignments) (hasRoom : row.roomId = some roomId)
    (changed : row.reservationId ∉ run.lockedMovesLeftUnchanged approvals) :
    (row.reservationId, roomId) ∈ run.allPlanAssignments approvals := by
  refine List.mem_filterMap.mpr ⟨row, AllocationRun.mem_assignmentRows.mpr member, ?_⟩
  simp only [hasRoom]
  rw [if_neg changed]

theorem AllocationRun.mem_allPlanAssignments_of_unchanged {sourceRoomId : Int}
    {explanation : AssignmentExplanation} (member : row ∈ run.assignments)
    (hasRoom : row.roomId ≠ none)
    (unchanged : row.reservationId ∈ run.lockedMovesLeftUnchanged approvals)
    (found : run.explanation? row.reservationId = some explanation)
    (source : explanation.sourceRoomId = some sourceRoomId) :
    (row.reservationId, sourceRoomId) ∈ run.allPlanAssignments approvals := by
  refine List.mem_filterMap.mpr ⟨row, AllocationRun.mem_assignmentRows.mpr member, ?_⟩
  obtain ⟨roomId, room⟩ := Option.ne_none_iff_exists'.mp hasRoom
  simp only [room]
  rw [if_pos unchanged, found]
  simp [source]

end Rows

/-! ## What the checks establish -/

section Checks

variable {fingerprint : ReservationStatePayload -> String} {state : HotelState} {run : AllocationRun}
  {approvals : Finset Int}

/-- The stored snapshot of a reservation agrees with the present row whenever
their fingerprints do. -/
def NoFingerprintCollision (fingerprint : ReservationStatePayload -> String)
    (state : HotelState) (run : AllocationRun) : Prop :=
  ∀ explanation ∈ run.assignmentExplanations, ∀ reservation ∈ state.reservations,
      reservation.id = explanation.reservationId ->
      fingerprint explanation.sourceState = fingerprint (reservationStatePayload reservation) ->
        explanation.sourceState = reservationStatePayload reservation

variable {reservation : Reservation} {row : AllocationAssignment} {moves : List (Int × Int)}

theorem roomId_of_fingerprint_eq (noCollision : NoFingerprintCollision fingerprint state run)
    (wellFormed : run.WellFormed fingerprint)
    {explanation : AssignmentExplanation}
    (found : run.explanation? reservation.id = some explanation)
    (member : reservation ∈ state.reservations)
    (sameFingerprint : explanation.sourceStateFingerprint =
      fingerprint (reservationStatePayload reservation)) :
    explanation.sourceRoomId = reservation.roomId := by
  obtain ⟨explanationIn, sameId⟩ := AllocationRun.explanation?_eq_some found
  have stored := wellFormed.explanations explanation explanationIn
  rw [stored.snapshot] at sameFingerprint
  rw [stored.sourceRoom, noCollision explanation explanationIn reservation
    member sameId.symm sameFingerprint]
  rfl

theorem roomId_of_checkSourceState (noCollision : NoFingerprintCollision fingerprint state run)
    (wellFormed : run.WellFormed fingerprint)
    (member : reservation ∈ state.reservations)
    (rowIn : row ∈ run.assignments)
    (sameId : row.reservationId = reservation.id)
    (rowWellFormed : row.WellFormed run) (applied : row.status = .applied)
    (checked : checkSourceState fingerprint state run reservation = .ok ()) :
    reservation.roomId = none ∨ reservation.roomId = row.roomId := by
  unfold checkSourceState at checked
  cases found : run.explanation? reservation.id with
  | none => simp [found] at checked
  | some explanation =>
    cases stored : run.assignment? reservation.id with
    | none => simp [found, stored] at checked
    | some assignment =>
      obtain ⟨assignmentIn, assignmentId⟩ := AllocationRun.assignment?_eq_some stored
      obtain rfl := AllocationRun.row_eq_of_reservationId_eq
        wellFormed.distinctRows assignmentIn rowIn
        (assignmentId.trans sameId.symm)
      simp only [found, stored, bind_eq_ok, raiseIf_eq_ok] at checked
      obtain ⟨_, _, _, _, rest⟩ := checked
      split at rest
      · next inTarget => exact Or.inr inTarget.2.1
      · rw [raiseIf_eq_ok, not_not] at rest
        have inSource := roomId_of_fingerprint_eq noCollision wellFormed found member rest
        obtain ⟨other, otherIn, otherId, source⟩ := rowWellFormed.source applied
        obtain ⟨explanationIn, explanationId⟩ := AllocationRun.explanation?_eq_some found
        obtain rfl := List.inj_on_of_nodup_map wellFormed.distinct otherIn explanationIn
          ((otherId.trans sameId).trans explanationId.symm)
        rwa [inSource] at source

theorem proposedMove_eq_ok {move : Option (Int × Int)}
    (checked : proposedMove fingerprint state run approvals row = .ok move) :
    ∃ reservation explanation, planReservation? state run row.reservationId = some reservation ∧
      run.explanation? row.reservationId = some explanation ∧
      explanation.sourceStateFingerprint = fingerprint (reservationStatePayload reservation) ∧
      (state.ExplicitlyLocked reservation ↔ (explanation.roomAssignmentSignal.any
          RoomAssignmentSignal.explicitlyLocked) = true) ∧
      ¬reservation.HasPhysicalCheckIn ∧
      ((move = none ∧ state.ExplicitlyLocked reservation ∧ row.reservationId ∉ approvals ∧
          row.reservationId ∈ run.lockedMovesLeftUnchanged approvals) ∨
        ∃ roomId, move = some (row.reservationId, roomId) ∧ row.roomId = some roomId ∧
          (state.ExplicitlyLocked reservation -> row.reservationId ∈ approvals)) := by
  unfold proposedMove at checked
  cases planned : planReservation? state run row.reservationId with
  | none => simp [planned] at checked
  | some reservation =>
    cases found : run.explanation? row.reservationId with
    | none => simp [planned, found] at checked
    | some explanation =>
      simp only [planned, found, bind_eq_ok, raiseIf_eq_ok, not_not] at checked
      obtain ⟨_, _, _, sameFingerprint, _, sameLock, _, notCheckedIn, rest⟩ := checked
      refine ⟨reservation, explanation, rfl, rfl, sameFingerprint, ?_, notCheckedIn, ?_⟩
      · rw [← sameLock, decide_eq_true_iff]
      · split at rest
        · next unapproved =>
          simp only [bind_eq_ok, raiseIf_eq_ok, not_not, pure_eq_ok] at rest
          obtain ⟨_, unchanged, rfl⟩ := rest
          exact Or.inl ⟨rfl, unapproved.1, unapproved.2, unchanged⟩
        · next approved =>
          refine Or.inr ?_
          cases target : row.roomId with
          | none => simp [target] at rest
          | some roomId =>
            simp only [target] at rest
            split at rest
            · cases rest
            · simp only [bind_eq_ok, pure_eq_ok] at rest
              obtain ⟨_, _, rfl⟩ := rest
              refine ⟨roomId, rfl, rfl, fun locked => ?_⟩
              by_contra notApproved
              exact approved ⟨locked, notApproved⟩

theorem not_mem_lockedMovesLeftUnchanged (wellFormed : run.WellFormed fingerprint)
    (rowIn : row ∈ run.proposedRows) {move : Int × Int}
    (checked : proposedMove fingerprint state run approvals row = .ok (some move)) :
    row.reservationId ∉ run.lockedMovesLeftUnchanged approvals := by
  intro unchanged
  obtain ⟨required, notApproved⟩ := AllocationRun.mem_lockedMovesLeftUnchanged.mp unchanged
  obtain ⟨other, otherIn, sameId, requires⟩ :=
    AllocationRun.mem_requiredLockedMoveApprovals.mp required
  obtain rfl := AllocationRun.row_eq_of_reservationId_eq
    wellFormed.distinctRows (AllocationRun.mem_proposedRows.mp otherIn).1
    (AllocationRun.mem_proposedRows.mp rowIn).1 sameId
  obtain ⟨reservation, explanation, _, found, _, sameLock, _, rest⟩ := proposedMove_eq_ok checked
  have locked : state.ExplicitlyLocked reservation := by
    rw [sameLock]
    simp only [AllocationRun.requiresExplicitApproval, found,
      Option.bind_some, Option.any_eq_true] at requires
    obtain ⟨signal, stored, needsApproval⟩ := requires
    rw [stored, Option.any_some]
    exact (wellFormed.explanations explanation
      (AllocationRun.explanation?_eq_some found).1).approval signal stored
      needsApproval
  rcases rest with ⟨noMove, _⟩ | ⟨roomId, _, _, approved⟩
  · cases noMove
  · exact notApproved (approved locked)

/-- What an acceptance with pending proposals has checked and written. -/
structure AcceptedMoves
    (fingerprint : ReservationStatePayload -> String)
    (state : HotelState)
    (run : AllocationRun)
    (approvals : Finset Int)
    (moves : List (Int × Int))
    (final : HotelState) : Prop where
  reservations : final.reservations = (state.assignRooms (movedRoom moves)).reservations
  blocks : final.blocks = state.blocks
  planned : ∀ id ∈ run.planIds, ∃ reservation, planReservation? state run id = some reservation ∧
      checkSourceState fingerprint state run reservation = .ok ()
  proposed : ∀ row ∈ run.proposedRows, ∃ move,
    proposedMove fingerprint state run approvals row = .ok move ∧
      ∀ target, move = some target -> target ∈ moves
  moved : ∀ move ∈ moves, ∃ row ∈ run.proposedRows,
    proposedMove fingerprint state run approvals row = .ok (some move)
  free : ∀ move ∈ moves, checkMove state run approvals move = .ok ()

theorem acceptProposals_eq_ok {final : HotelState} {acceptedRun : AllocationRun}
    (accepted : acceptProposals fingerprint state run approvals = .ok (final, acceptedRun)) :
    ∃ moves, AcceptedMoves fingerprint state run approvals moves final := by
  simp only [acceptProposals, applyAllocationResult, bind_eq_ok,
    raiseIf_eq_ok, forM_eq_ok, pure_eq_ok] at accepted
  obtain ⟨_, _, _, allPlanned, _, _, _, sources, _, _, planned, rows, _, free,
    moved, ⟨_, _, rfl⟩, result⟩ := accepted
  obtain ⟨rfl, _⟩ := Prod.mk.inj result
  refine ⟨planned.reduceOption,
    { reservations := rfl, blocks := rfl, planned := ?_, proposed := ?_,
      moved := ?_, free := free }⟩
  · intro id member
    cases found : planReservation? state run id with
    | none => exact absurd ⟨id, member, found⟩ allPlanned
    | some reservation =>
      have source := sources id member
      rw [found] at source
      exact ⟨reservation, rfl, source⟩
  · intro row member
    obtain ⟨move, moveIn, checked⟩ := exists_result_of_mem_mapM rows member
    refine ⟨move, checked, ?_⟩
    rintro target rfl
    exact List.reduceOption_mem_iff.mpr moveIn
  · intro move member
    exact exists_of_mem_mapM rows (List.reduceOption_mem_iff.mp member)

theorem mem_of_movedRoom {id roomId : Int}
    (found : movedRoom moves id = some roomId) : (id, roomId) ∈ moves := by
  obtain ⟨before, after, split, _⟩ := List.lookup_eq_some_iff.mp found
  exact List.mem_reverse.mp (by rw [split]; simp)

theorem movedRoom_ne_none {id roomId : Int}
    (member : (id, roomId) ∈ moves) : movedRoom moves id ≠ none := by
  intro absent
  have apart := List.lookup_eq_none_iff.mp absent (id, roomId) (List.mem_reverse.mpr member)
  simp at apart

namespace AcceptedMoves

variable {moves : List (Int × Int)} {final : HotelState}

section

variable (accepted : AcceptedMoves fingerprint state run approvals moves final)
  (noCollision : NoFingerprintCollision fingerprint state run)
  (wellFormed : run.WellFormed fingerprint)
include accepted noCollision wellFormed

variable {roomId : Int} {reservation : Reservation}

omit noCollision in
theorem moved_mem_allPlanAssignments {reservationId : Int}
    (moved : movedRoom moves reservationId = some roomId) :
    (reservationId, roomId) ∈ run.allPlanAssignments approvals := by
  obtain ⟨row, rowIn, checked⟩ := accepted.moved _ (mem_of_movedRoom moved)
  have notUnchanged := not_mem_lockedMovesLeftUnchanged wellFormed rowIn checked
  obtain ⟨_, _, _, _, _, _, _, rest⟩ := proposedMove_eq_ok checked
  rcases rest with ⟨noMove, _⟩ | ⟨target, sameMove, target_eq, _⟩
  · cases noMove
  · obtain ⟨sameId, sameRoom⟩ := Prod.mk.inj (Option.some.inj sameMove)
    rw [sameId, sameRoom]
    exact AllocationRun.mem_allPlanAssignments
      (AllocationRun.mem_proposedRows.mp rowIn).1 target_eq notUnchanged

theorem unchanged_mem_allPlanAssignments
    (member : reservation ∈ state.reservations) {row : AllocationAssignment}
    (rowIn : row ∈ run.assignments)
    (sameId : row.reservationId = reservation.id) (hasRoom : row.roomId ≠ none)
    (proposed : row.status = .proposed)
    (unmoved : movedRoom moves reservation.id = none)
    (inRoom : reservation.roomId = some roomId) :
    (reservation.id, roomId) ∈ run.allPlanAssignments approvals := by
  obtain ⟨move, checked, kept⟩ := accepted.proposed row
    (AllocationRun.mem_proposedRows.mpr ⟨rowIn, proposed⟩)
  obtain ⟨present, explanation, found, explained, sameFingerprint, _, _,
    rest⟩ := proposedMove_eq_ok checked
  rcases rest with ⟨_, _, _, unchanged⟩ | ⟨target, isMove, _, _⟩
  · obtain ⟨_, presentIn, presentId, _⟩ := planReservation?_eq_some found
    obtain rfl := state.reservation_eq_of_id_eq presentIn member (presentId.trans sameId)
    rw [← presentId] at explained
    have source := roomId_of_fingerprint_eq noCollision wellFormed explained
      presentIn sameFingerprint
    rw [presentId] at explained
    rw [presentId]
    exact AllocationRun.mem_allPlanAssignments_of_unchanged rowIn hasRoom
      unchanged explained (source.trans inRoom)
  · have listed := kept _ isMove
    rw [sameId] at listed
    exact absurd unmoved (movedRoom_ne_none listed)

theorem applied_mem_allPlanAssignments (member : reservation ∈ state.reservations)
    (planned : reservation.id ∈ run.planIds) {row : AllocationAssignment}
    (rowIn : row ∈ run.assignments) (rowWellFormed : row.WellFormed run)
    (sameId : row.reservationId = reservation.id)
    (applied : row.status = .applied)
    (inRoom : reservation.roomId = some roomId) :
    (reservation.id, roomId) ∈ run.allPlanAssignments approvals := by
  obtain ⟨present, found, source⟩ := accepted.planned _ planned
  obtain ⟨_, presentIn, presentId, _⟩ := planReservation?_eq_some found
  obtain rfl := state.reservation_eq_of_id_eq presentIn member presentId
  have notUnchanged : row.reservationId ∉ run.lockedMovesLeftUnchanged approvals := by
    intro unchanged
    obtain ⟨other, otherIn, otherId, _⟩ := AllocationRun.mem_requiredLockedMoveApprovals.mp
      (AllocationRun.mem_lockedMovesLeftUnchanged.mp unchanged).1
    obtain ⟨otherRow, otherProposed⟩ := AllocationRun.mem_proposedRows.mp otherIn
    obtain rfl := AllocationRun.row_eq_of_reservationId_eq
      wellFormed.distinctRows otherRow rowIn otherId
    rw [applied] at otherProposed
    cases otherProposed
  have inRow := (roomId_of_checkSourceState noCollision wellFormed
    presentIn rowIn sameId rowWellFormed applied
    source).resolve_left (by rw [inRoom]; simp)
  rw [← sameId]
  exact AllocationRun.mem_allPlanAssignments rowIn (inRow.symm.trans inRoom) notUnchanged

theorem final_mem_allPlanAssignments (rowsWellFormed : ∀ row ∈ run.assignments, row.WellFormed run)
    (member : reservation ∈ state.reservations)
    (planned : reservation.id ∈ run.planIds)
    (finalRoom : (movedRoom moves reservation.id).or reservation.roomId = some roomId) :
    (reservation.id, roomId) ∈ run.allPlanAssignments approvals := by
  cases moved : movedRoom moves reservation.id with
  | some target =>
    rw [moved, Option.some_or] at finalRoom
    cases finalRoom
    exact accepted.moved_mem_allPlanAssignments wellFormed moved
  | none =>
    rw [moved, Option.none_or] at finalRoom
    obtain ⟨row, rowIn, sameId, hasRoom⟩ := AllocationRun.mem_planIds.mp planned
    rcases (rowsWellFormed row rowIn).status with proposed | applied
    · exact accepted.unchanged_mem_allPlanAssignments noCollision wellFormed
        member rowIn sameId hasRoom proposed moved finalRoom
    · exact accepted.applied_mem_allPlanAssignments noCollision wellFormed
        member planned rowIn (rowsWellFormed row rowIn) sameId applied
        finalRoom

end

theorem exists_of_movedRoom (accepted : AcceptedMoves fingerprint state run approvals moves final)
    {id roomId : Int} (moved : movedRoom moves id = some roomId) :
    ∃ reservation, planReservation? state run id = some reservation ∧
      ¬reservation.HasPhysicalCheckIn ∧
      (state.ExplicitlyLocked reservation -> id ∈ approvals) ∧
      checkMove state run approvals (id, roomId) = .ok () := by
  have member := mem_of_movedRoom moved
  obtain ⟨row, _, checked⟩ := accepted.moved _ member
  obtain ⟨reservation, _, found, _, _, _, notCheckedIn, rest⟩ := proposedMove_eq_ok checked
  rcases rest with ⟨noMove, _⟩ | ⟨target, sameMove, _, approved⟩
  · cases noMove
  · cases sameMove
    exact ⟨reservation, found, notCheckedIn, approved, accepted.free _ member⟩

end AcceptedMoves

theorem checkMove_eq_ok {id roomId : Int} (found : planReservation? state run id = some reservation)
    (checked : checkMove state run approvals (id, roomId) = .ok ()) :
    (∀ other ∈ run.allPlanAssignments approvals, other.1 ≠ id ->
      other.2 = roomId -> ∀ otherReservation,
        planReservation? state run other.1 = some otherReservation ->
          ¬Overlap reservation.stay otherReservation.stay) ∧
    (∀ other ∈ state.reservations, other.Active ->
      other.id ∉ run.planIds -> other.roomId = some roomId -> ¬Overlap reservation.stay other.stay) ∧
    ∀ block ∈ state.blocks, block.roomId = roomId -> ¬block.BlocksWindow reservation.stay := by
  simp only [checkMove, found, bind_eq_ok, forM_eq_ok, raiseIf_eq_ok] at checked
  obtain ⟨_, planFree, _, othersFree, blocksFree⟩ := checked
  refine ⟨?_, ?_, ?_⟩
  · intro other member different sameRoom otherReservation otherFound overlap
    refine planFree other member ⟨different, sameRoom, ?_⟩
    rw [otherFound]
    simpa using overlap
  · intro other member active outside inRoom overlap
    exact othersFree other member ⟨active, outside, inRoom, overlap⟩
  · intro block member sameRoom blocks
    refine blocksFree (List.any_eq_true.mpr ⟨block, member, ?_⟩)
    simp [sameRoom, blocks]

theorem AcceptedMoves.noDoubleBooking {final : HotelState}
    (accepted : AcceptedMoves fingerprint state run approvals moves final)
    (noCollision : NoFingerprintCollision fingerprint state run)
    (wellFormed : run.WellFormed fingerprint)
    (rowsWellFormed : ∀ row ∈ run.assignments, row.WellFormed run)
    (noDoubleBooking : state.NoDoubleBooking) : final.NoDoubleBooking := by
  have origin {reservation : Reservation} (member : reservation ∈ final.reservations) :
      ∃ original ∈ state.reservations, reservation = original.inRoom
        ((movedRoom moves original.id).or original.roomId) := by
    rw [accepted.reservations] at member
    exact HotelState.mem_assignRooms.mp member
  have unmoved {reservation : Reservation} (member : reservation ∈ final.reservations)
      (kept : movedRoom moves reservation.id = none) :
      reservation ∈ state.reservations := by
    obtain ⟨original, originalIn, rfl⟩ := origin member
    rw [Reservation.inRoom_id] at kept
    rw [kept]
    exact originalIn
  refine noDoubleBooking.of_changed
    {reservation | movedRoom moves reservation.id ≠ none} ?_ ?_ ?_ ?_
  · intro reservation member kept
    exact ⟨unmoved member.1 (not_not.mp kept), member.2⟩
  · intro reservation _ _ held holds
    exact holds
  · intro reservation _ _ other overlap
    exact overlap
  · intro first firstIn firstMoved second secondIn different roomId firstRoom secondRoom overlap
    obtain ⟨firstOriginal, firstMember, rfl⟩ := origin firstIn.1
    obtain ⟨secondOriginal, secondMember, rfl⟩ := origin secondIn.1
    obtain ⟨target, moved⟩ := Option.ne_none_iff_exists'.mp firstMoved
    rw [Reservation.inRoom_id] at moved
    rw [Reservation.inRoom_roomId, moved, Option.some_or] at firstRoom
    cases firstRoom
    obtain ⟨reservation, found, _, _, checked⟩ := accepted.exists_of_movedRoom moved
    obtain ⟨_, reservationIn, sameId, _⟩ := planReservation?_eq_some found
    obtain rfl := state.reservation_eq_of_id_eq reservationIn firstMember sameId
    obtain ⟨planFree, othersFree, _⟩ := checkMove_eq_ok found checked
    have apart : secondOriginal.id ≠ reservation.id := by
      intro same
      obtain rfl := state.reservation_eq_of_id_eq secondMember firstMember same
      exact different rfl
    by_cases planned : secondOriginal.id ∈ run.planIds
    · have listed := accepted.final_mem_allPlanAssignments noCollision
        wellFormed rowsWellFormed secondMember planned secondRoom
      obtain ⟨present, secondFound, _⟩ := accepted.planned _ planned
      obtain ⟨_, presentIn, presentId, _⟩ := planReservation?_eq_some secondFound
      obtain rfl := state.reservation_eq_of_id_eq presentIn secondMember presentId
      exact planFree _ listed apart rfl present secondFound overlap
    · have stays : movedRoom moves secondOriginal.id = none := by
        by_contra movedToo
        obtain ⟨_, secondMoved⟩ := Option.ne_none_iff_exists'.mp movedToo
        obtain ⟨_, secondFound, _⟩ := accepted.exists_of_movedRoom secondMoved
        exact planned (planReservation?_eq_some secondFound).1
      rw [Reservation.inRoom_roomId, stays, Option.none_or] at secondRoom
      exact othersFree _ secondMember secondIn.2 planned secondRoom overlap

end Checks

/-- A run as the service leaves it: created by the solver, possibly accepted
or rejected since. -/
inductive PersistedRun
    (fingerprint : ReservationStatePayload -> String) : AllocationRun -> Prop
  | created
      (fxConfiguration : FxConfigurationSnapshot)
      (applyInitial initialApplied : Bool)
      (reservations : List Reservation)
      (slots : List ReservationSlot)
      (result : AllocationResult)
      (policyVersionId : Int)
      (contextKind : Option String) :
      PersistedRun fingerprint (runPersistedAllocation fingerprint fxConfiguration applyInitial
          initialApplied reservations slots result policyVersionId contextKind)
  | accepted
      {run accepted : AllocationRun}
      {state final : HotelState}
      {approvals : Finset Int}
      {userId : Option Int}
      {allowRoomBlockPlan : Bool}
      (stored : PersistedRun fingerprint run)
      (acceptance : acceptAllocationRun fingerprint state run approvals userId
        allowRoomBlockPlan = .ok (final, accepted)) :
      PersistedRun fingerprint accepted
  | rejected
      {run rejected : AllocationRun}
      (stored : PersistedRun fingerprint run)
      (rejection : rejectAllocationRun run = .ok rejected) :
      PersistedRun fingerprint rejected

section Runs

variable {fingerprint : ReservationStatePayload -> String} {state : HotelState} {run : AllocationRun}
  {approvals : Finset Int}

theorem AllocationRun.WellFormed.of_statuses
    (wellFormed : run.WellFormed fingerprint) {changed : AllocationRun}
    (status : AllocationAssignment -> AssignmentStatus)
    (rows : changed.assignments = run.assignments.map fun row => { row with status := status row })
    (sameExplanations : changed.assignmentExplanations = run.assignmentExplanations)
    (settled : ∀ row ∈ run.assignments, status row ≠ .proposed) :
    changed.WellFormed fingerprint where
  explanations := by
    rw [sameExplanations]
    exact wellFormed.explanations
  distinct := by
    rw [sameExplanations]
    exact wellFormed.distinct
  distinctRows := by
    rw [rows, List.map_map]
    exact wellFormed.distinctRows
  rows := by
    intro _
    refine Or.inr fun row member => ?_
    rw [rows] at member
    obtain ⟨original, originalIn, rfl⟩ := List.mem_map.mp member
    exact settled original originalIn

theorem acceptAllocationRun_eq_ok {userId : Option Int}
    {allowRoomBlockPlan : Bool} {final : HotelState} {accepted : AllocationRun}
    (acceptance : acceptAllocationRun fingerprint state run approvals userId
      allowRoomBlockPlan = .ok (final, accepted)) :
    run.status = .succeeded ∧ ((final = state ∧ accepted = run) ∨ (run.proposedRows ≠ [] ∧
          acceptProposals fingerprint state run approvals = .ok (final, accepted))) := by
  simp only [acceptAllocationRun, bind_eq_ok, raiseIf_eq_ok, not_not] at acceptance
  obtain ⟨_, succeeded, _, _, _, _, _, _, rest⟩ := acceptance
  refine ⟨succeeded, ?_⟩
  split at rest
  · simp only [bind_eq_ok, pure_eq_ok] at rest
    obtain ⟨_, _, same⟩ := rest
    cases same
    exact Or.inl ⟨rfl, rfl⟩
  · next pending => exact Or.inr ⟨pending, rest⟩

theorem acceptProposals_run {final : HotelState} {accepted : AllocationRun}
    (acceptance : acceptProposals fingerprint state run approvals = .ok (final, accepted)) :
    accepted = acceptedRun run approvals := by
  simp only [acceptProposals, bind_eq_ok, pure_eq_ok] at acceptance
  obtain ⟨_, _, _, _, _, _, _, _, _, _, _, _, _, _, _, _, result⟩ := acceptance
  exact (Prod.mk.inj result).2.symm

theorem PersistedRun.wellFormed (stored : PersistedRun fingerprint run) :
    run.WellFormed fingerprint := by
  induction stored with
  | created fxConfiguration applyInitial initialApplied reservations slots
      result policyVersionId contextKind =>
      exact runPersistedAllocation_wellFormed policyVersionId contextKind
  | @accepted run accepted _ _ approvals _ _ _ acceptance ih =>
      obtain ⟨_, ⟨_, rfl⟩ | ⟨_, proposals⟩⟩ := acceptAllocationRun_eq_ok acceptance
      · exact ih
      · rw [acceptProposals_run proposals]
        refine ih.of_statuses (fun row => if row.status = .proposed then
            if row.reservationId ∈ run.lockedMovesLeftUnchanged approvals
            then .manualReview else .applied else row.status) ?_ rfl ?_
        · refine List.map_congr_left fun row _ => ?_
          split
          · split <;> rfl
          · rfl
        · intro row _
          split
          · split <;> simp
          · next settled => exact settled
  | @rejected run rejected _ rejection ih =>
    simp only [rejectAllocationRun] at rejection
    split at rejection
    · simp only [bind_eq_ok, pure_eq_ok] at rejection
      obtain ⟨_, _, rfl⟩ := rejection
      exact ih
    · cases rejection
      refine ih.of_statuses (fun row => if row.status = .proposed then .rejected
          else row.status) ?_ rfl ?_
      · refine List.map_congr_left fun row _ => ?_
        split <;> rfl
      · intro row _
        split
        · simp
        · next settled => exact settled

/-- Accepting a stored run keeps the hotel free of double bookings, moves no
stay onto an active block of its new room, and moves no reservation that is
checked in or locked without approval. -/
theorem acceptAllocationRun_no_double_booking
    (fingerprint : ReservationStatePayload -> String) (state final : HotelState)
    (run accepted : AllocationRun) (approvals : Finset Int)
    (userId : Option Int) (allowRoomBlockPlan : Bool)
    (stored : PersistedRun fingerprint run)
    (noCollision : NoFingerprintCollision fingerprint state run)
    (noDoubleBooking : state.NoDoubleBooking)
    (acceptance : acceptAllocationRun fingerprint state run approvals userId
      allowRoomBlockPlan = .ok (final, accepted)) :
    final.NoDoubleBooking ∧ ∀ before ∈ state.reservations, ∀ after ∈ final.reservations,
        after.id = before.id -> after.roomId ≠ before.roomId ->
          (∃ roomId, after.roomId = some roomId ∧
            ∀ block ∈ final.blocks, block.roomId = roomId -> ¬block.BlocksWindow after.stay) ∧
          ¬after.HasPhysicalCheckIn ∧
          (state.ExplicitlyLocked before -> before.id ∈ approvals) := by
  obtain ⟨succeeded, ⟨rfl, rfl⟩ | ⟨pending, proposals⟩⟩ := acceptAllocationRun_eq_ok acceptance
  · refine ⟨noDoubleBooking, ?_⟩
    intro before beforeIn after afterIn sameId moved
    exact absurd (congrArg Reservation.roomId
      (final.reservation_eq_of_id_eq afterIn beforeIn sameId)) moved
  · have wellFormed := stored.wellFormed
    have rowsWellFormed : ∀ row ∈ run.assignments, row.WellFormed run := by
      refine (wellFormed.rows succeeded).resolve_right fun settled => ?_
      obtain ⟨row, member⟩ := List.exists_mem_of_ne_nil _ pending
      obtain ⟨rowIn, proposed⟩ := AllocationRun.mem_proposedRows.mp member
      exact settled row rowIn proposed
    obtain ⟨moves, moved⟩ := acceptProposals_eq_ok proposals
    refine ⟨moved.noDoubleBooking noCollision wellFormed rowsWellFormed noDoubleBooking, ?_⟩
    intro before beforeIn after afterIn sameId changed
    rw [moved.reservations] at afterIn
    obtain ⟨original, originalIn, rfl⟩ := HotelState.mem_assignRooms.mp afterIn
    obtain rfl := state.reservation_eq_of_id_eq originalIn beforeIn sameId
    cases target : movedRoom moves original.id with
    | none =>
      rw [target] at changed
      exact absurd rfl changed
    | some roomId =>
      obtain ⟨reservation, found, notCheckedIn, approved, checked⟩ :=
        moved.exists_of_movedRoom target
      obtain ⟨_, reservationIn, reservationId, _⟩ := planReservation?_eq_some found
      obtain rfl := state.reservation_eq_of_id_eq reservationIn originalIn reservationId
      refine ⟨⟨roomId, rfl, ?_⟩, notCheckedIn, approved⟩
      rw [moved.blocks]
      exact (checkMove_eq_ok found checked).2.2

end Runs

/-- Three nights from 10 March 2026, in room 7. -/
def proposedReservation : Reservation where
  id := 1
  roomId := some 7
  categoryId := 1
  checkInDate := 739685
  checkOutDate := 739688
  datesOrdered := by decide

/-- A hotel with that stay and a free room 8. -/
def proposedState : HotelState where
  reservations := [proposedReservation]
  distinctReservations := by decide
  rooms := twoRooms
  distinctRooms := twoRooms_distinct

/-- Digest of the snapshot of `proposedReservation` in hotel 1, and some other
value elsewhere. -/
def sampleFingerprint (payload : ReservationStatePayload) : String :=
  if payload = reservationStatePayload proposedReservation then
    "eec5313b3b1deee61f54ee60af72cbc02b6ea5daa00bfee961789bc6688a6a0e"
  else ""

def proposedRun : AllocationRun :=
  runPersistedAllocation sampleFingerprint {} true true [proposedReservation] []
    { success := true
      assignments := (∅ : AList fun _ : Int => Int).insert 1 8 } 0 none

/-- Accepting it moves the stay and books no room twice. -/
theorem acceptAllocationRun_no_double_booking_sample :
    (movePins (proposedState.assignRooms (movedRoom [(1, 8)])) ∅ [(1, 8)]).NoDoubleBooking :=
  (acceptAllocationRun_no_double_booking sampleFingerprint proposedState _
    proposedRun (acceptedRun proposedRun ∅) ∅ (some 1) false
    (.created {} true true [proposedReservation] [] _ 0 none)
    (by
      have snapshots : ∀ explanation ∈ proposedRun.assignmentExplanations,
          explanation.sourceState = reservationStatePayload proposedReservation := by decide
      intro explanation stored reservation member _ _
      rw [snapshots explanation stored, List.mem_singleton.mp member])
    (by
      intro first firstIn second secondIn different
      exact absurd ((List.mem_singleton.mp firstIn.1).trans
        (List.mem_singleton.mp secondIn.1).symm) different)
    rfl).1

end HotelPms.Allocation
