import HotelPms.Collaboration.Editing

/-!
# Drafts against the reservation route

An accepted draft is held to the same rules for rooms, paid dates and versions
as the reservation route.  It is not held to two more: that closed stays take
notes of their arrival and comments only, and that stays of companies are edited
by those who manage companies.  So the route accepts the fields of an accepted
draft exactly when these two rules hold.
-/

namespace HotelPms.Collaboration

open Hotel Checked Booking Stays

/-- A draft submits another value for a field.  A room that is taken away is no
change. -/
def ChangesField (reservation : EditedReservation) (draft : Draft) (field : EditableField) : Prop :=
  draft field ≠ none ∧ draft field ≠ some (reservation.values field) ∧
    ¬(field = .roomId ∧ draft field = some none)

section Plans

variable {reservation : EditedReservation} {draft merged : Draft} {field : EditableField}

theorem mem_fields : field ∈ draft.fields ↔ draft field ≠ none := by
  unfold Draft.fields
  rw [List.mem_filter, Option.isSome_iff_ne_none]
  exact and_iff_right field.mem_all

theorem plan_ne_none : (buildReservationUpdatePlan reservation draft).changes field ≠ none ↔
      ChangesField reservation draft field := by
  unfold ChangesField
  show (draft field).filter _ ≠ none ↔ _
  cases draft field with
  | none => simp
  | some value =>
    rw [Option.filter_some]
    simp only [decide_eq_true_eq, ne_eq, ite_eq_right_iff, reduceCtorEq, not_forall,
      Option.some.injEq, not_false_eq_true, true_and, exists_prop, and_true]
    rw [and_comm, eq_comm]

theorem mem_plan_fields : field ∈ (buildReservationUpdatePlan reservation draft).changes.fields ↔
      ChangesField reservation draft field :=
  mem_fields.trans plan_ne_none

theorem plan_fields_ne_nil : (buildReservationUpdatePlan reservation draft).changes.fields ≠ [] ↔
      ∃ field, ChangesField reservation draft field := by
  constructor
  · intro changed
    obtain ⟨field, member⟩ := List.exists_mem_of_ne_nil _ changed
    exact ⟨field, mem_plan_fields.mp member⟩
  · rintro ⟨field, changed⟩
    exact List.ne_nil_of_mem (mem_plan_fields.mpr changed)

end Plans

section Preparation

variable {tables : EditSurroundings} {reservation : EditedReservation}
  {draft : Draft} {manager : Bool}
  {authorization : ReservationUpdateAuthorization}

theorem authorized_eq_ok {α : Type} {check : Except HttpError α} {value : α} :
    authorized check = .ok value ↔ check = .ok value := by
  unfold authorized
  cases check with
  | error error => simp [Except.mapError]
  | ok found => simp [Except.mapError]

/-- A closed stay is changed in its metadata only. -/
def MetadataOnly (reservation : EditedReservation) (draft : Draft) : Prop :=
  reservation.status ∈ updateRestrictedStatuses -> ∀ field, ChangesField reservation draft field ->
      field = .arrivalTimeHint ∨ field = .reservationComment

theorem statusRestrictedFields_eq_nil (noTotal : draft .totalAmount = none) :
    (buildReservationUpdatePlan reservation draft).statusRestrictedFields
        reservation.status [.arrivalTimeHint, .reservationComment]
        [.totalAmount] = [] ↔ MetadataOnly reservation draft := by
  unfold ReservationUpdatePlan.statusRestrictedFields MetadataOnly
  split_ifs with closed
  · rw [List.filter_eq_nil_iff]
    simp only [closed, forall_const, decide_eq_true_eq, not_and, not_not]
    constructor
    · intro allowed field changed
      by_contra outside
      have isTotal := allowed field (mem_plan_fields.mpr changed) (by
        simpa using outside)
      rw [List.mem_singleton.mp isTotal] at changed
      exact changed.1 noTotal
    · intro allowed field member outside
      exact absurd (allowed field (mem_plan_fields.mp member)) (by
        simpa using outside)
  · simp [closed]

theorem plan_eq_none_of_unsubmitted {field : EditableField} (unsubmitted : draft field = none) :
    (buildReservationUpdatePlan reservation draft).changes field = none := by
  by_contra changed
  exact (plan_ne_none.mp changed).1 unsubmitted

theorem exists_prepareReservationUpdate (noTotal : draft .totalAmount = none) :
    (∃ prepared, prepareReservationUpdate tables reservation draft
        (some reservation.version) manager authorization = .ok prepared) ↔
      (reservation.companyId ≠ none -> (∃ field, ChangesField reservation draft field) ->
          authorization.companyManagement = .ok ()) ∧
      (ChangesField reservation draft .roomId -> authorization.roomMove = .ok ()) ∧
      ((ChangesField reservation draft .checkInDate ∨ ChangesField reservation draft .checkOutDate ∨
          ChangesField reservation draft .numAdults ∨
          ChangesField reservation draft .numChildren) ->
        reservationHasPaymentOrDeposit tables reservation = true -> manager = true) ∧
      MetadataOnly reservation draft := by
  have moved {field : EditableField} :
      ((buildReservationUpdatePlan reservation draft).changes field).isSome =
        true ↔ ChangesField reservation draft field := by
    rw [Option.isSome_iff_ne_none]
    exact plan_ne_none
  have total : prepareTotalAdjustment tables reservation
      (buildReservationUpdatePlan reservation draft) authorization = .ok {} := by
    unfold prepareTotalAdjustment
    rw [if_pos (plan_eq_none_of_unsubmitted noTotal)]
  unfold prepareReservationUpdate
  simp only [bind_eq_ok, raiseIf_eq_ok, whenNeeded_eq_ok, authorized_eq_ok, total, Except.ok.injEq,
    exists_eq_left', exists_const, statusRestrictedFields_eq_nil noTotal, not_not]
  have dates : ((buildReservationUpdatePlan reservation draft).datesChanged ||
        (buildReservationUpdatePlan reservation draft).occupancyChanged) = true ↔
        ChangesField reservation draft .checkInDate ∨ ChangesField reservation draft .checkOutDate ∨
          ChangesField reservation draft .numAdults ∨
          ChangesField reservation draft .numChildren := by
    unfold ReservationUpdatePlan.datesChanged ReservationUpdatePlan.occupancyChanged
    rw [Bool.or_eq_true, Bool.or_eq_true, Bool.or_eq_true, moved, moved, moved, moved]
    tauto
  have paid (changed : Prop) :
      ¬(changed ∧ reservationHasPaymentOrDeposit tables reservation = true ∧ manager = false) ↔
        (changed -> reservationHasPaymentOrDeposit tables reservation = true -> manager = true) := by
    rw [not_and, not_and, Bool.not_eq_false]
  have current : ¬(some reservation.version).any (reservation.version ≠ ·) = true := by
    simp
  simp only [dates, paid, plan_fields_ne_nil, and_imp]
  constructor
  · rintro ⟨prepared, company, room, allowed, closed, -, -⟩
    exact ⟨company, fun moves => room (plan_ne_none.mpr moves), allowed, closed⟩
  · rintro ⟨company, room, allowed, closed⟩
    have checks : (buildReservationUpdatePlan reservation draft).changes
        .roomId ≠ none -> authorization.roomMove = .ok () :=
      fun moves => room (plan_ne_none.mp moves)
    split_ifs with unchanged
    · exact ⟨_, company, checks, allowed, closed, current, rfl⟩
    · exact ⟨_, company, checks, allowed, closed, current, rfl⟩

end Preparation

section Drafts

variable {tables : EditSurroundings} {context : AuthContext}
  {state after : EditingState} {reservationId : Int}
  {reservation : EditedReservation} {data : CollaborationPatchRequest}
  {merged : Draft}

theorem totalAmount_eq_none {maxFields : Nat} {draft : Draft}
    (valid : validateDraftChanges maxFields draft = .ok ()) :
    draft .totalAmount = none := by
  unfold validateDraftChanges at valid
  simp only [bind_eq_ok, raiseIf_eq_ok] at valid
  obtain ⟨_, -, _, editable, -⟩ := valid
  by_contra submitted
  exact editable ⟨.totalAmount, mem_fields.mpr submitted, by decide⟩

theorem mergedChanges_eq_ok (accepted : mergedChanges tables reservation data = .ok merged) :
    data.changes .totalAmount = none ∧ ∀ field, ChangesField reservation data.changes field ->
        merged field = data.changes field := by
  unfold mergedChanges at accepted
  simp only [bind_eq_ok] at accepted
  obtain ⟨_, valid, accepted⟩ := accepted
  refine ⟨totalAmount_eq_none valid, fun field changed => ?_⟩
  split_ifs at accepted with current
  · cases accepted
    rfl
  · simp only [bind_eq_ok] at accepted
    obtain ⟨_, -, _, -, accepted⟩ := accepted
    cases accepted
    exact if_neg changed.2.1

theorem patchCollaborativeResource_eq_ok
    (accepted : patchCollaborativeResource tables context state reservationId data = .ok after)
    (loaded : state.load reservationId = some reservation) :
    context.isVerified = true ∧ ∃ merged, mergedChanges tables reservation data = .ok merged ∧
        (merged.fields ≠ [] ->
          checkDraftAuthorization tables context reservation merged = .ok ()) := by
  unfold patchCollaborativeResource at accepted
  simp only [bind_eq_ok, loaded] at accepted
  obtain ⟨_, reads, _, -, _, -, merged, isMerged, accepted⟩ := accepted
  unfold requirePermission at reads
  simp only [bind_eq_ok, raiseIf_eq_ok] at reads
  obtain ⟨_, verified, -⟩ := reads
  refine ⟨Bool.not_eq_false _ ▸ verified, merged, isMerged, fun changes => ?_⟩
  rw [if_neg changes] at accepted
  obtain ⟨_, checked, -⟩ := bind_eq_ok.mp accepted
  exact checked

theorem checkDraftAuthorization_eq_ok
    (checked : checkDraftAuthorization tables context reservation merged = .ok ()) :
    (ChangesField reservation merged .roomId ->
      reservationMoveTierPermissions.any context.resolve = true) ∧
      ((ChangesField reservation merged .checkInDate ∨
          ChangesField reservation merged .checkOutDate ∨
          ChangesField reservation merged .numAdults ∨
          ChangesField reservation merged .numChildren) ->
        reservationHasPaymentOrDeposit tables reservation = true -> context.isManager = true) := by
  unfold checkDraftAuthorization at checked
  simp only [bind_eq_ok, raiseIf_eq_ok, whenNeeded_eq_ok] at checked
  obtain ⟨_, moves, paid⟩ := checked
  constructor
  · rintro ⟨submitted, differs, kept⟩
    obtain ⟨room, isRoom⟩ := Option.ne_none_iff_exists'.mp submitted
    rw [isRoom] at differs kept
    have moved : MovesRoom reservation merged := by
      unfold MovesRoom
      rw [isRoom]
      refine ⟨(kept ⟨rfl, congrArg some ·⟩), fun same => ?_⟩
      exact differs (congrArg some same)
    have granted := moves moved
    unfold ensureActionPermission at granted
    rw [raiseIf_eq_ok, Bool.not_eq_false] at granted
    exact granted
  · intro changed isPaid
    rw [← Bool.not_eq_false]
    intro notManager
    refine paid ⟨?_, isPaid, notManager⟩
    rcases changed with checkIn | checkOut | adults | children
    · exact .inl (.inl checkIn.1)
    · exact .inl (.inr checkOut.1)
    · exact .inr (.inl ⟨adults.1, adults.2.1⟩)
    · exact .inr (.inr ⟨children.1, children.2.1⟩)

/-- The rules that the reservation route has and drafts do not: stays of
companies are edited by those who manage companies, and closed stays in their
metadata only. -/
structure KeepsRouteRules (context : AuthContext)
    (reservation : EditedReservation) (draft : Draft) : Prop where
  company : reservation.companyId ≠ none -> (∃ field, ChangesField reservation draft field) ->
      context.resolve "company:manage" = true ∧ context.steppedUp "company:manage" = true
  closed : MetadataOnly reservation draft

theorem companyManagement_eq_ok (verified : context.isVerified = true)
    (isCompany : reservation.companyId ≠ none) :
    (modifyReservationAuthorization context reservation).companyManagement = .ok () ↔
      context.resolve "company:manage" = true ∧ context.steppedUp "company:manage" = true := by
  unfold modifyReservationAuthorization
  rw [if_pos isCompany]
  unfold authorizePermission
  simp only [bind_eq_ok, raiseIf_eq_ok, verified]
  simp

theorem roomMove_eq_ok : (modifyReservationAuthorization context reservation).roomMove = .ok () ↔
      reservationMoveTierPermissions.any context.resolve = true := by
  unfold modifyReservationAuthorization ensureActionPermission
  rw [raiseIf_eq_ok, Bool.not_eq_false]
  rfl

/-- The reservation route accepts the fields of an accepted draft exactly when
they keep the rules that drafts are not held to. -/
theorem route_accepts_draft_iff
    (accepted : patchCollaborativeResource tables context state reservationId data = .ok after)
    (loaded : state.load reservationId = some reservation) :
    (∃ prepared, prepareReservationUpdate tables reservation data.changes
        (some reservation.version) context.isManager
        (modifyReservationAuthorization context reservation) = .ok prepared) ↔
      KeepsRouteRules context reservation data.changes := by
  obtain ⟨verified, merged, isMerged, checks⟩ := patchCollaborativeResource_eq_ok accepted loaded
  obtain ⟨noTotal, kept⟩ := mergedChanges_eq_ok isMerged
  have carried : ∀ {field}, ChangesField reservation data.changes field ->
      ChangesField reservation merged field := by
    intro field changed
    unfold ChangesField
    rw [kept field changed]
    exact changed
  have checked : ∀ {field}, ChangesField reservation data.changes field ->
      checkDraftAuthorization tables context reservation merged = .ok () := by
    intro field changed
    exact checks (List.ne_nil_of_mem (mem_fields.mpr (carried changed).1))
  rw [exists_prepareReservationUpdate noTotal]
  constructor
  · rintro ⟨company, -, -, closed⟩
    refine ⟨fun isCompany changed => ?_, closed⟩
    exact (companyManagement_eq_ok verified isCompany).mp (company isCompany changed)
  · rintro ⟨company, closed⟩
    refine ⟨?_, ?_, ?_, closed⟩
    · intro isCompany changed
      exact (companyManagement_eq_ok verified isCompany).mpr (company isCompany changed)
    · intro moves
      exact roomMove_eq_ok.mpr ((checkDraftAuthorization_eq_ok (checked moves)).1 (carried moves))
    · intro changed
      have passed : checkDraftAuthorization tables context reservation merged = .ok () := by
        rcases changed with moves | moves | moves | moves
        · exact checked moves
        · exact checked moves
        · exact checked moves
        · exact checked moves
      apply (checkDraftAuthorization_eq_ok passed).2
      exact changed.imp carried (.imp carried (.imp carried carried))

end Drafts

/-- A reservation without a room. -/
def bookedStay (status : ReservationStatus) : Reservation where
  id := 7
  roomId := none
  categoryId := 1
  checkInDate := 20
  checkOutDate := 23
  datesOrdered := by decide
  status := status

/-- A hotel with one reservation. -/
def oneBooking (status : ReservationStatus) : EditingState where
  hotel :=
    { reservations := [bookedStay status], distinctReservations := List.nodup_singleton _
      rooms := [], distinctRooms := List.nodup_nil }
  details := fun _ => {}

/-- A receptionist who may edit reservations. -/
def receptionist : AuthContext where
  userId := some 5
  userRole := some "receptionist"
  isVerified := true
  resolve := fun permission =>
    decide (permission = "reservation:read" ∨ permission = "reservation:update")

def notesDraft : CollaborationPatchRequest where
  baseRevision := "pending"
  changes := fun
    | .notes => some (some "Late arrival")
    | _ => none
  baseValues := fun
    | .notes => some none
    | _ => none

/-- Tables in which the revision of a resource is its notes. -/
def quietTables : EditSurroundings where
  resourceRevision := fun values => (values .notes).getD ""

/-- The reservation route takes the notes of a pending reservation. -/
theorem route_accepts_draft_iff_pending :
    ∃ after reservation prepared, patchCollaborativeResource quietTables receptionist
          (oneBooking .pending) 7 notesDraft = .ok after ∧
        (oneBooking .pending).load 7 = some reservation ∧
        prepareReservationUpdate quietTables reservation notesDraft.changes
          (some reservation.version) receptionist.isManager
          (modifyReservationAuthorization receptionist reservation) = .ok prepared := by
  have isAccepted : (patchCollaborativeResource quietTables receptionist
      (oneBooking .pending) 7 notesDraft).toOption.isSome = true := by
    decide +kernel
  obtain ⟨after, isAfter⟩ := Option.isSome_iff_exists.mp isAccepted
  have accepted := toOption_eq_some isAfter
  have loaded : (oneBooking .pending).load 7 = some { bookedStay .pending with } := rfl
  have keeps : KeepsRouteRules receptionist { bookedStay .pending with } notesDraft.changes := by
    constructor
    · intro isCompany
      exact absurd rfl isCompany
    · intro isClosed
      exact absurd isClosed (by decide)
  obtain ⟨prepared, isPrepared⟩ := (route_accepts_draft_iff accepted loaded).mpr keeps
  exact ⟨after, _, prepared, accepted, loaded, isPrepared⟩

/-- A draft writes the notes of a closed stay, which the reservation route
does not change. -/
theorem draft_edits_closed_stay :
    ∃ after reservation, patchCollaborativeResource quietTables receptionist
          (oneBooking .checkedOut) 7 notesDraft = .ok after ∧
        (after.details 7).notes = some "Late arrival" ∧
        (oneBooking .checkedOut).load 7 = some reservation ∧
        ∀ prepared, prepareReservationUpdate quietTables reservation
          notesDraft.changes (some reservation.version) receptionist.isManager
          (modifyReservationAuthorization receptionist reservation) ≠ .ok prepared := by
  have written : (patchCollaborativeResource quietTables receptionist
      (oneBooking .checkedOut) 7 notesDraft).toOption.map (fun after => (after.details 7).notes) =
      some (some "Late arrival") := by
    decide +kernel
  obtain ⟨after, isAfter, isNotes⟩ := Option.map_eq_some_iff.mp written
  have refused : (prepareReservationUpdate quietTables
      { bookedStay .checkedOut with } notesDraft.changes (some 0)
      receptionist.isManager
      (modifyReservationAuthorization receptionist
        { bookedStay .checkedOut with })).toOption.isSome = false := by
    decide +kernel
  refine ⟨after, _, toOption_eq_some isAfter, isNotes, rfl, ?_⟩
  intro prepared isPrepared
  have succeeds := congrArg (·.toOption.isSome) isPrepared
  exact Bool.false_ne_true (refused.symm.trans succeeds)

end HotelPms.Collaboration
