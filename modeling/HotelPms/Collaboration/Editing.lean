import HotelPms.Stays.RoomMoves

/-!
# Two ways to edit a reservation

The fields of a reservation are edited through the reservation route, which
prepares an update before it writes one, and through collaborative drafts, which
are merged field by field.  Both write with the same mutator, and each checks
on its own what the actor may change.
-/

namespace HotelPms.Collaboration

open Hotel Checked Booking Stays

/-- Fields of a reservation that a request may submit. -/
inductive EditableField
  | roomId
  | allocationLocked
  | checkInDate
  | checkOutDate
  | totalAmount
  | numAdults
  | numChildren
  | notes
  | arrivalTimeHint
  | reservationComment
  | mobilityRestriction
  deriving DecidableEq

namespace EditableField

/-- The fields in their order in the schema. -/
def all : List EditableField :=
  [.roomId, .allocationLocked, .checkInDate, .checkOutDate, .totalAmount,
    .numAdults, .numChildren, .notes, .arrivalTimeHint, .reservationComment,
    .mobilityRestriction]

/-- Values of a field, next to null. -/
abbrev Value : EditableField -> Type
  | .roomId | .checkInDate | .checkOutDate | .numAdults | .numChildren => Int
  | .allocationLocked | .mobilityRestriction => Bool
  | .totalAmount => ℚ
  | .notes | .arrivalTimeHint | .reservationComment => String

instance decidableEqValue : (field : EditableField) -> DecidableEq field.Value
  | .roomId | .checkInDate | .checkOutDate | .numAdults | .numChildren =>
    inferInstanceAs (DecidableEq Int)
  | .allocationLocked | .mobilityRestriction => inferInstanceAs (DecidableEq Bool)
  | .totalAmount => inferInstanceAs (DecidableEq ℚ)
  | .notes | .arrivalTimeHint | .reservationComment =>
    inferInstanceAs (DecidableEq String)

theorem mem_all (field : EditableField) : field ∈ all := by
  cases field <;> decide

end EditableField

/-- Submitted fields; one that is left out is `none`, and null is
`some none`. -/
abbrev Draft := (field : EditableField) -> Option (Option field.Value)

/-- Values of the fields of a reservation. -/
abbrev Values := (field : EditableField) -> Option field.Value

variable (draft : Draft) (tables : EditSurroundings) (context : AuthContext)
  (reservation : EditedReservation)

def Draft.fields : List EditableField :=
  EditableField.all.filter fun field => (draft field).isSome

/-- Columns of a reservation next to those of its stay. -/
structure ReservationDetails where
  notes : Option String := none
  arrivalTimeHint : Option String := none
  reservationComment : Option String := none
  totalAmount : ℚ := 0
  amountPaid : ℚ := 0
  externalPaidAmount : ℚ := 0
  externalPaidEverConfirmed : Bool := false

/-- A reservation as the two routes load it. -/
structure EditedReservation extends Reservation, ReservationDetails

def EditedReservation.values : Values
  | .roomId => reservation.roomId
  | .allocationLocked => some reservation.allocationLocked
  | .checkInDate => some reservation.checkInDate
  | .checkOutDate => some reservation.checkOutDate
  | .totalAmount => some reservation.totalAmount
  | .numAdults => some reservation.numAdults
  | .numChildren => some reservation.numChildren
  | .notes => reservation.notes
  | .arrivalTimeHint => reservation.arrivalTimeHint
  | .reservationComment => reservation.reservationComment
  | .mobilityRestriction => some reservation.mobilityRestriction

/-- Who asks for an edit. -/
structure AuthContext where
  userId : Option Int := none
  userRole : Option String := none
  baseRole : Option String := none
  isVerified : Bool := false
  /-- Decisions of the permission tables for the role and the user. -/
  resolve : String -> Bool
  /-- The action needs no second factor, or the request carries a ticket for
  it. -/
  steppedUp : String -> Bool := fun _ => true

namespace AuthContext

variable (context : AuthContext)

def operationalRole : Option String :=
  match context.baseRole with
  | none => context.userRole
  | some role => if role = "" then context.userRole else some role

/-- The actor is an owner, a co-owner or a manager. -/
def isManager : Bool :=
  decide (context.operationalRole = some "owner" ∨ context.operationalRole = some "co_owner" ∨
    context.operationalRole = some "manager")

end AuthContext

/-- An answer other than success. -/
structure HttpError where
  statusCode : Nat
  detail : String

/-- What the tables outside of these routes answer. -/
structure EditSurroundings where
  hasAnyTransaction : Int -> Bool := fun _ => false
  deferredCompanyBilling : Int -> Bool := fun _ => false
  /-- The reservation is a direct individual one. -/
  manualRateTarget : Int -> Except String Unit := fun _ => .ok ()
  /-- Restrictions of the guest. -/
  restrictionChecks : Except String Unit := .ok ()
  /-- Total of a reservation at new dates. -/
  newTotal : Int × Int -> Except String ℚ := fun _ => .ok 0
  resourceRevision : Values -> String
  maxPatchFields : Nat := 20

def reservationHasPaymentOrDeposit : Bool :=
  decide (reservation.status = .depositPaid ∨
    reservation.status = .fullyPaid ∨ 0 < reservation.amountPaid ∨
    0 < reservation.externalPaidAmount ∨
    reservation.externalPaidEverConfirmed = true ∨
    tables.hasAnyTransaction reservation.id = true)

def updateRestrictedStatuses : List ReservationStatus :=
  [.partialCheckIn, .checkedIn, .checkedOut, .cancelled, .noShow]

/-- Fields that an edit really changes. -/
structure ReservationUpdatePlan where
  changes : Draft

namespace ReservationUpdatePlan

variable (plan : ReservationUpdatePlan)

def datesChanged : Bool :=
  (plan.changes .checkInDate).isSome || (plan.changes .checkOutDate).isSome

def occupancyChanged : Bool :=
  (plan.changes .numAdults).isSome || (plan.changes .numChildren).isSome

def statusRestrictedFields (status : ReservationStatus)
    (metadataFields additionallyAllowedFields : List EditableField) :
    List EditableField :=
  if status ∈ updateRestrictedStatuses then
    plan.changes.fields.filter fun field =>
      field ∉ metadataFields ∧ field ∉ additionallyAllowedFields
  else []

end ReservationUpdatePlan

/-- The submitted fields that differ from the reservation; a room submitted as
null is left out. -/
def buildReservationUpdatePlan (submitted : Draft) : ReservationUpdatePlan where
  changes field := (submitted field).filter fun value =>
    ¬(field = .roomId ∧ value = none) ∧ reservation.values field ≠ value

/-- Permission checks of the route, made when the update needs them. -/
structure ReservationUpdateAuthorization where
  companyManagement : Except HttpError Unit
  paidTotalAdjustment : Except HttpError Unit
  manualRateScope : Except HttpError String
  roomMove : Except HttpError Unit

/-- Why an update is not prepared. -/
inductive ReservationUpdateError
  | unauthorized (error : HttpError)
  | preparation (code : String) (detail : Option String)
  | confirmedReservationPriceLocked (detail : String)
  | versionConflict (detail : String)

/-- A refusal of a permission check. -/
def authorized {α : Type} (check : Except HttpError α) : Except ReservationUpdateError α :=
  check.mapError .unauthorized

/-- A check that is made when it is needed. -/
def whenNeeded {ε : Type} (needed : Prop) [Decidable needed]
    (check : Except ε Unit) : Except ε Unit :=
  if needed then check else .ok ()

@[simp] theorem whenNeeded_eq_ok {ε : Type} {needed : Prop}
    [Decidable needed] {check : Except ε Unit} {done : Unit} :
    whenNeeded needed check = .ok done ↔ (needed -> check = .ok ()) := by
  unfold whenNeeded
  split_ifs with isNeeded
  · simp [isNeeded]
  · simp [isNeeded]

/-- How a corrected total is authorized. -/
structure TotalAdjustment where
  kind : Option String := none
  manualRateScope : Option String := none

/-- An update that may be written: the changes of the plan, and the version
they are sent with. -/
structure PreparedReservationUpdate where
  plan : ReservationUpdatePlan
  updateData : Option Int
  previousAllocationInterval : Int × Int
  totalAdjustment : TotalAdjustment

/-- Checks of a corrected total, if there is one. -/
def prepareTotalAdjustment (plan : ReservationUpdatePlan)
    (authorization : ReservationUpdateAuthorization) :
    Except ReservationUpdateError TotalAdjustment :=
  if plan.changes .totalAmount = none then .ok {}
  else do
    raiseIf (tables.deferredCompanyBilling reservation.id = true)
      (.preparation "deferred_company_billing"
        (some ("El alojamiento de esta empresa se factura fuera del PMS y " ++
          "no admite correcciones de importe aquí.")))
    let paid := reservationHasPaymentOrDeposit tables reservation
    raiseIf (reservation.roomId ≠ none ∧ paid = true) (.confirmedReservationPriceLocked
        ("La reserva tiene habitación y pago asignados. El cambio de " ++
          "tarifa quedó bloqueado; solicitá una revisión manual."))
    if paid = true then do
      authorized authorization.paidTotalAdjustment
      pure { kind := some "paid" }
    else do
      (tables.manualRateTarget reservation.id).mapError fun detail =>
        ReservationUpdateError.preparation "manual_rate_target" (some detail)
      let scope ← authorized authorization.manualRateScope
      pure { kind := some "manual", manualRateScope := some scope }

/-- Resolve an edit into an authorized update. -/
def prepareReservationUpdate (data : Draft) (clientVersion : Option Int) (actorIsManager : Bool)
    (authorization : ReservationUpdateAuthorization) :
    Except ReservationUpdateError PreparedReservationUpdate := do
  let plan := buildReservationUpdatePlan reservation data
  whenNeeded (reservation.companyId ≠ none ∧ plan.changes.fields ≠ [])
    (authorized authorization.companyManagement)
  let totalAdjustment ← prepareTotalAdjustment tables reservation plan authorization
  whenNeeded (plan.changes .roomId ≠ none) (authorized authorization.roomMove)
  raiseIf ((plan.datesChanged || plan.occupancyChanged) = true ∧
      reservationHasPaymentOrDeposit tables reservation = true ∧
      actorIsManager = false)
    (.preparation "paid_dates_require_manager"
      (some ("Modificar fechas u ocupación de una reserva con pagos " ++
        "requiere gerente, dueño o codueño.")))
  raiseIf (plan.statusRestrictedFields reservation.status
      [.arrivalTimeHint, .reservationComment] [.totalAmount] ≠ [])
    (.preparation "status_restricted" none)
  raiseIf ((clientVersion.any (reservation.version ≠ ·)) = true)
    (.versionConflict ("La reserva fue modificada por otra persona. " ++
      "Recargá e intentá de nuevo."))
  let prepared : PreparedReservationUpdate :=
    { plan := plan, updateData := none, previousAllocationInterval := reservation.stay
      totalAdjustment := totalAdjustment }
  if plan.changes.fields = [] then pure prepared
  else
    match clientVersion with
    | none =>
      throw (.preparation "client_version_required"
        (some ("client_version es obligatorio para modificar una " ++
          "reserva. Recargá e intentá nuevamente.")))
    | some version => pure { prepared with updateData := some version }

/-- Authorize a permission, with the second factor its actions need. -/
def authorizePermission (permission : String) : Except HttpError Unit := do
  raiseIf (context.isVerified = false)
    { statusCode := 403, detail := "Verifica tu email para usar el sistema" }
  raiseIf (context.resolve permission = false)
    { statusCode := 403, detail := "No tenes permisos para esta accion" }
  raiseIf (context.steppedUp permission = false) { statusCode := 428, detail := "STEP_UP_REQUIRED" }

def reservationMoveTierPermissions : List String :=
  ["reservation:move", "reservation:move_category", "reservation:move_capacity"]

def ensureActionPermission (permissions : List String) (detail : String) : Except HttpError Unit :=
  raiseIf (permissions.any context.resolve = false) { statusCode := 403, detail := detail }

/-- The widest manual rate the actor may set. -/
def authorizeManualRateScope : Except HttpError String :=
  if context.resolve "reservation:manual_rate" = true then .ok "unbounded"
  else if context.resolve "reservation:manual_rate_limited" = true then
    .ok "bounded"
  else
    .error
      { statusCode := 403
        detail :=
          "No tenes permisos para fijar una tarifa manual en la reserva." }

/-- The permission checks of the reservation route. -/
def modifyReservationAuthorization : ReservationUpdateAuthorization where
  companyManagement :=
    if reservation.companyId ≠ none then
      authorizePermission context "company:manage"
    else .ok ()
  paidTotalAdjustment :=
    authorizePermission context "reservation:paid_total_adjust"
  manualRateScope := authorizeManualRateScope context
  roomMove := ensureActionPermission context
    ("reservation:move" :: reservationMoveTierPermissions.tail)
    "No tenes permisos para esta accion"

/-- The stay columns of an edit. -/
def Draft.stayUpdate : ReservationUpdate where
  roomId := draft .roomId
  allocationLocked := (draft .allocationLocked).join
  checkInDate := draft .checkInDate
  checkOutDate := draft .checkOutDate
  numAdults := (draft .numAdults).map (·.getD 0)
  numChildren := (draft .numChildren).map (·.getD 0)
  mobilityRestriction :=
    (draft .mobilityRestriction).map (·.getD false)

def Draft.WritesNull : Prop :=
  draft .numAdults = some none ∨ draft .numChildren = some none ∨
    draft .mobilityRestriction = some none
deriving Decidable

def checkSubmittedRoom (state : HotelState) (update : ReservationUpdate)
    (loaded : Reservation) : Except String Unit :=
  match update.submittedRoom? with
  | none => .ok ()
  | some roomId => update.checkNewRoom loaded roomId state

/-- Write an edit that submits no total. -/
def updateReservationFields (state : HotelState) (reservation : EditedReservation) (data : Draft)
    (clientVersion : Option Int) : Except String EditedReservation := do
  let loaded := reservation.toReservation
  let update := data.stayUpdate
  lockReservationVersion state loaded clientVersion
  tables.restrictionChecks
  update.checkDates loaded state
  let total ← if update.changesDates then tables.newTotal (update.stayAfter loaded)
    else pure reservation.totalAmount
  checkSubmittedRoom state update loaded
  raiseIf data.WritesNull "NOT NULL constraint failed"
  let row ← update.flush loaded loaded
  pure { row with
      toReservationDetails :=
        { reservation.toReservationDetails with
          notes := (data .notes).getD reservation.notes
          arrivalTimeHint :=
            (data .arrivalTimeHint).getD reservation.arrivalTimeHint
          reservationComment :=
            (data .reservationComment).getD reservation.reservationComment
          totalAmount := total } }

def reservationFields : List EditableField :=
  [.roomId, .checkInDate, .checkOutDate, .numAdults, .numChildren, .notes,
    .arrivalTimeHint, .reservationComment, .mobilityRestriction]

def collaborationMaxTextLength : Nat := 4000

def collaborationMaxFields : Nat := 20

def Draft.TextsFit : Prop :=
  ∀ text ∈ [draft .notes, draft .arrivalTimeHint, draft .reservationComment],
    (text.join.all fun (letters : String) => letters.length ≤ collaborationMaxTextLength) = true
deriving Decidable

/-- Check a draft against the fields it may carry. -/
def validateDraftChanges (maxFields : Nat) (changes : Draft) : Except HttpError Unit := do
  raiseIf (max 1 (min maxFields 100) < changes.fields.length)
    { statusCode := 409, detail := "A collaboration patch cannot contain so many fields" }
  raiseIf (∃ field ∈ changes.fields, field ∉ reservationFields)
    { statusCode := 409, detail := "Field is not editable" }
  raiseIf (¬changes.TextsFit)
    { statusCode := 409, detail := "Field exceeds the collaboration text limit" }

/-- A field conflicts when the server has left the client's base value, and
the client writes another one. -/
def ConflictsAt (server : Values) (base changes : Draft) (field : EditableField) : Prop :=
  changes field ≠ none ∧ base field ≠ some (server field) ∧ changes field ≠ some (server field)
deriving Decidable

def conflictingFields (server : Values) (base changes : Draft) : List EditableField :=
  EditableField.all.filter (ConflictsAt server base changes ·)

/-- A draft sent by an editor. -/
structure CollaborationPatchRequest where
  baseRevision : String
  changes : Draft
  baseValues : Draft := fun _ => none

/-- The changes of a draft, merged into a resource that may have moved on. -/
def mergedChanges (data : CollaborationPatchRequest) : Except HttpError Draft := do
  validateDraftChanges tables.maxPatchFields data.changes
  let current := reservation.values
  if data.baseRevision = tables.resourceRevision current then
    pure data.changes
  else do
    validateDraftChanges tables.maxPatchFields data.baseValues
    raiseIf (conflictingFields current data.baseValues data.changes ≠ [])
      { statusCode := 409, detail := "COLLABORATION_CONFLICT" }
    pure fun field =>
      if data.changes field = some (current field) then none
      else data.changes field

/-- The actor holds a permission of the resource. -/
def requirePermission (permission : String) : Except HttpError Unit := do
  raiseIf (context.isVerified = false)
    { statusCode := 403, detail := "Verifica tu email para usar el sistema" }
  raiseIf (context.resolve permission = false)
    { statusCode := 403, detail := "No tenes permisos para esta accion" }

def MovesRoom (changes : Draft) : Prop :=
  (changes .roomId).join ≠ none ∧ (changes .roomId).join ≠ reservation.roomId
deriving Decidable

/-- The draft carries dates, or other counts of guests.  Dates of a draft are
texts, which never equal the date of a reservation. -/
def ChangesDatesOrOccupancy (changes : Draft) : Prop :=
  (changes .checkInDate ≠ none ∨ changes .checkOutDate ≠ none) ∨ (changes .numAdults ≠ none ∧
      changes .numAdults ≠ some (some reservation.numAdults)) ∨
    (changes .numChildren ≠ none ∧ changes .numChildren ≠ some (some reservation.numChildren))
deriving Decidable

/-- What a draft changes is allowed to the actor. -/
def checkDraftAuthorization (changes : Draft) : Except HttpError Unit := do
  whenNeeded (MovesRoom reservation changes)
    (ensureActionPermission context reservationMoveTierPermissions
      "No tenes permisos para mover la reserva")
  raiseIf (ChangesDatesOrOccupancy reservation changes ∧
      reservationHasPaymentOrDeposit tables reservation = true ∧
      context.isManager = false)
    { statusCode := 403
      detail := "Modificar fechas u ocupación de una reserva con pagos " ++
        "requiere gerente, dueño o codueño." }

/-- The reservations of a hotel, with their other columns. -/
structure EditingState where
  hotel : HotelState
  details : Int -> ReservationDetails

namespace EditingState

variable (state : EditingState)

/-- Load a reservation that is not deleted. -/
def load (reservationId : Int) : Option EditedReservation :=
  ((state.hotel.reservation? reservationId).filter fun row =>
      row.deletedAt = none).map fun row =>
    { row with toReservationDetails := state.details row.id }

def store (reservation : EditedReservation) : EditingState where
  hotel := state.hotel.replaceReservation reservation.toReservation
  details := fun id =>
    if id = reservation.id then reservation.toReservationDetails
    else state.details id

end EditingState

/-- Write the merged changes with the mutator of reservations. -/
def applyResourceChanges (state : EditingState)
    (reservation : EditedReservation) (changes : Draft) :
    Except HttpError EditingState := do
  validateDraftChanges collaborationMaxFields changes
  let updated ← (updateReservationFields tables state.hotel reservation
    changes (some reservation.version)).mapError fun message =>
      { statusCode := 409, detail := message }
  pure (state.store updated)

/-- Persist a draft as a field-level merge. -/
def patchCollaborativeResource (state : EditingState) (reservationId : Int)
    (data : CollaborationPatchRequest) : Except HttpError EditingState := do
  requirePermission context "reservation:read"
  requirePermission context "reservation:update"
  raiseIf (context.userId = none)
    { statusCode := 403, detail := "Usuario no disponible para coedición" }
  match state.load reservationId with
  | none =>
    throw { statusCode := 404, detail := "Recurso no encontrado" }
  | some reservation => do
    let changes ← mergedChanges tables reservation data
    if changes.fields = [] then pure state
    else do
      checkDraftAuthorization tables context reservation changes
      applyResourceChanges tables state reservation changes

end HotelPms.Collaboration
