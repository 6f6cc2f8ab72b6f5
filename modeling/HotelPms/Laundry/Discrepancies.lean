import HotelPms.Foundation.Transition
import HotelPms.Laundry.Remitos

/-!
# Decisions on discrepancies

A discrepancy is approved, then resolved, and an excess may be handed back to
the laundry.  Each decision is recorded under an idempotency key, and a retry
of it is answered without a change.  A call that raises writes nothing.
-/

namespace HotelPms.Laundry

open Checked Inventory

/-- A decision on a discrepancy, as its caller asks for it. -/
structure DecisionRequest where
  discrepancyId : Int
  actorUserId : Option Int := none
  reason : String
  idempotencyKey : String

/-- What the caller asks a discrepancy to be resolved as. -/
structure ResolutionRequest where
  resolutionCode : String
  resolutionAmount : Option ℚ := none
  resolutionCurrencyCode : Option String := none

section

variable (env : LaundryEnvironment) (state : LaundryState)

variable (casing : CaseMapping) (row : LaundryDiscrepancy) (resolution : NormalizedResolution)

/-- Store a decided discrepancy and record the action under its key. -/
def recordDecision (actorUserId : Option Int) (idempotencyKey : String) (details : ActionDetails) :
    Except LaundryError (LaundryState × LaundryDiscrepancy) := do
  let recorded ← recordDiscrepancyAction env (state.store row) row actorUserId
    idempotencyKey details
  pure (recorded, row)

def approvalDetails (reason : String) : ActionDetails where
  actionType := .approval
  reason := reason

def expectedStatus : DiscrepancyType -> DiscrepancyStatus
  | .excessReturn => .pendingApproval
  | .shortReturn => .pendingReview

def nextStatus : DiscrepancyType -> DiscrepancyStatus
  | .excessReturn => .pendingIdentification
  | .shortReturn => .pendingResolution

def approvedRow (actorUserId : Option Int) (reason : String) : LaundryDiscrepancy :=
  { row with
    status := nextStatus row.discrepancyType
    reviewedByUserId := actorUserId
    reviewedAt := some env.now
    reviewReason := some reason }

/-- Authorize review without creating or removing linen stock. -/
def approveDiscrepancy (request : DecisionRequest) :
    Except LaundryError (LaundryState × LaundryDiscrepancy) := do
  let (reason, key) ← validateActionInput request.reason request.idempotencyKey
  let row ← state.getDiscrepancy request.discrepancyId
  match ← actionReplay state request.discrepancyId request.actorUserId key
      (approvalDetails reason) with
  | some replay => pure (state, replay)
  | none => do
    raiseIf (row.status ≠ expectedStatus row.discrepancyType)
      (.discrepancyConflict ("La discrepancia ya fue revisada o no admite " ++
        "aprobación en su estado actual."))
    recordDecision env state (approvedRow env row request.actorUserId reason)
      request.actorUserId key (approvalDetails reason)

/-- The movement of a resolved quantity. -/
def resolutionMovement (locationId : Int) (movementType : MovementType) (reason : String)
    (actorUserId : Option Int) : MovementRequest where
  itemId := row.linenItemId
  locationId := some locationId
  movementType := movementType.value
  quantity := row.remainingQuantity
  reason := some reason
  createdByUserId := actorUserId

/-- A discrepancy that is settled for good. -/
def closedRow (custodyLocationId : Option Int) (actorUserId : Option Int) : LaundryDiscrepancy :=
  { row with
    custodyLocationId := custodyLocationId
    remainingQuantity := 0
    status := .resolved
    resolvedByUserId := actorUserId
    resolvedAt := some env.now }

/-- Where a remito was received at the hotel. -/
def houseLocationOf (remitoId : Int) : Except LaundryError Int :=
  match (Table.find LaundryRemito.id remitoId state.remitos).bind LaundryRemito.houseLocationId with
  | some houseLocationId => pure houseLocationId
  | none => throw (.vendor ("El remito no tiene una ubicación hotelera " ++
      "válida para conciliar el excedente."))

/-- The outcomes of an excess: hotel stock, or a return to the laundry. -/
def resolveExcess (resolution reason : String) (actorUserId : Option Int) :
    Except LaundryError (LinenLedger × LaundryDiscrepancy) := do
  raiseIf (row.status ≠ .pendingIdentification)
    (.discrepancyConflict "El excedente debe aprobarse antes de conciliarlo.")
  raiseIf (resolution ∉ ["hotel_stock", "return_to_laundry"])
    (.vendor ("El excedente debe asignarse al stock del hotel o marcarse " ++ "para devolución."))
  raiseIf (row.remainingQuantity ≤ 0) (.discrepancyConflict "El excedente ya fue conciliado.")
  let houseLocationId ← houseLocationOf state row.remitoId
  if resolution = "hotel_stock" then do
    let (linen, _) ← state.linen.registerMovement env
      (resolutionMovement row houseLocationId .inbound
        ("Excedente de lavandería confirmado como propio: " ++ reason)
        actorUserId)
    pure (linen, closedRow env row (some houseLocationId) actorUserId)
  else pure (state.linen, { row with status := .returnToLaundry })

/-- The outcomes of a shortage: written off, left in the vendor's custody,
claimed, or to be replaced. -/
def resolveShortage (resolution reason : String) (actorUserId : Option Int) :
    Except LaundryError (LinenLedger × LaundryDiscrepancy) := do
  raiseIf (row.status ∉ [.pendingResolution, .pendingClaim, .awaitingReplacement])
    (.discrepancyConflict "El faltante no admite otra resolución en su estado actual.")
  raiseIf (row.remainingQuantity ≤ 0) (.discrepancyConflict "El faltante ya fue conciliado.")
  raiseIf (resolution ∉ ["vendor_claim", "vendor_custody", "loss", "replacement", "vendor_credit"])
    (.vendor ("Elegí reclamo, custodia del lavadero, pérdida, reposición o " ++
      "crédito negociado."))
  let vendor ← state.getVendor row.vendorId
  if resolution = "loss" ∨ resolution = "vendor_credit" then do
    let (linen, _) ← state.linen.registerMovement env
      (resolutionMovement row row.sourceLocationId .adjustmentOut
        ("Faltante de lavandería: " ++ resolution ++ ": " ++ reason)
        actorUserId)
    pure (linen, closedRow env row none actorUserId)
  else if resolution = "vendor_custody" then
    pure (state.linen, closedRow env row (some vendor.linenLocationId) actorUserId)
  else if resolution = "vendor_claim" then
    pure (state.linen, { row with
        custodyLocationId := some vendor.linenLocationId
        status := .pendingClaim
        resolvedByUserId := none
        resolvedAt := none })
  else
    pure (state.linen, { row with
        custodyLocationId := none
        status := .awaitingReplacement
        resolvedByUserId := none
        resolvedAt := none })

/-- The outcomes a discrepancy of its type can have. -/
def applyResolution (resolution reason : String) (actorUserId : Option Int) :
    Except LaundryError (LinenLedger × LaundryDiscrepancy) :=
  match row.discrepancyType with
  | .excessReturn => resolveExcess env state row resolution reason actorUserId
  | .shortReturn =>
    resolveShortage env state row resolution reason actorUserId

structure NormalizedResolution where
  code : String
  amount : Option ℚ
  currency : Option String

def NormalizedResolution.IsCredit : Prop :=
  resolution.code = "vendor_credit"
deriving Decidable

def normalizeResolution (request : ResolutionRequest) : NormalizedResolution where
  code := casing.lower (Text.strip request.resolutionCode)
  amount := request.resolutionAmount
  currency :=
    let currency :=
      casing.upper (Text.strip (request.resolutionCurrencyCode.getD ""))
    if currency = "" then none else some currency

def checkResolution : Except LaundryError Unit := do
  raiseIf (resolution.code = "" ∨ 80 < resolution.code.length)
    (.vendor ("La resolución es obligatoria y no puede superar 80 " ++ "caracteres."))
  raiseIf ((resolution.amount.any (· ≤ 0)) = true)
    (.vendor "El importe del crédito debe ser mayor que cero.")
  raiseIf ((resolution.currency.any fun currency =>
      decide (currency.length ≠ 3) || !casing.isAlpha currency) = true)
    (.vendor "La moneda del crédito debe tener tres letras.")
  raiseIf (¬(resolution.IsCredit ↔
      (resolution.amount.isSome = true ∧ resolution.currency.isSome = true)))
    (.vendor ("El crédito requiere importe y moneda negociados; otras " ++
      "resoluciones no los aceptan."))

def resolutionDetails (reason : String) (quantity : Int) : ActionDetails where
  actionType := .resolution
  reason := reason
  quantity := some quantity
  resolutionCode := some resolution.code
  resolutionAmount := resolution.amount
  resolutionCurrencyCode := resolution.currency

/-- A discrepancy with the record of its resolution. -/
def resolvedRow (reason : String) (actorUserId : Option Int) : LaundryDiscrepancy :=
  { row with
    resolutionCode := some resolution.code
    resolutionReason := some reason
    resolutionAmount :=
      if resolution.IsCredit then resolution.amount.map column else none
    resolutionCurrencyCode :=
      if resolution.IsCredit then resolution.currency else none
    resolutionRecordedByUserId := actorUserId
    resolutionRecordedAt := some env.now }

/-- The amount of a credit fits its column and is positive there. -/
def checkCredit (decided : LaundryDiscrepancy) : Except LaundryError Unit := do
  checkOptionalColumn (if resolution.IsCredit then resolution.amount else none)
  raiseIf ((decided.resolutionAmount.any (· ≤ 0)) = true)
    (.integrity "ck_laundry_discrepancy_resolution_credit_valid")

/-- Apply a resolution that was not recorded before. -/
def performResolution (reason key : String) (actorUserId : Option Int) :
    Except LaundryError (LaundryState × LaundryDiscrepancy) := do
  let (linen, applied) ← applyResolution env state row resolution.code reason actorUserId
  let decided := resolvedRow env applied resolution reason actorUserId
  checkCredit resolution decided
  recordDecision env { state with linen := linen } decided actorUserId key
    (resolutionDetails resolution reason row.quantity)

/-- Apply an authorized owner-selected outcome to a remito discrepancy. -/
def resolveDiscrepancy (request : DecisionRequest) (asked : ResolutionRequest) :
    Except LaundryError (LaundryState × LaundryDiscrepancy) := do
  let (reason, key) ← validateActionInput request.reason request.idempotencyKey
  let resolution := normalizeResolution casing asked
  checkResolution casing resolution
  let row ← state.getDiscrepancy request.discrepancyId
  match ← actionReplay state request.discrepancyId request.actorUserId key
      (resolutionDetails resolution reason row.quantity) with
  | some replay => pure (state, replay)
  | none =>
    performResolution env state row resolution reason key request.actorUserId

def returnDetails (reason : String) (quantity : Int) : ActionDetails where
  actionType := .returnToLaundry
  reason := reason
  quantity := some quantity

def returnedRow (vendor : LaundryVendor)
    (actorUserId : Option Int) (reason : String) : LaundryDiscrepancy :=
  { row with
    custodyLocationId := some vendor.linenLocationId
    status := .returnedToLaundry
    returnedByUserId := actorUserId
    returnedAt := some env.now
    returnReason := some reason
    remainingQuantity := 0 }

/-- Record physical handover of unowned excess back to its laundry vendor. -/
def confirmDiscrepancyReturnToLaundry (request : DecisionRequest) :
    Except LaundryError (LaundryState × LaundryDiscrepancy) := do
  let (reason, key) ← validateActionInput request.reason request.idempotencyKey
  let row ← state.getDiscrepancy request.discrepancyId
  match ← actionReplay state request.discrepancyId request.actorUserId key
      (returnDetails reason row.quantity) with
  | some replay => pure (state, replay)
  | none => do
    raiseIf (row.discrepancyType ≠ .excessReturn ∨ row.status ≠ .returnToLaundry)
      (.discrepancyConflict ("Solo un excedente marcado para devolución " ++
        "puede registrarse como entregado."))
    let vendor ← state.getVendor row.vendorId
    recordDecision env state (returnedRow env row vendor request.actorUserId reason)
      request.actorUserId key (returnDetails reason row.quantity)

end

inductive LaundryCall
  | createRemito (request : RemitoRequest)
  | approveDiscrepancy (request : DecisionRequest)
  | resolveDiscrepancy (request : DecisionRequest) (asked : ResolutionRequest)
  | confirmDiscrepancyReturnToLaundry (request : DecisionRequest)

/-- State after a call, unless it raises. -/
def performCall (casing : CaseMapping) (env : LaundryEnvironment) (state : LaundryState) :
    LaundryCall → Except LaundryError LaundryState
  | .createRemito request => (createRemito env state request).map Prod.fst
  | .approveDiscrepancy request =>
    (approveDiscrepancy env state request).map Prod.fst
  | .resolveDiscrepancy request asked =>
    (resolveDiscrepancy env state casing request asked).map Prod.fst
  | .confirmDiscrepancyReturnToLaundry request =>
    (confirmDiscrepancyReturnToLaundry env state request).map Prod.fst

/-- What happens to the tables: a call of the laundry service, or a movement
that some other linen operation writes. -/
inductive LaundryEvent
  | call (env : LaundryEnvironment) (call : LaundryCall)
  | otherMovement (movement : LinenMovement)

/-- One event; a call that raises rolls back. -/
def laundryStep (casing : CaseMapping) (state : LaundryState) : LaundryEvent → Option LaundryState
  | .call env call =>
    match performCall casing env state call with
    | .ok after => some after
    | .error _ => some state
  | .otherMovement movement =>
    some { state with linen := state.linen.add movement }

end HotelPms.Laundry
