import HotelPms.Foundation.KeySort
import HotelPms.Laundry.Linen
import HotelPms.Payments.Ledger
import Mathlib.Data.Prod.Lex

/-!
# Laundry remitos and their discrepancies

Vendors, remitos, the discrepancies they open and the actions taken on them.
Discrepancy rows are separate from the linen ledger: a quantity reported as
missing or returned in excess is not hotel stock until it is reconciled.
-/

namespace HotelPms.Laundry

open Checked Inventory

structure LaundryVendor where
  id : Int
  linenLocationId : Int
  deletedAt : Option Int := none

/-- The vendors of one hotel, each created with its dedicated location. -/
structure VendorBook where
  rows : List LaundryVendor
  ids : (rows.map LaundryVendor.id).Nodup
  dedicated : (rows.map LaundryVendor.linenLocationId).Nodup

inductive Direction
  | outbound
  | inbound
  deriving DecidableEq

namespace Direction

def value : Direction -> String
  | outbound => "outbound"
  | inbound => "inbound"

def ofValue (text : String) : Option Direction :=
  [outbound, inbound].find? (·.value = text)

end Direction

structure LaundryRemito where
  id : Int
  vendorId : Int
  direction : Direction
  houseLocationId : Option Int
  remitoNumber : String
  remitoDate : Int
  notes : Option String
  createdByUserId : Option Int
  createdAt : Int

structure LaundryRemitoLine where
  id : Int
  remitoId : Int
  linenItemId : Int
  quantity : Int
  missingQuantity : Int
  unitPriceSnapshot : Option Int
  followUpStatus : Option String

inductive DiscrepancyType
  | excessReturn
  | shortReturn
  deriving DecidableEq

inductive DiscrepancyStatus
  | pendingApproval
  | pendingIdentification
  | pendingReview
  | pendingResolution
  | pendingClaim
  | awaitingReplacement
  | resolved
  | returnToLaundry
  | returnedToLaundry
  deriving DecidableEq

structure LaundryDiscrepancy where
  id : Int
  remitoId : Int
  remitoLineId : Int
  vendorId : Int
  linenItemId : Int
  discrepancyType : DiscrepancyType
  quantity : Int
  remainingQuantity : Int
  sourceLocationId : Int
  custodyLocationId : Option Int
  status : DiscrepancyStatus
  createdByUserId : Option Int
  createdAt : Int
  reviewedByUserId : Option Int := none
  reviewedAt : Option Int := none
  reviewReason : Option String := none
  resolutionCode : Option String := none
  resolutionReason : Option String := none
  resolutionAmount : Option Int := none
  resolutionCurrencyCode : Option String := none
  resolutionRecordedByUserId : Option Int := none
  resolutionRecordedAt : Option Int := none
  resolvedByUserId : Option Int := none
  resolvedAt : Option Int := none
  returnedByUserId : Option Int := none
  returnedAt : Option Int := none
  returnReason : Option String := none

inductive ActionType
  | approval
  | resolution
  | returnToLaundry
  | claimReturn
  | replacementReceipt
  deriving DecidableEq

/-- What an action records beside its discrepancy, actor and key. -/
structure ActionDetails where
  actionType : ActionType
  reason : String
  quantity : Option ℚ := none
  resolutionCode : Option String := none
  resolutionAmount : Option ℚ := none
  resolutionCurrencyCode : Option String := none
  remitoId : Option Int := none
  remitoLineId : Option Int := none

/-- Immutable history of the decisions on discrepancies, one row for each
idempotency key. -/
structure LaundryAction where
  discrepancyId : Int
  actionType : ActionType
  idempotencyKey : String
  reason : String
  quantity : Option Int
  resolutionCode : Option String
  resolutionAmount : Option Int
  resolutionCurrencyCode : Option String
  remitoId : Option Int
  remitoLineId : Option Int
  actorUserId : Option Int
  createdAt : Int

/-- The laundry tables of one hotel. -/
structure LaundryState where
  vendors : VendorBook
  linen : LinenLedger := {}
  remitos : List LaundryRemito := []
  remitoLines : List LaundryRemitoLine := []
  discrepancies : List LaundryDiscrepancy := []
  actions : List LaundryAction := []
  nextRemitoId : Int := 1
  nextLineId : Int := 1
  nextDiscrepancyId : Int := 1

namespace LaundryDiscrepancy

/-- A shortage that is still in dispute. -/
def OpenShortage (row : LaundryDiscrepancy) : Prop :=
  row.discrepancyType = .shortReturn ∧ row.status ≠ .resolved
deriving Decidable

/-- An open shortage that a receipt can be matched with. -/
def Matchable (row : LaundryDiscrepancy) (vendorId itemId : Int) : Prop :=
  row.vendorId = vendorId ∧ row.linenItemId = itemId ∧ row.discrepancyType = .shortReturn ∧
    row.status ∈ [.pendingReview, .pendingResolution, .pendingClaim, .awaitingReplacement] ∧
    0 < row.remainingQuantity
deriving Decidable

end LaundryDiscrepancy

namespace LaundryState

variable (state : LaundryState)

/-- The entries of the linen ledger. -/
def entries : List (Entry Int Int) := state.linen.entries

def findVendor (vendorId : Int) : Option LaundryVendor :=
  Table.find LaundryVendor.id vendorId state.vendors.rows

def getVendor (vendorId : Int) : Except LaundryError LaundryVendor :=
  match state.findVendor vendorId with
  | some vendor => do
    raiseIf (vendor.deletedAt ≠ none) (.vendor "No se encontró el proveedor de lavandería.")
    pure vendor
  | none => throw (.vendor "No se encontró el proveedor de lavandería.")

def findDiscrepancy (discrepancyId : Int) : Option LaundryDiscrepancy :=
  Table.find LaundryDiscrepancy.id discrepancyId state.discrepancies

def getDiscrepancy (discrepancyId : Int) : Except LaundryError LaundryDiscrepancy :=
  match state.findDiscrepancy discrepancyId with
  | some row => pure row
  | none => throw (.discrepancyNotFound "No se encontró la discrepancia de lavandería.")

/-- Sum of the remaining quantities of a vendor's open shortages of an item. -/
def disputedQuantity (vendorId itemId : Int) : Int :=
  ((state.discrepancies.filter fun row => row.vendorId = vendorId ∧ row.linenItemId = itemId ∧
        row.OpenShortage).map LaundryDiscrepancy.remainingQuantity).sum

/-- The shortages a receipt is matched with, the oldest first. -/
def openShortages (vendorId itemId : Int) : List LaundryDiscrepancy :=
  KeySort.sortByKey (fun row => toLex (row.createdAt, row.id))
    (state.discrepancies.filter (·.Matchable vendorId itemId))

/-- Write a changed discrepancy back. -/
def store (row : LaundryDiscrepancy) : LaundryState :=
  { state with
    discrepancies :=
      Table.replace LaundryDiscrepancy.id row state.discrepancies }

def findAction (idempotencyKey : String) : Option LaundryAction :=
  Table.find LaundryAction.idempotencyKey idempotencyKey state.actions

end LaundryState

section

variable (env : LaundryEnvironment) (state : LaundryState)

def actionOf (discrepancyId : Int) (actorUserId : Option Int)
    (idempotencyKey : String) (details : ActionDetails) : LaundryAction where
  discrepancyId := discrepancyId
  actionType := details.actionType
  idempotencyKey := idempotencyKey
  reason := details.reason
  quantity := details.quantity.map column
  resolutionCode := details.resolutionCode
  resolutionAmount := details.resolutionAmount.map column
  resolutionCurrencyCode := details.resolutionCurrencyCode
  remitoId := details.remitoId
  remitoLineId := details.remitoLineId
  actorUserId := actorUserId
  createdAt := env.now

/-- A value that its column can store, when there is one. -/
def checkOptionalColumn (value : Option ℚ) : Except LaundryError Unit :=
  match value with
  | none => pure ()
  | some value => do
    let _ ← storeColumn value
    pure ()

def recordDiscrepancyAction (row : LaundryDiscrepancy)
    (actorUserId : Option Int) (idempotencyKey : String)
    (details : ActionDetails) : Except LaundryError LaundryState := do
  let action := actionOf env row.id actorUserId idempotencyKey details
  checkOptionalColumn details.quantity
  checkOptionalColumn details.resolutionAmount
  raiseIf ((action.quantity.any (· ≤ 0)) = true)
    (.integrity "ck_laundry_discrepancy_action_quantity_positive")
  raiseIf ((action.resolutionAmount.any (· ≤ 0)) = true)
    (.integrity "ck_laundry_discrepancy_action_credit_valid")
  raiseIf (state.findAction idempotencyKey ≠ none)
    (.integrity "uq_laundry_discrepancy_actions_hotel_key")
  pure { state with actions := state.actions ++ [action] }

/-- The action describes the decision a request asks for. -/
def SameDecision (action : LaundryAction) (discrepancyId : Int)
    (actorUserId : Option Int) (details : ActionDetails) : Prop :=
  action.discrepancyId = discrepancyId ∧ action.actorUserId = actorUserId ∧
    action.actionType = details.actionType ∧
    action.reason = details.reason ∧
    action.resolutionCode = details.resolutionCode ∧
    action.resolutionAmount.map Int.cast = details.resolutionAmount ∧
    action.resolutionCurrencyCode = details.resolutionCurrencyCode ∧
    action.quantity.map Int.cast = details.quantity ∧
    action.remitoId = details.remitoId ∧
    action.remitoLineId = details.remitoLineId
deriving Decidable

/-- The discrepancy of a decision that was already recorded under the key. -/
def actionReplay (discrepancyId : Int) (actorUserId : Option Int)
    (idempotencyKey : String) (details : ActionDetails) :
    Except LaundryError (Option LaundryDiscrepancy) :=
  match state.findAction idempotencyKey with
  | none => pure none
  | some existing => do
    raiseIf (¬SameDecision existing discrepancyId actorUserId details)
      (.discrepancyConflict "El Idempotency-Key ya fue usado con otra acción o datos.")
    let row ← state.getDiscrepancy discrepancyId
    pure (some row)

end

/-- Case mapping and letters of the standard library's texts. -/
structure CaseMapping where
  lower : String → String
  upper : String → String
  isAlpha : String → Bool

def validateActionInput (reason idempotencyKey : String) :
    Except LaundryError (String × String) := do
  let normalizedReason := Text.strip reason
  let normalizedKey := Text.strip idempotencyKey
  raiseIf (normalizedReason = "") (.vendor "El motivo es obligatorio.")
  raiseIf (500 < normalizedReason.length) (.vendor "El motivo no puede superar 500 caracteres.")
  raiseIf (normalizedKey = "" ∨ 128 < normalizedKey.length ∨
      (normalizedKey.toList.any (·.toNat < 33)) = true)
    (.vendor "El Idempotency-Key debe tener entre 1 y 128 caracteres visibles.")
  pure (normalizedReason, normalizedKey)

end HotelPms.Laundry
