import HotelPms.Foundation.Checked
import HotelPms.Foundation.Inventory
import HotelPms.Foundation.Table
import HotelPms.Foundation.Text
import Mathlib.Data.Rat.Floor
import Mathlib.Logic.Function.Basic

/-!
# The stock ledger

Items, locations and movements of one hotel.  Stored quantities are hundredths
of a unit; requested ones are finite, and any other raises.  A call that raises
writes nothing.
-/

namespace HotelPms.Stock

open Checked Inventory

inductive MovementType
  | inbound
  | outbound
  | adjustment
  | adjustmentOut
  deriving DecidableEq

namespace MovementType

def value : MovementType -> String
  | inbound => "in"
  | outbound => "out"
  | adjustment => "adjustment"
  | adjustmentOut => "adjustment_out"

/-- The movement takes stock away. -/
def IsOutbound (movementType : MovementType) : Prop :=
  movementType = outbound ∨ movementType = adjustmentOut
deriving Decidable

/-- The valid movement type with a text. -/
def ofValue (text : String) : Option MovementType :=
  [inbound, outbound, adjustment, adjustmentOut].find? (·.value = text)

end MovementType

structure StockItem where
  id : Int
  movementVersion : Int := 0
  deletedAt : Option Int := none

structure StockLocation where
  id : Int
  deletedAt : Option Int := none

structure StockMovement where
  id : Int
  itemId : Int
  locationId : Option Int
  movementType : MovementType
  quantity : Int
  reason : Option String
  reservationId : Option Int
  createdByUserId : Option Int
  createdAt : Int
  idempotencyKey : Option String
  transferReference : Option String

inductive StockCountStatus
  | opened
  | confirmed
  | cancelled
  deriving DecidableEq

/-- Hotel-scoped physical count awaiting authorized confirmation. -/
structure StockCountSession where
  id : Int
  status : StockCountStatus := .opened
  reason : String
  createdByUserId : Int
  createdAt : Int
  counterUserId : Option Int := none
  confirmedByUserId : Option Int := none
  confirmationReason : Option String := none
  confirmedAt : Option Int := none
  selfApproved : Bool := false
  cancelledByUserId : Option Int := none
  cancellationReason : Option String := none
  cancelledAt : Option Int := none

/-- One observed quantity for an item, either hotel-wide or by location. -/
structure StockCountLine where
  id : Int
  sessionId : Int
  itemId : Int
  locationId : Option Int
  systemQuantityAtCount : Int
  countedQuantity : Int
  movementVersion : Int
  countedByUserId : Int
  countedAt : Int
  appliedAdjustment : Option Int := none
  adjustedAt : Option Int := none
  deriving DecidableEq

/-- The stock tables of one hotel. -/
structure StockState where
  hotelId : Int
  items : Int -> Option StockItem
  locations : Int -> Option StockLocation
  movements : List StockMovement := []
  countSessions : Int -> Option StockCountSession := fun _ => none
  countLines : List StockCountLine := []
  nextMovementId : Int := 1
  nextSessionId : Int := 1
  nextLineId : Int := 1

/-- What a call reads outside the stock tables: the business clock, the
reservations, and the hotel's setting for approving one's own counts, when it
has a configuration. -/
structure StockEnvironment where
  now : Int
  hasReservation : Int -> Bool
  allowStockCountSelfApproval : Option Bool

inductive StockError
  | invalid (message : String)
  | idempotencyConflict (message : String)
  | recountRequired (items : List (Int × Option Int))
  | integrity (constraint : String)
  deriving DecidableEq

/-- Effect of a movement on the balances of its item. -/
def StockMovement.signedQuantity (movement : StockMovement) : Int :=
  if movement.movementType.IsOutbound then -movement.quantity
  else movement.quantity

def StockMovement.entry (movement : StockMovement) : Entry Int Int where
  item := movement.itemId
  place := movement.locationId
  amount := movement.signedQuantity

namespace StockState

variable (state : StockState)

/-- The entries of all movements. -/
def ledger : List (Entry Int Int) := state.movements.map StockMovement.entry

def getItem (itemId : Int) : Except StockError StockItem :=
  match state.items itemId with
  | some item => do
    raiseIf (item.deletedAt ≠ none) (.invalid "Stock item not found")
    pure item
  | none => throw (.invalid "Stock item not found")

def getLocation (locationId : Int) : Except StockError StockLocation :=
  match state.locations locationId with
  | some location => do
    raiseIf (location.deletedAt ≠ none) (.invalid "Stock location not found")
    pure location
  | none => throw (.invalid "Stock location not found")

/-- Balance of one item for the hotel, or at one location. -/
def currentStock (itemId : Int) (locationId : Option Int) : Except StockError Int := do
  let _ ← state.getItem itemId
  pure (balance state.ledger itemId locationId)

def checkLocation (locationId : Option Int) : Except StockError Unit :=
  match locationId with
  | none => pure ()
  | some locationId => do
    let _ ← state.getLocation locationId
    pure ()

def movementByKey (key : Option String) : Option StockMovement :=
  key.bind fun key => state.movements.find? (·.idempotencyKey = some key)

end StockState

/-- Largest value of a `Numeric(12, 2)` column. -/
def maximumQuantity : ℚ := 9999999999.99

variable (quantity : ℚ)

/-- Stored value of a quantity with at most two decimal places. -/
def hundredths : Int := ⌊quantity * 100⌋

/-- The quantity has more than two decimal places. -/
def TooPrecise : Prop := (hundredths quantity : ℚ) ≠ quantity * 100
deriving Decidable

def checkMovementQuantity : Except StockError Unit := do
  raiseIf (quantity ≤ 0) (.invalid "Stock movement quantity must be positive")
  raiseIf (maximumQuantity < quantity)
    (.invalid "Stock movement quantity exceeds Numeric(12, 2) capacity")
  raiseIf (TooPrecise quantity)
    (.invalid "Stock movement quantity supports at most two decimal places")

structure MovementRequest where
  itemId : Int
  locationId : Option Int
  movementType : String
  quantity : ℚ
  reason : Option String := none
  reservationId : Option Int := none
  createdByUserId : Option Int := none
  idempotencyKey : Option String := none
  transferReference : Option String := none

/-- A movement describes the operation a request asks for. -/
def SameOperation (existing : StockMovement) (request : MovementRequest) : Prop :=
  existing.itemId = request.itemId ∧ existing.locationId = request.locationId ∧
    existing.movementType.value = request.movementType ∧
    (existing.quantity : ℚ) = request.quantity * 100 ∧
    existing.reason = request.reason ∧
    existing.reservationId = request.reservationId ∧
    existing.transferReference = request.transferReference
deriving Decidable

section

variable (env : StockEnvironment) (state : StockState)

variable (request : MovementRequest)

/-- The row a request of a known type inserts. -/
def movementOf (movementType : MovementType) : StockMovement where
  id := state.nextMovementId
  itemId := request.itemId
  locationId := request.locationId
  movementType := movementType
  quantity := hundredths request.quantity
  reason := request.reason
  reservationId := request.reservationId
  createdByUserId := request.createdByUserId
  createdAt := env.now
  idempotencyKey := request.idempotencyKey
  transferReference := request.transferReference

def checkMovementConstraints (movement : StockMovement) : Except StockError Unit := do
  raiseIf ((movement.reservationId.any fun reservationId =>
      !env.hasReservation reservationId) = true)
    (.integrity "fk_stock_movements_hotel_reservation")
  raiseIf (movement.transferReference ≠ none ∧ ∃ other ∈ state.movements,
      other.transferReference = movement.transferReference ∧
        other.movementType = movement.movementType)
    (.integrity "uq_stock_movement_transfer_direction")

/-- Insert a movement of an item, and count it in the item's version. -/
def StockState.record (item : StockItem) (movement : StockMovement) : StockState :=
  { state with
    movements := state.movements ++ [movement]
    nextMovementId := state.nextMovementId + 1
    items := Function.update state.items movement.itemId
      (some { item with movementVersion := item.movementVersion + 1 }) }

/-- Register a movement of a known type under a key that is not used. -/
def addMovement (movementType : MovementType) : Except StockError (StockState × StockMovement) := do
  checkMovementQuantity request.quantity
  raiseIf (request.transferReference ≠ none ∧ movementType ≠ .inbound ∧ movementType ≠ .outbound)
    (.invalid "Stock transfers only support inbound and outbound movements")
  let item ← state.getItem request.itemId
  -- With a location only its own balance is checked.
  raiseIf (movementType.IsOutbound ∧
      balance state.ledger request.itemId request.locationId < hundredths request.quantity)
    (.invalid "Stock movement would make stock negative")
  state.checkLocation request.locationId
  let movement := movementOf env state request movementType
  checkMovementConstraints env state movement
  pure (state.record item movement, movement)

def registerMovement : Except StockError (StockState × StockMovement) :=
  match state.movementByKey request.idempotencyKey with
  | some existing => do
    raiseIf (¬SameOperation existing request) (.idempotencyConflict
        "Idempotency key was already used for a different stock movement")
    pure (state, existing)
  | none =>
    match MovementType.ofValue request.movementType with
    | none => throw (.invalid "Invalid stock movement type")
    | some movementType => addMovement env state request movementType

/-- Version-5 identifiers of the standard library, as texts. -/
abbrev UuidFunction := String -> String

variable (uuid5 : UuidFunction)

/-- Record an initial location count once, without overwriting history. -/
def registerOpeningCount (itemId locationId : Int) (quantity : ℚ)
    (reason : String) (createdByUserId : Option Int) (idempotencyKey : String) :
    Except StockError (StockState × StockMovement) := do
  raiseIf (quantity ≤ 0) (.invalid "Opening stock count must be positive")
  let normalizedReason := Text.strip reason
  raiseIf (normalizedReason = "") (.invalid "Opening stock count reason is required")
  let movementKey := uuid5
    ("stock-opening-count:" ++ toString state.hotelId ++ ":" ++ idempotencyKey)
  let _ ← state.getItem itemId
  match state.movementByKey (some movementKey) with
  | some existing => do
    raiseIf (existing.itemId ≠ itemId ∨ existing.locationId ≠ some locationId ∨
        existing.movementType ≠ .inbound ∨
        (existing.quantity : ℚ) ≠ quantity * 100 ∨
        existing.reason ≠ some normalizedReason)
      (.idempotencyConflict "Idempotency key was already used for a different opening count")
    pure (state, existing)
  | none => do
    let _ ← state.getLocation locationId
    raiseIf (∃ movement ∈ state.movements,
        movement.itemId = itemId ∧ movement.locationId = some locationId)
      (.invalid ("Opening count is only available before the item has " ++
        "movements at this location"))
    registerMovement env state
      { itemId := itemId, locationId := some locationId, movementType := "in", quantity := quantity
        reason := some normalizedReason, createdByUserId := createdByUserId
        idempotencyKey := some movementKey }

def transferRequest (itemId locationId : Int) (movementType : MovementType)
    (quantity : ℚ) (reason : String) (createdByUserId : Option Int)
    (transferReference : String) : MovementRequest where
  itemId := itemId
  locationId := some locationId
  movementType := movementType.value
  quantity := quantity
  reason := some reason
  createdByUserId := createdByUserId
  transferReference := some transferReference

/-- The last of some rows with a movement type. -/
def byDirection (rows : List StockMovement) (movementType : MovementType) : Option StockMovement :=
  (rows.filter (·.movementType = movementType)).getLast?

/-- The pair of a transfer that was made under the reference. -/
def replayedTransfer (existingRows : List StockMovement)
    (itemId sourceLocationId destinationLocationId : Int) (quantity : ℚ)
    (reason : String) : Except StockError (StockMovement × StockMovement) :=
  match byDirection existingRows .outbound, byDirection existingRows .inbound with
  | some outbound, some inbound => do
    raiseIf (existingRows.length ≠ 2 ∨ outbound.itemId ≠ itemId ∨ inbound.itemId ≠ itemId ∨
        outbound.locationId ≠ some sourceLocationId ∨
        inbound.locationId ≠ some destinationLocationId ∨
        (outbound.quantity : ℚ) ≠ quantity * 100 ∨
        (inbound.quantity : ℚ) ≠ quantity * 100 ∨
        outbound.reason ≠ some reason ∨ inbound.reason ≠ some reason)
      (.idempotencyConflict "Idempotency key was already used for a different stock transfer")
    pure (outbound, inbound)
  | _, _ => throw (.idempotencyConflict
      "Idempotency key was already used for a different stock transfer")

/-- Move stock between two locations with one durable, retry-safe ledger
pair. -/
def transferStock (itemId sourceLocationId destinationLocationId : Int)
    (quantity : ℚ) (reason : String) (createdByUserId : Option Int)
    (idempotencyKey : String) :
    Except StockError (StockState × StockMovement × StockMovement) := do
  raiseIf (quantity ≤ 0) (.invalid "Stock transfer quantity must be positive")
  raiseIf (sourceLocationId = destinationLocationId)
    (.invalid "Source and destination locations must be different")
  let normalizedReason := Text.strip reason
  raiseIf (normalizedReason = "") (.invalid "Stock transfer reason is required")
  let transferReference := uuid5
    ("stock-transfer:" ++ toString state.hotelId ++ ":" ++ idempotencyKey)
  let _ ← state.getItem itemId
  let existingRows := state.movements.filter fun movement =>
    movement.transferReference = some transferReference
  if existingRows ≠ [] then do
    let pair ← replayedTransfer existingRows itemId sourceLocationId
      destinationLocationId quantity normalizedReason
    pure (state, pair)
  else do
    let _ ← state.getLocation sourceLocationId
    let _ ← state.getLocation destinationLocationId
    let (middle, outbound) ← registerMovement env state
      (transferRequest itemId sourceLocationId .outbound quantity
        normalizedReason createdByUserId transferReference)
    let (after, inbound) ← registerMovement env middle
      (transferRequest itemId destinationLocationId .inbound quantity
        normalizedReason createdByUserId transferReference)
    pure (after, outbound, inbound)

end

end HotelPms.Stock
