import HotelPms.Stock.Ledger

/-!
# Physical stock counts

A count session collects one observed quantity for each item, hotel-wide or by
location, and an authorized person confirms it: the ledger is adjusted so that
its balances become the counted quantities.
-/

namespace HotelPms.Stock

open Checked Inventory

def requiredReason (reason field : String) : Except StockError String := do
  let normalized := Text.strip reason
  raiseIf (normalized = "") (.invalid (field ++ " is required"))
  raiseIf (1000 < normalized.length) (.invalid (field ++ " must contain at most 1000 characters"))
  pure normalized

def normalizeStockCountQuantity (quantity : ℚ) : Except StockError Int := do
  raiseIf (quantity < 0) (.invalid "Counted stock quantity must be a finite, non-negative number")
  raiseIf (maximumQuantity < quantity)
    (.invalid "Counted stock quantity exceeds Numeric(12, 2) capacity")
  raiseIf (TooPrecise quantity)
    (.invalid "Counted stock quantity supports at most two decimal places")
  pure (hundredths quantity)

section

variable (env : StockEnvironment) (state : StockState)

def StockState.storeSession (session : StockCountSession) : StockState :=
  { state with countSessions := Function.update state.countSessions session.id (some session) }

def createStockCountSession (createdByUserId : Int) (reason : String) :
    Except StockError (StockState × StockCountSession) := do
  let normalizedReason ← requiredReason reason "Stock count reason"
  let session : StockCountSession :=
    { id := state.nextSessionId, reason := normalizedReason, createdByUserId := createdByUserId
      createdAt := env.now }
  pure ({ state.storeSession session with nextSessionId := state.nextSessionId + 1 }, session)

variable (line : StockCountLine) (sessionId : Int)

def getOpenStockCountSession : Except StockError StockCountSession :=
  match state.countSessions sessionId with
  | some session => do
    raiseIf (session.status ≠ .opened) (.invalid "Only an open stock count session can be changed")
    pure session
  | none => throw (.invalid "Stock count session not found")

def cancelStockCountSession (cancelledByUserId : Int) (reason : String) :
    Except StockError (StockState × StockCountSession) := do
  let normalizedReason ← requiredReason reason "Stock count cancellation reason"
  let session ← getOpenStockCountSession state sessionId
  let cancelled : StockCountSession :=
    { session with
      id := sessionId
      status := .cancelled
      cancelledByUserId := some cancelledByUserId
      cancellationReason := some normalizedReason
      cancelledAt := some env.now }
  pure (state.storeSession cancelled, cancelled)

/-- Lines of a session, in the order they were added. -/
def StockState.counts : List StockCountLine :=
  state.countLines.filter (·.sessionId = sessionId)

/-- Lines of an item are all hotel-wide or all by location. -/
def checkUnmixed (existingItemLines : List StockCountLine) (locationId : Option Int) :
    Except StockError Unit :=
  raiseIf (∃ line ∈ existingItemLines, ¬(line.locationId = none ↔ locationId = none))
    (.invalid ("Count the item either hotel-wide or by location, not both " ++ "in one session"))

/-- The line a count writes, under its own id. -/
def countedLine (item : StockItem) (itemId : Int) (locationId : Option Int)
    (systemQuantity quantity countedByUserId lineId : Int) :
    StockCountLine where
  id := lineId
  sessionId := sessionId
  itemId := itemId
  locationId := locationId
  systemQuantityAtCount := systemQuantity
  countedQuantity := quantity
  movementVersion := item.movementVersion
  countedByUserId := countedByUserId
  countedAt := env.now

/-- Add a line, or write a recount over the earlier one. -/
def StockState.storeLine (existing : Option StockCountLine) (lineOf : Int -> StockCountLine) :
    StockState × StockCountLine :=
  match existing with
  | none =>
    ({ state with
        countLines := state.countLines ++ [lineOf state.nextLineId]
        nextLineId := state.nextLineId + 1 },
      lineOf state.nextLineId)
  | some earlier =>
    ({ state with
        countLines :=
          Table.replace StockCountLine.id (lineOf earlier.id) state.countLines },
      lineOf earlier.id)

/-- Record the observed quantity of an item, or a recount of it. -/
def recordStockCount (itemId : Int) (locationId : Option Int)
    (countedQuantity : ℚ) (countedByUserId : Int) :
    Except StockError (StockState × StockCountLine) := do
  let quantity ← normalizeStockCountQuantity countedQuantity
  let session ← getOpenStockCountSession state sessionId
  raiseIf ((session.counterUserId.any (· ≠ countedByUserId)) = true)
    (.invalid "Only the session's original counter may record counts")
  let item ← state.getItem itemId
  state.checkLocation locationId
  let existingItemLines := (state.counts sessionId).filter (·.itemId = itemId)
  checkUnmixed existingItemLines locationId
  let systemQuantity ← state.currentStock itemId locationId
  raiseIf (systemQuantity < 0) (.integrity "ck_stock_count_line_system_nonnegative")
  raiseIf (10 ^ 12 ≤ systemQuantity) (.integrity "numeric field overflow")
  let counted := state.storeSession
    { session with id := sessionId, counterUserId := some countedByUserId }
  pure (counted.storeLine (existingItemLines.find? (·.locationId = locationId))
      (countedLine env sessionId item itemId locationId systemQuantity quantity countedByUserId))

/-- The item of a line moved after it was counted, or is gone. -/
def StockState.Stale : Prop :=
  ((state.items line.itemId).all fun item =>
    item.deletedAt ≠ none ∨ item.movementVersion ≠ line.movementVersion) = true
deriving Decidable

def stockCountStaleItems (lines : List StockCountLine) : List (Int × Option Int) :=
  (lines.filter (state.Stale ·)).map fun line => (line.itemId, line.locationId)

def balancesByLocation (lines : List StockCountLine) : List ((Int × Option Int) × Int) :=
  groupedBalances (state.ledger.filter (·.item ∈ lines.map StockCountLine.itemId))

/-- Balance a line is compared with. -/
def currentOf (balances : List ((Int × Option Int) × Int)) (line : StockCountLine) : Int :=
  match line.locationId with
  | none =>
    ((balances.filter (·.1.1 = line.itemId)).map Prod.snd).sum
  | some locationId =>
    (balances.lookup (line.itemId, some locationId)).getD 0

/-- The movement that makes up the difference of a count. -/
def adjustmentRequest (delta sessionId confirmedByUserId : Int)
    (reason : String) : MovementRequest where
  itemId := line.itemId
  locationId := line.locationId
  movementType :=
    if 0 < delta then MovementType.adjustment.value
    else MovementType.adjustmentOut.value
  quantity := (|delta| : ℚ) / 100
  reason := some ("Stock count session " ++ toString sessionId ++ ": " ++ reason)
  createdByUserId := some confirmedByUserId

/-- Make up the difference of a count, if there is one. -/
def adjustBalance (delta sessionId confirmedByUserId : Int)
    (reason : String) : Except StockError StockState :=
  if delta = 0 then pure state
  else (registerMovement env state
    (adjustmentRequest line delta sessionId confirmedByUserId reason)).map Prod.fst

def adjustLine (balances : List ((Int × Option Int) × Int))
    (sessionId confirmedByUserId : Int) (reason : String) (state : StockState)
    (line : StockCountLine) : Except StockError StockState := do
  let delta := line.countedQuantity - currentOf balances line
  let moved ← adjustBalance env state line delta sessionId confirmedByUserId reason
  let adjusted : StockCountLine :=
    { line with appliedAdjustment := some delta, adjustedAt := some env.now }
  pure { moved with
      countLines :=
        Table.replace StockCountLine.id adjusted moved.countLines }

/-- Adjust the ledger to the lines of an open session. -/
def applyStockCounts (session : StockCountSession)
    (sessionId confirmedByUserId : Int) (reason : String) :
    Except StockError (StockState × StockCountSession) := do
  raiseIf (session.status ≠ .opened) (.invalid "Only an open stock count session can be confirmed")
  let lines := state.counts sessionId
  raiseIf (lines = []) (.invalid "A stock count session needs at least one counted item")
  raiseIf (stockCountStaleItems state lines ≠ [])
    (.recountRequired (stockCountStaleItems state lines))
  raiseIf (env.allowStockCountSelfApproval = none) (.invalid "Hotel configuration not found")
  let selfApproved := decide (session.counterUserId = some confirmedByUserId)
  raiseIf (selfApproved = true ∧ env.allowStockCountSelfApproval = some false)
    (.invalid "A different user must confirm this stock count")
  let adjusted ← lines.foldlM (adjustLine env (balancesByLocation state lines) sessionId
      confirmedByUserId reason) state
  let confirmed : StockCountSession :=
    { session with
      id := sessionId
      status := .confirmed
      confirmedByUserId := some confirmedByUserId
      confirmationReason := some reason
      confirmedAt := some env.now
      selfApproved := selfApproved }
  pure (adjusted.storeSession confirmed, confirmed)

/-- Confirm a session that is not, or return the committed result. -/
def confirmOnce (confirmedByUserId : Int) (reason : String) :
    Except StockError (StockState × StockCountSession) :=
  match state.countSessions sessionId with
  | none => throw (.invalid "Stock count session not found")
  | some session =>
    if session.status = .confirmed then pure (state, session)
    else
      applyStockCounts env state session sessionId confirmedByUserId reason

/-- Confirm a session once; a retry never adjusts a second time. -/
def confirmStockCountSession (confirmedByUserId : Int) (reason : String) :
    Except StockError (StockState × StockCountSession) := do
  let normalizedReason ← requiredReason reason "Stock count confirmation reason"
  confirmOnce env state sessionId confirmedByUserId normalizedReason

end

inductive StockCall
  | registerMovement (request : MovementRequest)
  | registerOpeningCount (itemId locationId : Int) (quantity : ℚ)
      (reason : String) (createdByUserId : Option Int)
      (idempotencyKey : String)
  | transferStock (itemId sourceLocationId destinationLocationId : Int)
      (quantity : ℚ) (reason : String) (createdByUserId : Option Int)
      (idempotencyKey : String)
  | createStockCountSession (createdByUserId : Int) (reason : String)
  | recordStockCount (sessionId itemId : Int) (locationId : Option Int)
      (countedQuantity : ℚ) (countedByUserId : Int)
  | confirmStockCountSession (sessionId confirmedByUserId : Int)
      (reason : String)
  | cancelStockCountSession (sessionId cancelledByUserId : Int)
      (reason : String)

/-- State a call leaves when it succeeds. -/
def performCall (uuid5 : UuidFunction) (env : StockEnvironment) (state : StockState) :
    StockCall -> Except StockError StockState
  | .registerMovement request =>
    (registerMovement env state request).map Prod.fst
  | .registerOpeningCount itemId locationId quantity reason createdByUserId idempotencyKey =>
      (registerOpeningCount env state uuid5 itemId locationId quantity reason
        createdByUserId idempotencyKey).map Prod.fst
  | .transferStock itemId sourceLocationId destinationLocationId quantity
      reason createdByUserId idempotencyKey =>
      (transferStock env state uuid5 itemId sourceLocationId
        destinationLocationId quantity reason createdByUserId
        idempotencyKey).map Prod.fst
  | .createStockCountSession createdByUserId reason =>
    (createStockCountSession env state createdByUserId reason).map Prod.fst
  | .recordStockCount sessionId itemId locationId countedQuantity countedByUserId =>
      (recordStockCount env state sessionId itemId locationId countedQuantity
        countedByUserId).map Prod.fst
  | .confirmStockCountSession sessionId confirmedByUserId reason =>
    (confirmStockCountSession env state sessionId confirmedByUserId reason).map Prod.fst
  | .cancelStockCountSession sessionId cancelledByUserId reason =>
    (cancelStockCountSession env state sessionId cancelledByUserId reason).map Prod.fst

/-- One call; a call that raises leaves the tables as they are. -/
def stockStep (uuid5 : UuidFunction) (state : StockState)
    (event : StockEnvironment × StockCall) : Option StockState :=
  match performCall uuid5 event.1 state event.2 with
  | .ok after => some after
  | .error _ => some state

end HotelPms.Stock
