import HotelPms.Laundry.State

/-!
# Remitos

A remito moves linen between a location of the hotel and the location of a
vendor.  Only the quantity that matches the vendor's recorded custody moves;
an excess or a declared shortage becomes a discrepancy, and what comes back is
matched with earlier shortages.  Any failure rolls back the whole remito.
-/

namespace HotelPms.Laundry

open Checked Inventory Decimal

structure RemitoLineInput where
  linenItemId : Int
  quantity : ℚ
  missingQuantity : ℚ := 0

structure RemitoRequest where
  vendorId : Int
  direction : String
  remitoNumber : String
  remitoDate : Int
  houseLocationId : Int
  lines : List RemitoLineInput
  notes : Option String := none
  actorUserId : Option Int := none

/-- What the lines of a remito share. -/
structure RemitoContext where
  env : LaundryEnvironment
  vendor : LaundryVendor
  houseLocationId : Int
  remito : LaundryRemito

namespace RemitoContext

variable (context : RemitoContext)

def sourceLocationId : Int :=
  match context.remito.direction with
  | .outbound => context.houseLocationId
  | .inbound => context.vendor.linenLocationId

def destLocationId : Int :=
  match context.remito.direction with
  | .outbound => context.vendor.linenLocationId
  | .inbound => context.houseLocationId

end RemitoContext

def secondsPerDay : Int := 86400

variable (env : LaundryEnvironment) (state : LaundryState)

/-- The price of an item in force on the date of a remito, the newest first. -/
def effectivePrice (vendorId itemId remitoDate : Int) : Option LaundryVendorPrice :=
  (KeySort.sortByKey (fun price => toLex (price.effectiveFrom, price.id))
    (env.prices.filter fun price => price.vendorId = vendorId ∧ price.linenItemId = itemId ∧
        price.effectiveFrom ≤ remitoDate / secondsPerDay)).getLast?

def lineItemIds (lines : List RemitoLineInput) : List Int :=
  KeySort.sortByKey (fun itemId => itemId) (lines.map RemitoLineInput.linenItemId).dedup

/-- Every item that goes out has a price in force. -/
def checkOutboundPrices (request : RemitoRequest) : Except LaundryError Unit := do
  let missingPriceItemIds := (lineItemIds request.lines).filter fun itemId =>
    (effectivePrice env request.vendorId itemId request.remitoDate).isNone
  let missingItems ← missingPriceItemIds.mapM env.getLinenItem
  raiseIf (missingPriceItemIds ≠ [])
    (.vendor ("Configurá un precio vigente por unidad para cada artículo (" ++
      ", ".intercalate (missingItems.map ("«" ++ ·.name ++ "»")) ++
      ") antes de registrar el retiro al lavadero."))

def checkPrices (request : RemitoRequest) (direction : Direction) : Except LaundryError Unit :=
  match direction with
  | .outbound => checkOutboundPrices env request
  | .inbound => pure ()

section

variable (context : RemitoContext) (lineId : Int) (state : LaundryState)

variable (row : LaundryDiscrepancy) (received : Int)

/-- A shortage after a part of it was received. -/
def settledRow : LaundryDiscrepancy :=
  let remaining := roundHalfEven (inContext ((row.remainingQuantity : ℚ) - received))
  if remaining = 0 then
    { row with
      remainingQuantity := remaining
      status := .resolved
      custodyLocationId := context.remito.houseLocationId
      resolvedByUserId := context.remito.createdByUserId
      resolvedAt := some context.env.now }
  else { row with remainingQuantity := remaining }

/-- The action of a receipt of a shortage. -/
def receiptDetails : ActionDetails where
  actionType :=
    if row.status = .pendingClaim then .claimReturn else .replacementReceipt
  reason := "Recepción de " ++ Payments.formatAmount received ++
    " mediante remito " ++ context.remito.remitoNumber ++ "."
  quantity := some received
  resolutionCode := row.resolutionCode
  remitoId := some context.remito.id
  remitoLineId := some lineId

def receiptKey : String :=
  "remito-" ++ toString context.remito.id ++ "-line-" ++ toString lineId ++
    "-discrepancy-" ++ toString row.id

def settleShortage : Except LaundryError LaundryState :=
  let settled := settledRow context row received
  recordDiscrepancyAction context.env (state.store settled) settled
    context.remito.createdByUserId (receiptKey context lineId row)
    (receiptDetails context lineId row received)

end

/-- What a shortage takes of a receipt. -/
def receivedOf (remainingReceipt : ℚ) (row : LaundryDiscrepancy) : Int :=
  roundHalfEven (min remainingReceipt row.remainingQuantity)

/-- Match what is left of a receipt with the shortages, one after another. -/
def matchRows (context : RemitoContext) (lineId : Int) :
    List LaundryDiscrepancy -> ℚ -> LaundryState -> Except LaundryError LaundryState
  | [], _, state => pure state
  | row :: rows, remainingReceipt, state =>
    if remainingReceipt ≤ 0 then pure state
    else do
      let received := receivedOf remainingReceipt row
      let state ← settleShortage context lineId state row received
      matchRows context lineId rows (roundHalfEven (inContext (remainingReceipt - received))) state

/-- Match physical receipt quantities to open laundry claims and
replacements. -/
def matchShortageReceipt (context : RemitoContext) (lineId itemId : Int) (quantity : ℚ)
    (state : LaundryState) : Except LaundryError LaundryState :=
  matchRows context lineId (state.openShortages context.remito.vendorId itemId) quantity state

section

variable (context : RemitoContext) (state : LaundryState)

variable (lineId : Int) (itemId : Int) (line : RemitoLineInput)

/-- One of the two movements of a line. -/
def remitoMovement (locationId : Int) (movementType : MovementType) (quantity : ℚ) :
    MovementRequest where
  itemId := itemId
  locationId := some locationId
  movementType := movementType.value
  quantity := quantity
  reason := some ("Laundry remito " ++ context.remito.remitoNumber ++ " (" ++
    context.remito.direction.value ++ ")")
  createdByUserId := context.remito.createdByUserId

/-- Move what a line takes from the source to the destination. -/
def moveLinen (sourceQuantity : ℚ) : Except LaundryError LaundryState :=
  if 0 < sourceQuantity then do
    let (gone, _) ← state.linen.registerMovement context.env
      (remitoMovement context itemId context.sourceLocationId .outbound sourceQuantity)
    let (arrived, _) ← gone.registerMovement context.env
      (remitoMovement context itemId context.destLocationId .inbound sourceQuantity)
    pure { state with linen := arrived }
  else pure state

/-- Insert the row of a line. -/
def addRemitoLine : Except LaundryError (LaundryState × Int) := do
  let quantity ← storeColumn line.quantity
  let missingQuantity ← storeColumn line.missingQuantity
  raiseIf (0 < line.missingQuantity ∧ missingQuantity = 0)
    (.integrity "ck_laundry_remito_lines_follow_up_status")
  raiseIf (quantity = 0 ∧ missingQuantity = 0)
    (.integrity "ck_laundry_remito_lines_quantities_valid")
  let record : LaundryRemitoLine :=
    { id := state.nextLineId
      remitoId := context.remito.id
      linenItemId := line.linenItemId
      quantity := quantity
      missingQuantity := missingQuantity
      unitPriceSnapshot := (effectivePrice context.env context.remito.vendorId
        line.linenItemId context.remito.remitoDate).map LaundryVendorPrice.unitPrice
      followUpStatus :=
        if 0 < line.missingQuantity then some "open" else none }
  pure ({ state with
        remitoLines := state.remitoLines ++ [record]
        nextLineId := state.nextLineId + 1 },
      record.id)

/-- The row of a discrepancy of a line. -/
def discrepancyOf (discrepancyType : DiscrepancyType)
    (quantity : Int) (sourceLocationId : Int) (custodyLocationId : Option Int)
    (status : DiscrepancyStatus) : LaundryDiscrepancy where
  id := state.nextDiscrepancyId
  remitoId := context.remito.id
  remitoLineId := lineId
  vendorId := context.remito.vendorId
  linenItemId := itemId
  discrepancyType := discrepancyType
  quantity := quantity
  remainingQuantity := quantity
  sourceLocationId := sourceLocationId
  custodyLocationId := custodyLocationId
  status := status
  createdByUserId := context.remito.createdByUserId
  createdAt := context.env.now

def LaundryState.addDiscrepancy (row : LaundryDiscrepancy) : LaundryState :=
  { state with
    discrepancies := state.discrepancies ++ [row]
    nextDiscrepancyId := state.nextDiscrepancyId + 1 }

def openDiscrepancy (discrepancyType : DiscrepancyType)
    (quantity : ℚ) (sourceLocationId : Int) (custodyLocationId : Option Int)
    (status : DiscrepancyStatus) : Except LaundryError LaundryState := do
  let stored ← storeColumn quantity
  raiseIf (stored ≤ 0) (.integrity "ck_laundry_discrepancy_quantity_positive")
  pure (state.addDiscrepancy (discrepancyOf context state lineId itemId
    discrepancyType stored sourceLocationId custodyLocationId status))

/-- What came back beyond the vendor's recorded custody awaits approval. -/
def openExcess (excessQuantity : ℚ) : Except LaundryError LaundryState :=
  if 0 < excessQuantity then
    openDiscrepancy context state lineId itemId .excessReturn excessQuantity
      context.houseLocationId (some context.houseLocationId) .pendingApproval
  else pure state

/-- What came back settles earlier shortages. -/
def receiveLinen (sourceQuantity : ℚ) : Except LaundryError LaundryState :=
  if context.remito.direction = .inbound ∧ 0 < sourceQuantity then
    matchShortageReceipt context lineId itemId sourceQuantity state
  else pure state

/-- A declared shortage disputes a part of the vendor's recorded custody that
no other shortage disputes. -/
def openMissing (missingQuantity : ℚ) : Except LaundryError LaundryState :=
  if 0 < missingQuantity then do
    let stillRecordedAtVendor ← state.linen.currentStock context.env itemId
      (some context.vendor.linenLocationId)
    let unallocatedVendorQuantity := max (inContext ((stillRecordedAtVendor : ℚ) -
        state.disputedQuantity context.remito.vendorId itemId)) 0
    raiseIf (unallocatedVendorQuantity < missingQuantity)
      (.vendor ("El faltante supera la cantidad disponible del lavadero no " ++
        "vinculada a otra discrepancia. Registrá el remito de salida " ++
        "correspondiente o conciliá el faltante abierto."))
    openDiscrepancy context state lineId itemId .shortReturn missingQuantity
      context.vendor.linenLocationId none .pendingReview
  else pure state

/-- Quantity of a line that moves: no more comes back than the vendor is
recorded to have. -/
def sourceQuantity (ledgerAvailable : Int) : ℚ :=
  match context.remito.direction with
  | .outbound => line.quantity
  | .inbound => min line.quantity ledgerAvailable

/-- Quantity of a line that comes back beyond that. -/
def excessQuantity (ledgerAvailable : Int) : ℚ :=
  if context.remito.direction = .inbound ∧ (ledgerAvailable : ℚ) < line.quantity then
    inContext (line.quantity - ledgerAvailable)
  else 0

/-- The source has what a line takes of it. -/
def checkSource (item : LinenItem) (line : RemitoLineInput) (ledgerAvailable : Int) :
    Except LaundryError Unit :=
  if (ledgerAvailable : ℚ) < sourceQuantity context line ledgerAvailable
  then do
    let location ← context.env.getLocation context.sourceLocationId
    throw (.notEnough item.name location.name ledgerAvailable
      (sourceQuantity context line ledgerAvailable))
  else pure ()

def checkLineQuantities : Except LaundryError Unit := do
  raiseIf (line.quantity < 0 ∨ line.missingQuantity < 0 ∨
      (line.quantity = 0 ∧ line.missingQuantity = 0))
    (.vendor "La cantidad devuelta o faltante debe ser positiva")
  raiseIf (context.remito.direction = .outbound ∧ 0 < line.missingQuantity)
    (.vendor ("El faltante solo se puede informar en una entrega del " ++ "lavadero"))

def recordLine : Except LaundryError LaundryState := do
  checkLineQuantities context line
  let item ← context.env.getLinenItem line.linenItemId
  let ledgerAvailable ← state.linen.currentStock context.env line.linenItemId
    (some context.sourceLocationId)
  raiseIf (context.remito.direction = .inbound ∧ 0 < line.missingQuantity ∧
      (ledgerAvailable : ℚ) < line.quantity)
    (.vendor ("El mismo artículo no puede tener faltante y excedente en un " ++ "único remito."))
  checkSource context item line ledgerAvailable
  let moved ← moveLinen context state line.linenItemId (sourceQuantity context line ledgerAvailable)
  let (lined, lineId) ← addRemitoLine context moved line
  let exceeded ← openExcess context lined lineId line.linenItemId
    (excessQuantity context line ledgerAvailable)
  let received ← receiveLinen context exceeded lineId line.linenItemId
    (sourceQuantity context line ledgerAvailable)
  openMissing context received lineId line.linenItemId line.missingQuantity

end

/-- The vendor already has a remito with this number and direction. -/
def LaundryState.HasRemito
    (vendorId : Int) (direction : Direction) (remitoNumber : String) : Prop :=
  ∃ remito ∈ state.remitos, remito.vendorId = vendorId ∧ remito.direction = direction ∧
      remito.remitoNumber = remitoNumber
deriving Decidable

def remitoOf (request : RemitoRequest) (direction : Direction)
    (remitoNumber : String) : LaundryRemito where
  id := state.nextRemitoId
  vendorId := request.vendorId
  direction := direction
  houseLocationId := some request.houseLocationId
  remitoNumber := remitoNumber
  remitoDate := request.remitoDate
  notes := request.notes
  createdByUserId := request.actorUserId
  createdAt := env.now

def LaundryState.addRemito (remito : LaundryRemito) : LaundryState :=
  { state with remitos := state.remitos ++ [remito], nextRemitoId := state.nextRemitoId + 1 }

def remitoContext (request : RemitoRequest) (vendor : LaundryVendor)
    (direction : Direction) : RemitoContext where
  env := env
  vendor := vendor
  houseLocationId := request.houseLocationId
  remito := remitoOf env state request direction (Text.strip request.remitoNumber)

/-- Check a remito in a known direction and record its lines. -/
def createDirected (request : RemitoRequest) (direction : Direction) :
    Except LaundryError (LaundryState × LaundryRemito) := do
  raiseIf (request.lines = []) (.vendor "El remito debe incluir al menos un artículo.")
  let remitoNumber := Text.strip request.remitoNumber
  raiseIf (remitoNumber = "") (.vendor "El número de remito es obligatorio")
  let vendor ← state.getVendor request.vendorId
  raiseIf (state.HasRemito request.vendorId direction remitoNumber)
    (.duplicateRemito ("Ya existe un remito con ese número, lavadero y " ++
      "sentido. Revisá si es salida o entrada."))
  let _ ← env.getLocation request.houseLocationId
  checkPrices env request direction
  raiseIf (60 < remitoNumber.length) (.valueTooLong "remito_number")
  let context := remitoContext env state request vendor direction
  let recorded ← request.lines.foldlM (recordLine context) (state.addRemito context.remito)
  pure (recorded, context.remito)

/-- Record confirmed transfers and keep remito discrepancies out of stock. -/
def createRemito (request : RemitoRequest) : Except LaundryError (LaundryState × LaundryRemito) :=
  match Direction.ofValue request.direction with
  | none => throw (.vendor ("La operación debe ser un retiro o una entrega " ++ "del lavadero."))
  | some direction => createDirected env state request direction

end HotelPms.Laundry
