import HotelPms.Cash.Register
import HotelPms.Payments.ProcessPayment

/-!
# Correcting a payment

An approved correction cancels a wrong or duplicate payment, and moves it to
another reservation or voids its cash movements.  It never records a refund or
a second physical movement, and a call that raises writes nothing.
-/

namespace HotelPms.Cash

open Checked Hotel Table
open Payments (BillingAdjustment Company Ledger PaymentMethod PaymentState
  ReservationFinancials Transaction TransactionStatus formatAmount
  normalizeCurrency textGiven)

/-- Columns of a transaction that only corrections look at. -/
structure TransactionDetails where
  providerCode : Option String := none
  groupPaymentBatchId : Option Int := none
  taxAmount : Option Int := none
  netAmount : Option Int := none
  pricingSnapshot : Option String := none

structure PaymentCorrection where
  id : Int
  sourceTransactionId : Int
  sourceReservationId : Int
  targetReservationId : Option Int
  replacementTransactionId : Option Int
  correctionType : String
  reason : String
  idempotencyKey : String
  actorUserId : Int

/-- The tables a correction reads and writes: those of the payments, whose
drawers are the register's, and the corrections made. -/
structure CorrectionState where
  payments : PaymentState
  details : Int -> TransactionDetails
  register : Register
  corrections : List PaymentCorrection := []
  nextCorrectionId : Int := 1
  distinctSessions : (register.sessions.map CashSession.id).Nodup
  linked : ∀ movement ∈ register.movements, ∀ transactionId,
    movement.transactionId = some transactionId -> transactionId < payments.ledger.nextTransactionId

structure CorrectionCall where
  sourceTransactionId : Int
  correctionType : String
  targetReservationId : Option Int
  reason : String
  idempotencyKey : String
  actorUserId : Int

structure PaymentCorrectionOutcome where
  correction : PaymentCorrection
  replayed : Bool

/-- Words of a text, one blank between them. -/
def joinedWords (text : String) : String :=
  String.ofList ([' '].intercalate ((text.toList.splitOnP Char.isWhitespace).filter fun word =>
      word ≠ []))

variable (now : Int) (state : CorrectionState) (call : CorrectionCall)

/-- The call with its texts as they are stored. -/
def CorrectionCall.normalized : CorrectionCall :=
  { call with reason := joinedWords call.reason, idempotencyKey := Text.strip call.idempotencyKey }

def checkCorrectionCall : Except String Unit := do
  raiseIf (call.correctionType ∉ ["reassign", "duplicate_reversal"])
    "El tipo de corrección no es válido."
  raiseIf (call.reason = "" ∨ 240 < call.reason.length) "Ingresá un motivo de hasta 240 caracteres."
  raiseIf (call.idempotencyKey.length < 8 ∨ 100 < call.idempotencyKey.length)
    "La clave de idempotencia debe tener entre 8 y 100 caracteres."
  raiseIf (¬(call.correctionType = "reassign" ↔ call.targetReservationId ≠ none))
    "La corrección no coincide con la reserva de destino."

def RequestMatches (correction : PaymentCorrection) (call : CorrectionCall) : Prop :=
  correction.sourceTransactionId = call.sourceTransactionId ∧
    correction.correctionType = call.correctionType ∧
    correction.targetReservationId = call.targetReservationId ∧
    correction.reason = call.reason
deriving Decidable

/-- The correction made under the key, if it answers the same request. -/
def findIdempotentReplay : Except String (Option PaymentCorrection) :=
  match find PaymentCorrection.idempotencyKey call.idempotencyKey state.corrections with
  | none => pure none
  | some correction => do
    raiseIf (¬RequestMatches correction call)
      "La clave de idempotencia ya se usó para otra corrección."
    pure (some correction)

def correctableMethods : List PaymentMethod :=
  [.cash, .creditCard, .debitCard, .bankTransfer]

section

variable (state : CorrectionState) (call : CorrectionCall) (source : Transaction)

/-- The payment is completed, manual, and stands alone. -/
def checkSource : Except String Unit := do
  raiseIf (∃ correction ∈ state.corrections, correction.sourceTransactionId = source.id)
    "Este pago ya tiene una corrección registrada."
  raiseIf (source.status ≠ .completed) "Solo se pueden corregir cobros completados."
  raiseIf (source.IsRefund ∨ (source.refundOfTransactionId.any (· ≠ 0)) = true)
    "Una devolución no se puede corregir desde este flujo."
  raiseIf (source.paymentMethod ∉ correctableMethods ∨ textGiven source.externalPaymentId = true ∨
      textGiven (state.details source.id).providerCode = true)
    ("Este medio de pago requiere conciliación específica y no admite " ++ "corrección manual.")
  raiseIf ((state.details source.id).groupPaymentBatchId ≠ none)
    ("Los pagos grupales deben corregirse desde una conciliación de grupo.")
  raiseIf (state.payments.ledger.nightAllocations source.id ≠ [])
    ("Este pago incluye adicionales de empresa y requiere corregir sus " ++
      "asignaciones junto con el pago.")
  raiseIf (∃ row ∈ state.payments.ledger.transactions,
      row.refundOfTransactionId = some source.id ∧ row.IsRefund ∧ row.status = .completed)
    ("Este pago ya tiene una devolución; primero debe conciliarse ese " ++ "movimiento.")

/-- Cash movements of a transaction. -/
def Register.movementsOf (register : Register) (transactionId : Int) : List CashMovement :=
  register.movements.filter (·.transactionId = some transactionId)

/-- Every movement is in a session, which a reversal finds open, and none is
void. -/
def checkMovements (movements : List CashMovement) : Except String Unit := do
  raiseIf (∃ movement ∈ movements, state.register.session? movement.sessionId = none)
    "No se encontraron todas las sesiones de caja asociadas al pago."
  raiseIf (call.correctionType = "duplicate_reversal" ∧ ∃ movement ∈ movements,
        (state.register.session? movement.sessionId).any (fun session =>
          session.status ≠ .opened) = true)
    ("El movimiento duplicado solo se puede anular mientras la caja está " ++
      "abierta. La sesión ya cerró o está pendiente de aprobación; " ++
      "solicitá una conciliación autorizada.")
  raiseIf (∃ movement ∈ movements, movement.voidedAt ≠ none)
    ("El movimiento de caja ya fue anulado; revisá la conciliación antes " ++ "de continuar.")

/-- Cash movements a correction moves or voids: those of a cash payment, which
must be there unless an earlier receipt counted the cash. -/
def correctedMovements : Except String (List CashMovement) :=
  if source.paymentMethod = .cash ∧
      (call.correctionType = "duplicate_reversal" ∨ source.collectedBefore = false) then do
    let movements := state.register.movementsOf source.id
    raiseIf (movements = [] ∧ call.correctionType = "duplicate_reversal")
      ("No se encontró un movimiento asociado a una caja abierta. Este " ++
        "cobro requiere conciliación autorizada antes de anularse.")
    raiseIf (movements = []) "No se encontró el ingreso físico de caja asociado al pago."
    checkMovements state call movements
    pure movements
  else pure []

end

/-- The reservation's lodging is billed outside. -/
def hasDeferredCompanyBilling
    (companies : List Company) (reservation : ReservationFinancials) : Bool :=
  reservation.companyId.any fun companyId =>
    decide (reservation.settlementStatus.toLower ∈ ["deferred", "settled"]) ||
      companies.any fun company => decide (company.id = companyId) && company.paymentDeferred

/-- The target can take the payment within its balance. -/
def checkTarget (payments : PaymentState) (source : Transaction)
    (target : ReservationFinancials) : Except String Unit := do
  raiseIf (target.status = .cancelled ∨ target.status = .checkedOut)
    ("No se puede imputar un pago a una reserva cancelada o con checkout " ++ "finalizado.")
  raiseIf (target.currency ≠ normalizeCurrency
      (if source.currency = "" then "ARS" else source.currency))
    "La reserva de destino debe usar la misma moneda del asiento original."
  raiseIf (hasDeferredCompanyBilling payments.companies target = true)
    ("La reserva de destino usa facturación diferida; no se puede imputar " ++
      "este cobro general.")
  let currentPaid := target.paidAmountWithLegacyFallback payments.ledger
  let balance :=
    target.operationalBalanceDue payments.adjustments currentPaid
  raiseIf (source.amount ≤ 0 ∨ balance < source.amount)
    ("El pago (" ++ formatAmount source.amount ++ " " ++ source.currency ++
      ") supera el saldo disponible de la reserva de destino (" ++
      formatAmount balance ++ ").")

/-! ## Writing a correction -/

/-- A transaction that no longer counts. -/
def cancelledRow (row : Transaction) : Transaction :=
  { row with status := .cancelled }

def cancelledRows (ledger : Ledger) (transactionId : Int) : List Transaction :=
  ledger.transactions.map fun row =>
    if row.id = transactionId then cancelledRow row else row

theorem cancelledRows_distinct (ledger : Ledger) (transactionId : Int) :
    ((cancelledRows ledger transactionId).map Transaction.id).Nodup := by
  have sameIds : Transaction.id ∘ (fun row : Transaction =>
      if row.id = transactionId then cancelledRow row else row) = Transaction.id := by
    funext row
    simp only [Function.comp_apply]
    split_ifs
    · rfl
    · rfl
  unfold cancelledRows
  rw [List.map_map, sameIds]
  exact ledger.distinctIds

theorem cancelledRows_forall (ledger : Ledger) (transactionId : Int)
    (property : Int -> Option Int -> Prop)
    (always : ∀ row ∈ ledger.transactions, property row.id row.refundOfTransactionId) :
    ∀ row ∈ cancelledRows ledger transactionId, property row.id row.refundOfTransactionId := by
  intro row member
  obtain ⟨old, oldIn, rfl⟩ := List.mem_map.mp member
  split_ifs
  · exact always old oldIn
  · exact always old oldIn

/-- The ledger with a transaction cancelled. -/
def cancelTransaction (ledger : Ledger) (transactionId : Int) : Ledger where
  transactions := cancelledRows ledger transactionId
  allocations := ledger.allocations
  nextTransactionId := ledger.nextTransactionId
  distinctIds := cancelledRows_distinct ledger transactionId
  idsBelow := cancelledRows_forall ledger transactionId
    (fun id _ => id < ledger.nextTransactionId) ledger.idsBelow
  sourcesBelow := cancelledRows_forall ledger transactionId
    (fun _ refundOf => ∀ source, refundOf = some source ->
      source < ledger.nextTransactionId) ledger.sourcesBelow
  allocationsBelow := ledger.allocationsBelow

/-- The payment as it stands under its target reservation. -/
def replacementOf (source : Transaction) (target : ReservationFinancials) : Transaction where
  id := state.payments.ledger.nextTransactionId
  reservationId := target.id
  amount := source.amount
  currency := source.currency
  tenderAmount := source.tenderAmount
  tenderCurrency := source.tenderCurrency
  cashReceivedAmount := source.cashReceivedAmount
  cashChangeAmount := source.cashChangeAmount
  cashChangeSettledAmount := source.cashChangeSettledAmount
  cashChangeSettledCurrency := source.cashChangeSettledCurrency
  cashChangeFxRateSnapshot := source.cashChangeFxRateSnapshot
  cashTipAmount := source.cashTipAmount
  roundingCreditAmount := source.roundingCreditAmount
  creditRefundAmount := 0
  refundComponent := source.refundComponent
  grossAmount := source.grossAmount
  feeAmount := source.feeAmount
  fxRateSnapshot := source.fxRateSnapshot
  fxQuoteDetails := source.fxQuoteDetails.filter (· ≠ {})
  transactionType := source.transactionType
  paymentMethod := source.paymentMethod
  status := .completed
  manualReference := source.manualReference
  collectedBefore := source.collectedBefore
  collectedOn := source.collectedOn
  priorReceiptNote := source.priorReceiptNote
  description := some ("Reimputación del pago #" ++ toString source.id)
  createdByUserId := some call.actorUserId
  processedAt := source.processedAt

/-- The new description of a movement that follows its payment. -/
def correctedDescription (movement : CashMovement) (targetId replacementId sourceId : Int) :
    String :=
  let movementLabel := match movement.movementType with
    | .income => "Ingreso"
    | .expense => "Vuelto"
    | .adjustment => "Movimiento"
  let text := movementLabel ++ " corregido para reserva #" ++
    toString targetId ++ " (tx #" ++ toString replacementId ++
      "; origen tx #" ++ toString sourceId ++ ")"
  String.ofList (text.toList.take 300)

/-- A movement that follows its payment to the replacement. -/
def relinkedMovement (replacement : Transaction) (sourceId : Int) (movement : CashMovement) :
    CashMovement :=
  { movement with
    reservationId := some replacement.reservationId
    transactionId := some replacement.id
    description := some (correctedDescription movement
      replacement.reservationId replacement.id sourceId) }

/-- A movement a reversal has annulled. -/
def voidedMovement (correctionId : Int) (movement : CashMovement) : CashMovement :=
  { movement with voidedAt := some now, voidedByPaymentCorrectionId := some correctionId }

def Register.changeMovements (register : Register) (movements : List CashMovement)
    (change : CashMovement -> CashMovement) : Register :=
  { register with
    movements := register.movements.map fun movement =>
      if movement ∈ movements then change movement else movement }

/-- The correction a call records. -/
def correctionOf (source : Transaction) (replacement : Option Transaction) : PaymentCorrection where
  id := state.nextCorrectionId
  sourceTransactionId := source.id
  sourceReservationId := source.reservationId
  targetReservationId := replacement.map Transaction.reservationId
  replacementTransactionId := replacement.map Transaction.id
  correctionType := call.correctionType
  reason := call.reason
  idempotencyKey := call.idempotencyKey
  actorUserId := call.actorUserId

theorem changeMovements_linked {register : Register} {movements : List CashMovement}
    {change : CashMovement -> CashMovement} {bound next : Int}
    (linked : ∀ movement ∈ register.movements, ∀ transactionId,
      movement.transactionId = some transactionId -> transactionId < bound)
    (grows : bound ≤ next)
    (changed : ∀ movement ∈ register.movements, ∀ transactionId,
      (change movement).transactionId = some transactionId -> transactionId < next) :
    ∀ movement ∈ (register.changeMovements movements change).movements,
      ∀ transactionId, movement.transactionId = some transactionId -> transactionId < next := by
  intro movement member transactionId isLinked
  obtain ⟨old, oldIn, rfl⟩ := List.mem_map.mp member
  split_ifs at isLinked
  · exact changed old oldIn transactionId isLinked
  · have := linked old oldIn transactionId isLinked
    omega

/-- Cancel the payment, void its movements and refresh its reservation. -/
def reversePayment (source : Transaction) (sourceReservation : ReservationFinancials)
    (movements : List CashMovement) :
    Except String (CorrectionState × PaymentCorrection) := do
  let ledger := cancelTransaction state.payments.ledger source.id
  let correction := correctionOf state call source none
  let settled ← sourceReservation.updateFinancials ledger state.payments.adjustments
  pure ({ state with
        payments :=
          { state.payments.storeReservation settled with ledger := ledger }
        register := state.register.changeMovements movements (voidedMovement now correction.id)
        corrections := state.corrections ++ [correction]
        nextCorrectionId := state.nextCorrectionId + 1
        linked := changeMovements_linked state.linked
          (Int.le_refl state.payments.ledger.nextTransactionId)
          state.linked },
      correction)

theorem replacement_sourceBelow
    (state : CorrectionState) (call : CorrectionCall) (source : Transaction)
    (target : ReservationFinancials) (bound : Int) :
    ∀ earlier, (replacementOf state call source target).refundOfTransactionId =
      some earlier → earlier < bound := by
  intro earlier refund
  cases refund

theorem replacement_isNext (state : CorrectionState) (call : CorrectionCall) (source : Transaction)
    (target : ReservationFinancials) :
    (replacementOf state call source target).id = (cancelTransaction state.payments.ledger
        source.id).nextTransactionId := rfl

/-- The ledger with the payment moved to the target. -/
def reassignedLedger (source : Transaction) (target : ReservationFinancials) : Ledger :=
  (cancelTransaction state.payments.ledger source.id).record
    (replacementOf state call source target)
    (replacement_isNext state call source target)
    (replacement_sourceBelow state call source target _) []

theorem relinked_below (register : Register) (replacement : Transaction) (sourceId : Int) :
    ∀ movement ∈ register.movements, ∀ transactionId,
      (relinkedMovement replacement sourceId movement).transactionId =
        some transactionId -> transactionId < replacement.id + 1 := by
  intro movement _ transactionId isLinked
  cases isLinked
  exact Int.lt_add_one_of_le (Int.le_refl replacement.id)

/-- Cancel the payment, record it under the target with its movements, and
refresh both reservations. -/
def reassignPayment (source : Transaction) (sourceReservation target : ReservationFinancials)
    (movements : List CashMovement) :
    Except String (CorrectionState × PaymentCorrection) := do
  let cancelled := cancelTransaction state.payments.ledger source.id
  let replacement := replacementOf state call source target
  Payments.checkConstraints { state.payments with ledger := cancelled } replacement
  let ledger := reassignedLedger state call source target
  let correction := correctionOf state call source (some replacement)
  let settled ← sourceReservation.updateFinancials ledger state.payments.adjustments
  let targetSettled ← target.updateFinancials ledger state.payments.adjustments
  pure ({ state with
        payments :=
          { (state.payments.storeReservation settled).storeReservation
              targetSettled with ledger := ledger }
        details := Function.update state.details replacement.id
          { state.details source.id with providerCode := none, groupPaymentBatchId := none }
        register := state.register.changeMovements movements
          (relinkedMovement replacement source.id)
        corrections := state.corrections ++ [correction]
        nextCorrectionId := state.nextCorrectionId + 1
        linked := changeMovements_linked state.linked (Int.le_add_one (Int.le_refl _))
          (relinked_below state.register replacement source.id) },
      correction)

/-- The reservation a payment is moved to, apart from its own. -/
def targetReservation (sourceReservation : ReservationFinancials) :
    Except String (Option ReservationFinancials) :=
  match call.targetReservationId with
  | none => pure none
  | some targetId =>
    match state.payments.reservations targetId with
    | none =>
      throw "No se encontró la reserva de destino en este hotel."
    | some target => do
      raiseIf (target.id = sourceReservation.id)
        ("La reserva de destino debe ser distinta de la reserva " ++ "original.")
      pure (some target)

/-- A cancelled prior receipt breaks the constraint of its table. -/
def checkCancellation (source : Transaction) : Except String Unit :=
  raiseIf (¬(cancelledRow source).PriorReceiptConsistent) "ck_transaction_prior_receipt_consistent"

/-- Correct a payment under a key that has not been used. -/
def createCorrection : Except String (CorrectionState × PaymentCorrection) :=
  match state.payments.ledger.transaction? call.sourceTransactionId with
  | none => throw "No se encontró el pago para corregir."
  | some source =>
    match state.payments.reservations source.reservationId with
    | none => throw "No se encontró la reserva del pago."
    | some sourceReservation => do
      let target ← targetReservation state call sourceReservation
      checkSource state source
      let movements ← correctedMovements state call source
      match target with
      | some target => do
        checkTarget state.payments source target
        checkCancellation source
        reassignPayment state call source sourceReservation target movements
      | none => do
        checkCancellation source
        reversePayment now state call source sourceReservation movements

/-- Reverse a wrong or duplicate entry and optionally reassign it. -/
def correctPayment : Except String (CorrectionState × PaymentCorrectionOutcome) := do
  let call := call.normalized
  checkCorrectionCall call
  let replay ← findIdempotentReplay state call
  match replay with
  | some correction =>
    pure (state, { correction := correction, replayed := true })
  | none => do
    let (after, correction) ← createCorrection now state call
    pure (after, { correction := correction, replayed := false })

end HotelPms.Cash
