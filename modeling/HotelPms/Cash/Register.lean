import HotelPms.Foundation.Table
import HotelPms.Payments.Ledger

/-!
# The cash register

Sessions, movements, close reports and custody handoffs of the drawers of one
hotel.  A session is opened in a currency, collects movements, and is closed
with a count that hands its cash to a successor session.  A call that raises
writes nothing.
-/

namespace HotelPms.Cash

open Checked Decimal Table
open Payments (Ledger Transaction normalizeCurrency)

inductive CashSessionStatus
  | opened
  | closed
  | pendingApproval
  deriving DecidableEq

inductive CashMovementType
  | income
  | expense
  | adjustment
  deriving DecidableEq

inductive CashCustodyStatus
  | pending
  | confirmed
  deriving DecidableEq

/-- Single currency-specific cash-register shift. -/
structure CashSession where
  id : Int
  openedByUserId : Option Int := none
  closedByUserId : Option Int := none
  status : CashSessionStatus := .opened
  openingBalance : Int := 0
  currencyCode : String := "ARS"
  openedAt : Int
  closedAt : Option Int := none
  businessOpenedAt : Option Int := none
  businessClosedAt : Option Int := none
  notes : Option String := none

/-- Individual money movement within a cash session. -/
structure CashMovement where
  id : Int
  sessionId : Int
  reservationId : Option Int := none
  transactionId : Option Int := none
  voidedAt : Option Int := none
  voidedByPaymentCorrectionId : Option Int := none
  recordedByUserId : Option Int := none
  movementType : CashMovementType
  amount : Int
  description : Option String := none
  recordedAt : Int
  businessRecordedAt : Option Int := none
  deriving DecidableEq

/-- Arqueo de caja: expected against actual cash at session close. -/
structure CashCloseReport where
  id : Int
  sessionId : Int
  closedByUserId : Option Int := none
  expectedBalance : Int
  declaredBalance : Int
  difference : Int
  differenceApproved : Bool := false
  approvedByUserId : Option Int := none
  notes : Option String := none
  closedAt : Int
  businessClosedAt : Option Int := none
  successorSessionId : Option Int := none
  successorFloatDeclaredAmount : Option Int := none
  successorFloatDeclaredByUserId : Option Int := none
  successorFloatDeclaredAt : Option Int := none
  businessSuccessorFloatDeclaredAt : Option Int := none

/-- Custody record connecting a closed cash session to its successor. -/
structure CashCustodyHandoff where
  id : Int
  closeReportId : Int
  deliveredByUserId : Option Int := none
  receivedByUserId : Option Int := none
  deliveredAmount : Int
  status : CashCustodyStatus := .pending
  deliveredAt : Int
  receivedAt : Option Int := none
  businessDeliveredAt : Option Int := none
  businessReceivedAt : Option Int := none

/-- The cash tables of one hotel. -/
structure Register where
  sessions : List CashSession := []
  movements : List CashMovement := []
  reports : List CashCloseReport := []
  handoffs : List CashCustodyHandoff := []
  nextSessionId : Int := 1
  nextMovementId : Int := 1
  nextReportId : Int := 1
  nextHandoffId : Int := 1

/-- What a call reads outside the register: the clock, the business clock of
the hotel, its transactions and the sessions with pending expenses. -/
structure CashEnvironment where
  now : Int
  businessNow : Int
  ledger : Ledger
  pendingExpense : Int → Bool

/-- An amount in cents, half a cent up. -/
def money (value : ℚ) : Int := quantizeHalfUp 2 value

/-- Money columns hold ten digits before the point. -/
def fitsColumn (amount : Int) : Prop := |amount| < 10 ^ 12
deriving Decidable

/-- Currency column of a session: three letters of the normalized code. -/
def sessionCurrency (code : String) : String :=
  String.ofList ((normalizeCurrency code).toList.take 3)

namespace Register

variable (register : Register)

def session? (sessionId : Int) : Option CashSession :=
  find CashSession.id sessionId register.sessions

def report? (reportId : Int) : Option CashCloseReport :=
  find CashCloseReport.id reportId register.reports

/-- Custody handoff of a report. -/
def handoffOf? (reportId : Int) : Option CashCustodyHandoff :=
  find CashCustodyHandoff.closeReportId reportId register.handoffs

/-- Some session of the currency is open. -/
def hasOpen (currencyCode : String) : Bool :=
  register.sessions.any fun session =>
    session.status = .opened ∧ session.currencyCode = currencyCode

end Register

def movementSign (movementType : CashMovementType) : Int :=
  match movementType with
  | .expense => -1
  | .income | .adjustment => 1

/-- Effect of a movement on its drawer. -/
def CashMovement.signedAmount (movement : CashMovement) : Int :=
  movementSign movement.movementType * movement.amount

/-- A movement of the session, up to a time; a movement without a business
time counts by the time it was recorded. -/
def CashMovement.countsIn (session : CashSession) (businessAsOf : Int) (movement : CashMovement) :
    Bool :=
  decide (movement.sessionId = session.id) &&
    decide (movement.voidedAt = none) &&
    match movement.businessRecordedAt with
    | some recordedAt =>
      decide (session.businessOpenedAt.getD session.openedAt ≤ recordedAt ∧
        recordedAt ≤ businessAsOf)
    | none =>
      decide (session.openedAt ≤ movement.recordedAt ∧ movement.recordedAt ≤ businessAsOf)

variable (ledger : Ledger)

/-- A movement linked to a transaction counts while it is completed cash. -/
def CashMovement.confirmed (movement : CashMovement) : Bool :=
  match movement.transactionId with
  | none => true
  | some transactionId =>
    (ledger.transaction? transactionId).any fun transaction =>
      transaction.paymentMethod = .cash ∧ transaction.status = .completed

/-- Confirmed handoff to a session from before opening floats were declared. -/
def legacyHandoffTotal (register : Register) (session : CashSession) (businessAsOf : Int) : Int :=
  let handoff :=
    (register.reports.find? fun report => report.successorSessionId = some session.id ∧
        report.successorFloatDeclaredAmount = none).bind (register.handoffOf? ·.id)
  match handoff with
  | some handoff =>
    let acknowledgedAt :=
      ((handoff.businessReceivedAt.or handoff.businessDeliveredAt).or
        handoff.receivedAt).getD handoff.deliveredAt
    if handoff.status = .confirmed ∧ acknowledgedAt ≤ businessAsOf then
      handoff.deliveredAmount
    else 0
  | none => 0

def confirmedCashMovementsTotal (register : Register) (session : CashSession)
    (businessAsOf : Int) : Int :=
  ((register.movements.filter fun movement =>
      movement.countsIn session businessAsOf && movement.confirmed ledger).map
    CashMovement.signedAmount).sum +
    legacyHandoffTotal register session businessAsOf

/-- Balance a session should hold at a time. -/
def expectedBalance (register : Register) (session : CashSession) (businessAsOf : Int) : Int :=
  session.openingBalance + confirmedCashMovementsTotal ledger register session businessAsOf

section

variable (env : CashEnvironment) (register : Register)

/-- Open one hotel-scoped cash session per currency. -/
def openSession (openedByUserId : Option Int) (openingBalance : ℚ) (currencyCode : String)
    (notes : Option String) : Except String (Register × CashSession) := do
  let normalizedCurrency := sessionCurrency currencyCode
  raiseIf (register.hasOpen normalizedCurrency = true) "Ya hay una caja abierta para esta moneda."
  let session : CashSession :=
    { id := register.nextSessionId, openedByUserId := openedByUserId
      openingBalance := money openingBalance, currencyCode := normalizedCurrency
      openedAt := env.now, businessOpenedAt := some env.businessNow, notes := notes }
  raiseIf (¬fitsColumn session.openingBalance) "numeric field overflow"
  -- Any integrity error is reported as a drawer that is already open.
  raiseIf (session.openingBalance < 0) "Ya hay una caja abierta para esta moneda."
  pure ({ register with
        sessions := register.sessions ++ [session]
        nextSessionId := register.nextSessionId + 1 },
      session)

/-- A movement to add to a session. -/
structure MovementRequest where
  sessionId : Int
  recordedByUserId : Option Int := none
  movementType : CashMovementType
  amount : ℚ
  description : Option String := none
  reservationId : Option Int := none
  transactionId : Option Int := none
  fromPaymentTransaction : Bool := false

def requireOpenSession (sessionId : Int) : Except String CashSession :=
  match register.session? sessionId with
  | some session =>
    if session.status = .opened then pure session
    else throw "La caja no está abierta para este hotel"
  | none => throw "La caja no está abierta para este hotel"

variable (session : CashSession) (closedByUserId : Option Int) (request : MovementRequest)

/-- Change of a payment given back from the drawer of another currency. -/
def isCrossCurrencyChange (transaction : Transaction) : Prop :=
  ¬transaction.IsRefund ∧ request.movementType = .expense ∧
    normalizeCurrency transaction.tenderCode ≠ normalizeCurrency session.currencyCode ∧
    normalizeCurrency (transaction.cashChangeSettledCurrency.getD "") =
      normalizeCurrency session.currencyCode ∧
    0 < transaction.cashChangeSettledAmount.getD 0 ∧
    money request.amount = transaction.cashChangeSettledAmount.getD 0
deriving Decidable

/-- The movement matches the payment it is linked to. -/
def checkLinkedTransaction (transaction : Transaction) : Except String Unit := do
  raiseIf ((request.reservationId.any fun reservationId =>
      transaction.reservationId ≠ reservationId) = true)
    "La transacción no pertenece a la reserva seleccionada"
  if request.fromPaymentTransaction = true then do
    raiseIf (transaction.status ≠ .completed ∨ transaction.paymentMethod ≠ .cash)
      ("Solo las transacciones completadas en efectivo pueden generar " ++
        "movimientos de caja vinculados")
    let expectedMovementType : CashMovementType :=
      if transaction.IsRefund then .expense else .income
    raiseIf (request.movementType ≠ expectedMovementType ∧
        ¬isCrossCurrencyChange session request transaction)
      ("El tipo de movimiento de caja no coincide con la transacción de " ++ "pago")
  else pure ()

def linkedTransaction : Except String (Option Transaction) :=
  match request.transactionId with
  | none => pure none
  | some transactionId =>
    match env.ledger.transaction? transactionId with
    | none => throw "La transacción no pertenece a este hotel"
    | some transaction => do
      checkLinkedTransaction session request transaction
      pure (some transaction)

/-- Add an income, expense, or adjustment into an open hotel cash session. -/
def addMovement : Except String (Register × CashMovement) := do
  let session ← requireOpenSession register request.sessionId
  raiseIf (money request.amount ≤ 0) "El importe del movimiento de caja debe ser mayor que cero"
  raiseIf (request.fromPaymentTransaction = false ∧ request.transactionId ≠ none)
    ("Los movimientos de caja vinculados a una transacción se crean desde " ++ "el flujo de pagos")
  raiseIf (request.fromPaymentTransaction = false ∧
      request.movementType = .expense ∧ request.reservationId ≠ none)
    ("Las devoluciones a huéspedes deben registrarse mediante el flujo " ++ "auditado de pagos")
  let transaction ← linkedTransaction env session request
  raiseIf (¬fitsColumn (money request.amount)) "numeric field overflow"
  let movement : CashMovement :=
    { id := register.nextMovementId
      sessionId := session.id
      reservationId := request.reservationId
      transactionId := request.transactionId
      recordedByUserId := request.recordedByUserId
      movementType := request.movementType
      amount := money request.amount
      businessRecordedAt := some ((transaction.bind Transaction.processedAt).getD env.businessNow)
      recordedAt := env.now
      description := request.description }
  pure ({ register with
        movements := register.movements ++ [movement]
        nextMovementId := register.nextMovementId + 1 },
      movement)

/-- Session after its count: closed, unless a difference has to be approved. -/
def closedSession (difference : Int) (differenceApproved : Bool) : CashSession :=
  { session with
    closedAt := some env.now
    businessClosedAt := some env.businessNow
    closedByUserId := closedByUserId
    status :=
      if difference = 0 ∨ differenceApproved = true then .closed
      else .pendingApproval }

/-- Close report of a session that hands over to a successor. -/
def closeReport (declaredBalance : Int) (notes : Option String)
    (approvedByUserId : Option Int) : CashCloseReport :=
  let expected :=
    expectedBalance env.ledger register session env.businessNow
  let difference := declaredBalance - expected
  let differenceApproved :=
    decide (difference ≠ 0) && approvedByUserId.isSome
  { id := register.nextReportId
    sessionId := session.id
    closedByUserId := closedByUserId
    expectedBalance := expected
    declaredBalance := declaredBalance
    difference := difference
    differenceApproved := differenceApproved
    approvedByUserId :=
      if differenceApproved = true then approvedByUserId else none
    notes := notes
    closedAt := env.now
    businessClosedAt := some env.businessNow
    successorSessionId := some register.nextSessionId }

/-- The session that follows a closed one, in the same currency. -/
def successorSession : CashSession :=
  { id := register.nextSessionId, openedByUserId := closedByUserId, openingBalance := 0
    currencyCode := session.currencyCode, openedAt := env.now
    businessOpenedAt := some env.businessNow
    notes := some ("Caja sucesora de #" ++ toString session.id) }

/-- Handoff of the counted cash, to be confirmed. -/
def pendingHandoff (declaredBalance : Int) : CashCustodyHandoff :=
  { id := register.nextHandoffId, closeReportId := register.nextReportId
    deliveredByUserId := closedByUserId, deliveredAmount := declaredBalance, status := .pending
    deliveredAt := env.now, businessDeliveredAt := some env.businessNow }

def closeSession (sessionId : Int) (closedByUserId : Option Int)
    (countedBalance : ℚ) (notes : Option String)
    (approvedByUserId : Option Int) :
    Except String (Register × CashCloseReport) :=
  match register.session? sessionId with
  | none => throw "No se encontró la caja para este hotel"
  | some session => do
    raiseIf (session.status ≠ .opened) "La caja no está abierta"
    raiseIf ((register.reports.any (·.sessionId = session.id)) = true)
      "La caja ya tiene un informe de cierre"
    raiseIf (env.pendingExpense session.id = true)
      "Resolvé los gastos pendientes antes de cerrar esta caja"
    let declaredBalance := money countedBalance
    let report := closeReport env register session closedByUserId
      declaredBalance notes approvedByUserId
    raiseIf (¬(fitsColumn report.expectedBalance ∧
        fitsColumn report.declaredBalance ∧ fitsColumn report.difference))
      "numeric field overflow"
    let closed := closedSession env session closedByUserId
      report.difference report.differenceApproved
    let sessions := replace CashSession.id closed register.sessions
    raiseIf ((sessions.any fun other =>
        other.status = .opened ∧ other.currencyCode = session.currencyCode) = true)
      "uq_cash_sessions_open_currency"
    raiseIf (declaredBalance < 0) "ck_cash_custody_delivered_nonneg"
    pure ({ register with
          sessions := sessions ++ [successorSession env register session closedByUserId]
          reports := register.reports ++ [report]
          handoffs := register.handoffs ++
            [pendingHandoff env register closedByUserId declaredBalance]
          nextSessionId := register.nextSessionId + 1
          nextReportId := register.nextReportId + 1
          nextHandoffId := register.nextHandoffId + 1 },
        report)

def repeatedConfirmation (report : CashCloseReport) (amount : Int) :
    Except String (Register × CashCloseReport) :=
  match report.successorFloatDeclaredAmount with
  | none => do
    raiseIf (amount ≠ 0) ("La entrega de caja ya fue confirmada sin declarar el fondo " ++
        "inicial del turno siguiente.")
    pure (register, report)
  | some existingAmount => do
    raiseIf (existingAmount ≠ amount)
      ("La entrega de caja ya fue confirmada con otro fondo inicial para " ++ "el turno siguiente.")
    pure (register, report)

def openSuccessor (report : CashCloseReport) : Except String CashSession :=
  match report.successorSessionId.bind register.session? with
  | none => throw "No se encontró la caja del turno siguiente para este hotel."
  | some successor =>
    if successor.status = .opened then pure successor
    else throw "La caja del turno siguiente no está abierta."

/-- Confirm that the cash of a report was received, and declare the part that
stays as the opening float of the successor. -/
def confirmCashCustody (reportId : Int) (receivedByUserId : Int)
    (successorFloatAmount : ℚ) : Except String (Register × CashCloseReport) :=
  match register.report? reportId, register.handoffOf? reportId with
  | some report, some handoff => do
    let amount := money successorFloatAmount
    let maximumFloat := min (10 ^ 12 - 1) handoff.deliveredAmount
    raiseIf (amount < 0 ∨ maximumFloat < amount)
      ("El fondo inicial del turno siguiente no puede superar el efectivo " ++
        "entregado por el turno anterior.")
    if handoff.status = .confirmed then
      repeatedConfirmation register report amount
    else do
      let successor ← openSuccessor register report
      let received : CashCustodyHandoff :=
        { handoff with
          receivedByUserId := some receivedByUserId
          receivedAt := some env.now
          businessReceivedAt := some env.businessNow
          status := .confirmed }
      let declared : CashCloseReport :=
        { report with
          successorFloatDeclaredAmount := some amount
          successorFloatDeclaredByUserId := some receivedByUserId
          successorFloatDeclaredAt := some env.now
          businessSuccessorFloatDeclaredAt := some env.businessNow }
      pure ({ register with
            sessions := replace CashSession.id
              { successor with openingBalance := amount } register.sessions
            reports := replace CashCloseReport.id declared register.reports
            handoffs := replace CashCustodyHandoff.closeReportId received register.handoffs },
          declared)
  | _, _ => throw "No se encontró la entrega de caja para este hotel."

def approveCloseDifference (reportId : Int) (approvedByUserId : Option Int) :
    Except String (Register × CashCloseReport) :=
  match register.report? reportId with
  | none =>
    throw "No se encontró el informe de cierre de caja para este hotel"
  | some report => do
    raiseIf (report.difference = 0) "El informe de cierre no tiene diferencias para aprobar"
    if report.differenceApproved = true then pure (register, report)
    else match register.session? report.sessionId with
      | none => throw "No se encontró la caja para este hotel"
      | some session =>
        let approved : CashCloseReport :=
          { report with differenceApproved := true, approvedByUserId := approvedByUserId }
        pure ({ register with
              sessions := replace CashSession.id
                { session with status := .closed } register.sessions
              reports := replace CashCloseReport.id approved register.reports },
            approved)

end

inductive RegisterCall
  | openSession (openedByUserId : Option Int) (openingBalance : ℚ)
      (currencyCode : String) (notes : Option String)
  | addMovement (request : MovementRequest)
  | closeSession (sessionId : Int) (closedByUserId : Option Int)
      (countedBalance : ℚ) (notes : Option String)
      (approvedByUserId : Option Int)
  | confirmCashCustody (reportId : Int) (receivedByUserId : Int)
      (successorFloatAmount : ℚ)
  | approveCloseDifference (reportId : Int) (approvedByUserId : Option Int)

/-- Register a call leaves when it succeeds. -/
def performCall (env : CashEnvironment) (register : Register) :
    RegisterCall → Except String Register
  | .openSession openedByUserId openingBalance currencyCode notes =>
    (openSession env register openedByUserId openingBalance currencyCode notes).map Prod.fst
  | .addMovement request => (addMovement env register request).map Prod.fst
  | .closeSession sessionId closedByUserId countedBalance notes approvedByUserId =>
      (closeSession env register sessionId closedByUserId countedBalance notes
        approvedByUserId).map Prod.fst
  | .confirmCashCustody reportId receivedByUserId successorFloatAmount =>
    (confirmCashCustody env register reportId receivedByUserId successorFloatAmount).map Prod.fst
  | .approveCloseDifference reportId approvedByUserId =>
    (approveCloseDifference register reportId approvedByUserId).map Prod.fst

/-- One call; a call that raises leaves the register as it is. -/
def registerStep (register : Register) (event : CashEnvironment × RegisterCall) : Option Register :=
  match performCall event.1 register event.2 with
  | .ok after => some after
  | .error _ => some register

end HotelPms.Cash
