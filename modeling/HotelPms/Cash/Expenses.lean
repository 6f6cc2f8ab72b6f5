import HotelPms.Cash.Register

/-!
# Cash expenses

An expense is proposed against an open session and approved or rejected once.
Approval writes one expense movement into the drawer of its session and links
the expense to it; a session closes only when none of its expenses is pending.
Receipts are decoded and stored outside; a call that raises writes nothing.
-/

namespace HotelPms.Cash

open Checked Decimal Table
open Payments (Ledger)

inductive CashExpenseStatus
  | pending
  | approved
  | rejected
  deriving DecidableEq

/-- A proposed drawer expense; approved expenses create one cash movement. -/
structure CashExpense where
  id : Int
  sessionId : Int
  amount : Int
  currencyCode : String
  category : String
  vendor : String
  description : Option String := none
  receiptReference : Option String := none
  receiptFilename : Option String := none
  receiptObjectId : Option String := none
  status : CashExpenseStatus := .pending
  cashMovementId : Option Int := none
  recordedByUserId : Option Int := none
  approvedByUserId : Option Int := none
  rejectedByUserId : Option Int := none
  rejectionReason : Option String := none
  createdAt : Int
  approvedAt : Option Int := none
  rejectedAt : Option Int := none

/-- The register of a hotel and the expenses proposed in it. -/
structure ExpenseBook where
  register : Register := {}
  expenses : List CashExpense := []
  nextExpenseId : Int := 1

/-- What a call reads outside the book: the clock, the business clock, the
transactions of the hotel and what storing a receipt image ends with. -/
structure ExpenseEnvironment where
  now : Int
  businessNow : Int
  ledger : Ledger
  storeReceipt : String → Except String String

/-- A new expense, as it is submitted. -/
structure ExpenseRequest where
  sessionId : Int
  recordedByUserId : Option Int := none
  amount : ℚ
  category : String
  vendor : String
  description : Option String := none
  receiptReference : Option String := none
  receiptImageBase64 : Option String := none
  receiptFilename : Option String := none

namespace ExpenseBook

variable (book : ExpenseBook)

/-- Some expense of the session waits for a decision. -/
def hasPendingExpense (sessionId : Int) : Bool :=
  book.expenses.any fun expense => expense.sessionId = sessionId ∧ expense.status = .pending

/-- What the register reads besides its own tables. -/
def cashEnvironment (env : ExpenseEnvironment) : CashEnvironment where
  now := env.now
  businessNow := env.businessNow
  ledger := env.ledger
  pendingExpense := book.hasPendingExpense

end ExpenseBook

/-- An amount in cents, half a cent to the even one; the context holds
twenty-eight digits. -/
def expenseMoney (value : ℚ) : Except String Int := do
  raiseIf (10 ^ 28 ≤ |quantize 2 value|) "decimal.InvalidOperation"
  pure (quantize 2 value)

/-- A trimmed text, if something is left of it. -/
def givenText (text : Option String) : Option String :=
  (text.map Text.strip).filter (· ≠ "")

/-- Letters that a stored file name keeps. -/
def isFilenameLetter (letter : Char) : Bool :=
  letter.isAlphanum || letter = '.' || letter = '_' || letter = '-'

/-- File name with every other letter replaced. -/
def safeFilename (filename : Option String) : Option String :=
  (filename.filter (· ≠ "")).bind fun text =>
    let kept := (Text.strip text).toList.map fun letter =>
      if isFilenameLetter letter = true then letter else '_'
    if kept = [] then none else some (String.ofList (kept.take 255))

section

variable (env : ExpenseEnvironment) (book : ExpenseBook)

/-- The open session of a hotel. -/
def requireExpenseSession (sessionId : Int) : Except String CashSession :=
  match book.register.session? sessionId with
  | some session =>
    if session.status = .opened then pure session
    else throw "La caja no está abierta o no pertenece a este hotel"
  | none => throw "La caja no está abierta o no pertenece a este hotel"

variable (expenseId : Int) (request : ExpenseRequest)

def checkExpense (value : Int) : Except String Unit := do
  raiseIf (value ≤ 0 ∨ 999999999999 < value) "El importe del gasto debe ser positivo y válido"
  raiseIf (Text.strip request.category = "" ∨ 64 < (Text.strip request.category).length)
    "La categoría del gasto es obligatoria"
  raiseIf (Text.strip request.vendor = "" ∨ 120 < (Text.strip request.vendor).length)
    "El proveedor del gasto es obligatorio"
  raiseIf (∃ description ∈ givenText request.description, 300 < description.length)
    "La descripción supera el máximo permitido"
  raiseIf (∃ reference ∈ givenText request.receiptReference, 120 < reference.length)
    "La referencia del comprobante supera el máximo permitido"
  raiseIf (givenText request.receiptReference = none ∧ request.receiptImageBase64.getD "" = "")
    "Ingresá la referencia del comprobante o adjuntá una imagen"

def receiptObject : Except String (Option String) :=
  match request.receiptImageBase64.filter fun image => decide (image ≠ "") with
  | none => pure none
  | some image => (env.storeReceipt image).map some

/-- Propose an expense against an open session. -/
def createCashExpense : Except String (ExpenseBook × CashExpense) := do
  let session ← requireExpenseSession book request.sessionId
  let value ← expenseMoney request.amount
  checkExpense request value
  let receiptObjectId ← receiptObject env request
  let expense : CashExpense :=
    { id := book.nextExpenseId, sessionId := session.id, amount := value
      currencyCode := session.currencyCode, category := Text.strip request.category
      vendor := Text.strip request.vendor, description := givenText request.description
      receiptReference := givenText request.receiptReference
      receiptFilename := safeFilename request.receiptFilename, receiptObjectId := receiptObjectId
      recordedByUserId := request.recordedByUserId, createdAt := env.now }
  pure ({ book with
        expenses := book.expenses ++ [expense]
        nextExpenseId := book.nextExpenseId + 1 },
      expense)

def getCashExpense : Except String CashExpense :=
  match find CashExpense.id expenseId book.expenses with
  | some expense => pure expense
  | none => throw "Gasto no encontrado"

def expenseMovement (session : CashSession) (expense : CashExpense)
    (approvedByUserId : Int) (amount : Int) : MovementRequest where
  sessionId := session.id
  recordedByUserId := some approvedByUserId
  movementType := .expense
  amount := (amount : ℚ) / 100
  description := some ("Gasto aprobado · " ++ expense.category ++ " · " ++ expense.vendor)

/-- Expense that an approval has linked to a movement. -/
def approvedExpense (expense : CashExpense) (movement : CashMovement)
    (approvedByUserId : Int) : CashExpense :=
  { expense with
    status := .approved
    cashMovementId := some movement.id
    approvedByUserId := some approvedByUserId
    approvedAt := some env.now }

def approveCashExpense (approvedByUserId : Int) : Except String (ExpenseBook × CashExpense) := do
  let expense ← getCashExpense book expenseId
  if expense.status = .approved then pure (book, expense)
  else do
    raiseIf (expense.status ≠ .pending) "Solo se pueden aprobar gastos pendientes"
    let session ← requireExpenseSession book expense.sessionId
    let amount ← expenseMoney ((expense.amount : ℚ) / 100)
    let (register, movement) ← addMovement (book.cashEnvironment env)
      book.register (expenseMovement session expense approvedByUserId amount)
    let approved := approvedExpense env expense movement approvedByUserId
    pure ({ book with
          register := register
          expenses := replace CashExpense.id approved book.expenses },
        approved)

def rejectCashExpense (rejectedByUserId : Int) (reason : String) :
    Except String (ExpenseBook × CashExpense) := do
  let expense ← getCashExpense book expenseId
  if expense.status = .rejected then pure (book, expense)
  else do
    raiseIf (expense.status ≠ .pending) "Solo se pueden rechazar gastos pendientes"
    raiseIf (Text.strip reason = "") "El rechazo requiere un motivo"
    let rejected : CashExpense :=
      { expense with
        status := .rejected
        rejectedByUserId := some rejectedByUserId
        rejectedAt := some env.now
        rejectionReason := some (String.ofList ((Text.strip reason).toList.take 1000)) }
    pure ({ book with expenses := replace CashExpense.id rejected book.expenses }, rejected)

end

inductive ExpenseCall
  | createCashExpense (request : ExpenseRequest)
  | approveCashExpense (expenseId approvedByUserId : Int)
  | rejectCashExpense (expenseId rejectedByUserId : Int) (reason : String)
  | register (call : RegisterCall)

/-- Book a call leaves when it succeeds. -/
def performExpenseCall (env : ExpenseEnvironment) (book : ExpenseBook) :
    ExpenseCall → Except String ExpenseBook
  | .createCashExpense request =>
    (createCashExpense env book request).map Prod.fst
  | .approveCashExpense expenseId approvedByUserId =>
    (approveCashExpense env book expenseId approvedByUserId).map Prod.fst
  | .rejectCashExpense expenseId rejectedByUserId reason =>
    (rejectCashExpense env book expenseId rejectedByUserId reason).map Prod.fst
  | .register call =>
    (performCall (book.cashEnvironment env) book.register call).map
      fun register => { book with register := register }

/-- One call; a call that raises leaves the book as it is. -/
def expenseStep (book : ExpenseBook)
    (event : ExpenseEnvironment × ExpenseCall) : Option ExpenseBook :=
  match performExpenseCall event.1 book event.2 with
  | .ok after => some after
  | .error _ => some book

end HotelPms.Cash
