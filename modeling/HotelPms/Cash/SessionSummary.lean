import HotelPms.Cash.RegisterSafety
import HotelPms.Foundation.GroupSum
import HotelPms.Foundation.KeySort
import Mathlib.Data.Prod.Lex

/-!
# Live summary of a session

The summary shows the balance a close would expect at the same time.  Its
totals are taken from all active movements instead, so the two differ by the
active movements that a close leaves out: those outside the business hours of
the session, and those of a completed payment that is not cash.
-/

namespace HotelPms.Cash

open Checked Decimal KeySort
open Payments (Ledger Transaction)

/-- Group payments of a hotel: the batch of a transaction, the tip of a batch. -/
structure GroupPayments where
  batchOf : Int -> Option Int
  tipOf : Int -> Int

structure CollectorTotals where
  collectorUserId : Option Int
  incomeTotal : Int := 0
  expenseTotal : Int := 0
  adjustmentTotal : Int := 0
  cashTipsTotal : Int := 0
  movementCount : Nat := 0
  netTotal : Int := 0

structure SessionSummary where
  sessionId : Int
  status : CashSessionStatus
  currencyCode : String
  openingBalance : Int
  incomeTotal : Int
  expenseTotal : Int
  adjustmentTotal : Int
  confirmedCashTotal : Int
  cashTipsTotal : Int
  expectedBalance : Int
  movementsCount : Nat
  byCollector : List CollectorTotals

variable (ledger : Ledger) (groups : GroupPayments) (register : Register) (sessionId : Int)
  (session : CashSession) (movements : List CashMovement) (movement : CashMovement)

/-- Movements of a session, voided ones too, as they were recorded. -/
def listMovements : List CashMovement :=
  sortByKey (fun movement : CashMovement => toLex (movement.recordedAt, movement.id))
    (register.movements.filter (·.sessionId = sessionId))

def CashMovement.transaction? : Option Transaction :=
  movement.transactionId.bind ledger.transaction?

/-- Batch of a movement that records a confirmed cash payment of a group. -/
def CashMovement.groupBatch : Option Int :=
  (movement.transaction? ledger).bind fun transaction =>
    if transaction.status = .completed ∧ transaction.paymentMethod = .cash ∧
        ¬transaction.IsRefund then
      (groups.batchOf transaction.id).filter (· ≠ 0)
    else none

/-- Tip listed with a movement: that of a group is listed once, with the first
of its movements. -/
def CashMovement.cashTipAmount : Int :=
  if movement.voidedAt ≠ none then 0
  else
    match movement.groupBatch ledger groups with
    | some batch =>
      let first := movements.find? fun other =>
        other.voidedAt = none ∧ other.groupBatch ledger groups = some batch
      if first.map CashMovement.id = some movement.id then groups.tipOf batch else 0
    | none => ((movement.transaction? ledger).map Transaction.cashTipAmount).getD 0

/-- Neither voided nor linked to a payment that is not completed. -/
def CashMovement.isActive : Bool :=
  decide (movement.voidedAt = none) && (decide (movement.transactionId = none) ||
      (movement.transaction? ledger).any (·.status = .completed))

def typeTotal (movementType : CashMovementType) : Int :=
  ((movements.filter (·.movementType = movementType)).map CashMovement.amount).sum

def CollectorTotals.add (totals : CollectorTotals) (tip : Int) : CollectorTotals :=
  let counted := { totals with
    cashTipsTotal := totals.cashTipsTotal + tip
    movementCount := totals.movementCount + 1 }
  match movement.movementType with
  | .income => { counted with incomeTotal := totals.incomeTotal + movement.amount }
  | .expense => { counted with expenseTotal := totals.expenseTotal + movement.amount }
  | .adjustment => { counted with adjustmentTotal := totals.adjustmentTotal + movement.amount }

/-- The totals of whoever recorded a movement, begun at the first one. -/
def collect (collectors : List CollectorTotals) (tip : Int) : List CollectorTotals :=
  let user := movement.recordedByUserId
  if (collectors.any (·.collectorUserId = user)) = true then
    collectors.map fun totals =>
      if totals.collectorUserId = user then totals.add movement tip else totals
  else collectors ++ [({ collectorUserId := user } : CollectorTotals).add movement tip]

/-- Collectors by user, movements without one last. -/
def byCollector (tip : CashMovement -> Int) : List CollectorTotals :=
  (sortByKey (fun totals : CollectorTotals =>
      toLex (totals.collectorUserId.isNone, totals.collectorUserId.getD 0))
    (movements.foldl (fun collectors movement => collect movement collectors (tip movement))
      [])).map fun totals =>
    { totals with netTotal := totals.incomeTotal - totals.expenseTotal + totals.adjustmentTotal }

/-- Authoritative live summary for a cash session. -/
def getSessionSummary (env : CashEnvironment) : Except String SessionSummary :=
  match register.session? sessionId with
  | none => throw "No se encontró la caja para este hotel"
  | some session =>
    let listed := listMovements register sessionId
    let tip := CashMovement.cashTipAmount env.ledger groups listed
    let active := listed.filter (CashMovement.isActive env.ledger)
    let confirmedTotal :=
      confirmedCashMovementsTotal env.ledger register session env.businessNow
    pure
      { sessionId := session.id
        status := session.status
        currencyCode := session.currencyCode
        openingBalance := session.openingBalance
        incomeTotal := typeTotal active .income
        expenseTotal := typeTotal active .expense
        adjustmentTotal := typeTotal active .adjustment
        confirmedCashTotal := confirmedTotal
        cashTipsTotal := (active.map tip).sum
        expectedBalance := session.openingBalance + confirmedTotal
        movementsCount := active.length
        byCollector := byCollector active tip }

/-! ## Active movements a close leaves out -/

/-- An active movement of the session that its expected balance does not count. -/
def CashMovement.leftOut (businessAsOf : Int) : Bool :=
  decide (movement.sessionId = session.id) && movement.isActive ledger &&
    !(movement.countsIn session businessAsOf && movement.confirmed ledger)

def leftOutTotal (businessAsOf : Int) : Int :=
  ((register.movements.filter fun movement =>
    movement.leftOut ledger session businessAsOf).map CashMovement.signedAmount).sum

/-- No confirmed handoff to the session from before floats were declared. -/
def NoLegacyHandoff : Prop :=
  ∀ report ∈ register.reports, report.successorSessionId = some session.id ->
    report.successorFloatDeclaredAmount = none -> ∀ handoff,
      register.handoffOf? report.id = some handoff -> handoff.status ≠ .confirmed

theorem typeTotals_eq_sum :
    typeTotal movements .income - typeTotal movements .expense + typeTotal movements .adjustment =
      (movements.map CashMovement.signedAmount).sum := by
  induction movements with
  | nil => rfl
  | cons movement movements ih =>
    rw [List.map_cons, List.sum_cons, ← ih]
    unfold typeTotal CashMovement.signedAmount movementSign
    cases kind : movement.movementType
    all_goals
      simp only [List.filter_cons, kind, decide_true, reduceCtorEq, decide_false,
        Bool.false_eq_true, if_true, if_false, List.map_cons, List.sum_cons]
      ring

variable {ledger register session movement} (businessAsOf : Int)

theorem CashMovement.isActive_of_confirmed {businessAsOf : Int}
    (counts : movement.countsIn session businessAsOf = true)
    (confirmed : movement.confirmed ledger = true) :
    movement.sessionId = session.id ∧ movement.isActive ledger = true := by
  unfold CashMovement.countsIn at counts
  simp only [Bool.and_eq_true, decide_eq_true_eq] at counts
  refine ⟨counts.1.1, ?_⟩
  unfold CashMovement.isActive CashMovement.transaction?
  unfold CashMovement.confirmed at confirmed
  cases linked : movement.transactionId with
  | none => simp [counts.1.2]
  | some transactionId =>
    rw [linked] at confirmed
    simp only [counts.1.2, Option.bind_some, reduceCtorEq, decide_true, decide_false,
      Bool.true_and, Bool.false_or, Option.any_eq_true, decide_eq_true_eq] at confirmed ⊢
    obtain ⟨transaction, found, _, completed⟩ := confirmed
    exact ⟨transaction, found, completed⟩

/-- The active movements are those a close counts and those it leaves out. -/
theorem sum_active :
    (((listMovements register session.id).filter (CashMovement.isActive ledger)).map
        CashMovement.signedAmount).sum =
      ((register.movements.filter fun movement =>
        movement.countsIn session businessAsOf && movement.confirmed ledger).map
          CashMovement.signedAmount).sum +
        leftOutTotal ledger register session businessAsOf := by
  have sorted := ((sortByKey_perm
    (fun movement : CashMovement => toLex (movement.recordedAt, movement.id))
    (register.movements.filter (·.sessionId = session.id))).filter
        (CashMovement.isActive ledger)).map CashMovement.signedAmount
  unfold listMovements leftOutTotal
  rw [sorted.sum_eq, List.filter_filter, GroupSum.sum_map_filter, GroupSum.sum_map_filter,
    GroupSum.sum_map_filter, ← List.sum_map_add]
  refine congrArg List.sum (List.map_congr_left fun movement _ => ?_)
  unfold CashMovement.leftOut
  by_cases counted : (movement.countsIn session businessAsOf && movement.confirmed ledger) = true
  · rw [Bool.and_eq_true] at counted
    have active := CashMovement.isActive_of_confirmed counted.1 counted.2
    simp [counted.1, counted.2, active.1, active.2]
  · simp [Bool.eq_false_iff.mpr counted, Bool.and_comm]

theorem legacyHandoffTotal_eq_zero (noLegacy : NoLegacyHandoff register session) :
    legacyHandoffTotal register session businessAsOf = 0 := by
  unfold legacyHandoffTotal
  simp only
  split
  · rename_i handoff found
    obtain ⟨report, reported, ofReport⟩ := Option.bind_eq_some_iff.mp found
    have chosen := List.find?_some reported
    rw [decide_eq_true_eq] at chosen
    rw [if_neg fun confirmed => noLegacy report (List.mem_of_find?_eq_some reported)
      chosen.1 chosen.2 handoff ofReport confirmed.1]
  · rfl

/-- The balance a summary shows is the one a close records at the same time; it
is the opening balance and the totals, less the active movements left out. -/
theorem getSessionSummary_expectedBalance (env : CashEnvironment)
    (known : register.session? sessionId = some session)
    (noLegacy : NoLegacyHandoff register session) :
    ∃ summary, getSessionSummary groups register sessionId env = .ok summary ∧
      summary.expectedBalance =
        summary.openingBalance + summary.incomeTotal - summary.expenseTotal +
          summary.adjustmentTotal - leftOutTotal env.ledger register session env.businessNow ∧
      ∀ (closing : CashEnvironment) (closedByUserId : Option Int) (countedBalance : ℚ)
        (notes : Option String) (approvedByUserId : Option Int) (after : Register)
        (report : CashCloseReport),
        closing.ledger = env.ledger → closing.businessNow = env.businessNow →
        closeSession closing register sessionId closedByUserId countedBalance notes
          approvedByUserId = .ok (after, report) →
        report.expectedBalance = summary.expectedBalance := by
  have sameId : session.id = sessionId := (Table.find_eq_some known).2
  have totals := typeTotals_eq_sum
    ((listMovements register session.id).filter (CashMovement.isActive env.ledger))
  rw [sum_active env.businessNow] at totals
  subst sameId
  unfold getSessionSummary
  rw [known]
  refine ⟨_, rfl, ?_, ?_⟩
  · simp only [confirmedCashMovementsTotal, legacyHandoffTotal_eq_zero env.businessNow noLegacy]
    linarith only [totals]
  · intro closing closedByUserId countedBalance notes approvedByUserId after report sameLedger
      sameTime closed
    unfold closeSession at closed
    rw [known] at closed
    simp only [bind_eq_ok, raiseIf_eq_ok, pure_eq_ok, Prod.mk.injEq] at closed
    obtain ⟨_, -, _, -, _, -, _, -, _, -, _, -, -, rfl⟩ := closed
    unfold closeReport expectedBalance
    simp only [sameLedger, sameTime]

/-- A drawer, and 100.00 of income at a business time before it was opened, as
after the business date of the hotel was moved back. -/
def lateDrawer : CashSession where
  id := 1
  openedAt := 10
  businessOpenedAt := some 10

def earlyIncome : Register where
  sessions := [lateDrawer]
  movements := [{
    id := 1
    sessionId := 1
    movementType := .income
    amount := 10000
    recordedAt := 20
    businessRecordedAt := some 5 }]

theorem getSessionSummary_expectedBalance_earlyIncome :
    ∃ summary, getSessionSummary ⟨fun _ => none, fun _ => 0⟩ earlyIncome 1 quietEnvironment =
        .ok summary ∧
      summary.expectedBalance = summary.openingBalance + summary.incomeTotal -
        summary.expenseTotal + summary.adjustmentTotal - 10000 := by
  have known : earlyIncome.session? 1 = some lateDrawer := rfl
  have early : leftOutTotal .empty earlyIncome lateDrawer 0 = 10000 := by decide
  obtain ⟨summary, shown, expected, -⟩ := getSessionSummary_expectedBalance ⟨fun _ => none, fun _ =>
    0⟩ 1 quietEnvironment known fun _ member => nomatch member
  rw [← early]
  exact ⟨summary, shown, expected⟩

theorem expectedBalance_ne_totals :
    ¬∀ (groups : GroupPayments) (register : Register) (sessionId : Int) (session : CashSession)
      (env : CashEnvironment) (summary : SessionSummary),
      register.session? sessionId = some session → NoLegacyHandoff register session →
      getSessionSummary groups register sessionId env = .ok summary →
      summary.expectedBalance = summary.openingBalance + summary.incomeTotal -
        summary.expenseTotal + summary.adjustmentTotal := by
  intro same
  have known : earlyIncome.session? 1 = some lateDrawer := rfl
  have equal := same ⟨fun _ => none, fun _ => 0⟩ earlyIncome 1 lateDrawer quietEnvironment _
    known (fun _ member => nomatch member) rfl
  cases equal

end HotelPms.Cash
