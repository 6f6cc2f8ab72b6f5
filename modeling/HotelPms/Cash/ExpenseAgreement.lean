import HotelPms.Cash.ExpenseSafety

/-!
# Expenses and drawers agree

Decided expenses stay as they are, and the expected balance of a drawer is
lowered by every approved expense of its session once.
-/

namespace HotelPms.Cash

open Checked Decimal Table Transition
open Payments (Ledger)

section

variable {env : ExpenseEnvironment} {book after : ExpenseBook}

inductive ExpensesChange (book after : ExpenseBook) : Prop
  | unchanged (same : after.expenses = book.expenses)
      (sameNext : after.nextExpenseId = book.nextExpenseId) :
      ExpensesChange book after
  | created (expense : CashExpense)
      (isNext : expense.id = book.nextExpenseId)
      (appended : after.expenses = book.expenses ++ [expense])
      (next : after.nextExpenseId = book.nextExpenseId + 1) :
      ExpensesChange book after
  | decided (expense changed : CashExpense)
      (member : expense ∈ book.expenses)
      (isPending : expense.status = .pending)
      (replaced : after.expenses =
        replace CashExpense.id changed book.expenses)
      (sameId : changed.id = expense.id)
      (sameNext : after.nextExpenseId = book.nextExpenseId) :
      ExpensesChange book after

theorem performExpenseCall_change {call : ExpenseCall}
    (performed : performExpenseCall env book call = .ok after) :
    ExpensesChange book after := by
  cases call with
  | createCashExpense request =>
    obtain ⟨result, created⟩ := map_fst_eq_ok.mp performed
    unfold createCashExpense at created
    simp only [bind_eq_ok, pure_eq_ok, Prod.mk.injEq] at created
    obtain ⟨session, -, value, -, _, -, object, -, rfl, -⟩ := created
    exact .created _ rfl rfl rfl
  | approveCashExpense expenseId approvedByUserId =>
    obtain ⟨result, approved⟩ := map_fst_eq_ok.mp performed
    obtain ⟨found, isFound, approved⟩ := bind_eq_ok.mp approved
    split_ifs at approved
    · cases approved
      exact .unchanged rfl rfl
    · simp only [bind_eq_ok, raiseIf_eq_ok, pure_eq_ok, Prod.mk.injEq] at approved
      obtain ⟨_, isPending, session, -, amount, -, ⟨register, movement⟩, -, rfl, -⟩ := approved
      exact .decided found _ (getCashExpense_eq_ok isFound).1 (not_not.mp isPending) rfl rfl rfl
  | rejectCashExpense expenseId rejectedByUserId reason =>
    obtain ⟨result, rejected⟩ := map_fst_eq_ok.mp performed
    obtain ⟨found, isFound, rejected⟩ := bind_eq_ok.mp rejected
    split_ifs at rejected
    · cases rejected
      exact .unchanged rfl rfl
    · simp only [bind_eq_ok, raiseIf_eq_ok, pure_eq_ok, Prod.mk.injEq] at rejected
      obtain ⟨_, isPending, _, -, rfl, -⟩ := rejected
      exact .decided found _ (getCashExpense_eq_ok isFound).1 (not_not.mp isPending) rfl rfl rfl
  | register call =>
    obtain ⟨register, -, rfl⟩ := map_eq_ok.mp performed
    exact .unchanged rfl rfl

theorem ExpensesChange.numbered (changed : ExpensesChange book after)
    (numbered : Numbered CashExpense.id book.nextExpenseId book.expenses) :
    Numbered CashExpense.id after.nextExpenseId after.expenses := by
  cases changed with
  | unchanged same sameNext =>
    rw [same, sameNext]
    exact numbered
  | created expense isNext appended next =>
    rw [appended, next]
    exact numbered.append isNext
  | decided expense changed member isPending replaced sameId sameNext =>
    rw [replaced, sameNext]
    apply numbered.replace
    rw [sameId]
    exact numbered.below expense member

theorem ExpensesChange.decided_stays (changed : ExpensesChange book after)
    (numbered : Numbered CashExpense.id book.nextExpenseId book.expenses)
    {expense : CashExpense} (member : expense ∈ book.expenses)
    (isDecided : expense.status ≠ .pending) : expense ∈ after.expenses := by
  cases changed with
  | unchanged same => exact same ▸ member
  | created other isNext appended =>
    exact appended ▸ List.mem_append_left _ member
  | decided pending changed pendingIn isPending replaced sameId =>
    rw [replaced]
    apply mem_replace_of_ne member
    rw [sameId]
    intro same
    have sameRow := eq_of_key numbered.distinct member pendingIn same
    exact isDecided (sameRow ▸ isPending)

end

def ExpenseBook.isExpenseMovement (book : ExpenseBook) (movement : CashMovement) : Bool :=
  book.expenses.any (·.cashMovementId = some movement.id)

/-- The register without the movements of expenses. -/
def ExpenseBook.withoutExpenses (book : ExpenseBook) : Register :=
  { book.register with
    movements := book.register.movements.filter (!book.isExpenseMovement ·) }

def ExpenseBook.approvedIn (book : ExpenseBook) (sessionId : Int) : List CashExpense :=
  book.expenses.filter fun expense => expense.sessionId = sessionId ∧ expense.status = .approved

section

variable {clock asOf : Int} {book : ExpenseBook} {session : CashSession} (ledger : Ledger)

def CashExpense.movementNumber (expense : CashExpense) : Int :=
  expense.cashMovementId.getD 0

theorem ExpenseSound.counted (sound : ExpenseSound clock book)
    (passed : clock ≤ asOf) (sessionIn : session ∈ book.register.sessions)
    {expense : CashExpense} (member : expense ∈ book.approvedIn session.id) :
    ∃ movement ∈ book.register.movements, RecordsExpense expense movement ∧
      (movement.countsIn session asOf && movement.confirmed ledger) = true := by
  unfold ExpenseBook.approvedIn at member
  rw [List.mem_filter, decide_eq_true_eq] at member
  obtain ⟨expenseIn, isSession, isApproved⟩ := member
  obtain ⟨movement, movementIn, records, counted⟩ := sound.approved expense expenseIn isApproved
  obtain ⟨time, isTime, before, started⟩ := counted.recorded
  have inSession : movement.sessionId = session.id :=
    records.session.trans isSession
  refine ⟨movement, movementIn, records, ?_⟩
  rw [Bool.and_eq_true]
  constructor
  · unfold CashMovement.countsIn
    rw [isTime]
    simp only [Bool.and_eq_true, decide_eq_true_eq]
    exact ⟨⟨inSession, counted.active⟩,
      started session sessionIn inSession.symm, before.trans passed⟩
  · unfold CashMovement.confirmed
    rw [counted.unlinked]

theorem ExpenseSound.expenseMovements_perm (sound : ExpenseSound clock book)
    (passed : clock ≤ asOf) (sessionIn : session ∈ book.register.sessions) :
    (((book.register.movements.filter fun movement =>
        movement.countsIn session asOf && movement.confirmed ledger).filter
          book.isExpenseMovement).map CashMovement.id).Perm
      ((book.approvedIn session.id).map CashExpense.movementNumber) := by
  have distinctExpenses : book.expenses.Nodup :=
    sound.expenseIds.distinct.of_map
  rw [List.perm_ext_iff_of_nodup]
  · intro number
    simp only [List.mem_map]
    constructor
    · rintro ⟨movement, member, rfl⟩
      rw [List.mem_filter, List.mem_filter, Bool.and_eq_true] at member
      obtain ⟨⟨movementIn, counts, -⟩, isLinked⟩ := member
      obtain ⟨expense, expenseIn, linked⟩ := List.any_eq_true.mp isLinked
      rw [decide_eq_true_eq] at linked
      have isApproved : expense.status = .approved := by
        by_contra notApproved
        rw [sound.undecided expense expenseIn notApproved] at linked
        cases linked
      obtain ⟨owned, ownedIn, records, -⟩ := sound.approved expense expenseIn isApproved
      have sameNumber : owned.id = movement.id :=
        Option.some.inj (records.linked.symm.trans linked)
      obtain rfl := eq_of_key sound.movementIds.distinct ownedIn movementIn sameNumber
      unfold CashMovement.countsIn at counts
      simp only [Bool.and_eq_true, decide_eq_true_eq] at counts
      refine ⟨expense, ?_, ?_⟩
      · unfold ExpenseBook.approvedIn
        rw [List.mem_filter, decide_eq_true_eq]
        exact ⟨expenseIn, records.session.symm.trans counts.1.1, isApproved⟩
      · unfold CashExpense.movementNumber
        rw [linked]
        rfl
    · rintro ⟨expense, member, rfl⟩
      obtain ⟨movement, movementIn, records, counts⟩ := sound.counted ledger passed sessionIn member
      refine ⟨movement, ?_, ?_⟩
      · rw [List.mem_filter, List.mem_filter]
        refine ⟨⟨movementIn, counts⟩, List.any_eq_true.mpr
          ⟨expense, (List.mem_filter.mp member).1, ?_⟩⟩
        exact decide_eq_true records.linked
      · unfold CashExpense.movementNumber
        rw [records.linked]
        rfl
  · exact (sound.movementIds.distinct.sublist
      ((List.filter_sublist.trans List.filter_sublist).map CashMovement.id))
  · refine List.Nodup.map_on ?_ (distinctExpenses.filter _)
    intro first firstIn second secondIn same
    obtain ⟨owned, -, records, -⟩ := sound.counted ledger passed sessionIn firstIn
    obtain ⟨ownedToo, -, recordsToo, -⟩ := sound.counted ledger passed sessionIn secondIn
    unfold CashExpense.movementNumber at same
    rw [records.linked, recordsToo.linked] at same
    refine sound.unshared first (List.mem_filter.mp firstIn).1 second
      (List.mem_filter.mp secondIn).1 owned.id records.linked ?_
    rw [recordsToo.linked]
    exact congrArg some same.symm

/-- Effect on its drawer of the movement with a number. -/
def Register.signedAmountOf (register : Register) (number : Int) : Int :=
  ((find CashMovement.id number register.movements).map CashMovement.signedAmount).getD 0

theorem ExpenseSound.sum_expenseMovements (sound : ExpenseSound clock book)
    (passed : clock ≤ asOf) (sessionIn : session ∈ book.register.sessions) :
    (((book.register.movements.filter fun movement =>
        movement.countsIn session asOf && movement.confirmed ledger).filter
          book.isExpenseMovement).map CashMovement.signedAmount).sum =
      -((book.approvedIn session.id).map CashExpense.amount).sum := by
  have ofMovements : ((book.register.movements.filter fun movement =>
      movement.countsIn session asOf && movement.confirmed ledger).filter
        book.isExpenseMovement).map CashMovement.signedAmount =
      (((book.register.movements.filter fun movement =>
        movement.countsIn session asOf && movement.confirmed ledger).filter
          book.isExpenseMovement).map CashMovement.id).map book.register.signedAmountOf := by
    rw [List.map_map]
    apply List.map_congr_left
    intro movement member
    have movementIn := (List.mem_filter.mp (List.mem_filter.mp member).1).1
    simp only [Function.comp_apply, Register.signedAmountOf]
    rw [find_of_mem sound.movementIds.distinct movementIn]
    rfl
  have ofExpenses : (book.approvedIn session.id).map (-·.amount) =
      ((book.approvedIn session.id).map CashExpense.movementNumber).map
        book.register.signedAmountOf := by
    rw [List.map_map]
    apply List.map_congr_left
    intro expense member
    obtain ⟨movement, movementIn, records, -⟩ := sound.counted ledger passed sessionIn member
    simp only [Function.comp_apply, Register.signedAmountOf, CashExpense.movementNumber]
    rw [records.linked, Option.getD_some, find_of_mem sound.movementIds.distinct movementIn]
    simp [CashMovement.signedAmount, movementSign, records.isExpense, records.amount]
  have negated : -((book.approvedIn session.id).map CashExpense.amount).sum =
      ((book.approvedIn session.id).map (-·.amount)).sum := by
    rw [List.sum_neg, List.map_map]
    rfl
  rw [ofMovements, negated, ofExpenses]
  exact ((sound.expenseMovements_perm ledger passed sessionIn).map _).sum_eq

theorem ExpenseSound.expectedBalance (sound : ExpenseSound clock book)
    (passed : clock ≤ asOf) (sessionIn : session ∈ book.register.sessions) :
    expectedBalance ledger book.register session asOf =
      expectedBalance ledger book.withoutExpenses session asOf -
        ((book.approvedIn session.id).map CashExpense.amount).sum := by
  have split := List.sum_map_filter_add_sum_map_filter_not (book.isExpenseMovement · = true)
    CashMovement.signedAmount (book.register.movements.filter fun movement =>
      movement.countsIn session asOf && movement.confirmed ledger)
  have ofExpenses := sound.sum_expenseMovements ledger passed sessionIn
  have others : (book.register.movements.filter fun movement =>
      movement.countsIn session asOf && movement.confirmed ledger).filter
        (decide ¬book.isExpenseMovement · = true) =
      book.withoutExpenses.movements.filter fun movement =>
        movement.countsIn session asOf && movement.confirmed ledger := by
    rw [List.filter_comm]
    congr 2
    funext movement
    cases book.isExpenseMovement movement <;> rfl
  have same : (fun movement =>
      decide (book.isExpenseMovement movement = true)) = book.isExpenseMovement := by
    simp
  rw [others, same, ofExpenses] at split
  unfold Cash.expectedBalance confirmedCashMovementsTotal
  rw [← split]
  show _ + (_ + legacyHandoffTotal book.register session asOf) =
    _ + (_ + legacyHandoffTotal book.register session asOf) - _
  ring

end

/-- Business times of the calls of a run do not go back. -/
def ClockRuns (events : List (ExpenseEnvironment × ExpenseCall)) : Prop :=
  events.Pairwise fun earlier later => earlier.1.businessNow ≤ later.1.businessNow

section

variable {book : ExpenseBook} {events : List (ExpenseEnvironment × ExpenseCall)}

theorem exists_last (events : List (ExpenseEnvironment × ExpenseCall)) :
    ∃ last : Int, ∀ event ∈ events, event.1.businessNow ≤ last := by
  induction events with
  | nil => exact ⟨0, by simp⟩
  | cons first events ih =>
    obtain ⟨last, isLast⟩ := ih
    refine ⟨max first.1.businessNow last, fun event member => ?_⟩
    rcases List.mem_cons.mp member with rfl | later
    · exact le_max_left _ _
    · exact (isLast event later).trans (le_max_right _ _)

theorem expenseSound_of_run (clock : ClockRuns events)
    (ran : run expenseStep {} events = some book) {asOf : Int}
    (passed : ∀ event ∈ events, event.1.businessNow ≤ asOf) :
    ExpenseSound asOf book := by
  refine @run_invariant _ _ _ _ _ (fun events book => ClockRuns events ->
      ∀ asOf, (∀ event ∈ events, event.1.businessNow ≤ asOf) ->
        ExpenseSound asOf book) (fun _ asOf _ => expenseSound_initial asOf)
    ?_ _ ran clock asOf passed
  intro earlier before event after ih taken clock asOf passed
  unfold ClockRuns at clock
  rw [List.pairwise_append] at clock
  have sound := ih clock.1 event.1.businessNow
    fun other member => clock.2.2 other member event (List.mem_singleton.mpr rfl)
  have notBefore : event.1.businessNow ≤ asOf :=
    passed event (List.mem_concat_self)
  unfold expenseStep at taken
  split at taken
  · next performed =>
    cases taken
    exact (sound.perform performed).mono notBefore
  · cases taken
    exact sound.mono notBefore

theorem decided_stays_run {clock : Int} (sound : ExpenseSound clock book)
    {more : List (ExpenseEnvironment × ExpenseCall)} {later : ExpenseBook}
    (ran : run expenseStep book more = some later)
    {expense : CashExpense} (member : expense ∈ book.expenses)
    (decided : expense.status ≠ .pending) : expense ∈ later.expenses := by
  have kept := @run_invariant _ _ expenseStep book later (fun _ later =>
        Numbered CashExpense.id later.nextExpenseId later.expenses ∧
          expense ∈ later.expenses) ⟨sound.expenseIds, member⟩ ?_ more ran
  · exact kept.2
  · intro earlier before event after held taken
    unfold expenseStep at taken
    split at taken
    · next performed =>
      cases taken
      have changed := performExpenseCall_change performed
      exact ⟨changed.numbered held.1, changed.decided_stays held.1 held.2 decided⟩
    · cases taken
      exact held

/-- In every run of calls, an approved expense has exactly one movement, an
expense of its amount in its session, no two expenses share a movement, and
no other expense has one; decided expenses stay as they are; and from the last
call on, drawers expect what they would without expenses, less each approved
expense of their session once. -/
theorem cashExpenses_agree (clock : ClockRuns events)
    (ran : run expenseStep {} events = some book) :
    (∀ expense ∈ book.expenses, expense.status = .approved ->
      ∃ movement ∈ book.register.movements, RecordsExpense expense movement ∧
          ∀ other ∈ book.register.movements,
            expense.cashMovementId = some other.id -> other = movement) ∧
      (∀ expense ∈ book.expenses, ∀ other ∈ book.expenses, ∀ movementId,
        expense.cashMovementId = some movementId ->
          other.cashMovementId = some movementId -> expense = other) ∧
      (∀ expense ∈ book.expenses, expense.status ≠ .approved -> expense.cashMovementId = none) ∧
      (∀ more later, run expenseStep book more = some later ->
        ∀ expense ∈ book.expenses, expense.status ≠ .pending -> expense ∈ later.expenses) ∧
      ∀ asOf, (∀ event ∈ events, event.1.businessNow ≤ asOf) ->
        ∀ ledger, ∀ session ∈ book.register.sessions,
          expectedBalance ledger book.register session asOf =
            expectedBalance ledger book.withoutExpenses session asOf -
              ((book.approvedIn session.id).map CashExpense.amount).sum := by
  have sound {asOf : Int} (passed : ∀ event ∈ events, event.1.businessNow ≤ asOf) :
      ExpenseSound asOf book := expenseSound_of_run clock ran passed
  obtain ⟨last, isLast⟩ := exists_last events
  have here := sound isLast
  refine ⟨?_, here.unshared, here.undecided, fun more later ranLater expense
    member decided => decided_stays_run here ranLater member decided,
    fun asOf passed ledger session member =>
      (sound passed).expectedBalance ledger (le_refl asOf) member⟩
  intro expense member isApproved
  obtain ⟨movement, movementIn, records, -⟩ := here.approved expense member isApproved
  refine ⟨movement, movementIn, records, fun other otherIn linked => ?_⟩
  have sameNumber : other.id = movement.id :=
    Option.some.inj (linked.symm.trans records.linked)
  exact eq_of_key here.movementIds.distinct otherIn movementIn sameNumber

end

/-- Calls of a quiet hotel at a time. -/
def expenseEnvironment (now : Int) : ExpenseEnvironment where
  now := now
  businessNow := now
  ledger := .empty
  storeReceipt := fun _ => .error "No se pudo guardar el comprobante"

def cleaningExpense (amount : ℚ) : ExpenseRequest where
  sessionId := 1
  amount := amount
  category := "limpieza"
  vendor := "Almacén"
  receiptReference := some "A-1"

/-- Two expenses; one is approved twice, the other one rejected. -/
def expenseShift : List (ExpenseEnvironment × ExpenseCall) :=
  [(expenseEnvironment 0, .register (.openSession (some 1) 100 "ARS" none)),
    (expenseEnvironment 1, .createCashExpense (cleaningExpense 25)),
    (expenseEnvironment 2, .createCashExpense (cleaningExpense 40)),
    (expenseEnvironment 3, .approveCashExpense 1 9),
    (expenseEnvironment 4, .approveCashExpense 1 9),
    (expenseEnvironment 5, .rejectCashExpense 2 9 "duplicado")]

/-- The drawer of the shift expects its float less the approved expense. -/
theorem cashExpenses_agree_shift : ∃ book, run expenseStep {} expenseShift = some book ∧
      book.expenses.map CashExpense.status = [.approved, .rejected] ∧
      ∀ session ∈ book.register.sessions, expectedBalance .empty book.register session 5 =
          expectedBalance .empty book.withoutExpenses session 5 -
            ((book.approvedIn session.id).map CashExpense.amount).sum := by
  have results : (run expenseStep {} expenseShift).map (fun book =>
      book.expenses.map CashExpense.status) = some [.approved, .rejected] := by
    decide +kernel
  obtain ⟨book, ran, statuses⟩ := Option.map_eq_some_iff.mp results
  refine ⟨book, ran, statuses, ?_⟩
  have clock : ClockRuns expenseShift := by
    unfold ClockRuns expenseShift expenseEnvironment
    simp
  refine (cashExpenses_agree clock ran).2.2.2.2 5 ?_ .empty
  unfold expenseShift expenseEnvironment
  simp

end HotelPms.Cash
