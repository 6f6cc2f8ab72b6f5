import HotelPms.Cash.Expenses
import HotelPms.Cash.RegisterSafety
import HotelPms.Foundation.TwoRuns

/-!
# Expenses and their movements

Each approved expense owns one expense movement of its amount in its session,
and no other expense has a movement.  The drawer of a session counts that
movement from the moment of the approval on.
-/

namespace HotelPms.Cash

open Checked Decimal Table Transition
open Payments (Ledger)

theorem cents_mul (amount : Int) : (amount : ℚ) / 100 * 10 ^ 2 = (amount : ℚ) := by
  ring

theorem money_cents (amount : Int) : money ((amount : ℚ) / 100) = amount := by
  unfold money quantizeHalfUp
  rw [cents_mul, roundHalfUp_intCast]

theorem expenseMoney_eq_ok {value : ℚ} {amount : Int} (isMoney : expenseMoney value = .ok amount) :
    quantize 2 value = amount := by
  obtain ⟨_, -, same⟩ := bind_eq_ok.mp isMoney
  exact pure_eq_ok.mp same

theorem expenseMoney_cents {stored amount : Int}
    (isMoney : expenseMoney ((stored : ℚ) / 100) = .ok amount) :
    amount = stored := by
  rw [← expenseMoney_eq_ok isMoney]
  unfold quantize
  rw [cents_mul, roundHalfEven_intCast]

/-! ## What calls do to sessions and movements -/

def CashSession.businessStart (session : CashSession) : Int :=
  session.businessOpenedAt.getD session.openedAt

structure AddedMovement (env : CashEnvironment) (register : Register)
    (request : MovementRequest) (after : Register)
    (movement : CashMovement) : Prop where
  isNext : movement.id = register.nextMovementId
  session : movement.sessionId = request.sessionId
  type : movement.movementType = request.movementType
  amount : movement.amount = money request.amount
  transaction : movement.transactionId = request.transactionId
  active : movement.voidedAt = none
  recorded : request.transactionId = none -> movement.businessRecordedAt = some env.businessNow
  isAfter : after = { register with
    movements := register.movements ++ [movement]
    nextMovementId := register.nextMovementId + 1 }

/-- What stays of sessions and movements after a call. -/
structure RegisterKept (env : CashEnvironment) (register after : Register) :
    Prop where
  sessions : ∀ session ∈ after.sessions, (∃ old ∈ register.sessions, old.id = session.id ∧
      old.businessStart = session.businessStart) ∨
    (session.id = register.nextSessionId ∧ session.businessStart = env.businessNow)
  existing : ∀ session ∈ register.sessions, ∃ kept ∈ after.sessions, kept.id = session.id
  movements : (after.movements = register.movements ∧
      after.nextMovementId = register.nextMovementId) ∨
    ∃ movement, movement.id = register.nextMovementId ∧
      after.movements = register.movements ++ [movement] ∧
      after.nextMovementId = register.nextMovementId + 1

section

variable {env : CashEnvironment} {register after : Register}

theorem RegisterKept.refl : RegisterKept env register register where
  sessions := fun session member => .inl ⟨session, member, rfl, rfl⟩
  existing := fun session member => ⟨session, member, rfl⟩
  movements := .inl ⟨rfl, rfl⟩

theorem RegisterKept.replaced {session changed : CashSession} (member : session ∈ register.sessions)
    (sessions : after.sessions = replace CashSession.id changed register.sessions)
    (sameId : changed.id = session.id)
    (sameStart : changed.businessStart = session.businessStart)
    (movements : after.movements = register.movements ∧
      after.nextMovementId = register.nextMovementId) :
    RegisterKept env register after where
  sessions := by
    intro other otherIn
    rw [sessions] at otherIn
    rcases mem_replace otherIn with rfl | ⟨old, -⟩
    · exact .inl ⟨session, member, sameId.symm, sameStart.symm⟩
    · exact .inl ⟨other, old, rfl, rfl⟩
  existing := by
    intro other otherIn
    obtain ⟨kept, keptIn, same, -⟩ := exists_mem_replace CashSession.id changed otherIn
    exact ⟨kept, sessions ▸ keptIn, same⟩
  movements := .inl movements

theorem RegisterKept.appended {opened : CashSession} {middle : Register}
    (kept : RegisterKept env register middle)
    (isNext : opened.id = register.nextSessionId)
    (isNow : opened.businessStart = env.businessNow)
    (sessions : after.sessions = middle.sessions ++ [opened])
    (movements : after.movements = middle.movements ∧
      after.nextMovementId = middle.nextMovementId) :
    RegisterKept env register after where
  sessions := by
    intro other otherIn
    rw [sessions] at otherIn
    rcases List.mem_added.mp otherIn with old | rfl
    · exact kept.sessions other old
    · exact .inr ⟨isNext, isNow⟩
  existing := by
    intro other otherIn
    obtain ⟨found, foundIn, same⟩ := kept.existing other otherIn
    exact ⟨found, sessions ▸ List.mem_append_left _ foundIn, same⟩
  movements := by
    rw [movements.1, movements.2]
    exact kept.movements

theorem addMovement_eq_ok {request : MovementRequest} {movement : CashMovement}
    (added : addMovement env register request = .ok (after, movement)) :
    AddedMovement env register request after movement := by
  unfold addMovement at added
  simp only [bind_eq_ok, pure_eq_ok, Prod.mk.injEq] at added
  obtain ⟨session, isSession, _, -, _, -, _, -, transaction, linked, _, -, rfl, rfl⟩ := added
  have sameId : session.id = request.sessionId := by
    unfold requireOpenSession at isSession
    split at isSession
    · next stored isStored =>
      split_ifs at isSession
      cases isSession
      exact (find_eq_some isStored).2
    · cases isSession
  refine ⟨rfl, sameId, rfl, rfl, rfl, rfl, fun unlinked => ?_, rfl⟩
  unfold linkedTransaction at linked
  rw [unlinked] at linked
  obtain rfl : none = transaction := pure_eq_ok.mp linked
  rfl

theorem AddedMovement.kept {request : MovementRequest} {movement : CashMovement}
    (added : AddedMovement env register request after movement) :
    RegisterKept env register after := by
  have before : RegisterKept env register register := .refl
  rw [added.isAfter]
  exact {
    sessions := before.sessions
    existing := before.existing
    movements := .inr ⟨movement, added.isNext, rfl, rfl⟩ }

theorem openSession_kept {openedByUserId : Option Int} {openingBalance : ℚ}
    {currencyCode : String} {notes : Option String} {session : CashSession}
    (opened : openSession env register openedByUserId openingBalance
      currencyCode notes = .ok (after, session)) :
    RegisterKept env register after := by
  unfold openSession at opened
  simp only [bind_eq_ok, raiseIf_eq_ok, pure_eq_ok, Prod.mk.injEq] at opened
  obtain ⟨_, -, _, -, _, -, rfl, -⟩ := opened
  exact RegisterKept.refl.appended rfl rfl rfl ⟨rfl, rfl⟩

theorem closeSession_kept {sessionId : Int} {closedByUserId : Option Int}
    {countedBalance : ℚ} {notes : Option String}
    {approvedByUserId : Option Int} {report : CashCloseReport}
    (closed : closeSession env register sessionId closedByUserId
      countedBalance notes approvedByUserId = .ok (after, report)) :
    RegisterKept env register after := by
  unfold closeSession at closed
  split at closed
  · cases closed
  · next session isSession =>
    simp only [bind_eq_ok, raiseIf_eq_ok, pure_eq_ok, Prod.mk.injEq] at closed
    obtain ⟨_, -, _, -, _, -, _, -, _, -, _, -, rfl, -⟩ := closed
    have replaced (difference : Int) (differenceApproved : Bool) :
        RegisterKept env register { register with
          sessions := replace CashSession.id (closedSession env session
            closedByUserId difference differenceApproved) register.sessions } :=
      .replaced (find_eq_some isSession).1 rfl rfl rfl ⟨rfl, rfl⟩
    exact (replaced _ _).appended rfl rfl rfl ⟨rfl, rfl⟩

theorem confirmCashCustody_kept {reportId receivedByUserId : Int}
    {successorFloatAmount : ℚ} {result : CashCloseReport}
    (confirmed : confirmCashCustody env register reportId receivedByUserId
      successorFloatAmount = .ok (after, result)) :
    RegisterKept env register after := by
  unfold confirmCashCustody at confirmed
  split at confirmed
  · obtain ⟨_, -, confirmed⟩ := bind_eq_ok.mp confirmed
    split_ifs at confirmed
    · rw [repeatedConfirmation_eq_ok confirmed]
      exact .refl
    · obtain ⟨session, isSession, result⟩ := bind_eq_ok.mp confirmed
      cases result
      exact .replaced (openSuccessor_eq_ok isSession) rfl rfl rfl ⟨rfl, rfl⟩
  · cases confirmed

theorem approveCloseDifference_kept {reportId : Int}
    {approvedByUserId : Option Int} {result : CashCloseReport}
    (approved : approveCloseDifference register reportId approvedByUserId =
      .ok (after, result)) : RegisterKept env register after := by
  unfold approveCloseDifference at approved
  split at approved
  · cases approved
  · next report isReport =>
    obtain ⟨_, -, approved⟩ := bind_eq_ok.mp approved
    split_ifs at approved
    · cases approved
      exact .refl
    · split at approved
      · cases approved
      · next session isSession =>
        cases approved
        exact .replaced (find_eq_some isSession).1 rfl rfl rfl ⟨rfl, rfl⟩

theorem performCall_kept {call : RegisterCall}
    (performed : performCall env register call = .ok after) :
    RegisterKept env register after := by
  cases call with
  | openSession =>
    obtain ⟨session, opened⟩ := map_fst_eq_ok.mp performed
    exact openSession_kept opened
  | addMovement =>
    obtain ⟨movement, added⟩ := map_fst_eq_ok.mp performed
    exact (addMovement_eq_ok added).kept
  | closeSession =>
    obtain ⟨report, closed⟩ := map_fst_eq_ok.mp performed
    exact closeSession_kept closed
  | confirmCashCustody =>
    obtain ⟨report, confirmed⟩ := map_fst_eq_ok.mp performed
    exact confirmCashCustody_kept confirmed
  | approveCloseDifference =>
    obtain ⟨report, approved⟩ := map_fst_eq_ok.mp performed
    exact approveCloseDifference_kept approved

end

/-! ## The invariant -/

/-- The movement that an approved expense is linked to. -/
structure RecordsExpense (expense : CashExpense) (movement : CashMovement) :
    Prop where
  linked : expense.cashMovementId = some movement.id
  session : movement.sessionId = expense.sessionId
  isExpense : movement.movementType = .expense
  amount : movement.amount = expense.amount

/-- A movement that its drawer counts at every later time. -/
structure CountedFrom (clock : Int) (register : Register)
    (movement : CashMovement) : Prop where
  active : movement.voidedAt = none
  unlinked : movement.transactionId = none
  recorded : ∃ time, movement.businessRecordedAt = some time ∧
    time ≤ clock ∧ ∀ session ∈ register.sessions,
      session.id = movement.sessionId -> session.businessStart ≤ time
  session : ∃ session ∈ register.sessions, session.id = movement.sessionId

/-- Expenses and movements belong together. -/
structure ExpenseSound (clock : Int) (book : ExpenseBook) : Prop where
  register : RegisterInvariant book.register
  movementIds : Numbered CashMovement.id book.register.nextMovementId book.register.movements
  started : ∀ session ∈ book.register.sessions, session.businessStart ≤ clock
  expenseIds : Numbered CashExpense.id book.nextExpenseId book.expenses
  undecided : ∀ expense ∈ book.expenses, expense.status ≠ .approved -> expense.cashMovementId = none
  approved : ∀ expense ∈ book.expenses, expense.status = .approved ->
    ∃ movement ∈ book.register.movements, RecordsExpense expense movement ∧
      CountedFrom clock book.register movement
  unshared : ∀ expense ∈ book.expenses, ∀ other ∈ book.expenses,
    ∀ movementId, expense.cashMovementId = some movementId ->
      other.cashMovementId = some movementId -> expense = other

theorem expenseSound_initial (clock : Int) : ExpenseSound clock {} where
  register := .initial
  movementIds := .nil _ _
  started := by simp
  expenseIds := .nil _ _
  undecided := by simp
  approved := by simp
  unshared := by simp

section

variable {clock later : Int} {env : ExpenseEnvironment} {book after : ExpenseBook}

variable {movement : CashMovement}

theorem CountedFrom.mono {register : Register}
    (counted : CountedFrom clock register movement) (passed : clock ≤ later) :
    CountedFrom later register movement := by
  obtain ⟨time, isTime, before, started⟩ := counted.recorded
  exact ⟨counted.active, counted.unlinked,
    ⟨time, isTime, before.trans passed, started⟩, counted.session⟩

/-- What holds stays true while nothing is called. -/
theorem ExpenseSound.mono (sound : ExpenseSound clock book)
    (passed : clock ≤ later) : ExpenseSound later book where
  register := sound.register
  movementIds := sound.movementIds
  started := fun session member => (sound.started session member).trans passed
  expenseIds := sound.expenseIds
  undecided := sound.undecided
  approved := by
    intro expense member isApproved
    obtain ⟨movement, movementIn, records, counted⟩ := sound.approved expense member isApproved
    exact ⟨movement, movementIn, records, counted.mono passed⟩
  unshared := sound.unshared

variable {register registerAfter : Register}

variable {cash : CashEnvironment} {expense : CashExpense}

theorem CountedFrom.kept (counted : CountedFrom clock register movement)
    (numbered : Numbered CashSession.id register.nextSessionId register.sessions)
    (kept : RegisterKept cash register registerAfter) :
    CountedFrom clock registerAfter movement := by
  obtain ⟨time, isTime, before, started⟩ := counted.recorded
  obtain ⟨owner, ownerIn, isOwner⟩ := counted.session
  refine ⟨counted.active, counted.unlinked, ⟨time, isTime, before, ?_⟩, ?_⟩
  · intro session member isSession
    rcases kept.sessions session member with ⟨old, oldIn, sameId, sameStart⟩ | ⟨isNext, -⟩
    · rw [← sameStart]
      exact started old oldIn (sameId.trans isSession)
    · have below := numbered.below owner ownerIn
      omega
  · obtain ⟨found, foundIn, same⟩ := kept.existing owner ownerIn
    exact ⟨found, foundIn, same.trans isOwner⟩

theorem RegisterKept.movements_subset (kept : RegisterKept cash register registerAfter)
    (member : movement ∈ register.movements) :
    movement ∈ registerAfter.movements := by
  rcases kept.movements with ⟨same, -⟩ | ⟨added, -, appended, -⟩
  · exact same ▸ member
  · exact appended ▸ List.mem_append_left _ member

theorem RegisterKept.movementIds (kept : RegisterKept cash register registerAfter)
    (numbered : Numbered CashMovement.id register.nextMovementId register.movements) :
    Numbered CashMovement.id registerAfter.nextMovementId registerAfter.movements := by
  rcases kept.movements with ⟨same, next⟩ | ⟨added, isNext, appended, next⟩
  · rw [same, next]
    exact numbered
  · rw [appended, next]
    exact numbered.append isNext

theorem ExpenseSound.kept {register : Register} (sound : ExpenseSound env.businessNow book)
    (changed : RegisterChange book.register register)
    (kept : RegisterKept (book.cashEnvironment env) book.register register) :
    ExpenseSound env.businessNow { book with register := register } where
  register := sound.register.change changed
  movementIds := kept.movementIds sound.movementIds
  started := by
    intro session member
    rcases kept.sessions session member with ⟨old, oldIn, -, sameStart⟩ | ⟨-, isNow⟩
    · rw [← sameStart]
      exact sound.started old oldIn
    · exact isNow.le
  expenseIds := sound.expenseIds
  undecided := sound.undecided
  approved := by
    intro expense member isApproved
    obtain ⟨movement, movementIn, records, counted⟩ := sound.approved expense member isApproved
    exact ⟨movement, kept.movements_subset movementIn, records,
      counted.kept sound.register.sessionIds kept⟩
  unshared := sound.unshared

/-- A new expense is pending and has no movement. -/
theorem ExpenseSound.created (sound : ExpenseSound clock book) {request : ExpenseRequest}
    (created : createCashExpense env book request = .ok (after, expense)) :
    ExpenseSound clock after := by
  unfold createCashExpense at created
  simp only [bind_eq_ok, pure_eq_ok, Prod.mk.injEq] at created
  obtain ⟨session, -, value, -, _, -, object, -, rfl, -⟩ := created
  refine ⟨sound.register, sound.movementIds, sound.started, sound.expenseIds.append rfl, ?_, ?_, ?_⟩
  · intro other member notApproved
    rcases List.mem_added.mp member with old | new
    · exact sound.undecided other old notApproved
    · rw [new]
  · intro other member isApproved
    rcases List.mem_added.mp member with old | rfl
    · exact sound.approved other old isApproved
    · cases isApproved
  · intro first firstIn second secondIn movementId ofFirst ofSecond
    rcases List.mem_added.mp firstIn with old | rfl
    · rcases List.mem_added.mp secondIn with oldToo | rfl
      · exact sound.unshared first old second oldToo movementId ofFirst ofSecond
      · cases ofSecond
    · cases ofFirst

theorem getCashExpense_eq_ok {expenseId : Int}
    (found : getCashExpense book expenseId = .ok expense) :
    expense ∈ book.expenses ∧ expense.id = expenseId := by
  unfold getCashExpense at found
  split at found
  · next stored isStored =>
    cases found
    exact find_eq_some isStored
  · cases found

theorem requireExpenseSession_eq_ok {sessionId : Int} {session : CashSession}
    (found : requireExpenseSession book sessionId = .ok session) :
    session ∈ book.register.sessions ∧ session.id = sessionId := by
  unfold requireExpenseSession at found
  split at found
  · next stored isStored =>
    split_ifs at found
    cases found
    exact find_eq_some isStored
  · cases found

theorem ExpenseSound.rejected (sound : ExpenseSound clock book)
    {rejected : CashExpense} (member : expense ∈ book.expenses)
    (isPending : expense.status = .pending) (sameId : rejected.id = expense.id)
    (sameMovement : rejected.cashMovementId = expense.cashMovementId)
    (isRejected : rejected.status = .rejected) :
    ExpenseSound clock { book with
      expenses := replace CashExpense.id rejected book.expenses } := by
  have unlinked : rejected.cashMovementId = none := by
    rw [sameMovement]
    exact sound.undecided expense member (by rw [isPending]; decide)
  refine ⟨sound.register, sound.movementIds, sound.started,
    sound.expenseIds.replace rejected ?_, ?_, ?_, ?_⟩
  · rw [sameId]
    exact sound.expenseIds.below expense member
  · intro other otherIn notApproved
    rcases mem_replace otherIn with rfl | ⟨old, -⟩
    · exact unlinked
    · exact sound.undecided other old notApproved
  · intro other otherIn isApproved
    rcases mem_replace otherIn with rfl | ⟨old, -⟩
    · rw [isRejected] at isApproved
      cases isApproved
    · exact sound.approved other old isApproved
  · intro first firstIn second secondIn movementId ofFirst ofSecond
    rcases mem_replace firstIn with rfl | ⟨old, -⟩
    · rw [unlinked] at ofFirst
      cases ofFirst
    · rcases mem_replace secondIn with rfl | ⟨oldToo, -⟩
      · rw [unlinked] at ofSecond
        cases ofSecond
      · exact sound.unshared first old second oldToo movementId ofFirst ofSecond

theorem ExpenseSound.approve (sound : ExpenseSound env.businessNow book)
    {approved : CashExpense} {register : Register}
    {request : MovementRequest}
    (member : expense ∈ book.expenses) (sameId : approved.id = expense.id)
    (isApproved : approved.status = .approved)
    (added : AddedMovement (book.cashEnvironment env) book.register request register movement)
    (changed : RegisterChange book.register register)
    (unlinked : request.transactionId = none)
    (records : RecordsExpense approved movement)
    (owned : ∃ session ∈ book.register.sessions, session.id = movement.sessionId) :
    ExpenseSound env.businessNow { book with
      register := register
      expenses := replace CashExpense.id approved book.expenses } := by
  have kept := sound.kept changed added.kept
  have movementIn : movement ∈ register.movements := by
    rw [added.isAfter]
    exact List.mem_concat_self
  -- no expense is linked to a movement that did not exist
  have fresh : ∀ other ∈ book.expenses, other.cashMovementId ≠ some movement.id := by
    intro other otherIn linked
    by_cases status : other.status = .approved
    · obtain ⟨owned, ownedIn, ownedRecords, -⟩ := sound.approved other otherIn status
      rw [ownedRecords.linked] at linked
      have sameNumber : owned.id = movement.id := Option.some.inj linked
      have below := sound.movementIds.below owned ownedIn
      have isNext := added.isNext
      omega
    · rw [sound.undecided other otherIn status] at linked
      cases linked
  refine ⟨kept.register, kept.movementIds, kept.started,
    sound.expenseIds.replace approved ?_, ?_, ?_, ?_⟩
  · rw [sameId]
    exact sound.expenseIds.below expense member
  · intro other otherIn notApproved
    rcases mem_replace otherIn with rfl | ⟨old, -⟩
    · exact absurd isApproved notApproved
    · exact sound.undecided other old notApproved
  · intro other otherIn otherApproved
    rcases mem_replace otherIn with rfl | ⟨old, -⟩
    · refine ⟨movement, movementIn, records, added.active, added.transaction.trans unlinked,
        ⟨env.businessNow, added.recorded unlinked, le_refl _,
          fun session sessionIn _ => kept.started session sessionIn⟩, ?_⟩
      obtain ⟨session, sessionIn, isOwner⟩ := owned
      obtain ⟨found, foundIn, same⟩ := added.kept.existing session sessionIn
      exact ⟨found, foundIn, same.trans isOwner⟩
    · exact kept.approved other old otherApproved
  · intro first firstIn second secondIn movementId ofFirst ofSecond
    rcases mem_replace firstIn with rfl | ⟨old, -⟩
    · rcases mem_replace secondIn with rfl | ⟨oldToo, -⟩
      · rfl
      · rw [records.linked] at ofFirst
        cases ofFirst
        exact absurd ofSecond (fresh second oldToo)
    · rcases mem_replace secondIn with rfl | ⟨oldToo, -⟩
      · rw [records.linked] at ofSecond
        cases ofSecond
        exact absurd ofFirst (fresh first old)
      · exact sound.unshared first old second oldToo movementId ofFirst ofSecond

theorem ExpenseSound.perform (sound : ExpenseSound env.businessNow book) {call : ExpenseCall}
    (performed : performExpenseCall env book call = .ok after) :
    ExpenseSound env.businessNow after := by
  cases call with
  | createCashExpense request =>
    obtain ⟨expense, created⟩ := map_fst_eq_ok.mp performed
    exact sound.created created
  | approveCashExpense expenseId approvedByUserId =>
    obtain ⟨result, approved⟩ := map_fst_eq_ok.mp performed
    obtain ⟨expense, isExpense, approved⟩ := bind_eq_ok.mp approved
    obtain ⟨member, -⟩ := getCashExpense_eq_ok isExpense
    split_ifs at approved
    · cases approved
      exact sound
    · simp only [bind_eq_ok, pure_eq_ok, Prod.mk.injEq] at approved
      obtain ⟨_, -, session, isSession, amount, isAmount,
        ⟨register, movement⟩, added, rfl, rfl⟩ := approved
      obtain ⟨sessionIn, isId⟩ := requireExpenseSession_eq_ok isSession
      have facts := addMovement_eq_ok added
      refine sound.approve member rfl rfl facts (addMovement_change added)
        rfl ?_ ⟨session, sessionIn, facts.session.symm⟩
      refine ⟨rfl, facts.session.trans isId, facts.type, ?_⟩
      rw [facts.amount]
      unfold expenseMovement
      rw [money_cents]
      exact expenseMoney_cents isAmount
  | rejectCashExpense expenseId rejectedByUserId reason =>
    obtain ⟨result, rejected⟩ := map_fst_eq_ok.mp performed
    obtain ⟨expense, isExpense, rejected⟩ := bind_eq_ok.mp rejected
    obtain ⟨member, -⟩ := getCashExpense_eq_ok isExpense
    split_ifs at rejected
    · cases rejected
      exact sound
    · simp only [bind_eq_ok, raiseIf_eq_ok, pure_eq_ok, Prod.mk.injEq] at rejected
      obtain ⟨_, isPending, _, -, rfl, -⟩ := rejected
      exact sound.rejected member (not_not.mp isPending) rfl rfl rfl
  | register call =>
    obtain ⟨register, made, rfl⟩ := map_eq_ok.mp performed
    exact sound.kept (performCall_change made) (performCall_kept made)

end

end HotelPms.Cash
