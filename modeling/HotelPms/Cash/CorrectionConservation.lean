import HotelPms.Cash.Correction
import HotelPms.Foundation.GroupSum
import HotelPms.Payments.Collection

/-!
# Corrections conserve money

A reassignment takes the amount of a payment from its reservation, adds it to
the target within that one's balance, and leaves every drawer as it was.  A
reversal takes the amount from the reservation and the movements of the payment
out of their open drawers.
-/

namespace HotelPms.Cash

open Checked GroupSum Hotel Table
open Payments (BillingAdjustment Ledger PaymentState ReservationFinancials
  Transaction TransactionStatus countedExternalCredit
  paid_eq_completed_add_external)

/-- What a transaction adds to the completed net of a reservation. -/
def completedEffect (reservationId : Int) (row : Transaction) : Int :=
  if row.reservationId = reservationId ∧ row.status = .completed then
    row.signedAmount
  else 0

theorem completedPaidAmount_eq_sum (ledger : Ledger) (reservationId : Int) :
    ledger.completedPaidAmount reservationId =
      (ledger.transactions.map (completedEffect reservationId)).sum := by
  unfold Ledger.completedPaidAmount Ledger.forReservation
  induction ledger.transactions with
  | nil => rfl
  | cons row rows ih =>
    rw [List.map_cons, List.sum_cons, ← ih, completedEffect, List.filter_cons]
    by_cases own : row.reservationId = reservationId
    · by_cases completed : row.status = .completed
      · simp [own, completed]
      · simp [own, completed]
    · simp [own]

theorem transaction?_eq_some {ledger : Ledger} {transactionId : Int} {row : Transaction}
    (found : ledger.transaction? transactionId = some row) :
    row ∈ ledger.transactions ∧ row.id = transactionId :=
  find_eq_some found

section

variable {ledger : Ledger} {source : Transaction}

theorem cancelTransaction_transactions (member : source ∈ ledger.transactions) :
    (cancelTransaction ledger source.id).transactions =
      replace Transaction.id (cancelledRow source) ledger.transactions := by
  apply List.map_congr_left
  intro row rowIn
  by_cases same : row.id = source.id
  · have sameRow : row = source :=
      eq_of_key ledger.distinctIds rowIn member same
    rw [if_pos same, sameRow]
    exact (if_pos rfl).symm
  · rw [if_neg same]
    exact (if_neg same).symm

theorem completedPaidAmount_cancelTransaction (member : source ∈ ledger.transactions)
    (completed : source.status = .completed) (payment : ¬source.IsRefund)
    (reservationId : Int) :
    (cancelTransaction ledger source.id).completedPaidAmount reservationId =
      ledger.completedPaidAmount reservationId -
        if source.reservationId = reservationId then source.amount else 0 := by
  have before : completedEffect reservationId source =
      if source.reservationId = reservationId then source.amount else 0 := by
    simp [completedEffect, completed, Transaction.signedAmount, payment]
  have gone : completedEffect reservationId (cancelledRow source) = 0 := by
    simp [completedEffect, cancelledRow]
  rw [completedPaidAmount_eq_sum, cancelTransaction_transactions member,
    sum_replace Transaction.id _ (cancelledRow source) ledger.distinctIds member rfl, before, gone,
    ← completedPaidAmount_eq_sum, add_zero]

theorem hasTransactions_iff {reservationId : Int} : ledger.hasTransactions reservationId = true ↔
      reservationId ∈ ledger.transactions.map Transaction.reservationId := by
  unfold Ledger.hasTransactions Ledger.forReservation
  rw [Bool.not_eq_true', List.isEmpty_eq_false_iff_exists_mem, List.mem_map]
  constructor
  · rintro ⟨row, member⟩
    rw [List.mem_filter, decide_eq_true_eq] at member
    exact ⟨row, member.1, member.2⟩
  · rintro ⟨row, member, own⟩
    exact ⟨row, List.mem_filter.mpr ⟨member, decide_eq_true own⟩⟩

theorem completedPaidAmount_of_noHistory {reservationId : Int}
    (none : ledger.hasTransactions reservationId = false) :
    ledger.completedPaidAmount reservationId = 0 := by
  have empty : ledger.forReservation reservationId = [] := by
    simpa [Ledger.hasTransactions] using none
  rw [Ledger.completedPaidAmount, empty]
  rfl

/-- A cancelled transaction still counts as history. -/
theorem hasTransactions_cancelTransaction
    (member : source ∈ ledger.transactions) (reservationId : Int) :
    (cancelTransaction ledger source.id).hasTransactions reservationId =
      ledger.hasTransactions reservationId := by
  rw [Bool.eq_iff_iff, hasTransactions_iff, hasTransactions_iff,
    cancelTransaction_transactions member, map_replace]
  intro old oldIn same
  rw [eq_of_key ledger.distinctIds oldIn member same]
  rfl

theorem transaction?_cancelTransaction
    (member : source ∈ ledger.transactions) (transactionId : Int) :
    (cancelTransaction ledger source.id).transaction? transactionId =
      if transactionId = source.id then some (cancelledRow source)
      else ledger.transaction? transactionId := by
  show find Transaction.id transactionId (cancelTransaction ledger source.id).transactions = _
  rw [cancelTransaction_transactions member]
  split_ifs with same
  · subst same
    have known : source.id ∈ ledger.transactions.map Transaction.id :=
      List.mem_map_of_mem member
    exact find_replace_self Transaction.id (cancelledRow source) ledger.distinctIds known
  · exact find_replace_of_ne (Ne.symm same)

end

section

variable {ledger : Ledger} {row : Transaction} {isNext : row.id = ledger.nextTransactionId}
  {sourceBelow : ∀ source, row.refundOfTransactionId = some source ->
    source < ledger.nextTransactionId}

theorem completedPaidAmount_record (reservationId : Int) :
    (ledger.record row isNext sourceBelow []).completedPaidAmount
        reservationId = ledger.completedPaidAmount reservationId +
        completedEffect reservationId row := by
  rw [completedPaidAmount_eq_sum, completedPaidAmount_eq_sum, add_comm]
  rfl

theorem hasTransactions_record {reservationId : Int} :
    (ledger.record row isNext sourceBelow []).hasTransactions reservationId = true ↔
      row.reservationId = reservationId ∨ ledger.hasTransactions reservationId = true := by
  rw [hasTransactions_iff, hasTransactions_iff]
  show reservationId ∈ (row :: ledger.transactions).map _ ↔ _
  rw [List.map_cons, List.mem_cons, eq_comm]

theorem transaction?_record (transactionId : Int) :
    (ledger.record row isNext sourceBelow []).transaction? transactionId =
      if row.id = transactionId then some row
      else ledger.transaction? transactionId := by
  unfold Ledger.transaction?
  show (row :: ledger.transactions).find? _ = _
  rw [List.find?_cons]
  by_cases same : row.id = transactionId
  · rw [if_pos same, decide_eq_true same]
  · rw [if_neg same, decide_eq_false same]

end

/-- A refreshed reservation keeps the columns its paid amount reads. -/
structure Refreshed (before settled : ReservationFinancials) : Prop where
  id : settled.id = before.id
  isOta : settled.isOta = before.isOta
  external : countedExternalCredit settled = countedExternalCredit before

section

variable {reservation settled : ReservationFinancials} {ledger : Ledger}
  {adjustments : List BillingAdjustment}

theorem updateFinancials_eq_ok (updated : reservation.updateFinancials ledger adjustments =
      .ok settled) : Refreshed reservation settled := by
  unfold ReservationFinancials.updateFinancials at updated
  simp only at updated
  split_ifs at updated with nonneg
  cases updated
  obtain ⟨status, isStatus⟩ := Payments.syncFinancialStatus_columns { reservation with
      amountPaid := reservation.paidAmountWithLegacyFallback ledger
      paidNonneg := nonneg } adjustments
  rw [isStatus]
  exact ⟨rfl, rfl, rfl⟩

theorem Refreshed.paid (refreshed : Refreshed reservation settled)
    (recorded : ledger.hasTransactions reservation.id = true) :
    settled.paidAmountWithLegacyFallback ledger =
      ledger.completedPaidAmount reservation.id + countedExternalCredit reservation := by
  rw [← refreshed.external, ← refreshed.id]
  apply paid_eq_completed_add_external
  rw [refreshed.id]
  exact recorded

theorem paid_congr {other : Ledger} (net : other.completedPaidAmount reservation.id =
      ledger.completedPaidAmount reservation.id)
    (history : other.hasTransactions reservation.id = ledger.hasTransactions reservation.id) :
    reservation.paidAmountWithLegacyFallback other =
      reservation.paidAmountWithLegacyFallback ledger := by
  unfold ReservationFinancials.paidAmountWithLegacyFallback
  rw [net, history]

def KeepsPaidAmount (ledger : Ledger) (reservation : ReservationFinancials) : Prop :=
  reservation.isOta = true ∨ ledger.hasTransactions reservation.id = true ∨
    reservation.amountPaid = 0

theorem paid_of_kept (kept : KeepsPaidAmount ledger reservation) :
    reservation.paidAmountWithLegacyFallback ledger =
      ledger.completedPaidAmount reservation.id + countedExternalCredit reservation := by
  cases recorded : ledger.hasTransactions reservation.id with
  | true => exact paid_eq_completed_add_external recorded
  | false =>
    unfold ReservationFinancials.paidAmountWithLegacyFallback countedExternalCredit
    by_cases ota : reservation.isOta = true
    · rw [if_pos ota, if_pos ota]
    · rw [if_neg ota, if_neg ota, if_pos recorded,
        completedPaidAmount_of_noHistory recorded, add_zero]
      rcases kept with isOta | history | unpaid
      · exact absurd isOta ota
      · rw [recorded] at history
        cases history
      · exact unpaid

theorem counted_of_not_kept (stale : ¬KeepsPaidAmount ledger reservation) :
    ledger.completedPaidAmount reservation.id + countedExternalCredit reservation = 0 := by
  unfold KeepsPaidAmount at stale
  rw [not_or, not_or, Bool.not_eq_true, Bool.not_eq_true] at stale
  obtain ⟨direct, recorded, -⟩ := stale
  rw [completedPaidAmount_of_noHistory recorded, countedExternalCredit, direct]
  rfl

theorem counted_le_paid (ledger : Ledger) (reservation : ReservationFinancials) :
    ledger.completedPaidAmount reservation.id + countedExternalCredit reservation ≤
      reservation.paidAmountWithLegacyFallback ledger := by
  by_cases kept : KeepsPaidAmount ledger reservation
  · exact (paid_of_kept kept).ge
  · rw [counted_of_not_kept kept]
    unfold KeepsPaidAmount at kept
    rw [not_or, not_or, Bool.not_eq_true, Bool.not_eq_true] at kept
    obtain ⟨direct, recorded, -⟩ := kept
    simp [ReservationFinancials.paidAmountWithLegacyFallback, direct,
      recorded, reservation.paidNonneg]

end

/-- What a movement adds to the balance of a session. -/
def balanceEffect (ledger : Ledger) (session : CashSession) (businessAsOf : Int)
    (movement : CashMovement) : Int :=
  if (movement.countsIn session businessAsOf &&
      movement.confirmed ledger) = true then movement.signedAmount
  else 0

theorem expectedBalance_eq_sum (ledger : Ledger) (register : Register) (session : CashSession)
    (businessAsOf : Int) :
    expectedBalance ledger register session businessAsOf = session.openingBalance +
        ((register.movements.map (balanceEffect ledger session businessAsOf)).sum +
          legacyHandoffTotal register session businessAsOf) := by
  unfold expectedBalance confirmedCashMovementsTotal
  rw [sum_map_filter]
  rfl

/-- Net of a payment's movements in a session, up to a time: those of a
payment that is not in cash count for nothing. -/
def paymentNet (register : Register) (source : Transaction) (session : CashSession)
    (businessAsOf : Int) : Int :=
  if source.paymentMethod = .cash then
    (((register.movementsOf source.id).filter fun movement =>
      movement.countsIn session businessAsOf).map CashMovement.signedAmount).sum
  else 0

/-- What a movement adds to the net of a payment. -/
def netEffect (source : Transaction) (session : CashSession) (businessAsOf : Int)
    (movement : CashMovement) : Int :=
  if source.paymentMethod = .cash ∧ movement.transactionId = some source.id ∧
        movement.countsIn session businessAsOf = true then
    movement.signedAmount
  else 0

theorem paymentNet_eq_sum (register : Register) (source : Transaction) (session : CashSession)
    (businessAsOf : Int) :
    paymentNet register source session businessAsOf =
      (register.movements.map (netEffect source session businessAsOf)).sum := by
  unfold paymentNet Register.movementsOf
  split_ifs with cash
  · rw [List.filter_filter, sum_map_filter]
    congr 1
    simp [netEffect, cash, and_comm]
  · symm
    apply List.sum_eq_zero
    intro effect member
    obtain ⟨movement, -, rfl⟩ := List.mem_map.mp member
    exact if_neg (cash ·.1)

section

variable {ledger : Ledger} {source : Transaction} {movement : CashMovement}

theorem confirmed_of_source (member : source ∈ ledger.transactions)
    (completed : source.status = .completed)
    (isLinked : movement.transactionId = some source.id) :
    movement.confirmed ledger = decide (source.paymentMethod = .cash) := by
  have found : ledger.transaction? source.id = some source :=
    find_of_mem ledger.distinctIds member
  simp only [CashMovement.confirmed, isLinked, found, Option.any_some, completed, and_true]

theorem confirmed_cancelTransaction (member : source ∈ ledger.transactions) :
    movement.confirmed (cancelTransaction ledger source.id) =
      if movement.transactionId = some source.id then false
      else movement.confirmed ledger := by
  unfold CashMovement.confirmed
  cases isLinked : movement.transactionId with
  | none => rfl
  | some transactionId =>
    simp only [transaction?_cancelTransaction member, Option.some.injEq]
    split_ifs with same
    · simp [cancelledRow]
    · rfl

theorem confirmed_record {row : Transaction} {isNext : row.id = ledger.nextTransactionId}
    {sourceBelow : ∀ source, row.refundOfTransactionId = some source ->
      source < ledger.nextTransactionId} :
    movement.confirmed (ledger.record row isNext sourceBelow []) =
      if movement.transactionId = some row.id then
        decide (row.paymentMethod = .cash ∧ row.status = .completed)
      else movement.confirmed ledger := by
  unfold CashMovement.confirmed
  cases isLinked : movement.transactionId with
  | none => rfl
  | some transactionId =>
    simp only [transaction?_record, Option.some.injEq]
    by_cases same : transactionId = row.id
    · rw [if_pos same.symm, if_pos same]
      rfl
    · rw [if_neg (Ne.symm same), if_neg same]

end

/-- What is known of the payment a correction is made for. -/
structure CorrectionParts
    (state : CorrectionState) (call : CorrectionCall) (source : Transaction)
    (sourceReservation : ReservationFinancials)
    (movements : List CashMovement) : Prop where
  member : source ∈ state.payments.ledger.transactions
  isSource : source.id = call.sourceTransactionId
  stored : state.payments.reservations source.reservationId = some sourceReservation
  uncorrected : ∀ correction ∈ state.corrections, correction.sourceTransactionId ≠ source.id
  completed : source.status = .completed
  payment : ¬source.IsRefund
  ofCash : source.paymentMethod = .cash -> movements = state.register.movementsOf source.id
  noCash : source.paymentMethod ≠ .cash -> movements = []
  inOpen : call.correctionType = "duplicate_reversal" ->
    ∀ movement ∈ movements, ∃ session ∈ state.register.sessions,
      session.id = movement.sessionId ∧ session.status = .opened

section

variable {now : Int} {state after : CorrectionState} {call : CorrectionCall}
  {source : Transaction} {sourceReservation : ReservationFinancials}
  {movements : List CashMovement} {correction : PaymentCorrection}

/-- A prior receipt cannot be cancelled. -/
theorem checkCancellation_eq_ok (cancelled : checkCancellation source = .ok ()) :
    source.collectedBefore = false := by
  unfold checkCancellation at cancelled
  rw [raiseIf_eq_ok, not_not] at cancelled
  rcases cancelled with ⟨live, -⟩ | ⟨-, -, -, -, -, completed⟩
  · exact live
  · cases completed

theorem checkSource_eq_ok (isChecked : checkSource state source = .ok ()) :
    (∀ correction ∈ state.corrections, correction.sourceTransactionId ≠ source.id) ∧
      source.status = .completed ∧ ¬source.IsRefund := by
  unfold checkSource at isChecked
  simp only [bind_eq_ok, raiseIf_eq_ok, not_exists, not_and, not_not, not_or] at isChecked
  obtain ⟨_, uncorrected, _, completed, _, payment, -⟩ := isChecked
  exact ⟨uncorrected, completed, payment.1⟩

theorem correctedMovements_eq_ok (live : source.collectedBefore = false)
    (corrected : correctedMovements state call source = .ok movements) :
    (source.paymentMethod = .cash -> movements = state.register.movementsOf source.id) ∧
      (source.paymentMethod ≠ .cash -> movements = []) ∧
      (call.correctionType = "duplicate_reversal" ->
        ∀ movement ∈ movements, ∃ session ∈ state.register.sessions,
          session.id = movement.sessionId ∧ session.status = .opened) := by
  unfold correctedMovements at corrected
  split_ifs at corrected with inCash
  · simp only [bind_eq_ok, pure_eq_ok] at corrected
    obtain ⟨_, -, _, -, _, isChecked, rfl⟩ := corrected
    refine ⟨fun _ => rfl, (absurd inCash.1 ·), ?_⟩
    intro reversal movement member
    unfold checkMovements at isChecked
    simp only [bind_eq_ok, raiseIf_eq_ok, not_exists, not_and] at isChecked
    obtain ⟨_, known, _, stillOpen, -⟩ := isChecked
    obtain ⟨session, isSession⟩ := Option.ne_none_iff_exists'.mp (known movement member)
    obtain ⟨sessionIn, sessionId⟩ := find_eq_some isSession
    have isOpen := stillOpen reversal movement member
    rw [isSession, Option.any_some, decide_eq_true_eq, not_not] at isOpen
    exact ⟨session, sessionIn, sessionId, isOpen⟩
  · cases corrected
    refine ⟨(absurd ⟨·, .inr live⟩ inCash), fun _ => rfl, ?_⟩
    intro _ movement member
    cases member

variable {target : ReservationFinancials}

theorem targetReservation_eq_some
    (found : targetReservation state call sourceReservation = .ok (some target)) :
    call.targetReservationId = some target.id ∧
      state.payments.reservations target.id = some target ∧
      target.id ≠ sourceReservation.id := by
  unfold targetReservation at found
  split at found
  · cases pure_eq_ok.mp found
  · next targetId isTarget =>
    split at found
    · cases found
    · next stored isStored =>
      obtain ⟨_, differs, result⟩ := bind_eq_ok.mp found
      obtain rfl := Option.some.inj (pure_eq_ok.mp result)
      have ownId := state.payments.ownIds targetId stored isStored
      rw [ownId]
      exact ⟨isTarget, isStored, ownId ▸ raiseIf_eq_ok.mp differs⟩

theorem targetReservation_eq_none
    (found : targetReservation state call sourceReservation = .ok none) :
    call.targetReservationId = none := by
  unfold targetReservation at found
  split at found
  · assumption
  · split at found
    · cases found
    · obtain ⟨_, -, result⟩ := bind_eq_ok.mp found
      cases pure_eq_ok.mp result

theorem createCorrection_eq_ok
    (created : createCorrection now state call = .ok (after, correction)) :
    ∃ source sourceReservation movements,
      CorrectionParts state call source sourceReservation movements ∧
      ((∃ target, call.targetReservationId = some target.id ∧
          state.payments.reservations target.id = some target ∧
          target.id ≠ sourceReservation.id ∧
          checkTarget state.payments source target = .ok () ∧
          reassignPayment state call source sourceReservation target
            movements = .ok (after, correction)) ∨
        (call.targetReservationId = none ∧
          reversePayment now state call source sourceReservation movements =
            .ok (after, correction))) := by
  unfold createCorrection at created
  split at created
  · cases created
  · next source isSource =>
    obtain ⟨member, sameId⟩ := transaction?_eq_some isSource
    split at created
    · cases created
    · next sourceReservation stored =>
      simp only [bind_eq_ok] at created
      obtain ⟨target, isTarget, _, sourceChecked, movements, areMovements, written⟩ := created
      obtain ⟨uncorrected, completed, payment⟩ := checkSource_eq_ok sourceChecked
      have parts (cancelled : checkCancellation source = .ok ()) :
          CorrectionParts state call source sourceReservation
            movements := by
        obtain ⟨ofCash, noCash, inOpen⟩ := correctedMovements_eq_ok
          (checkCancellation_eq_ok cancelled) areMovements
        exact
          { member := member, isSource := sameId, stored := stored, uncorrected := uncorrected
            completed := completed, payment := payment, ofCash := ofCash, noCash := noCash
            inOpen := inOpen }
      refine ⟨source, sourceReservation, movements, ?_⟩
      cases target with
      | some target =>
        simp only [bind_eq_ok] at written
        obtain ⟨_, targetChecked, _, cancelled, written⟩ := written
        obtain ⟨asked, targetStored, differs⟩ := targetReservation_eq_some isTarget
        exact ⟨parts cancelled, .inl ⟨target, asked, targetStored, differs, targetChecked, written⟩⟩
      | none =>
        simp only [bind_eq_ok] at written
        obtain ⟨_, cancelled, written⟩ := written
        exact ⟨parts cancelled, .inr ⟨targetReservation_eq_none isTarget, written⟩⟩

section

variable (parts : CorrectionParts state call source sourceReservation movements)
include parts

variable {movement : CashMovement}

theorem CorrectionParts.mem_iff (movementIn : movement ∈ state.register.movements) :
    movement ∈ movements ↔
      source.paymentMethod = .cash ∧ movement.transactionId = some source.id := by
  by_cases cash : source.paymentMethod = .cash
  · rw [parts.ofCash cash, Register.movementsOf, List.mem_filter, decide_eq_true_eq]
    simp [movementIn, cash]
  · rw [parts.noCash cash]
    simp [cash]

/-- A reversal takes a movement of the payment out of its drawer and leaves
the others. -/
theorem CorrectionParts.reversedEffect (session : CashSession) (businessAsOf correctionId : Int)
    (movementIn : movement ∈ state.register.movements) :
    balanceEffect (cancelTransaction state.payments.ledger source.id) session businessAsOf
        (if movement ∈ movements then voidedMovement now correctionId movement
        else movement) =
      balanceEffect state.payments.ledger session businessAsOf movement -
        netEffect source session businessAsOf movement := by
  by_cases isLinked : movement.transactionId = some source.id
  · have confirmed :=
      confirmed_of_source parts.member parts.completed isLinked
    by_cases cash : source.paymentMethod = .cash
    · rw [if_pos ((parts.mem_iff movementIn).mpr ⟨cash, isLinked⟩)]
      simp [balanceEffect, netEffect, voidedMovement, CashMovement.countsIn,
        confirmed, cash, isLinked]
    · rw [if_neg fun both => cash ((parts.mem_iff movementIn).mp both).1]
      simp [balanceEffect, netEffect, confirmed, cash, isLinked,
        confirmed_cancelTransaction parts.member]
  · rw [if_neg fun both => isLinked ((parts.mem_iff movementIn).mp both).2]
    simp [balanceEffect, netEffect, isLinked, confirmed_cancelTransaction parts.member]

theorem CorrectionParts.reassignedEffect (target : ReservationFinancials)
    (session : CashSession) (businessAsOf : Int)
    (movementIn : movement ∈ state.register.movements) :
    balanceEffect (reassignedLedger state call source target) session businessAsOf
        (if movement ∈ movements then
          relinkedMovement (replacementOf state call source target) source.id movement
        else movement) =
      balanceEffect state.payments.ledger session businessAsOf movement := by
  have afterwards (other : CashMovement) :
      other.confirmed (reassignedLedger state call source target) =
        if other.transactionId = some (replacementOf state call source target).id then
          decide (source.paymentMethod = .cash)
        else if other.transactionId = some source.id then false
        else other.confirmed state.payments.ledger := by
    unfold reassignedLedger
    rw [confirmed_record, confirmed_cancelTransaction parts.member]
    simp [replacementOf]
  have notNew : movement.transactionId ≠ some (replacementOf state call source target).id := by
    intro same
    have := state.linked movement movementIn _ same
    exact lt_irrefl _ this
  by_cases isLinked : movement.transactionId = some source.id
  · have confirmed :=
      confirmed_of_source parts.member parts.completed isLinked
    by_cases cash : source.paymentMethod = .cash
    · rw [if_pos ((parts.mem_iff movementIn).mpr ⟨cash, isLinked⟩)]
      have counted : (relinkedMovement (replacementOf state call source target)
          source.id movement).countsIn session businessAsOf =
            movement.countsIn session businessAsOf := rfl
      have amount : (relinkedMovement (replacementOf state call source target)
          source.id movement).signedAmount = movement.signedAmount := rfl
      have isNew : (relinkedMovement (replacementOf state call source target)
          source.id movement).transactionId =
            some (replacementOf state call source target).id := rfl
      rw [balanceEffect, balanceEffect, counted, amount, afterwards, if_pos isNew, confirmed]
    · rw [if_neg fun both => cash ((parts.mem_iff movementIn).mp both).1, balanceEffect,
        balanceEffect, afterwards, if_neg notNew, if_pos isLinked, confirmed, decide_eq_false cash]
  · rw [if_neg fun both => isLinked ((parts.mem_iff movementIn).mp both).2, balanceEffect,
      balanceEffect, afterwards, if_neg notNew, if_neg isLinked]

theorem CorrectionParts.net_of_closed (reversal : call.correctionType = "duplicate_reversal")
    {session : CashSession} (sessionIn : session ∈ state.register.sessions)
    (notOpen : session.status ≠ .opened) :
    ∀ movement ∈ movements, movement.sessionId ≠ session.id := by
  intro movement member inSession
  obtain ⟨owner, ownerIn, ownerId, isOpen⟩ := parts.inOpen reversal movement member
  have same : owner = session :=
    eq_of_key state.distinctSessions ownerIn sessionIn (ownerId.trans inSession)
  exact notOpen (same ▸ isOpen)

end

/-! ## Paid amounts after a correction -/

theorem paidAmount_stored (payments : PaymentState) (settled : ReservationFinancials)
    (ledger : Ledger) (reservationId : Int) :
    PaymentState.paidAmount { payments.storeReservation settled with ledger := ledger }
        reservationId = if reservationId = settled.id then
        some (settled.paidAmountWithLegacyFallback ledger)
      else PaymentState.paidAmount { payments with ledger := ledger }
        reservationId := by
  unfold PaymentState.paidAmount PaymentState.storeReservation
  simp only [Function.update_apply]
  split_ifs
  · rfl
  · rfl

theorem paidAmount_congr {payments : PaymentState} {ledger : Ledger} {reservationId : Int}
    (net : ledger.completedPaidAmount reservationId =
      payments.ledger.completedPaidAmount reservationId)
    (history : ledger.hasTransactions reservationId =
      payments.ledger.hasTransactions reservationId) :
    PaymentState.paidAmount { payments with ledger := ledger } reservationId =
      payments.paidAmount reservationId := by
  unfold PaymentState.paidAmount
  cases stored : payments.reservations reservationId with
  | none => rfl
  | some reservation =>
    have ownId := payments.ownIds reservationId reservation stored
    simp only [Option.map_some]
    rw [paid_congr (ownId ▸ net) (ownId ▸ history)]

theorem CorrectionParts.history
    (parts : CorrectionParts state call source sourceReservation movements) :
    sourceReservation.id = source.reservationId ∧
      state.payments.ledger.hasTransactions source.reservationId = true ∧
      state.payments.paidAmount source.reservationId =
        some (state.payments.ledger.completedPaidAmount source.reservationId +
          countedExternalCredit sourceReservation) := by
  have ownId := state.payments.ownIds _ _ parts.stored
  have recorded : state.payments.ledger.hasTransactions source.reservationId = true :=
    hasTransactions_iff.mpr (List.mem_map_of_mem parts.member)
  refine ⟨ownId, recorded, ?_⟩
  unfold PaymentState.paidAmount
  rw [parts.stored, Option.map_some, paid_eq_completed_add_external (ownId.symm ▸ recorded), ownId]

/-- What a reversal does: the paid amount of the reservation falls by the
payment, and each drawer by the net of its movements, which are in open ones
only. -/
structure Reverses
    (state after : CorrectionState) (source : Transaction) : Prop where
  paid : after.payments.paidAmount source.reservationId =
    (state.payments.paidAmount source.reservationId).map (· - source.amount)
  others : ∀ reservationId, reservationId ≠ source.reservationId ->
    after.payments.paidAmount reservationId = state.payments.paidAmount reservationId
  sessions : after.register.sessions = state.register.sessions
  drawers : ∀ session businessAsOf, expectedBalance after.payments.ledger after.register session
        businessAsOf =
      expectedBalance state.payments.ledger state.register session businessAsOf -
          paymentNet state.register source session businessAsOf
  closed : ∀ session ∈ state.register.sessions, session.status ≠ .opened ->
    (after.register.movements.filter (·.sessionId = session.id)) =
      (state.register.movements.filter (·.sessionId = session.id)) ∧
      ∀ businessAsOf, paymentNet state.register source session businessAsOf = 0

theorem expectedBalance_changeMovements
    (ledger : Ledger) (register : Register) (session : CashSession)
    (businessAsOf : Int) (change : CashMovement -> CashMovement) :
    expectedBalance ledger (register.changeMovements movements change)
        session businessAsOf = session.openingBalance +
        ((register.movements.map fun movement =>
            balanceEffect ledger session businessAsOf (if movement ∈ movements then change movement
                else movement)).sum +
          legacyHandoffTotal register session businessAsOf) := by
  rw [expectedBalance_eq_sum]
  unfold Register.changeMovements
  rw [List.map_map]
  rfl

theorem filter_changeMovements {register : Register} {sessionId : Int}
    {change : CashMovement -> CashMovement}
    (elsewhere : ∀ movement ∈ movements, movement.sessionId ≠ sessionId)
    (stays : ∀ movement, (change movement).sessionId = movement.sessionId) :
    ((register.changeMovements movements change).movements.filter (·.sessionId = sessionId)) =
      register.movements.filter fun movement =>
        decide (movement.sessionId = sessionId) := by
  unfold Register.changeMovements
  induction register.movements with
  | nil => rfl
  | cons movement others ih =>
    rw [List.map_cons, List.filter_cons, List.filter_cons, ih]
    by_cases changed : movement ∈ movements
    · have outside := elsewhere movement changed
      rw [if_pos changed, stays, decide_eq_false outside]
      rfl
    · rw [if_neg changed]

theorem CorrectionParts.reverses
    (parts : CorrectionParts state call source sourceReservation movements)
    (reversal : call.correctionType = "duplicate_reversal")
    (written : reversePayment now state call source sourceReservation
      movements = .ok (after, correction)) : Reverses state after source := by
  unfold reversePayment at written
  simp only [bind_eq_ok, pure_eq_ok] at written
  obtain ⟨settled, updated, result⟩ := written
  cases result
  obtain ⟨ownId, recorded, paidBefore⟩ := parts.history
  have refreshed := updateFinancials_eq_ok updated
  have net := completedPaidAmount_cancelTransaction parts.member parts.completed parts.payment
  have history := hasTransactions_cancelTransaction parts.member
  have settledId : settled.id = source.reservationId :=
    refreshed.id.trans ownId
  refine { paid := ?_, others := ?_, sessions := rfl, drawers := ?_, closed := ?_ }
  · rw [paidAmount_stored, if_pos settledId.symm, paidBefore, refreshed.paid (by rw [ownId, history,
      recorded]), ownId, net, if_pos rfl, Option.map_some]
    congr 1
    omega
  · intro reservationId differs
    rw [paidAmount_stored, if_neg (settledId ▸ differs), paidAmount_congr]
    · rw [net, if_neg differs.symm, sub_zero]
    · exact history reservationId
  · intro session businessAsOf
    rw [expectedBalance_changeMovements, expectedBalance_eq_sum, sum_map_sub
        (balanceEffect state.payments.ledger session businessAsOf)
        (netEffect source session businessAsOf) fun movement member =>
          parts.reversedEffect session businessAsOf _ member,
      ← paymentNet_eq_sum]
    omega
  · intro session sessionIn notOpen
    have elsewhere := parts.net_of_closed reversal sessionIn notOpen
    refine ⟨filter_changeMovements elsewhere fun _ => rfl, ?_⟩
    intro businessAsOf
    unfold paymentNet
    split_ifs with cash
    · rw [← parts.ofCash cash]
      have none : (movements.filter fun movement =>
          movement.countsIn session businessAsOf) = [] := by
        rw [List.filter_eq_nil_iff]
        intro movement member counted
        simp only [CashMovement.countsIn, Bool.and_eq_true, decide_eq_true_eq] at counted
        exact elsewhere movement member counted.1.1
      rw [none]
      rfl
    · rfl

/-- What a reassignment does: the payment moves from its reservation to the
target, within the target's total, and no drawer changes. -/
structure Reassigns
    (state after : CorrectionState) (source : Transaction)
    (target : ReservationFinancials) : Prop where
  paid : after.payments.paidAmount source.reservationId =
    (state.payments.paidAmount source.reservationId).map (· - source.amount)
  stored : state.payments.reservations target.id = some target
  raised : ∃ paid, after.payments.paidAmount target.id = some paid ∧
    (KeepsPaidAmount state.payments.ledger target ->
      paid = target.paidAmountWithLegacyFallback state.payments.ledger + source.amount) ∧
    (¬KeepsPaidAmount state.payments.ledger target -> paid = source.amount) ∧
    paid ≤ target.totalAmount + target.adjustmentTotal state.payments.adjustments
  others : ∀ reservationId, reservationId ≠ source.reservationId -> reservationId ≠ target.id ->
      after.payments.paidAmount reservationId = state.payments.paidAmount reservationId
  sessions : after.register.sessions = state.register.sessions
  drawers : ∀ session businessAsOf, expectedBalance after.payments.ledger after.register session
        businessAsOf =
      expectedBalance state.payments.ledger state.register session businessAsOf

theorem checkTarget_eq_ok {payments : PaymentState}
    (isChecked : checkTarget payments source target = .ok ()) :
    0 < source.amount ∧ target.paidAmountWithLegacyFallback payments.ledger + source.amount ≤
        target.totalAmount + target.adjustmentTotal payments.adjustments := by
  unfold checkTarget at isChecked
  simp only [bind_eq_ok, raiseIf_eq_ok, not_or, not_le, not_lt] at isChecked
  obtain ⟨_, -, _, -, _, -, positive, within⟩ := isChecked
  rcases le_max_iff.mp within with none | some
  · omega
  · omega

theorem CorrectionParts.reassigns
    (parts : CorrectionParts state call source sourceReservation movements)
    (targetStored : state.payments.reservations target.id = some target)
    (differs : target.id ≠ sourceReservation.id)
    (targetChecked : checkTarget state.payments source target = .ok ())
    (written : reassignPayment state call source sourceReservation target
      movements = .ok (after, correction)) :
    Reassigns state after source target := by
  unfold reassignPayment at written
  simp only [bind_eq_ok, pure_eq_ok] at written
  obtain ⟨_, -, settled, updated, targetSettled, targetUpdated, result⟩ := written
  cases result
  obtain ⟨ownId, recorded, paidBefore⟩ := parts.history
  have refreshed := updateFinancials_eq_ok updated
  have targetRefreshed := updateFinancials_eq_ok targetUpdated
  have settledId : settled.id = source.reservationId :=
    refreshed.id.trans ownId
  rw [ownId] at differs
  -- the source row is gone from the net, and its copy counts for the target
  have net (reservationId : Int) :
      (reassignedLedger state call source target).completedPaidAmount reservationId =
        state.payments.ledger.completedPaidAmount reservationId -
            (if source.reservationId = reservationId then source.amount
              else 0) +
          (if target.id = reservationId then source.amount else 0) := by
    unfold reassignedLedger
    rw [completedPaidAmount_record, completedPaidAmount_cancelTransaction
      parts.member parts.completed parts.payment]
    have payment : ¬(replacementOf state call source target).IsRefund :=
      parts.payment
    unfold completedEffect Transaction.signedAmount
    rw [if_neg payment]
    simp [replacementOf]
  have history (reservationId : Int) :
      (reassignedLedger state call source target).hasTransactions reservationId = true ↔
        target.id = reservationId ∨ state.payments.ledger.hasTransactions reservationId = true := by
    unfold reassignedLedger
    rw [hasTransactions_record, hasTransactions_cancelTransaction parts.member]
    rfl
  obtain ⟨positive, within⟩ := checkTarget_eq_ok targetChecked
  refine
    { paid := ?_, stored := targetStored, raised := ?_, others := ?_, sessions := rfl
      drawers := ?_ }
  · have notTarget : source.reservationId ≠ targetSettled.id := by
      rw [targetRefreshed.id]
      exact differs.symm
    rw [paidAmount_stored, if_neg notTarget, paidAmount_stored, if_pos settledId.symm, paidBefore,
      refreshed.paid (by rw [ownId, history]; exact .inr recorded), ownId,
      net, if_pos rfl, if_neg differs, Option.map_some]
    congr 1
    omega
  · have paidAfter := targetRefreshed.paid ((history target.id).mpr (.inl rfl))
    rw [net, if_neg differs.symm, if_pos rfl, sub_zero] at paidAfter
    have counted := counted_le_paid state.payments.ledger target
    refine ⟨targetSettled.paidAmountWithLegacyFallback
      (reassignedLedger state call source target), ?_, ?_, ?_, ?_⟩
    · rw [paidAmount_stored, if_pos targetRefreshed.id.symm]
    · intro kept
      rw [paidAfter, paid_of_kept kept]
      omega
    · intro stale
      have nothing := counted_of_not_kept stale
      omega
    · omega
  · intro reservationId notSource notTarget
    rw [paidAmount_stored, if_neg (targetRefreshed.id ▸ notTarget),
      paidAmount_stored, if_neg (settledId ▸ notSource), paidAmount_congr]
    · rw [net, if_neg notSource.symm, if_neg notTarget.symm, sub_zero, add_zero]
    · rw [Bool.eq_iff_iff, history]
      simp [notTarget.symm]
  · intro session businessAsOf
    rw [expectedBalance_changeMovements, expectedBalance_eq_sum,
      List.map_congr_left fun movement member =>
        parts.reassignedEffect target session businessAsOf member]

end

end HotelPms.Cash
