import HotelPms.Payments.ProcessPayment

/-!
# What a payment does to the paid amount

A new transaction moves the completed ledger of its reservation by its own
effect and leaves every other reservation's alone.  The paid amount of a
reservation follows, except that a direct reservation without transactions
counts its stored amount, which its first transaction replaces.
-/

namespace HotelPms.Payments

open Checked

def Transaction.ledgerEffect (transaction : Transaction) : Int :=
  if transaction.status = .completed then transaction.signedAmount else 0

def PaymentState.paidAmount (state : PaymentState) (reservationId : Int) : Option Int :=
  (state.reservations reservationId).map fun reservation =>
    reservation.paidAmountWithLegacyFallback state.ledger

/-- Total and billing adjustments of a stored reservation. -/
def PaymentState.collectibleTotal (state : PaymentState) (reservationId : Int) : Option Int :=
  (state.reservations reservationId).map fun reservation =>
    reservation.totalAmount + reservation.adjustmentTotal state.adjustments

section

variable {env : PaymentEnvironment} {state after : PaymentState}
  {call : PaymentCall} {checked : CheckedRequest} {transaction : Transaction}

variable {draft : PaymentDraft}

variable {ledger : Ledger}

theorem Flushed.sum_forReservation {before : Ledger}
    (flushed : Flushed before draft ledger) (reservationId : Int)
    (counts : Transaction -> Prop) [DecidablePred counts]
    (value : Transaction -> Int) :
    (((ledger.forReservation reservationId).filter (counts ·)).map value).sum =
      (((before.forReservation reservationId).filter (counts ·)).map value).sum +
        (if draft.transaction.reservationId = reservationId ∧
            counts draft.transaction then value draft.transaction else 0) := by
  unfold Ledger.forReservation
  rw [flushed.transactions, List.filter_cons]
  by_cases own : draft.transaction.reservationId = reservationId
  · rw [if_pos (by simpa using own), List.filter_cons]
    by_cases counted : counts draft.transaction
    · rw [if_pos (by simpa using counted), if_pos ⟨own, counted⟩, List.map_cons, List.sum_cons]
      omega
    · rw [if_neg (by simpa using counted), if_neg (counted ·.2)]
      omega
  · rw [if_neg (by simpa using own), if_neg (own ·.1)]
    omega

theorem Flushed.completedPaidAmount {before : Ledger}
    (flushed : Flushed before draft ledger) (reservationId : Int) :
    ledger.completedPaidAmount reservationId = before.completedPaidAmount reservationId +
        (if draft.transaction.reservationId = reservationId then
          draft.transaction.ledgerEffect else 0) := by
  unfold Ledger.completedPaidAmount Transaction.ledgerEffect
  rw [flushed.sum_forReservation reservationId (·.status = .completed), ite_and]

theorem Flushed.hasTransactions {before : Ledger} (flushed : Flushed before draft ledger) :
    ledger.hasTransactions draft.transaction.reservationId = true := by
  unfold Ledger.hasTransactions Ledger.forReservation
  rw [flushed.transactions]
  simp

/-- What settling a transaction does to the columns of its reservation. -/
structure Settled
    (transaction : Transaction)
    (ledger : Ledger)
    (before settled : ReservationFinancials) : Prop where
  id : settled.id = before.id
  currency : settled.currency = before.currency
  isOta : settled.isOta = before.isOta
  externalCredit : settled.externalPaidBalanceCredit = before.externalPaidBalanceCredit
  totalAmount : settled.totalAmount = before.totalAmount
  amountPaid : transaction.status = .completed ->
    settled.amountPaid = before.paidAmountWithLegacyFallback ledger

theorem syncFinancialStatus_columns (reservation : ReservationFinancials)
    (adjustments : List BillingAdjustment) :
    ∃ status, reservation.syncFinancialStatus adjustments =
      { reservation with status := status } := by
  unfold ReservationFinancials.syncFinancialStatus
  split_ifs
  · exact ⟨reservation.status, rfl⟩
  · exact ⟨_, rfl⟩

theorem settleReservation_eq_ok {settled : ReservationFinancials}
    (isSettled : settleReservation state call checked ledger = .ok settled) :
    Settled transaction ledger checked.reservation settled := by
  obtain ⟨updated, isUpdated, result⟩ := bind_eq_ok.mp isSettled
  unfold ReservationFinancials.updateFinancials at isUpdated
  simp only at isUpdated
  split_ifs at isUpdated with nonneg
  cases isUpdated
  obtain ⟨status, isStatus⟩ := syncFinancialStatus_columns { checked.reservation with
      amountPaid := checked.reservation.paidAmountWithLegacyFallback ledger
      paidNonneg := nonneg } state.adjustments
  rw [isStatus] at result
  cases result
  split_ifs
  · exact ⟨rfl, rfl, rfl, rfl, rfl, fun _ => rfl⟩
  · exact ⟨rfl, rfl, rfl, rfl, rfl, fun _ => rfl⟩

theorem settleTransaction_eq_ok {settled : ReservationFinancials} {movements : List CashMovement}
    (isSettled : settleTransaction env state call checked ledger transaction =
      .ok (settled, movements)) :
    Settled transaction ledger checked.reservation settled := by
  unfold settleTransaction at isSettled
  split_ifs at isSettled with completed
  · obtain ⟨reservation, isReservation, rest⟩ := bind_eq_ok.mp isSettled
    obtain ⟨_, -, result⟩ := bind_eq_ok.mp rest
    cases result
    exact settleReservation_eq_ok isReservation
  · cases isSettled
    exact ⟨rfl, rfl, rfl, rfl, rfl, (absurd · completed)⟩

theorem draftPayment_reservationId (drafted : draftPayment env state call checked = .ok draft) :
    draft.transaction.reservationId = call.request.reservationId := by
  obtain ⟨_, _, _, _, _, _, _, -, -, -, -, -, -, rfl⟩ := draftPayment_eq_ok drafted
  rfl

theorem mem_of_transactionByKey {reservationId : Int} {key : String}
    (found : ledger.transactionByKey reservationId key = some transaction) :
    transaction ∈ ledger.transactions ∧ transaction.reservationId = reservationId ∧
      transaction.idempotencyKey = some key := by
  refine ⟨List.mem_of_find?_eq_some found, ?_⟩
  simpa using List.find?_some found

structure NewTransaction
    (env : PaymentEnvironment)
    (state : PaymentState)
    (call : PaymentCall)
    (after : PaymentState)
    (transaction : Transaction) where
  checked : CheckedRequest
  draft : PaymentDraft
  settled : ReservationFinancials
  isChecked : checkRequest env state call = .ok checked
  newKey : call.idempotencyKey.bind
    (state.ledger.transactionByKey call.request.reservationId) = none
  stored : state.reservations call.request.reservationId = some checked.reservation
  reservationId : checked.reservation.id = call.request.reservationId
  drafted : draftPayment env state call checked = .ok draft
  isDraft : transaction = draft.transaction
  flushed : Flushed state.ledger draft after.ledger
  isSettled : Settled draft.transaction after.ledger checked.reservation settled
  reservations : after.reservations = Function.update state.reservations call.request.reservationId
      (some settled)
  adjustments : after.adjustments = state.adjustments
  hotelId : after.hotelId = state.hotelId

theorem exists_newTransaction
    (processed : processPayment env state call = .ok (after, transaction)) :
    (after = state ∧ transaction ∈ state.ledger.transactions) ∨
      Nonempty (NewTransaction env state call after transaction) := by
  obtain ⟨checked, isChecked, replay | ⟨newKey, draft, drafted, written⟩⟩ :=
    processPayment_eq_ok processed
  · obtain ⟨key, -, found, -, unchanged⟩ := replay
    exact .inl ⟨unchanged, (mem_of_transactionByKey found).1⟩
  · obtain ⟨settled, movements, flushed, isSettled, isDraft, reservations,
      adjustments, hotelId⟩ := writePayment_eq_ok written
    have stored := (checkRequest_eq_ok.mp isChecked).stored
    have reservationId := state.ownIds _ _ stored
    have columns := settleTransaction_eq_ok isSettled
    rw [columns.id, reservationId] at reservations
    exact .inr ⟨{
      checked := checked
      draft := draft
      settled := settled
      isChecked := isChecked
      newKey := newKey
      stored := stored
      reservationId := reservationId
      drafted := drafted
      isDraft := isDraft
      flushed := flushed
      isSettled := columns
      reservations := reservations
      adjustments := adjustments
      hotelId := hotelId }⟩

theorem NewTransaction.paidAmount (written : NewTransaction env state call after transaction) :
    written.settled.paidAmountWithLegacyFallback after.ledger =
      (if written.checked.reservation.isOta = true ∨
          state.ledger.hasTransactions call.request.reservationId = true then
        written.checked.reservation.paidAmountWithLegacyFallback state.ledger
      else 0) + transaction.ledgerEffect := by
  have owner : written.draft.transaction.reservationId = call.request.reservationId :=
    draftPayment_reservationId written.drafted
  have moved :=
    written.flushed.completedPaidAmount call.request.reservationId
  rw [if_pos owner, ← written.isDraft] at moved
  have recorded := written.flushed.hasTransactions
  rw [owner] at recorded
  unfold ReservationFinancials.paidAmountWithLegacyFallback
  rw [written.isSettled.id, written.isSettled.isOta,
    written.isSettled.externalCredit, written.reservationId, recorded, moved]
  by_cases ota : written.checked.reservation.isOta = true
  · simp only [ota, if_true, true_or]
    omega
  · by_cases earlier : state.ledger.hasTransactions call.request.reservationId = true
    · simp [ota, earlier]
    · have empty : state.ledger.forReservation call.request.reservationId = [] := by
        simpa [Ledger.hasTransactions] using earlier
      simp [ota, earlier, Ledger.completedPaidAmount, empty]

theorem NewTransaction.amountPaid (written : NewTransaction env state call after transaction)
    (completed : transaction.status = .completed) :
    written.settled.amountPaid = written.settled.paidAmountWithLegacyFallback after.ledger := by
  have owner : written.draft.transaction.reservationId = call.request.reservationId :=
    draftPayment_reservationId written.drafted
  have recorded := written.flushed.hasTransactions
  rw [owner] at recorded
  rw [written.isDraft] at completed
  rw [written.isSettled.amountPaid completed]
  unfold ReservationFinancials.paidAmountWithLegacyFallback
  rw [written.isSettled.id, written.isSettled.isOta,
    written.isSettled.externalCredit, written.reservationId, recorded]
  simp

/-- The reservation's paid amount moves by exactly the effect of the new
transaction when it is an agency's, has an earlier transaction or stores no
paid amount; otherwise the new transaction alone counts.  A completed
transaction stores the amount it leaves. -/
theorem processPayment_moves_paidAmount
    (processed : processPayment env state call = .ok (after, transaction))
    (isNew : transaction ∉ state.ledger.transactions) :
    ∃ before settled, state.reservations call.request.reservationId = some before ∧
      after.reservations call.request.reservationId = some settled ∧
      ((before.isOta = true ∨ state.ledger.hasTransactions before.id = true ∨
          before.amountPaid = 0) ->
        settled.paidAmountWithLegacyFallback after.ledger =
          before.paidAmountWithLegacyFallback state.ledger + transaction.ledgerEffect) ∧
      (before.isOta = false -> state.ledger.hasTransactions before.id = false ->
        settled.paidAmountWithLegacyFallback after.ledger = transaction.ledgerEffect) ∧
      (transaction.status = .completed ->
        settled.amountPaid = settled.paidAmountWithLegacyFallback after.ledger) := by
  rcases exists_newTransaction processed with ⟨-, old⟩ | ⟨⟨written⟩⟩
  · exact absurd old isNew
  · have moved := written.paidAmount
    refine ⟨written.checked.reservation, written.settled, written.stored, ?_,
      ?_, ?_, written.amountPaid⟩
    · rw [written.reservations, Function.update_self]
    · rw [written.reservationId]
      intro condition
      rw [moved]
      by_cases exact' : written.checked.reservation.isOta = true ∨
          state.ledger.hasTransactions call.request.reservationId = true
      · rw [if_pos exact']
      · have unpaid : written.checked.reservation.amountPaid = 0 := by
          rcases condition with ota | earlier | unpaid
          · exact absurd (.inl ota) exact'
          · exact absurd (.inr earlier) exact'
          · exact unpaid
        rw [not_or, Bool.not_eq_true, Bool.not_eq_true] at exact'
        simp [ReservationFinancials.paidAmountWithLegacyFallback, exact'.1,
          written.reservationId, exact'.2, unpaid]
    · rw [written.reservationId]
      intro direct none
      rw [moved, if_neg]
      · omega
      · simp [direct, none]

end

/-- No tokens, no market rates, exact floats. -/
def quietEnvironment : PaymentEnvironment where
  now := 0
  today := 0
  decodeToken := fun _ => none
  conversionRate := fun _ _ => .error "sin cotización"
  floatValue := id

/-- One reservation without transactions, and the drawers of the hotel. -/
def stateOf (reservation : ReservationFinancials)
    (cashSessions : List CashSession) : PaymentState where
  hotelId := 1
  reservations := fun id =>
    if id = reservation.id then some reservation else none
  ownIds := by
    intro id stored found
    split_ifs at found with same
    cases found
    exact same.symm
  ledger := .empty
  cashSessions := cashSessions

/-- One direct reservation of 100.00 with a stored paid amount. -/
def directState (amountPaid : Int) (nonneg : 0 ≤ amountPaid) : PaymentState :=
  stateOf { id := 7, totalAmount := 10000, amountPaid := amountPaid, paidNonneg := nonneg } []

def cardPayment : PaymentCall where
  request :=
    { reservationId := 7, amount := 2000, paymentMethod := .creditCard
      transactionType := .partialPayment }
  manualConfirmation := true

/-- The first payment replaces a stored paid amount of 50.00. -/
theorem firstPayment_drops_stored_amount :
    ∃ after transaction, processPayment quietEnvironment (directState 5000 (by decide))
        cardPayment = .ok (after, transaction) ∧
      transaction ∉ (directState 5000 (by decide)).ledger.transactions ∧
      transaction.status = .completed ∧ transaction.amount = 2000 ∧
      (directState 5000 (by decide)).paidAmount 7 = some 5000 ∧
      after.paidAmount 7 = some 2000 := by
  refine ⟨_, _, rfl, ?_⟩
  decide

theorem processPayment_moves_paidAmount_sample :
    ∃ after transaction before settled, processPayment quietEnvironment (directState 0 (by decide))
        cardPayment = .ok (after, transaction) ∧
      (directState 0 (by decide)).reservations 7 = some before ∧
      after.reservations 7 = some settled ∧
      settled.paidAmountWithLegacyFallback after.ledger = before.paidAmountWithLegacyFallback
          (directState 0 (by decide)).ledger + transaction.ledgerEffect := by
  have processed : ∃ after transaction, processPayment quietEnvironment (directState 0 (by decide))
        cardPayment = .ok (after, transaction) := ⟨_, _, rfl⟩
  obtain ⟨after, transaction, processed⟩ := processed
  obtain ⟨before, settled, stored, isSettled, moved, -, -⟩ :=
    processPayment_moves_paidAmount processed List.not_mem_nil
  refine ⟨after, transaction, before, settled, processed, stored, isSettled, moved (.inr (.inr ?_))⟩
  have direct : (directState 0 (by decide)).reservations 7 = some
      { id := 7, totalAmount := 10000, amountPaid := 0,
        paidNonneg := by decide } := rfl
  rw [← Option.some.inj stored]

end HotelPms.Payments
