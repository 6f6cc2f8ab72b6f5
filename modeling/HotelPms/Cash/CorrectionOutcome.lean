import HotelPms.Cash.CorrectionConservation

/-!
# What a correction comes to

A call under a key that made a correction answers with it.  Any other call
corrects a payment that no correction names, and conserves its money.
-/

namespace HotelPms.Cash

open Checked Table
open Payments (PaymentState ReservationFinancials Transaction stateOf)

section

variable {now : Int} {state after : CorrectionState} {call : CorrectionCall}
  {correction : PaymentCorrection} {outcome : PaymentCorrectionOutcome}

/-- The new correction answers the call it was made for, under the next id. -/
structure Records
    (state after : CorrectionState) (call : CorrectionCall)
    (correction : PaymentCorrection) : Prop where
  appended : after.corrections = state.corrections ++ [correction]
  key : correction.idempotencyKey = call.idempotencyKey
  request : RequestMatches correction call

theorem reversePayment_records {source : Transaction} {sourceReservation : ReservationFinancials}
    {movements : List CashMovement}
    (isSource : source.id = call.sourceTransactionId)
    (noTarget : call.targetReservationId = none)
    (written : reversePayment now state call source sourceReservation
      movements = .ok (after, correction)) :
    Records state after call correction := by
  unfold reversePayment at written
  simp only [bind_eq_ok, pure_eq_ok] at written
  obtain ⟨_, -, result⟩ := written
  cases result
  exact ⟨rfl, rfl, isSource, rfl, noTarget.symm, rfl⟩

theorem reassignPayment_records
    {source : Transaction} {sourceReservation target : ReservationFinancials}
    {movements : List CashMovement}
    (isSource : source.id = call.sourceTransactionId)
    (isTarget : call.targetReservationId = some target.id)
    (written : reassignPayment state call source sourceReservation target
      movements = .ok (after, correction)) :
    Records state after call correction := by
  unfold reassignPayment at written
  simp only [bind_eq_ok, pure_eq_ok] at written
  obtain ⟨_, -, _, -, _, -, result⟩ := written
  cases result
  exact ⟨rfl, rfl, isSource, rfl, isTarget.symm, rfl⟩

theorem checkCorrectionCall_eq_ok (isChecked : checkCorrectionCall call = .ok ()) :
    (call.targetReservationId ≠ none -> call.correctionType = "reassign") ∧
      (call.targetReservationId = none -> call.correctionType = "duplicate_reversal") := by
  unfold checkCorrectionCall at isChecked
  simp only [bind_eq_ok, raiseIf_eq_ok, not_not] at isChecked
  obtain ⟨_, known, _, -, _, -, agrees⟩ := isChecked
  refine ⟨agrees.mpr, fun noTarget => ?_⟩
  rw [List.mem_pair] at known
  apply known.resolve_left
  intro reassigns
  exact agrees.mp reassigns noTarget

/-- What a correction of one call does to the payments and the drawers. -/
def Conserves (state after : CorrectionState) (call : CorrectionCall)
    (source : Transaction) : Prop :=
  (call.correctionType = "reassign" ∧ ∃ target, call.targetReservationId = some target.id ∧
        Reassigns state after source target) ∨
    (call.correctionType = "duplicate_reversal" ∧ Reverses state after source)

theorem createCorrection_conserves (isChecked : checkCorrectionCall call = .ok ())
    (created : createCorrection now state call = .ok (after, correction)) :
    Records state after call correction ∧
      ∃ source, state.payments.ledger.transaction? call.sourceTransactionId = some source ∧
          (∀ earlier ∈ state.corrections, earlier.sourceTransactionId ≠ source.id) ∧
          Conserves state after call source := by
  obtain ⟨source, sourceReservation, movements, parts, written⟩ := createCorrection_eq_ok created
  obtain ⟨reassigning, reversing⟩ := checkCorrectionCall_eq_ok isChecked
  have found : state.payments.ledger.transaction? call.sourceTransactionId = some source := by
    rw [← parts.isSource]
    exact find_of_mem state.payments.ledger.distinctIds parts.member
  rcases written with
    ⟨target, isTarget, stored, differs, targetChecked, written⟩ | ⟨noTarget, written⟩
  · refine ⟨reassignPayment_records parts.isSource isTarget written, source,
      found, parts.uncorrected, .inl ⟨reassigning ?_, target, isTarget,
        parts.reassigns stored differs targetChecked written⟩⟩
    rw [isTarget]
    exact Option.some_ne_none target.id
  · have reversal := reversing noTarget
    exact ⟨reversePayment_records parts.isSource noTarget written, source, found, parts.uncorrected,
      .inr ⟨reversal, parts.reverses reversal written⟩⟩

theorem findIdempotentReplay_eq_some
    (found : findIdempotentReplay state call = .ok (some correction)) :
    find PaymentCorrection.idempotencyKey call.idempotencyKey state.corrections = some correction ∧
      RequestMatches correction call := by
  unfold findIdempotentReplay at found
  split at found
  · cases pure_eq_ok.mp found
  · next made isMade =>
    obtain ⟨_, agrees, result⟩ := bind_eq_ok.mp found
    cases result
    exact ⟨isMade, not_not.mp (raiseIf_eq_ok.mp agrees)⟩

theorem findIdempotentReplay_eq_none (found : findIdempotentReplay state call = .ok none) :
    find PaymentCorrection.idempotencyKey call.idempotencyKey state.corrections = none := by
  unfold findIdempotentReplay at found
  split at found
  · assumption
  · obtain ⟨_, -, result⟩ := bind_eq_ok.mp found
    cases pure_eq_ok.mp result

theorem correctPayment_of_found (isChecked : checkCorrectionCall call.normalized = .ok ())
    (found : find PaymentCorrection.idempotencyKey
      call.normalized.idempotencyKey state.corrections = some correction)
    (agrees : RequestMatches correction call.normalized) :
    correctPayment now state call = .ok (state, ⟨correction, true⟩) := by
  have replay : findIdempotentReplay state call.normalized = .ok (some correction) := by
    unfold findIdempotentReplay
    rw [found]
    simp only [raiseIf, agrees, not_true_eq_false, if_false]
    rfl
  unfold correctPayment
  simp only [isChecked, replay]
  rfl

theorem correctPayment_eq_ok (corrected : correctPayment now state call = .ok (after, outcome)) :
    checkCorrectionCall call.normalized = .ok () ∧ ((after = state ∧ outcome.replayed = true ∧
          find PaymentCorrection.idempotencyKey
            call.normalized.idempotencyKey state.corrections = some outcome.correction ∧
          RequestMatches outcome.correction call.normalized) ∨
        (outcome.replayed = false ∧ find PaymentCorrection.idempotencyKey
            call.normalized.idempotencyKey state.corrections = none ∧
          createCorrection now state call.normalized = .ok (after, outcome.correction))) := by
  unfold correctPayment at corrected
  simp only [bind_eq_ok] at corrected
  obtain ⟨_, isChecked, replay, isReplay, result⟩ := corrected
  refine ⟨isChecked, ?_⟩
  cases replay with
  | some made =>
    cases result
    obtain ⟨found, agrees⟩ := findIdempotentReplay_eq_some isReplay
    exact .inl ⟨rfl, rfl, found, agrees⟩
  | none =>
    simp only [bind_eq_ok, pure_eq_ok] at result
    obtain ⟨⟨written, made⟩, created, result⟩ := result
    cases result
    exact .inr ⟨rfl, findIdempotentReplay_eq_none isReplay, created⟩

theorem Records.found (records : Records state after call correction)
    (unused : find PaymentCorrection.idempotencyKey call.idempotencyKey state.corrections = none) :
    find PaymentCorrection.idempotencyKey call.idempotencyKey
      after.corrections = some correction := by
  unfold find at unused ⊢
  rw [records.appended, List.find?_append, unused, Option.none_or,
    List.find?_singleton, records.key, if_pos (decide_eq_true rfl)]

/-- Payment corrections conserve money.  A replay writes nothing.  A new
correction is of a payment without one, moves its amount between reservations
or takes it away with its cash movements, and answers every replay. -/
theorem correctPayment_conserves
    (corrected : correctPayment now state call = .ok (after, outcome)) :
    (outcome.replayed = true -> after = state ∧ outcome.correction ∈ state.corrections) ∧
      (outcome.replayed = false -> ∃ source,
        state.payments.ledger.transaction? call.sourceTransactionId = some source ∧
          (∀ earlier ∈ state.corrections, earlier.sourceTransactionId ≠ source.id) ∧
          after.corrections = state.corrections ++ [outcome.correction] ∧
          outcome.correction.sourceTransactionId = source.id ∧
          Conserves state after call source) ∧
      ∀ later, correctPayment later after call = .ok (after, ⟨outcome.correction, true⟩) := by
  obtain ⟨isChecked, ⟨rfl, replayed, found, agrees⟩ | ⟨isNew, unused,
    created⟩⟩ := correctPayment_eq_ok corrected
  · refine ⟨fun _ => ⟨rfl, (find_eq_some found).1⟩, ?_, fun later =>
      correctPayment_of_found isChecked found agrees⟩
    intro isNew
    rw [replayed] at isNew
    cases isNew
  · obtain ⟨records, source, isSource, uncorrected, conserves⟩ :=
      createCorrection_conserves isChecked created
    refine ⟨?_, fun _ => ⟨source, isSource, uncorrected, records.appended, ?_,
      conserves⟩, fun later => correctPayment_of_found isChecked
        (records.found unused) records.request⟩
    · intro replayed
      rw [isNew] at replayed
      cases replayed
    · rw [records.request.1]
      exact (find_eq_some isSource).2.symm

end

def cashPayment : Transaction where
  id := 1
  reservationId := 7
  amount := 2000
  currency := "ARS"
  tenderAmount := some 2000
  tenderCurrency := some "ARS"
  grossAmount := some 2000
  transactionType := .partialPayment
  paymentMethod := .cash
  status := .completed

/-- Its income in the open drawer. -/
def cashIncome : CashMovement where
  id := 1
  sessionId := 1
  reservationId := some 7
  transactionId := some 1
  movementType := .income
  amount := 2000
  recordedAt := 0

/-- Reservations 7 and 8 of 100.00, of which 8 stores a paid amount. -/
def twoGuests (amountPaid : Int) (nonneg : 0 ≤ amountPaid) (id : Int) :
    Option ReservationFinancials :=
  if id = 7 then
    some
      { id := 7
        totalAmount := 10000
        amountPaid := 2000
        paidNonneg := by decide }
  else if id = 8 then
    some
      { id := 8, totalAmount := 10000, amountPaid := amountPaid, paidNonneg := nonneg }
  else none

theorem twoGuests_ownIds {amountPaid : Int} {nonneg : 0 ≤ amountPaid} :
    ∀ id reservation, twoGuests amountPaid nonneg id = some reservation -> reservation.id = id := by
  intro id reservation found
  unfold twoGuests at found
  split_ifs at found with seven eight
  · rw [← Option.some.inj found, seven]
  · rw [← Option.some.inj found, eight]

/-- The payment of reservation 7, recorded. -/
def oneCashPayment : Payments.Ledger :=
  Payments.Ledger.empty.record cashPayment rfl (by intro source refund; cases refund) []

theorem cashIncome_linked : ∀ movement ∈ [cashIncome], ∀ transactionId,
    movement.transactionId = some transactionId ->
      transactionId < oneCashPayment.nextTransactionId := by
  intro movement member transactionId isLinked
  obtain rfl := List.mem_singleton.mp member
  cases isLinked
  decide

/-- The payment of reservation 7 and its income, before any correction. -/
def wrongGuestState (amountPaid : Int) (nonneg : 0 ≤ amountPaid) : CorrectionState where
  payments :=
    { hotelId := 1, reservations := twoGuests amountPaid nonneg, ownIds := twoGuests_ownIds
      ledger := oneCashPayment }
  details := fun _ => {}
  register :=
    { sessions := [{ id := 1, openedAt := 0 }]
      movements := [cashIncome] }
  distinctSessions := List.nodup_singleton 1
  linked := cashIncome_linked

theorem zeroPaid : 0 ≤ (0 : Int) := Int.le_refl 0

/-- The payment belongs to reservation 8. -/
def moveToGuest : CorrectionCall where
  sourceTransactionId := 1
  correctionType := "reassign"
  targetReservationId := some 8
  reason := "reserva  equivocada"
  idempotencyKey := "correccion-1"
  actorUserId := 3

/-- The payment moves from reservation 7 to reservation 8. -/
theorem correctPayment_conserves_moveToGuest :
    ∃ after outcome, correctPayment 0 (wrongGuestState 0 zeroPaid) moveToGuest =
          .ok (after, outcome) ∧
        after.payments.paidAmount 7 = some 0 ∧
        after.payments.paidAmount 8 = some 2000 ∧
        (∃ source, Conserves (wrongGuestState 0 zeroPaid) after moveToGuest source) ∧
        correctPayment 1 after moveToGuest = .ok (after, ⟨outcome.correction, true⟩) := by
  have result :
      (correctPayment 0 (wrongGuestState 0 zeroPaid) moveToGuest).map
          (fun result => (result.2.replayed, result.1.payments.paidAmount 7,
            result.1.payments.paidAmount 8)) =
        .ok (false, some 0, some 2000) := by
    decide +kernel
  cases corrected :
      correctPayment 0 (wrongGuestState 0 zeroPaid) moveToGuest with
  | error error =>
    rw [corrected] at result
    cases result
  | ok pair =>
    obtain ⟨after, outcome⟩ := pair
    rw [corrected] at result
    simp only [Except.map, Except.ok.injEq, Prod.mk.injEq] at result
    obtain ⟨isNew, sourcePaid, targetPaid⟩ := result
    obtain ⟨-, made, replays⟩ := correctPayment_conserves corrected
    obtain ⟨source, -, -, -, -, conserves⟩ := made isNew
    exact ⟨after, outcome, rfl, sourcePaid, targetPaid, ⟨source, conserves⟩, replays 1⟩

/-- A stored paid amount of 50.00 without transactions stops counting when the
payment of 20.00 arrives: the paid amount of reservation 8 falls to 20.00
instead of rising to 70.00. -/
theorem correctPayment_not_raised_moveToGuest :
    (wrongGuestState 5000 (by decide)).payments.paidAmount 8 = some 5000 ∧
      (correctPayment 0 (wrongGuestState 5000 (by decide)) moveToGuest).map
          (fun result => (result.2.replayed, result.1.payments.paidAmount 8)) =
        .ok (false, some 2000) := by
  decide +kernel

end HotelPms.Cash
