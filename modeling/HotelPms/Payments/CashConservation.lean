import HotelPms.Foundation.GroupSum
import HotelPms.Payments.PaidAmount

/-!
# Physical cash of a payment

The movements a completed cash transaction posts change the drawers of the
hotel by the cash that changes hands: what is received for a payment less the
change given back, or what is handed out for a refund.  Change given back in
another currency leaves the drawer of that currency.
-/

namespace HotelPms.Payments

open Checked Decimal GroupSum Text

theorem resolvePaymentCurrency_normalized
    {reservation : ReservationFinancials} {requested : Option String}
    {currency : String}
    (resolved : resolvePaymentCurrency reservation requested = .ok currency) :
    normalizeCurrency currency = currency := by
  unfold resolvePaymentCurrency at resolved
  simp only [bind_eq_ok, pure_eq_ok] at resolved
  obtain ⟨-, -, -, -, rfl⟩ := resolved
  split_ifs
  · exact normalizeCurrency_normalizeCurrency _
  · exact normalizeCurrency_normalizeCurrency _

/-- Effect of a movement on its drawer. -/
def CashMovement.signedAmount (movement : CashMovement) : Int :=
  match movement.movementType with
  | .income => movement.amount
  | .expense => -movement.amount

def drawerChange (movements : List CashMovement) (sessionId : Int) : Int :=
  totalOf CashMovement.sessionId CashMovement.signedAmount movements sessionId

namespace Transaction

variable (transaction : Transaction)

def tenderCurrencyCode : String := normalizeCurrency transaction.tenderCode

def changeCurrencyCode : String :=
  normalizeCurrency (transaction.cashChangeSettledCurrency.getD transaction.tenderCode)

/-- Change given back, in its own currency. -/
def changeReturned : Int := transaction.cashChangeSettledAmount.getD 0

/-- Cash handed over for a payment: what was counted, or the exact gross. -/
def cashReceived : Int :=
  transaction.cashReceivedAmount.getD transaction.grossOrAmount

/-- Cash that stays in the drawer of the tender. -/
def tenderFlow : Int :=
  if transaction.IsRefund then -transaction.tender
  else transaction.cashReceived -
    if transaction.changeCurrencyCode = transaction.tenderCurrencyCode then
      transaction.changeReturned
    else 0

/-- Change leaves the drawer of another currency. -/
def ChangeElsewhere : Prop :=
  transaction.changeCurrencyCode ≠ transaction.tenderCurrencyCode ∧ 0 < transaction.changeReturned

end Transaction

/-- Movements change the drawer of the tender by the cash that stays in it,
the drawer of change in another currency by that change, and no other. -/
structure PostsPhysicalCash
    (sessions : List CashSession)
    (transaction : Transaction)
    (movements : List CashMovement) : Prop where
  tender : ∃ drawer, requireOpenSessionForCurrency sessions transaction.tenderCode = .ok drawer ∧
      drawerChange movements drawer.id = transaction.tenderFlow
  change : transaction.ChangeElsewhere -> ∃ drawer,
    requireOpenSessionForCurrency sessions transaction.changeCurrencyCode = .ok drawer ∧
      drawerChange movements drawer.id = -transaction.changeReturned
  others : ∀ sessionId, drawerChange movements sessionId ≠ 0 -> (∃ drawer, drawer.id = sessionId ∧
        requireOpenSessionForCurrency sessions transaction.tenderCode = .ok drawer) ∨
      (transaction.ChangeElsewhere ∧ ∃ drawer, drawer.id = sessionId ∧
        requireOpenSessionForCurrency sessions transaction.changeCurrencyCode = .ok drawer)

/-- A receipt that gives change settles some of it, at par in the currency of
the tender. -/
structure ReceiptSettles (currency : String) (receipt : CashReceipt) :
    Prop where
  settled : 0 < receipt.change -> 0 < receipt.settled
  atPar : receipt.settledCurrency = currency -> receipt.rate = some 1
  normalized : normalizeCurrency receipt.settledCurrency = receipt.settledCurrency

section

variable {env : PaymentEnvironment} {state after : PaymentState}
  {call : PaymentCall} {checked : CheckedRequest} {transaction : Transaction}

theorem storedRate_one : storedRate (some 1) = some 1 := by
  have whole : quantizeHalfUp 12 1 = 10 ^ 12 := by
    unfold quantizeHalfUp roundHalfUp
    norm_num
  have par : ((10 ^ 12 : Int) : ℚ) / 10 ^ 12 = 1 := by norm_num
  simp only [storedRate, Option.map_some, whole, par, Option.filter_some,
    zero_lt_one, decide_true, if_true]

theorem cashReceipt_settles {gross : Int} {frozen : Option FrozenRate} {fxRateSnapshot : Option ℚ}
    {receipt : CashReceipt}
    (isReceipt : cashReceipt env state checked call.request gross frozen
      fxRateSnapshot = .ok receipt) :
    ReceiptSettles checked.currency receipt := by
  unfold cashReceipt at isReceipt
  simp only [bind_eq_ok, raiseIf_eq_ok, pure_eq_ok] at isReceipt
  obtain ⟨⟨tip, change⟩, -, _, -, quoted, isRate, _, -, _, settles, rfl⟩ := isReceipt
  refine ⟨?_, ?_, normalizeCurrency_normalizeCurrency _⟩
  · intro given
    by_contra none
    exact settles ⟨given, not_lt.mp none⟩
  · intro same
    unfold cashChangeRate at isRate
    rw [if_pos same.symm] at isRate
    cases isRate
    exact storedRate_one

/-- What is known of the row of a validated call. -/
structure CashColumns (call : PaymentCall) (transaction : Transaction) :
    Prop where
  refund : transaction.IsRefund -> transaction.cashReceivedAmount = none ∧
    transaction.grossOrAmount = transaction.tender
  receipt : transaction.cashReceivedAmount ≠ none -> ∃ receipt,
    ReceiptSettles transaction.tenderCode receipt ∧
      transaction.cashChangeAmount = some receipt.change ∧
      transaction.cashChangeSettledAmount = some receipt.settled ∧
      transaction.cashChangeSettledCurrency = some receipt.settledCurrency ∧
      transaction.cashChangeFxRateSnapshot = receipt.rate
  normalized : normalizeCurrency transaction.tenderCode = transaction.tenderCode
  received : transaction.CashReceivedChangeConsistent
  settlement : transaction.CashChangeSettlementConsistent

variable {draft : PaymentDraft}

/-- Parts of a validated payment that decide its cash columns. -/
theorem draftPayment_receipt (drafted : draftPayment env state call checked = .ok draft) :
    ∃ applied amount surcharge receipt frozen,
      surchargeOfCall env state call checked = .ok surcharge ∧
      receiptOfCall env state call checked (call.request.amount + surcharge.amount) frozen
        applied.fxRateSnapshot = .ok receipt ∧
      draft.transaction = transactionOfCall env state call checked applied
        amount surcharge receipt := by
  unfold draftPayment at drafted
  simp only [bind_eq_ok, pure_eq_ok] at drafted
  obtain ⟨manual, -, source, -, applied, -, ⟨amount, nights⟩, -, -, -,
    surcharge, isSurcharge, _, -, receipt, isReceipt, -, -, rfl⟩ := drafted
  exact ⟨applied, amount, surcharge, receipt, _, isSurcharge, isReceipt, rfl⟩

theorem flushTransaction_cash {ledger : Ledger}
    (flushed : flushTransaction state draft = .ok ledger) :
    draft.transaction.CashReceivedChangeConsistent ∧
      draft.transaction.CashChangeSettlementConsistent := by
  obtain ⟨_, constraints, -⟩ := bind_eq_ok.mp flushed
  unfold checkConstraints at constraints
  simp only [bind_eq_ok, raiseIf_eq_ok, not_not] at constraints
  obtain ⟨_, received, _, settlement, -⟩ := constraints
  exact ⟨received, settlement⟩

theorem surchargeOfCall_refund {surcharge : SurchargeInfo} (refund : call.request.IsRefund)
    (isSurcharge : surchargeOfCall env state call checked = .ok surcharge) :
    surcharge.amount = 0 := by
  unfold surchargeOfCall at isSurcharge
  rw [if_neg (·.2.1 refund)] at isSurcharge
  rw [← pure_eq_ok.mp isSurcharge]

theorem receiptOfCall_eq_some {gross : Int} {frozen : Option FrozenRate} {fxRateSnapshot : Option ℚ}
    {receipt : CashReceipt}
    (isReceipt : receiptOfCall env state call checked gross frozen
      fxRateSnapshot = .ok (some receipt)) :
    ¬call.request.IsRefund ∧ ReceiptSettles checked.currency receipt := by
  obtain ⟨_, -, isReceipt⟩ := bind_eq_ok.mp isReceipt
  split_ifs at isReceipt with captured
  · obtain ⟨handed, isHanded, result⟩ := bind_eq_ok.mp isReceipt
    cases result
    exact ⟨captured.2.1, cashReceipt_settles isHanded⟩
  · cases pure_eq_ok.mp isReceipt

theorem cashColumns {ledger : Ledger} (isChecked : checkRequest env state call = .ok checked)
    (drafted : draftPayment env state call checked = .ok draft)
    (flushed : flushTransaction state draft = .ok ledger) :
    CashColumns call draft.transaction := by
  obtain ⟨received, settlement⟩ := flushTransaction_cash flushed
  obtain ⟨applied, amount, surcharge, receipt, frozen, isSurcharge,
    isReceipt, isRow⟩ := draftPayment_receipt drafted
  have normalized := resolvePaymentCurrency_normalized (checkRequest_eq_ok.mp isChecked).currency
  refine
    { received := received, settlement := settlement, refund := ?_, receipt := ?_
      normalized := ?_ }
  · intro refund
    rw [isRow] at refund ⊢
    constructor
    · cases receipt with
      | none => rfl
      | some handed =>
        exact absurd refund (receiptOfCall_eq_some isReceipt).1
    · show call.request.amount + surcharge.amount = call.request.amount
      rw [surchargeOfCall_refund refund isSurcharge, add_zero]
  · intro captured
    rw [isRow] at captured ⊢
    cases receipt with
    | none => exact absurd rfl captured
    | some handed =>
      exact ⟨handed, (receiptOfCall_eq_some isReceipt).2, rfl, rfl, rfl, rfl⟩
  · rw [isRow]
    exact normalized

theorem requireOpenSessionForCurrency_eq_ok
    {sessions : List CashSession} {code : String} {drawer : CashSession}
    (found : requireOpenSessionForCurrency sessions code = .ok drawer) :
    drawer ∈ sessions ∧ drawer.isOpen = true ∧ drawer.currencyCode = normalizeCurrency code := by
  unfold requireOpenSessionForCurrency at found
  split at found
  · next session isSession =>
    cases found
    have matched := List.find?_some isSession
    rw [Bool.and_eq_true, decide_eq_true_eq] at matched
    exact ⟨List.mem_of_find?_eq_some isSession, matched⟩
  · split_ifs at found

/-- Change that leaves another drawer than the one of the tender. -/
def Transaction.CrossCurrency (transaction : Transaction) : Prop :=
  ¬transaction.IsRefund ∧ transaction.cashReceivedAmount ≠ none ∧
    transaction.changeCurrencyCode ≠ transaction.tenderCurrencyCode ∧
    0 < (transaction.cashChangeSettledAmount.or transaction.cashChangeAmount).getD 0

theorem recordCashPaymentMovement_eq_ok {movements : List CashMovement}
    (posted : recordCashPaymentMovement env state call transaction = .ok movements) :
    ∃ drawer main, requireOpenSessionForCurrency state.cashSessions
          transaction.tenderCode = .ok drawer ∧
        main.sessionId = drawer.id ∧
        ((transaction.CrossCurrency ∧ main.signedAmount = transaction.cashReceivedAmount.getD 0 ∧
            ∃ changeDrawer change, requireOpenSessionForCurrency state.cashSessions
                  transaction.changeCurrencyCode = .ok changeDrawer ∧
                change.sessionId = changeDrawer.id ∧
                change.signedAmount = -(transaction.cashChangeSettledAmount.or
                    transaction.cashChangeAmount).getD 0 ∧
                movements = [main, change]) ∨
          (¬transaction.CrossCurrency ∧ main.signedAmount = (if transaction.IsRefund then
                -(transaction.grossOrAmount + transaction.cashTipAmount)
              else transaction.grossOrAmount + transaction.cashTipAmount) ∧
            movements = [main])) := by
  obtain ⟨drawer, isDrawer, posted⟩ := bind_eq_ok.mp posted
  obtain ⟨_, -, posted⟩ := bind_eq_ok.mp posted
  by_cases cross : transaction.CrossCurrency
  · have isCross : decide (¬transaction.IsRefund ∧ transaction.cashReceivedAmount ≠ none ∧
        normalizeCurrency (transaction.cashChangeSettledCurrency.getD
          transaction.tenderCode) ≠ normalizeCurrency transaction.tenderCode ∧
        0 < (transaction.cashChangeSettledAmount.or transaction.cashChangeAmount).getD 0) = true :=
      decide_eq_true cross
    simp only [isCross, if_true] at posted
    obtain ⟨changeDrawer, isChange, result⟩ := bind_eq_ok.mp posted
    refine ⟨drawer, _, isDrawer, ?_, .inl ⟨cross, ?_, changeDrawer, _,
      isChange, ?_, ?_, (pure_eq_ok.mp result).symm⟩⟩
    · rfl
    · simp only [if_neg cross.1]
      rfl
    · rfl
    · rfl
  · have isCross : decide (¬transaction.IsRefund ∧ transaction.cashReceivedAmount ≠ none ∧
        normalizeCurrency (transaction.cashChangeSettledCurrency.getD
          transaction.tenderCode) ≠ normalizeCurrency transaction.tenderCode ∧
        0 < (transaction.cashChangeSettledAmount.or transaction.cashChangeAmount).getD 0) = false :=
      decide_eq_false cross
    simp only [isCross, Bool.false_eq_true, if_false] at posted
    refine ⟨drawer, _, isDrawer, ?_, .inr ⟨cross, ?_, (pure_eq_ok.mp posted).symm⟩⟩
    · rfl
    · split_ifs with refund
      · rfl
      · rfl

theorem drawerChange_singleton (movement : CashMovement) (sessionId : Int) :
    drawerChange [movement] sessionId =
      if movement.sessionId = sessionId then movement.signedAmount else 0 := by
  unfold drawerChange totalOf
  split_ifs with same
  · simp [same]
  · simp [same]

theorem drawerChange_cons (movement : CashMovement) (movements : List CashMovement)
    (sessionId : Int) :
    drawerChange (movement :: movements) sessionId =
      (if movement.sessionId = sessionId then movement.signedAmount else 0) +
        drawerChange movements sessionId := by
  rw [← drawerChange_singleton]
  exact totalOf_append [movement] movements

namespace CashColumns

section

variable (columns : CashColumns call transaction)
include columns

theorem noReceipt (uncounted : transaction.cashReceivedAmount = none) :
    transaction.cashChangeAmount = none ∧ transaction.cashChangeSettledAmount = none ∧
      transaction.cashTipAmount = 0 := by
  have received := columns.received
  have settlement := columns.settlement
  unfold Transaction.CashReceivedChangeConsistent at received
  unfold Transaction.CashChangeSettlementConsistent at settlement
  rw [uncounted] at received settlement
  cases isChange : transaction.cashChangeAmount with
  | some change =>
    rw [isChange] at received
    exact received.elim
  | none =>
    rw [isChange] at received
    cases isSettled : transaction.cashChangeSettledAmount with
    | some settled =>
      rw [isSettled] at settlement
      exact settlement.elim
    | none => exact ⟨rfl, rfl, received⟩

theorem kept : transaction.grossOrAmount + transaction.cashTipAmount =
        transaction.cashReceived - transaction.cashChangeAmount.getD 0 ∧
      0 ≤ transaction.cashChangeAmount.getD 0 := by
  unfold Transaction.cashReceived
  cases counted : transaction.cashReceivedAmount with
  | none =>
    obtain ⟨noChange, -, noTip⟩ := columns.noReceipt counted
    rw [noChange, noTip]
    simp
  | some received =>
    have consistent := columns.received
    unfold Transaction.CashReceivedChangeConsistent at consistent
    rw [counted] at consistent
    cases isChange : transaction.cashChangeAmount with
    | none =>
      rw [isChange] at consistent
      exact consistent.elim
    | some change =>
      rw [isChange] at consistent
      simp only [Option.getD_some]
      omega

theorem settled : (transaction.cashChangeSettledAmount.or
        transaction.cashChangeAmount).getD 0 = transaction.changeReturned := by
  unfold Transaction.changeReturned
  cases counted : transaction.cashReceivedAmount with
  | none =>
    obtain ⟨noChange, notSettled, -⟩ := columns.noReceipt counted
    rw [noChange, notSettled]
    rfl
  | some received =>
    obtain ⟨receipt, -, -, isSettled, -⟩ :=
      columns.receipt (by rw [counted]; exact Option.some_ne_none _)
    rw [isSettled]
    rfl

theorem nothingReturned (nothing : transaction.changeReturned ≤ 0) :
    transaction.cashChangeAmount.getD 0 = 0 := by
  have nonneg := columns.kept.2
  cases counted : transaction.cashReceivedAmount with
  | none => rw [(columns.noReceipt counted).1, Option.getD_none]
  | some received =>
    obtain ⟨receipt, settles, isChange, isSettled, -⟩ :=
      columns.receipt (by rw [counted]; exact Option.some_ne_none _)
    unfold Transaction.changeReturned at nothing
    rw [isSettled, Option.getD_some] at nothing
    rw [isChange, Option.getD_some] at nonneg ⊢
    by_contra some
    have := settles.settled (by omega)
    omega

theorem returnedAtPar (same : transaction.changeCurrencyCode = transaction.tenderCurrencyCode) :
    transaction.changeReturned = transaction.cashChangeAmount.getD 0 := by
  unfold Transaction.changeReturned
  cases counted : transaction.cashReceivedAmount with
  | none =>
    obtain ⟨noChange, notSettled, -⟩ := columns.noReceipt counted
    rw [noChange, notSettled]
  | some received =>
    obtain ⟨receipt, settles, isChange, isSettled, isCurrency, isRate⟩ :=
      columns.receipt (by rw [counted]; exact Option.some_ne_none _)
    have tender : receipt.settledCurrency = transaction.tenderCode := by
      unfold Transaction.changeCurrencyCode Transaction.tenderCurrencyCode at same
      rw [isCurrency, Option.getD_some, settles.normalized, columns.normalized] at same
      exact same
    have consistent := columns.settlement
    have nonneg := columns.kept.2
    unfold Transaction.CashChangeSettlementConsistent at consistent
    simp only [counted, isSettled, isCurrency, isChange, isRate, settles.atPar tender] at consistent
    rw [isSettled, isChange, Option.getD_some, Option.getD_some]
    obtain ⟨-, -, -, ⟨noChange, notSettled, -⟩ | ⟨-, rounded⟩, -⟩ := consistent
    · rw [notSettled, Option.some.inj noChange]
    · simp only [Option.any_some, Option.getD_some, mul_one,
        decide_eq_true_eq, roundHalfUp_intCast] at rounded
      exact rounded.2.symm

theorem crossCurrency_iff : transaction.CrossCurrency ↔ transaction.ChangeElsewhere := by
  unfold Transaction.CrossCurrency
  rw [columns.settled]
  constructor
  · rintro ⟨-, -, elsewhere, returned⟩
    exact ⟨elsewhere, returned⟩
  · rintro ⟨elsewhere, returned⟩
    have counted : transaction.cashReceivedAmount ≠ none := by
      intro uncounted
      unfold Transaction.changeReturned at returned
      rw [(columns.noReceipt uncounted).2.1, Option.getD_none] at returned
      exact lt_irrefl 0 returned
    exact ⟨fun refund => counted (columns.refund refund).1, counted, elsewhere, returned⟩

/-- A single movement posts what stays in the drawer of the tender. -/
theorem tenderFlow_eq (notElsewhere : ¬transaction.ChangeElsewhere) : (if transaction.IsRefund then
        -(transaction.grossOrAmount + transaction.cashTipAmount)
      else transaction.grossOrAmount + transaction.cashTipAmount) = transaction.tenderFlow := by
  unfold Transaction.tenderFlow
  split_ifs with refund same
  · obtain ⟨uncounted, isTender⟩ := columns.refund refund
    obtain ⟨-, -, noTip⟩ := columns.noReceipt uncounted
    rw [isTender, noTip, add_zero]
  · rw [columns.kept.1, columns.returnedAtPar same]
  · have nothing : transaction.changeReturned ≤ 0 := by
      by_contra returned
      exact notElsewhere ⟨same, not_le.mp returned⟩
    rw [columns.kept.1, columns.nothingReturned nothing]

end

end CashColumns

theorem CashColumns.posts {movements : List CashMovement} (columns : CashColumns call transaction)
    (distinctSessions : (state.cashSessions.map CashSession.id).Nodup)
    (posted : recordCashPaymentMovement env state call transaction = .ok movements) :
    PostsPhysicalCash state.cashSessions transaction movements := by
  obtain ⟨drawer, main, isDrawer, inDrawer, parts⟩ := recordCashPaymentMovement_eq_ok posted
  rcases parts with ⟨cross, isMain, changeDrawer, change, isChangeDrawer,
    inChangeDrawer, isChange, rfl⟩ | ⟨notCross, isMain, rfl⟩
  · obtain ⟨elsewhere, returned⟩ := columns.crossCurrency_iff.mp cross
    rw [columns.settled] at isChange
    obtain ⟨drawerIn, -, drawerCode⟩ := requireOpenSessionForCurrency_eq_ok isDrawer
    obtain ⟨changeIn, -, changeCode⟩ := requireOpenSessionForCurrency_eq_ok isChangeDrawer
    -- two currencies, so two drawers
    have differs : changeDrawer.id ≠ drawer.id := by
      intro same
      have sameDrawer : changeDrawer = drawer :=
        List.inj_on_of_nodup_map distinctSessions changeIn drawerIn same
      apply elsewhere
      calc transaction.changeCurrencyCode = normalizeCurrency transaction.changeCurrencyCode :=
            (normalizeCurrency_normalizeCurrency _).symm
        _ = changeDrawer.currencyCode := changeCode.symm
        _ = drawer.currencyCode := by rw [sameDrawer]
        _ = transaction.tenderCurrencyCode := drawerCode
    have flow : transaction.tenderFlow = transaction.cashReceivedAmount.getD 0 := by
      unfold Transaction.tenderFlow Transaction.cashReceived
      obtain ⟨received, counted⟩ := Option.ne_none_iff_exists'.mp cross.2.1
      rw [if_neg cross.1, if_neg elsewhere, counted, sub_zero]
      rfl
    refine ⟨⟨drawer, isDrawer, ?_⟩, fun _ => ⟨changeDrawer, isChangeDrawer, ?_⟩, ?_⟩
    · rw [drawerChange_cons, drawerChange_singleton, if_pos inDrawer,
        inChangeDrawer, if_neg differs, add_zero, isMain, flow]
    · rw [drawerChange_cons, drawerChange_singleton, inDrawer,
        if_neg differs.symm, if_pos inChangeDrawer, zero_add, isChange]
    · intro sessionId moved
      by_cases isTender : drawer.id = sessionId
      · exact .inl ⟨drawer, isTender, isDrawer⟩
      · refine .inr ⟨⟨elsewhere, returned⟩, changeDrawer, ?_, isChangeDrawer⟩
        by_contra other
        rw [drawerChange_cons, drawerChange_singleton, inDrawer,
          if_neg isTender, inChangeDrawer, if_neg other, add_zero] at moved
        exact moved rfl
  · have notElsewhere := mt columns.crossCurrency_iff.mpr notCross
    rw [columns.tenderFlow_eq notElsewhere] at isMain
    refine ⟨⟨drawer, isDrawer, ?_⟩, (absurd · notElsewhere), ?_⟩
    · rw [drawerChange_singleton, if_pos inDrawer, isMain]
    · intro sessionId moved
      left
      refine ⟨drawer, ?_, isDrawer⟩
      by_contra other
      rw [drawerChange_singleton, inDrawer, if_neg other] at moved
      exact moved rfl

theorem writePayment_cashMovements
    (written : writePayment env state call checked draft = .ok (after, transaction)) :
    ∃ ledger movements, flushTransaction state draft = .ok ledger ∧
      transaction = draft.transaction ∧
      (transaction.status = .completed ->
        movementsOfCall env state call transaction = .ok movements) ∧
      after.cashMovements = state.cashMovements ++ movements := by
  unfold writePayment at written
  simp only [bind_eq_ok, pure_eq_ok] at written
  obtain ⟨ledger, flushed, ⟨settled, movements⟩, isSettled, result⟩ := written
  cases result
  refine ⟨ledger, movements, flushed, rfl, ?_, rfl⟩
  intro completed
  unfold settleTransaction at isSettled
  simp only [if_pos completed, bind_eq_ok, pure_eq_ok] at isSettled
  obtain ⟨_, -, _, posted, same⟩ := isSettled
  cases same
  exact posted

/-- Physical cash is conserved by each payment.  A new completed cash
transaction posts its movements to the drawers, unless its cash was counted in
an earlier receipt; and what it posts is the cash that changes hands. -/
theorem processPayment_cash_conserved
    (distinctSessions : (state.cashSessions.map CashSession.id).Nodup)
    (processed : processPayment env state call = .ok (after, transaction))
    (isNew : transaction ∉ state.ledger.transactions)
    (cash : transaction.paymentMethod = .cash)
    (completed : transaction.status = .completed) :
    (transaction.collectedBefore = true -> after.cashMovements = state.cashMovements) ∧
      (transaction.collectedBefore = false -> ∃ movements,
        recordCashPaymentMovement env state call transaction = .ok movements ∧
          after.cashMovements = state.cashMovements ++ movements) ∧
      ∀ movements, recordCashPaymentMovement env state call transaction = .ok movements ->
          PostsPhysicalCash state.cashSessions transaction movements := by
  obtain ⟨checked, isChecked, replay | ⟨-, draft, drafted, written⟩⟩ :=
    processPayment_eq_ok processed
  · obtain ⟨key, -, found, -⟩ := replay
    exact absurd (mem_of_transactionByKey found).1 isNew
  · obtain ⟨ledger, movements, flushed, rfl, posted, moved⟩ := writePayment_cashMovements written
    have columns := cashColumns isChecked drafted flushed
    obtain ⟨applied, amount, surcharge, receipt, frozen, -, -, isRow⟩ :=
      draftPayment_receipt drafted
    have method : call.request.paymentMethod = .cash := by
      rw [isRow] at cash
      exact cash
    have before : draft.transaction.collectedBefore = call.request.collectedBefore := by
      rw [isRow]
      rfl
    have posts := posted completed
    unfold movementsOfCall at posts
    refine ⟨?_, ?_, fun _ recorded => columns.posts distinctSessions recorded⟩
    · intro earlier
      rw [before] at earlier
      rw [if_neg (by simp [earlier])] at posts
      cases posts
      rw [moved, List.append_nil]
    · intro live
      rw [before] at live
      rw [if_pos ⟨method, live⟩] at posts
      exact ⟨movements, posts, moved⟩

end

/-- Pesos change into dollars at a thousandth. -/
def dollarEnvironment : PaymentEnvironment where
  now := 0
  today := 0
  decodeToken := fun _ => none
  conversionRate := fun fromCurrency toCurrency =>
    if fromCurrency = "USD" ∧ toCurrency = "ARS" then .ok (1000, none)
    else .error "sin cotización"
  floatValue := id

/-- A reservation of 10,000.00 pesos, and open drawers in pesos and dollars. -/
def twoDrawerState : PaymentState :=
  stateOf { id := 7, totalAmount := 1000000 }
    [{ id := 1, currencyCode := "ARS" }, { id := 2, currencyCode := "USD" }]

/-- A collection of 7.00 dollars paid with a bill of 10.00, of which 1.00 is
left as a tip. -/
def dollarBill : PaymentCall where
  request :=
    { reservationId := 7, amount := 700, cashReceivedAmount := some 1000, cashTipAmount := 100
      paymentMethod := .cash, transactionType := .partialPayment, currency := some "USD" }

/-- The bill stays in the drawer of dollars, and its change of 2.00 dollars
leaves the drawer of pesos. -/
theorem processPayment_cash_conserved_dollarBill :
    ∃ after transaction movements, processPayment dollarEnvironment twoDrawerState dollarBill =
          .ok (after, transaction) ∧
        after.cashMovements = movements ∧
        PostsPhysicalCash twoDrawerState.cashSessions transaction movements ∧
        drawerChange movements 2 = 1000 ∧
        drawerChange movements 1 = -200000 := by
  have outcome : (processPayment dollarEnvironment twoDrawerState dollarBill).map
          (fun result => (result.2.paymentMethod, result.2.status, result.2.collectedBefore,
            drawerChange result.1.cashMovements 2,
            drawerChange result.1.cashMovements 1)) =
        .ok (.cash, .completed, false, 1000, -200000) := by
    decide +kernel
  cases processed : processPayment dollarEnvironment twoDrawerState dollarBill with
  | error error =>
    rw [processed] at outcome
    cases outcome
  | ok result =>
    obtain ⟨after, transaction⟩ := result
    rw [processed] at outcome
    simp only [Except.map, Except.ok.injEq, Prod.mk.injEq] at outcome
    obtain ⟨cash, completed, live, dollars, pesos⟩ := outcome
    obtain ⟨-, posted, physical⟩ := processPayment_cash_conserved
      (by decide) processed List.not_mem_nil cash completed
    obtain ⟨movements, recorded, moved⟩ := posted live
    have same : after.cashMovements = movements := moved
    rw [same] at dollars pesos
    exact ⟨after, transaction, movements, rfl, same, physical movements recorded, dollars, pesos⟩

end HotelPms.Payments
