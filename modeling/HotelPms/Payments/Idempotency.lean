import HotelPms.Payments.Collection

/-!
# Idempotent payments

A transaction written under an idempotency key answers the request it came
from: every request field the replay compares is stored as it was asked for.
As long as the row keeps these columns, the same request returns it, and a
request that returns it agrees with the original one.
-/

namespace HotelPms.Payments

open Checked Decimal

section

variable {env : PaymentEnvironment} {state after : PaymentState}
  {call : PaymentCall} {checked : CheckedRequest} {transaction : Transaction}

structure CashFields (call : PaymentCall) : Prop where
  received : call.request.cashReceivedAmount ≠ none ->
    call.request.paymentMethod = .cash ∧ ¬call.request.IsRefund ∧ call.captureCashReceipt = true
  tipNonneg : 0 ≤ call.request.cashTipAmount
  tipReceived : 0 < call.request.cashTipAmount -> call.request.cashReceivedAmount ≠ none

theorem checkCashFields_eq_ok (isChecked : checkCashFields call = .ok ()) : CashFields call := by
  unfold checkCashFields at isChecked
  simp only [bind_eq_ok, raiseIf_eq_ok] at isChecked
  obtain ⟨_, cash, _, -, _, nonneg, _, -, _, given, _, -, captured⟩ := isChecked
  refine ⟨fun received => ?_, not_lt.mp nonneg, fun tip absent => given ⟨tip, absent⟩⟩
  have isCash := not_and.mp cash received
  rw [not_or, not_not] at isCash
  refine ⟨isCash.1, isCash.2, ?_⟩
  by_contra uncaptured
  exact captured ⟨Bool.eq_false_iff.mpr uncaptured, received⟩

def ReceiptRecorded (request : PaymentRequest) (gross : Int) (receipt : Option CashReceipt) :
    Prop :=
  (receipt = none ∧ request.cashReceivedAmount = none) ∨
    ∃ handed, receipt = some handed ∧ request.paymentMethod = .cash ∧ ¬request.IsRefund ∧
      handed.received = effectiveCashReceived request.cashReceivedAmount gross ∧
      handed.tip = request.cashTipAmount

variable {receipt : Option CashReceipt}

theorem receiptOfCall_spec {gross : Int} {frozen : Option FrozenRate} {fxRateSnapshot : Option ℚ}
    (cash : CashFields call)
    (isReceipt : receiptOfCall env state call checked gross frozen fxRateSnapshot = .ok receipt) :
    ReceiptRecorded call.request gross receipt := by
  obtain ⟨_, pending, isReceipt⟩ := bind_eq_ok.mp isReceipt
  rw [raiseIf_eq_ok, not_and, not_not] at pending
  split_ifs at isReceipt with captured
  · obtain ⟨handed, isHanded, result⟩ := bind_eq_ok.mp isReceipt
    cases result
    right
    refine ⟨handed, rfl, captured.1, captured.2.1, ?_⟩
    obtain ⟨⟨tip, change⟩, breakdown, rest⟩ := bind_eq_ok.mp isHanded
    unfold cashTenderBreakdown at breakdown
    simp only [bind_eq_ok, pure_eq_ok, Prod.mk.injEq] at breakdown
    obtain ⟨-, -, -, -, -, -, rfl, rfl⟩ := breakdown
    simp only [bind_eq_ok, pure_eq_ok] at rest
    obtain ⟨-, -, -, -, -, -, -, -, rfl⟩ := rest
    exact ⟨rfl, rfl⟩
  · cases isReceipt
    left
    refine ⟨rfl, ?_⟩
    by_contra received
    obtain ⟨isCash, payment, capture⟩ := cash.received received
    exact captured ⟨isCash, payment, capture, pending received⟩

/-- Adding change and surcharge provenance keeps the authorization. -/
theorem manualFxQuoteIdOf_storedDetails (details : Option FxQuoteDetails)
    (receipt : Option CashReceipt) (surcharge : SurchargeInfo) :
    manualFxQuoteIdOf (storedDetails call checked details receipt surcharge) =
      manualFxQuoteIdOf details := by
  have changed (details : FxQuoteDetails) :
      manualFxQuoteIdOf (if details = {} then none else some details) =
        details.manualFxQuoteId := by
    split_ifs with empty
    · rw [empty]
      rfl
    · rfl
  unfold storedDetails
  rw [changed]
  cases details <;> cases receipt <;> simp only <;> split_ifs <;> rfl

theorem requestQuote_refund {reservation : ReservationFinancials} {currency : String}
    {quote : Option QuotePayload} (refund : call.request.IsRefund)
    (isQuote : requestQuote env state.hotelId reservation currency call =
      .ok quote) : quote = none := by
  unfold requestQuote at isQuote
  split_ifs at isQuote with given
  · obtain ⟨_, allowed, -⟩ := bind_eq_ok.mp isQuote
    exact absurd (.inl refund) (raiseIf_eq_ok.mp allowed)
  · exact (pure_eq_ok.mp isQuote).symm

variable {manual : Option ManualFxPaymentQuote}

theorem manualAuthorization_spec (isManual : manualAuthorization state call checked = .ok manual) :
    (manual = none ∧ call.request.manualFxQuoteId = none) ∨ ∃ quote, manual = some quote ∧
        call.request.manualFxQuoteId = some quote.id ∧
        checked.currency ≠ checked.reservation.currency := by
  unfold manualAuthorization at isManual
  cases named : call.request.manualFxQuoteId with
  | none =>
    rw [named] at isManual
    exact .inl ⟨(pure_eq_ok.mp isManual).symm, rfl⟩
  | some quoteId =>
    simp only [named] at isManual
    obtain ⟨_, -, isManual⟩ := bind_eq_ok.mp isManual
    split at isManual
    · cases isManual
    · next quote row =>
      simp only [bind_eq_ok, raiseIf_eq_ok, pure_eq_ok, not_or, not_not] at isManual
      obtain ⟨-, -, -, ⟨-, tender, reservation, -⟩, rfl⟩ := isManual
      have matched : quote.id = quoteId ∧ quote.reservationId = call.request.reservationId := by
        simpa using List.find?_some row
      right
      refine ⟨quote, rfl, by rw [matched.1], ?_⟩
      rw [← tender, ← reservation]
      exact quote.distinctCurrencies.symm

variable {applied : AppliedAmount} {ledger : Ledger} {row : Transaction} {key : String}

/-- A payment keeps the provenance frozen before it; the market names no
authorization. -/
theorem resolvePaymentAmount_details {reservation : ReservationFinancials} {tenderAmount : Int}
    {tenderCurrency : String} {frozen : Option FrozenRate}
    (resolved : resolvePaymentAmount env reservation tenderAmount
      tenderCurrency frozen = .ok applied) :
    manualFxQuoteIdOf applied.fxQuoteDetails =
      manualFxQuoteIdOf (frozen.bind FrozenRate.details) := by
  obtain ⟨direct, isDirect, rest⟩ := bind_eq_ok.mp resolved
  obtain ⟨_, -, result⟩ := bind_eq_ok.mp rest
  rw [← pure_eq_ok.mp result]
  cases frozen with
  | some rate =>
    rw [← pure_eq_ok.mp isDirect]
    rfl
  | none =>
    obtain ⟨quote, -, market⟩ := bind_eq_ok.mp isDirect
    rw [← pure_eq_ok.mp market]
    cases quote.2 <;> rfl

theorem frozenRate_manualFxQuoteId (passed : RequestChecked env state call checked)
    (isManual : manualAuthorization state call checked = .ok manual) :
    manualFxQuoteIdOf ((frozenRate checked manual).bind FrozenRate.details) =
      call.request.manualFxQuoteId := by
  rcases manualAuthorization_spec isManual with ⟨rfl, unnamed⟩ | ⟨quote, rfl, named, -⟩
  · have quoted := passed.manualFxQuoteId
    rw [unnamed] at quoted ⊢
    unfold frozenRate
    cases isQuote : checked.quote with
    | none => rfl
    | some payload =>
      rw [isQuote] at quoted
      exact payload.issuedTogether quoted.symm
  · rw [named]
    rfl

theorem appliedOfCall_manualFxQuoteId {source : Option Transaction}
    (passed : RequestChecked env state call checked)
    (isManual : manualAuthorization state call checked = .ok manual)
    (isSource : sourceOfCall state call checked = .ok source)
    (plainSource : ∀ payment, source = some payment ->
      manualFxQuoteIdOf payment.fxQuoteDetails = none)
    (isApplied : appliedOfCall env call checked (frozenRate checked manual) source = .ok applied) :
    manualFxQuoteIdOf applied.fxQuoteDetails = call.request.manualFxQuoteId := by
  unfold appliedOfCall at isApplied
  simp only [bind_eq_ok, pure_eq_ok] at isApplied
  obtain ⟨-, -, converted, isConverted, -, -, rfl⟩ := isApplied
  unfold convertTender resolveAppliedPaymentAmount at isConverted
  by_cases refund : call.request.IsRefund
  · have unnamed : call.request.manualFxQuoteId = none := by
      rw [passed.manualFxQuoteId, requestQuote_refund refund passed.quote]
      rfl
    obtain ⟨payment, rfl, -⟩ := sourceOfCall_refund refund isSource
    have plain := plainSource payment rfl
    rw [unnamed]
    simp only at isConverted
    split_ifs at isConverted with credit same
    · rw [← pure_eq_ok.mp isConverted]
      cases details : payment.fxQuoteDetails with
      | none => rfl
      | some fields =>
        rw [details] at plain
        exact plain
    · rw [← pure_eq_ok.mp isConverted]
      rfl
    · obtain ⟨_, -, result⟩ := bind_eq_ok.mp isConverted
      rw [← pure_eq_ok.mp result]
      cases details : payment.fxQuoteDetails with
      | none => rfl
      | some fields =>
        rw [details] at plain
        simp only [Option.map_some]
        split_ifs
        · exact plain
        · exact plain
  · obtain rfl := sourceOfCall_payment refund isSource
    simp only at isConverted
    split_ifs at isConverted with same
    · rw [← pure_eq_ok.mp isConverted]
      rcases manualAuthorization_spec isManual with ⟨-, unnamed⟩ | ⟨-, -, -, foreign⟩
      · rw [unnamed]
        rfl
      · exact absurd same foreign
    · rw [resolvePaymentAmount_details isConverted]
      exact frozenRate_manualFxQuoteId passed isManual

/-- Nights a call is asked to cover. -/
def PaymentRequest.SelectsNights (request : PaymentRequest) (nights : List (Int × Int)) : Prop :=
  if request.IsRefund then
    nights.Perm request.companyNightChargeRefundAllocations
  else (nights.map Prod.fst).Perm request.companyNightChargeIds

theorem nightsOfCall_selects {source : Option Transaction} {applied amount : Int}
    {nights : List (Int × Int)}
    (isSource : sourceOfCall state call checked = .ok source)
    (plainCredit : call.request.IsCreditRefund ->
      call.request.companyNightChargeRefundAllocations = [])
    (areNights : nightsOfCall env state call checked source applied =
      .ok (amount, nights)) : call.request.SelectsNights nights := by
  unfold PaymentRequest.SelectsNights
  unfold nightsOfCall at areNights
  by_cases refund : call.request.IsRefund
  · rw [if_pos refund]
    obtain ⟨payment, rfl, -⟩ := sourceOfCall_refund refund isSource
    split_ifs at areNights with credit
    · cases areNights
      rw [plainCredit ⟨refund, credit⟩]
    · obtain ⟨plan, prepared, result⟩ := bind_eq_ok.mp areNights
      have permuted := prepareCompanyNightChargeRefund_nights prepared
      cases plan with
      | none =>
        cases result
        exact permuted
      | some selected =>
        cases result
        exact permuted
  · rw [if_neg refund]
    obtain rfl := sourceOfCall_payment refund isSource
    obtain ⟨plan, prepared, result⟩ := bind_eq_ok.mp areNights
    cases result
    exact prepareCompanyNightChargePayment_nights prepared

theorem Flushed.nightAllocations {before : Ledger} {draft : PaymentDraft}
    (flushed : Flushed before draft ledger) :
    ledger.nightAllocations draft.transaction.id = draft.nights := by
  have older : before.allocations.filter (fun row =>
      row.transactionId = draft.transaction.id) = [] := by
    apply List.filter_eq_nil_iff.mpr
    intro row member
    have below := before.allocationsBelow row member
    rw [← flushed.isNext] at below
    simpa using below.ne
  have own : (draft.nights.map fun night =>
      ({ transactionId := draft.transaction.id
         companyNightChargeId := night.1
         amount := night.2 } : NightAllocation)).filter (fun row =>
      row.transactionId = draft.transaction.id) = draft.nights.map fun night =>
          { transactionId := draft.transaction.id
            companyNightChargeId := night.1
            amount := night.2 } := by
    apply List.filter_eq_self.mpr
    intro row member
    obtain ⟨night, -, rfl⟩ := List.mem_map.mp member
    exact decide_eq_true rfl
  unfold Ledger.nightAllocations
  rw [flushed.allocations, List.filter_append, older, List.append_nil, own, List.map_map]
  exact List.map_id draft.nights

/-- A refund whose replay is recognized: its source names no manual
authorization, and a credit refund asks for no nights. -/
structure PlainRefund (state : PaymentState) (request : PaymentRequest) :
    Prop where
  source : ∀ source ∈ state.ledger.transactions, request.refundOfTransactionId = some source.id ->
    manualFxQuoteIdOf source.fxQuoteDetails = none
  credit : request.IsCreditRefund -> request.companyNightChargeRefundAllocations = []

theorem cashReceiptMatches_of_receipt {request : PaymentRequest} {gross : Int}
    (received : transaction.cashReceivedAmount = receipt.map CashReceipt.received)
    (isGross : transaction.grossOrTender = gross)
    (recorded : ReceiptRecorded request gross receipt) :
    cashReceiptMatches transaction request := by
  unfold cashReceiptMatches
  rw [received, isGross]
  rcases recorded with ⟨rfl, unasked⟩ | ⟨handed, rfl, isCash, payment, asked, -⟩
  · rw [unasked]
    split_ifs
    · rfl
    · exact ⟨rfl, rfl⟩
  · rw [if_pos ⟨isCash, payment⟩]
    exact asked

theorem transactionOfCall_answers {amount : Int} {surcharge : SurchargeInfo}
    {nights : List (Int × Int)} (cash : CashFields call)
    (recorded : ReceiptRecorded call.request (call.request.amount + surcharge.amount) receipt)
    (named : manualFxQuoteIdOf applied.fxQuoteDetails = call.request.manualFxQuoteId)
    (selects : call.request.SelectsNights nights)
    (stored : ledger.nightAllocations state.ledger.nextTransactionId = nights) :
    SameIdempotentPayment ledger (transactionOfCall env state call checked applied amount surcharge
        receipt) call.request checked.currency where
  tender := rfl
  cashReceipt := cashReceiptMatches_of_receipt rfl rfl recorded
  cashTip := by
    rcases recorded with ⟨rfl, unasked⟩ | ⟨handed, rfl, -, -, -, tip⟩
    · have untipped : ¬0 < call.request.cashTipAmount := fun tip => cash.tipReceived tip unasked
      have := cash.tipNonneg
      show 0 = call.request.cashTipAmount
      omega
    · exact tip
  paymentMethod := rfl
  transactionType := rfl
  refundComponent := rfl
  currency := rfl
  manualReference := rfl
  manualFxQuoteId := by
    rw [← named]
    exact manualFxQuoteIdOf_storedDetails _ _ _
  refundOfTransactionId := rfl
  refundReason := rfl
  collectedBefore := rfl
  collectedOn := rfl
  priorReceiptNote := rfl
  allocation := by
    unfold allocationMatches transactionOfCall
    rw [stored]
    unfold PaymentRequest.SelectsNights at selects
    split_ifs at selects ⊢
    · exact List.toFinset_eq_of_perm _ _ selects
    · exact List.toFinset_eq_of_perm _ _ selects

theorem NewTransaction.sameIdempotentPayment
    (written : NewTransaction env state call after transaction)
    (plain : PlainRefund state call.request) :
    SameIdempotentPayment after.ledger transaction call.request written.checked.currency := by
  obtain ⟨checked, draft, -, isChecked, -, -, -, drafted, rfl, flushed, -, -, -, -⟩ := written
  have passed := checkRequest_eq_ok.mp isChecked
  have cash := checkCashFields_eq_ok passed.cash
  obtain ⟨manual, source, applied, amount, nights, surcharge, receipt, isManual, isSource,
    isApplied, areNights, -, isReceipt, rfl⟩ := draftPayment_eq_ok drafted
  have plainSource : ∀ payment, source = some payment ->
      manualFxQuoteIdOf payment.fxQuoteDetails = none := by
    intro payment isPayment
    by_cases refund : call.request.IsRefund
    · obtain ⟨stored, isStored, found⟩ := sourceOfCall_refund refund isSource
      obtain rfl := Option.some.inj (isStored.symm.trans isPayment)
      exact plain.source stored found.member found.named
    · rw [sourceOfCall_payment refund isSource] at isPayment
      cases isPayment
  have named := appliedOfCall_manualFxQuoteId passed isManual isSource plainSource isApplied
  exact transactionOfCall_answers cash (receiptOfCall_spec cash isReceipt)
    named (nightsOfCall_selects isSource plain.credit areNights)
    flushed.nightAllocations

/-- A later row with the columns a replay reads. -/
structure SameRequestColumns (earlier later : Transaction) : Prop where
  id : later.id = earlier.id
  tender : later.tender = earlier.tender
  tenderCode : later.tenderCode = earlier.tenderCode
  cashReceivedAmount : later.cashReceivedAmount = earlier.cashReceivedAmount
  gross : later.grossOrTender = earlier.grossOrTender
  cashTipAmount : later.cashTipAmount = earlier.cashTipAmount
  paymentMethod : later.paymentMethod = earlier.paymentMethod
  transactionType : later.transactionType = earlier.transactionType
  refundComponent : later.refundComponent = earlier.refundComponent
  manualReference : later.manualReference = earlier.manualReference
  manualFxQuoteId : manualFxQuoteIdOf later.fxQuoteDetails =
    manualFxQuoteIdOf earlier.fxQuoteDetails
  refundOfTransactionId : later.refundOfTransactionId = earlier.refundOfTransactionId
  refundReason : later.refundReason = earlier.refundReason
  collectedBefore : later.collectedBefore = earlier.collectedBefore
  collectedOn : later.collectedOn = earlier.collectedOn
  priorReceiptNote : later.priorReceiptNote = earlier.priorReceiptNote

theorem SameRequestColumns.refl (row : Transaction) : SameRequestColumns row row :=
  ⟨rfl, rfl, rfl, rfl, rfl, rfl, rfl, rfl, rfl, rfl, rfl, rfl, rfl, rfl, rfl, rfl⟩

theorem SameRequestColumns.trans {first second third : Transaction}
    (before : SameRequestColumns first second)
    (next : SameRequestColumns second third) :
    SameRequestColumns first third where
  id := next.id.trans before.id
  tender := next.tender.trans before.tender
  tenderCode := next.tenderCode.trans before.tenderCode
  cashReceivedAmount :=
    next.cashReceivedAmount.trans before.cashReceivedAmount
  gross := next.gross.trans before.gross
  cashTipAmount := next.cashTipAmount.trans before.cashTipAmount
  paymentMethod := next.paymentMethod.trans before.paymentMethod
  transactionType := next.transactionType.trans before.transactionType
  refundComponent := next.refundComponent.trans before.refundComponent
  manualReference := next.manualReference.trans before.manualReference
  manualFxQuoteId := next.manualFxQuoteId.trans before.manualFxQuoteId
  refundOfTransactionId :=
    next.refundOfTransactionId.trans before.refundOfTransactionId
  refundReason := next.refundReason.trans before.refundReason
  collectedBefore := next.collectedBefore.trans before.collectedBefore
  collectedOn := next.collectedOn.trans before.collectedOn
  priorReceiptNote := next.priorReceiptNote.trans before.priorReceiptNote

/-- Reservations keep their currency, and keyed transactions their request
columns and nights. -/
structure HistoryKept (earlier later : PaymentState) : Prop where
  hotelId : later.hotelId = earlier.hotelId
  currency : ∀ id reservation, earlier.reservations id = some reservation ->
    ∃ kept, later.reservations id = some kept ∧ kept.currency = reservation.currency
  keyed : ∀ reservationId key row, earlier.ledger.transactionByKey reservationId key = some row ->
    ∃ kept, later.ledger.transactionByKey reservationId key = some kept ∧
      SameRequestColumns row kept ∧
      later.ledger.nightAllocations kept.id = earlier.ledger.nightAllocations row.id

theorem HistoryKept.refl (state : PaymentState) : HistoryKept state state where
  hotelId := rfl
  currency := fun _ reservation stored => ⟨reservation, stored, rfl⟩
  keyed := fun _ _ row found => ⟨row, found, .refl row, rfl⟩

theorem HistoryKept.trans {first second third : PaymentState} (before : HistoryKept first second)
    (next : HistoryKept second third) : HistoryKept first third where
  hotelId := next.hotelId.trans before.hotelId
  currency := by
    intro id reservation stored
    obtain ⟨middle, isMiddle, same⟩ := before.currency id reservation stored
    obtain ⟨kept, isKept, same'⟩ := next.currency id middle isMiddle
    exact ⟨kept, isKept, same'.trans same⟩
  keyed := by
    intro reservationId key row found
    obtain ⟨middle, isMiddle, columns, nights⟩ := before.keyed reservationId key row found
    obtain ⟨kept, isKept, columns', nights'⟩ :=
      next.keyed reservationId key middle isMiddle
    exact ⟨kept, isKept, columns.trans columns', nights'.trans nights⟩

theorem Flushed.nightAllocations_of_mem {before : Ledger} {draft : PaymentDraft}
    (flushed : Flushed before draft ledger)
    (member : row ∈ before.transactions) :
    ledger.nightAllocations row.id = before.nightAllocations row.id := by
  have below := before.idsBelow row member
  have others : (draft.nights.map fun night =>
      ({ transactionId := draft.transaction.id
         companyNightChargeId := night.1
         amount := night.2 } : NightAllocation)).filter (fun allocation =>
      allocation.transactionId = row.id) = [] := by
    apply List.filter_eq_nil_iff.mpr
    intro allocation isNight
    obtain ⟨night, -, rfl⟩ := List.mem_map.mp isNight
    rw [← flushed.isNext] at below
    simpa using below.ne'
  unfold Ledger.nightAllocations
  rw [flushed.allocations, List.filter_append, others, List.nil_append]

theorem NewTransaction.transactionByKey_of_some {reservationId : Int}
    (written : NewTransaction env state call after transaction)
    (found : state.ledger.transactionByKey reservationId key = some row) :
    after.ledger.transactionByKey reservationId key = some row := by
  unfold Ledger.transactionByKey
  rw [written.flushed.transactions, ← written.isDraft, List.find?_cons_of_neg]
  · exact found
  · rw [decide_eq_true_eq, written.columns.reservationId, written.columns.idempotencyKey]
    rintro ⟨rfl, isKey⟩
    have newKey := written.newKey
    rw [isKey, Option.bind_some, found] at newKey
    cases newKey

theorem processPayment_historyKept
    (processed : processPayment env state call = .ok (after, transaction)) :
    HistoryKept state after := by
  rcases exists_newTransaction processed with ⟨rfl, -⟩ | ⟨⟨written⟩⟩
  · exact .refl after
  · refine ⟨written.hotelId, ?_, ?_⟩
    · intro id reservation stored
      rw [written.reservations]
      by_cases own : id = call.request.reservationId
      · subst own
        rw [written.stored] at stored
        cases stored
        exact ⟨written.settled, Function.update_self .., written.isSettled.currency⟩
      · rw [Function.update_of_ne own]
        exact ⟨reservation, stored, rfl⟩
    · intro reservationId key row found
      exact ⟨row, written.transactionByKey_of_some found, .refl row,
        written.flushed.nightAllocations_of_mem (mem_of_transactionByKey found).1⟩

/-- States after a payment: further calls are made, and other operations keep
the history. -/
inductive LaterState (start : PaymentState) : PaymentState -> Prop
  | refl : LaterState start start
  | call {middle finish : PaymentState} {env : PaymentEnvironment}
      {call : PaymentCall} {transaction : Transaction}
      (reached : LaterState start middle)
      (processed : processPayment env middle call = .ok (finish, transaction)) :
      LaterState start finish
  | edit {middle finish : PaymentState}
      (reached : LaterState start middle)
      (kept : HistoryKept middle finish) : LaterState start finish

theorem LaterState.historyKept {start finish : PaymentState}
    (reached : LaterState start finish) : HistoryKept start finish := by
  induction reached with
  | refl => exact .refl start
  | call _ processed ih =>
    exact ih.trans (processPayment_historyKept processed)
  | edit _ kept ih => exact ih.trans kept

/-- The same request under the same key, with the options that are checked
before the key is looked up. -/
structure Resubmits (first second : PaymentCall) : Prop where
  request : second.request = first.request
  idempotencyKey : second.idempotencyKey = first.idempotencyKey
  applySurcharge : second.applySurcharge = first.applySurcharge
  captureCashReceipt : second.captureCashReceipt = first.captureCashReceipt
  surchargeQuoteSnapshot : second.surchargeQuoteSnapshot = first.surchargeQuoteSnapshot

/-- The quote token of a request verifies as it did and has not expired. -/
def QuoteStillValid (env laterEnv : PaymentEnvironment) (request : PaymentRequest) : Prop :=
  ∀ token payload, request.paymentQuoteToken = some token -> env.decodeToken token = some payload ->
    laterEnv.decodeToken token = some payload ∧ laterEnv.now ≤ payload.exp

variable {first second : ReservationFinancials}

theorem resolvePaymentCurrency_congr
    (same : second.currency = first.currency) (requested : Option String) :
    resolvePaymentCurrency second requested = resolvePaymentCurrency first requested := by
  unfold resolvePaymentCurrency
  rw [same]

variable {laterEnv : PaymentEnvironment}

theorem verifyPaymentQuoteToken_again {hotelId : Int} {paymentMethod : PaymentMethod}
    {currencyCode : String} {baseAmount : Int} {token : String}
    {payload : QuotePayload} (sameId : second.id = first.id)
    (sameCurrency : second.currency = first.currency)
    (valid : ∀ payload, env.decodeToken token = some payload ->
      laterEnv.decodeToken token = some payload ∧ laterEnv.now ≤ payload.exp)
    (verified : verifyPaymentQuoteToken env hotelId first paymentMethod
      currencyCode baseAmount token = .ok payload) :
    verifyPaymentQuoteToken laterEnv hotelId second paymentMethod
      currencyCode baseAmount token = .ok payload := by
  unfold verifyPaymentQuoteToken at verified ⊢
  cases decoded : env.decodeToken token with
  | none =>
    rw [decoded] at verified
    cases verified
  | some signed =>
    obtain ⟨decodedAgain, unexpired⟩ := valid signed decoded
    simp only [decoded, bind_eq_ok] at verified
    obtain ⟨_, -, rest⟩ := verified
    simp only [decodedAgain, sameId, sameCurrency, bind_eq_ok]
    exact ⟨(), raiseIf_eq_ok.mpr (not_lt.mpr unexpired), rest⟩

theorem requestQuote_again {hotelId : Int} {currencyCode : String}
    {again : PaymentCall} {quote : Option QuotePayload}
    (resubmits : Resubmits call again) (sameId : second.id = first.id)
    (sameCurrency : second.currency = first.currency)
    (valid : QuoteStillValid env laterEnv call.request)
    (quoted : requestQuote env hotelId first currencyCode call = .ok quote) :
    requestQuote laterEnv hotelId second currencyCode again = .ok quote := by
  unfold requestQuote at quoted ⊢
  rw [resubmits.request, resubmits.applySurcharge, resubmits.surchargeQuoteSnapshot]
  cases token : call.request.paymentQuoteToken with
  | none =>
    rw [token] at quoted
    exact quoted
  | some text =>
    rw [token] at quoted
    split_ifs at quoted ⊢ with given
    · simp only [bind_eq_ok] at quoted ⊢
      obtain ⟨_, allowed, _, single, payload, verified, result⟩ := quoted
      refine ⟨(), allowed, (), single, payload, ?_, result⟩
      exact verifyPaymentQuoteToken_again sameId sameCurrency (valid text · token) verified
    · exact quoted

theorem RequestChecked.again {later : PaymentState}
    {again : PaymentCall} {kept : ReservationFinancials}
    (passed : RequestChecked env state call checked)
    (resubmits : Resubmits call again)
    (stored : later.reservations call.request.reservationId = some kept)
    (sameCurrency : kept.currency = checked.reservation.currency)
    (sameHotel : later.hotelId = state.hotelId)
    (valid : QuoteStillValid env laterEnv call.request) :
    RequestChecked laterEnv later again { checked with reservation := kept } where
  stored := by
    rw [resubmits.request]
    exact stored
  component := by
    rw [resubmits.request]
    exact passed.component
  currency := by
    rw [resubmits.request, resolvePaymentCurrency_congr sameCurrency]
    exact passed.currency
  positive := by
    rw [resubmits.request]
    exact passed.positive
  quote := by
    rw [sameHotel]
    have sameId : kept.id = checked.reservation.id := by
      rw [later.ownIds _ _ stored, state.ownIds _ _ passed.stored]
    exact requestQuote_again resubmits sameId sameCurrency valid passed.quote
  manualFxQuoteId := by
    rw [resubmits.request]
    exact passed.manualFxQuoteId
  cash := by
    have cash := passed.cash
    unfold checkCashFields at cash ⊢
    rw [resubmits.request, resubmits.captureCashReceipt]
    exact cash

theorem SameIdempotentPayment.kept {later : Ledger} {keptRow : Transaction}
    {request : PaymentRequest} {currency : String}
    (same : SameIdempotentPayment ledger row request currency)
    (columns : SameRequestColumns row keptRow)
    (nights : later.nightAllocations keptRow.id = ledger.nightAllocations row.id) :
    SameIdempotentPayment later keptRow request currency where
  tender := columns.tender.trans same.tender
  cashReceipt := by
    have matched := same.cashReceipt
    unfold cashReceiptMatches at matched ⊢
    rw [columns.cashReceivedAmount, columns.gross]
    exact matched
  cashTip := columns.cashTipAmount.trans same.cashTip
  paymentMethod := columns.paymentMethod.trans same.paymentMethod
  transactionType := columns.transactionType.trans same.transactionType
  refundComponent := columns.refundComponent.trans same.refundComponent
  currency := columns.tenderCode.trans same.currency
  manualReference := columns.manualReference.trans same.manualReference
  manualFxQuoteId := columns.manualFxQuoteId.trans same.manualFxQuoteId
  refundOfTransactionId :=
    columns.refundOfTransactionId.trans same.refundOfTransactionId
  refundReason := columns.refundReason.trans same.refundReason
  collectedBefore := columns.collectedBefore.trans same.collectedBefore
  collectedOn := columns.collectedOn.trans same.collectedOn
  priorReceiptNote := columns.priorReceiptNote.trans same.priorReceiptNote
  allocation := by
    have matched := same.allocation
    unfold allocationMatches at matched ⊢
    rw [nights]
    exact matched

/-- Cash handed over, as a receipt compares it. -/
def SameCashReceived (gross : Int) (first second : PaymentRequest) : Prop :=
  if first.paymentMethod = .cash ∧ ¬first.IsRefund then
    effectiveCashReceived first.cashReceivedAmount gross =
      effectiveCashReceived second.cashReceivedAmount gross
  else
    first.cashReceivedAmount = none ∧ second.cashReceivedAmount = none

/-- Nights asked for, as sets. -/
def SameNights (first second : PaymentRequest) : Prop :=
  if first.IsRefund then
    first.companyNightChargeRefundAllocations.toFinset =
      second.companyNightChargeRefundAllocations.toFinset
  else
    first.companyNightChargeIds.toFinset = second.companyNightChargeIds.toFinset

/-- Requests a key does not tell apart, their currencies aside. -/
structure SamePayment (gross : Int) (first second : PaymentRequest) :
    Prop where
  amount : second.amount = first.amount
  cashReceived : SameCashReceived gross first second
  cashTip : second.cashTipAmount = first.cashTipAmount
  paymentMethod : second.paymentMethod = first.paymentMethod
  transactionType : second.transactionType = first.transactionType
  refundComponent : second.refundComponent = first.refundComponent
  manualReference : second.manualReference = first.manualReference
  manualFxQuoteId : second.manualFxQuoteId = first.manualFxQuoteId
  refundOfTransactionId : second.refundOfTransactionId = first.refundOfTransactionId
  refundReason : second.refundReason = first.refundReason
  collectedBefore : second.collectedBefore = first.collectedBefore
  collectedOn : second.collectedOn = first.collectedOn
  priorReceiptNote : second.priorReceiptNote = first.priorReceiptNote
  nights : SameNights first second

theorem SameIdempotentPayment.samePayment {first second : PaymentRequest}
    {firstCurrency secondCurrency : String}
    (left : SameIdempotentPayment ledger row first firstCurrency)
    (right : SameIdempotentPayment ledger row second secondCurrency) :
    SamePayment row.grossOrTender first second := by
  have sameMethod : second.paymentMethod = first.paymentMethod :=
    right.paymentMethod.symm.trans left.paymentMethod
  have sameType : second.transactionType = first.transactionType :=
    right.transactionType.symm.trans left.transactionType
  have sameRefund : second.IsRefund ↔ first.IsRefund := by
    unfold PaymentRequest.IsRefund
    rw [sameType]
  exact
    { amount := right.tender.symm.trans left.tender
      cashReceived := by
        have received := left.cashReceipt
        have received' := right.cashReceipt
        unfold cashReceiptMatches at received received'
        unfold SameCashReceived
        simp only [sameMethod, sameRefund] at received'
        split_ifs at received received' ⊢
        · exact received.symm.trans received'
        · exact ⟨received.1, received'.1⟩
      cashTip := right.cashTip.symm.trans left.cashTip
      paymentMethod := sameMethod
      transactionType := sameType
      refundComponent := right.refundComponent.symm.trans left.refundComponent
      manualReference := right.manualReference.symm.trans left.manualReference
      manualFxQuoteId := right.manualFxQuoteId.symm.trans left.manualFxQuoteId
      refundOfTransactionId :=
        right.refundOfTransactionId.symm.trans left.refundOfTransactionId
      refundReason := right.refundReason.symm.trans left.refundReason
      collectedBefore := right.collectedBefore.symm.trans left.collectedBefore
      collectedOn := right.collectedOn.symm.trans left.collectedOn
      priorReceiptNote :=
        right.priorReceiptNote.symm.trans left.priorReceiptNote
      nights := by
        have nights := left.allocation
        have nights' := right.allocation
        unfold allocationMatches at nights nights'
        unfold SameNights
        simp only [sameRefund] at nights'
        split_ifs at nights nights' ⊢
        · exact nights.symm.trans nights'
        · exact nights.symm.trans nights' }

theorem processPayment_recorded
    (processed : processPayment env state call = .ok (after, transaction))
    (isKey : call.idempotencyKey = some key)
    (plain : PlainRefund state call.request) :
    ∃ checked, RequestChecked env state call checked ∧
      after.ledger.transactionByKey call.request.reservationId key = some transaction ∧
      SameIdempotentPayment after.ledger transaction call.request checked.currency := by
  rcases exists_newTransaction processed with ⟨rfl, -⟩ | ⟨⟨written⟩⟩
  · obtain ⟨checked, isChecked, ⟨used, isUsed, found, same, -⟩ |
      ⟨newKey, draft, drafted, wrote⟩⟩ := processPayment_eq_ok processed
    · obtain rfl := Option.some.inj (isUsed.symm.trans isKey)
      exact ⟨checked, checkRequest_eq_ok.mp isChecked, found, same⟩
    · obtain ⟨settled, movements, flushed, -⟩ := writePayment_eq_ok wrote
      have longer := congrArg List.length flushed.transactions
      simp at longer
  · refine ⟨written.checked, checkRequest_eq_ok.mp written.isChecked, ?_,
      written.sameIdempotentPayment plain⟩
    unfold Ledger.transactionByKey
    rw [written.flushed.transactions, ← written.isDraft, List.find?_cons_of_pos]
    rw [decide_eq_true_eq, written.columns.reservationId, written.columns.idempotencyKey]
    exact ⟨rfl, isKey⟩

/-- A call under a recorded key returns the stored row and changes nothing. -/
theorem processPayment_of_transactionByKey (passed : RequestChecked env state call checked)
    (isKey : call.idempotencyKey = some key)
    (found : state.ledger.transactionByKey call.request.reservationId key = some transaction)
    (same : SameIdempotentPayment state.ledger transaction call.request checked.currency) :
    processPayment env state call = .ok (state, transaction) := by
  unfold processPayment
  rw [checkRequest_eq_ok.mpr passed]
  apply bind_eq_ok.mpr
  refine ⟨checked, rfl, ?_⟩
  simp only [isKey, Option.bind_some, found]
  apply bind_eq_ok.mpr
  exact ⟨(), raiseIf_eq_ok.mpr (not_not.mpr same), rfl⟩

theorem eq_of_transactionByKey {stored : Transaction}
    (processed : processPayment env state call = .ok (after, transaction))
    (isKey : call.idempotencyKey = some key)
    (found : state.ledger.transactionByKey call.request.reservationId key = some stored) :
    after = state ∧ transaction = stored ∧ ∃ checked, RequestChecked env state call checked ∧
        SameIdempotentPayment state.ledger stored call.request checked.currency := by
  obtain ⟨checked, isChecked, ⟨used, isUsed, foundUsed, same, unchanged⟩ |
    ⟨newKey, -⟩⟩ := processPayment_eq_ok processed
  · obtain rfl := Option.some.inj (isUsed.symm.trans isKey)
    obtain rfl := Option.some.inj (foundUsed.symm.trans found)
    exact ⟨unchanged, rfl, checked, checkRequest_eq_ok.mp isChecked, same⟩
  · rw [isKey, Option.bind_some, found] at newKey
    cases newKey

/-- In every later state the transaction an accepted call left under its key
answers the same request, without any change, while the request's quote is
valid; and any call under that key that succeeds is answered by it without
any change and agrees with the accepted request. -/
theorem processPayment_idempotent {key : String} {later : PaymentState}
    (processed : processPayment env state call = .ok (after, transaction))
    (isKey : call.idempotencyKey = some key)
    (plain : PlainRefund state call.request)
    (reached : LaterState after later) :
    ∃ stored reservation, later.reservations call.request.reservationId = some reservation ∧
      SameRequestColumns transaction stored ∧
      (∀ laterEnv again, Resubmits call again -> QuoteStillValid env laterEnv call.request ->
        processPayment laterEnv later again = .ok (later, stored)) ∧
      (∀ otherEnv other finish result, other.idempotencyKey = some key ->
        other.request.reservationId = call.request.reservationId ->
        processPayment otherEnv later other = .ok (finish, result) ->
        finish = later ∧ result = stored ∧
          resolvePaymentCurrency reservation other.request.currency =
            resolvePaymentCurrency reservation call.request.currency ∧
          SamePayment stored.grossOrTender call.request other.request) := by
  obtain ⟨checked, passed, found, same⟩ := processPayment_recorded processed isKey plain
  have kept := (processPayment_historyKept processed).trans reached.historyKept
  obtain ⟨reservation, isReservation, sameCurrency⟩ := kept.currency _ _ passed.stored
  obtain ⟨stored, isStored, columns, nights⟩ := reached.historyKept.keyed _ _ _ found
  have answers := same.kept columns nights
  refine ⟨stored, reservation, isReservation, columns, ?_, ?_⟩
  · intro laterEnv again resubmits valid
    have passedAgain := passed.again resubmits isReservation sameCurrency kept.hotelId valid
    apply processPayment_of_transactionByKey passedAgain (resubmits.idempotencyKey.trans isKey)
    · rw [resubmits.request]
      exact isStored
    · rw [resubmits.request]
      exact answers
  · intro otherEnv other finish result otherKey otherReservation succeeded
    rw [← otherReservation] at isStored isReservation
    obtain ⟨unchanged, isResult, otherChecked, otherPassed, otherSame⟩ :=
      eq_of_transactionByKey succeeded otherKey isStored
    refine ⟨unchanged, isResult, ?_, answers.samePayment otherSame⟩
    obtain rfl :=
      Option.some.inj (otherPassed.stored.symm.trans isReservation)
    rw [otherPassed.currency, resolvePaymentCurrency_congr sameCurrency,
      passed.currency, ← otherSame.currency, ← answers.currency]

end

/-- Terms of a card payment without surcharge. -/
def cardQuote : QuotePayload where
  hotelId := 1
  reservationId := 7
  paymentMethod := .creditCard
  currencyCode := "ARS"
  reservationCurrencyCode := "ARS"
  baseAmount := 2000
  appliedAmount := 2000
  paymentFxRate := 1
  surchargeQuoteSnapshot :=
    { paymentMethod := .creditCard, currencyCode := "ARS" }
  exp := 900

/-- An environment in which one token verifies. -/
def quotedEnvironment (now : Int) : PaymentEnvironment where
  now := now
  today := 0
  decodeToken := fun token => if token = "firma" then some cardQuote else none
  conversionRate := fun _ _ => .error "sin cotización"
  floatValue := id

def quotedPayment : PaymentCall where
  request :=
    { reservationId := 7, amount := 2000, paymentMethod := .creditCard
      transactionType := .partialPayment, paymentQuoteToken := some "firma" }
  idempotencyKey := some "cobro-1"
  manualConfirmation := true

def cashPayment (received : Option Int) : PaymentCall where
  request :=
    { reservationId := 7, amount := 2000, cashReceivedAmount := received, paymentMethod := .cash
      transactionType := .partialPayment }
  idempotencyKey := some "cobro-2"

/-- The direct reservation with an open drawer. -/
def drawerState : PaymentState :=
  stateOf { id := 7, totalAmount := 10000 } [{ id := 1, currencyCode := "ARS" }]

/-- A quoted payment is not replayed once its quote has expired, and a cash
payment without the cash handed over is replayed for the exact amount. -/
theorem replays_not_exact :
    (∃ first, processPayment (quotedEnvironment 0) (directState 0 (by decide))
          quotedPayment = .ok first ∧
        (processPayment (quotedEnvironment 901) first.1 quotedPayment).isOk = false) ∧
      ∃ first, processPayment quietEnvironment drawerState (cashPayment none) = .ok first ∧
          (processPayment quietEnvironment first.1 (cashPayment (some 2000))).isOk = true := by
  constructor
  · exact exists_ok_of_isOk (by decide +kernel) (by decide +kernel)
  · exact exists_ok_of_isOk (by decide +kernel) (by decide +kernel)

theorem processPayment_idempotent_sample :
    ∃ first, processPayment (quotedEnvironment 0) (directState 0 (by decide))
          quotedPayment = .ok first ∧
        ∃ stored, SameRequestColumns first.2 stored ∧
          processPayment (quotedEnvironment 900) first.1 quotedPayment = .ok (first.1, stored) := by
  have succeeds : (processPayment (quotedEnvironment 0)
      (directState 0 (by decide)) quotedPayment).isOk = true := by
    decide +kernel
  cases processed : processPayment (quotedEnvironment 0)
      (directState 0 (by decide)) quotedPayment with
  | error message =>
    rw [processed] at succeeds
    cases succeeds
  | ok first =>
    have plain : PlainRefund (directState 0 (by decide)) quotedPayment.request := by
      constructor
      · intro source member
        cases member
      · intro credit
        exact absurd credit (by decide)
    have valid : QuoteStillValid (quotedEnvironment 0)
        (quotedEnvironment 900) quotedPayment.request := by
      intro token payload isToken decoded
      cases isToken
      cases decoded
      exact ⟨rfl, by decide⟩
    obtain ⟨stored, -, -, columns, replays, -⟩ :=
      processPayment_idempotent processed (rfl : _ = some "cobro-1") plain .refl
    exact ⟨first, rfl, stored, columns, replays _ _ ⟨rfl, rfl, rfl, rfl, rfl⟩ valid⟩

end HotelPms.Payments
