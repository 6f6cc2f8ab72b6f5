import HotelPms.Payments.Amounts

/-!
# Processing a payment

The financial engine: one call validates a payment or a refund against the
confirmed ledger, writes its transaction with the night allocations and the
cash movements that belong to it, and refreshes the reservation.  A call that
raises writes nothing.
-/

namespace HotelPms.Payments

open Checked Decimal Hotel

section

variable (env : PaymentEnvironment) (state : PaymentState)
  (call : PaymentCall) (checked : CheckedRequest)

/-! ## Validation of a new payment -/

/-- Provenance a manual authorization is documented with. -/
def manualFxQuoteDetails (quote : ManualFxPaymentQuote) : FxQuoteDetails where
  manualFxQuoteId := some quote.id
  entries := quote.provenance

/-- The manual authorization a request uses, still free and matching. -/
def manualAuthorization : Except String (Option ManualFxPaymentQuote) :=
  match call.request.manualFxQuoteId with
  | none => pure none
  | some quoteId => do
    raiseIf (textGiven call.request.paymentQuoteToken = false ∨
        call.request.IsRefund ∨ call.request.collectedBefore = true)
      ("La autorización manual solo se admite en un cobro nuevo " ++ "cotizado.")
    match state.manualQuotes.find? fun quote =>
        decide (quote.id = quoteId ∧ quote.reservationId = call.request.reservationId) with
    | none =>
      throw ("El importe manual ya fue usado o reemplazado. Solicitá " ++ "una nueva autorización.")
    | some quote => do
      raiseIf (quote.consumedAt ≠ none ∨ quote.supersededAt ≠ none)
        ("El importe manual ya fue usado o reemplazado. Solicitá una " ++ "nueva autorización.")
      raiseIf (quote.paymentMethod ≠ call.request.paymentMethod ∨
          quote.tenderCurrencyCode ≠ checked.currency ∨
          quote.reservationCurrencyCode ≠ checked.reservation.currency ∨
          quote.tenderAmount ≠ call.request.amount ∨
          some quote.reservationAmount ≠ checked.quote.map QuotePayload.appliedAmount ∨
          checked.quote.map QuotePayload.surchargeQuoteSnapshot ≠ quote.surchargeQuoteSnapshot)
        ("La autorización manual no coincide con el medio, moneda o " ++ "importe aprobado.")
      pure (some quote)

def frozenRate (manual : Option ManualFxPaymentQuote) : Option FrozenRate :=
  match manual with
  | some quote =>
    some
      { rate := inContext
          ((quote.reservationAmount : ℚ) / quote.tenderAmount)
        details := some (manualFxQuoteDetails quote) }
  | none =>
    checked.quote.map fun payload =>
      { rate := payload.paymentFxRate, details := payload.paymentFxQuoteDetails }

/-- Source payment of a refund; a payment names none. -/
def sourceOfCall : Except String (Option Transaction) := do
  let request := call.request
  raiseIf (textGiven request.manualReference = true ∧ (request.IsRefund ∨ request.paymentMethod ∉
        [PaymentMethod.creditCard, .debitCard, .bankTransfer]))
    ("Las referencias manuales solo se admiten para pagos presenciales con " ++
      "tarjeta o débito, y para transferencias bancarias.")
  raiseIf (¬request.IsRefund ∧ (request.refundOfTransactionId ≠ none ∨ request.refundReason ≠ none))
    ("El pago original y el motivo solo se admiten al registrar una " ++ "devolución.")
  if request.IsRefund then do
    let source ← refundSource state.ledger request checked.currency
    pure (some source)
  else pure none

/-- Conversion of the tender: a credit refund applies nothing. -/
def convertTender (frozen : Option FrozenRate)
    (source : Option Transaction) : Except String AppliedAmount :=
  match source with
  | some payment =>
    if call.request.refundComponent = .roundingCredit then
      pure
        { amount := 0
          fxRateSnapshot := payment.fxRateSnapshot
          fxQuoteDetails := some
            { payment.fxQuoteDetails.getD {} with
              refundUsesRoundingCredit := true } }
    else resolveAppliedPaymentAmount env checked.reservation
      call.request.amount checked.currency (some payment) frozen
  | none => resolveAppliedPaymentAmount env checked.reservation
      call.request.amount checked.currency none frozen

/-- Amount applied to the reservation, as it was quoted. -/
def appliedOfCall (frozen : Option FrozenRate)
    (source : Option Transaction) : Except String AppliedAmount := do
  raiseIf (call.request.collectedBefore = true ∧ checked.currency ≠ checked.reservation.currency)
    ("Un cobro previo en otra moneda requiere la cotización vigente en la " ++
      "fecha original. Registralo en la moneda de la reserva hasta contar " ++
      "con esa cotización histórica.")
  let applied ← convertTender env call checked frozen source
  raiseIf ((checked.quote.any (applied.amount ≠ ·.appliedAmount)) = true)
    ("La cotización guardada ya no coincide con el importe aplicado. " ++ "Volvé a cotizar.")
  pure applied

/-- Nights of a principal refund.  A selection that differs from the converted
amount by at most a cent replaces it. -/
def refundNights (source : Transaction) (applied : Int) :
    Except String (Int × List (Int × Int)) := do
  let plan ← prepareCompanyNightChargeRefund state.ledger state.nightCharges
    checked.reservation source applied
    call.request.companyNightChargeRefundAllocations
  match plan with
  | none => pure (applied, [])
  | some nights =>
    let total := (nights.map Prod.snd).sum
    pure (if nights ≠ [] ∧ |total - applied| ≤ 1 then total else applied, nights)

/-- Applied amount after the night selection, with the nights it covers. -/
def nightsOfCall (source : Option Transaction) (applied : Int) :
    Except String (Int × List (Int × Int)) :=
  match source with
  | some source =>
    if call.request.refundComponent = .roundingCredit then
      pure (applied, [])
    else refundNights state call checked source applied
  | none => do
    let nights ← prepareCompanyNightChargePayment state.ledger
      state.nightCharges checked.reservation env.today applied
      checked.currency call.request.companyNightChargeIds
    pure (applied, nights)

def duplicateManualReference : Bool :=
  textGiven call.request.manualReference && state.ledger.transactions.any fun row =>
      row.paymentMethod = call.request.paymentMethod ∧
        row.manualReference.map String.toLower = call.request.manualReference.map String.toLower ∧
        row.status ≠ .cancelled

/-- A gateway settlement that arrived after the cancellation. -/
def verifiedLateSettlement : Bool :=
  call.allowVerifiedCancelledSettlement &&
    decide (checked.reservation.status = .cancelled) && call.gatewayResponse.any fun response =>
        response.success && textGiven response.externalPaymentId

/-- The reservation, its company and the method accept the payment. -/
def checkCollectable (nights : List (Int × Int)) : Except String Unit := do
  let request := call.request
  raiseIf (¬request.IsRefund ∧ (checked.reservation.settlementStatus = "deferred" ∨
        (checked.reservation.companyId.any fun companyId =>
          state.companies.any fun company =>
            decide (company.id = companyId) && company.paymentDeferred) = true) ∧
      (request.companyNightChargeIds = [] ∨ nights = []))
    ("La factura diferida de la empresa se registra fuera del PMS; solo se " ++
      "pueden cobrar adicionales por noche seleccionados.")
  raiseIf (call.manualConfirmation = true ∧ duplicateManualReference state call = true)
    ("Esta referencia de pago manual ya está registrada para esta " ++ "reserva.")
  raiseIf (¬request.IsRefund ∧
      (checked.reservation.status = .checkedOut ∨ checked.reservation.status = .cancelled) ∧
      verifiedLateSettlement call checked = false)
    ("No se puede registrar un pago para una reserva en estado «" ++
      (if checked.reservation.status = .cancelled then "cancelled"
        else "checked_out") ++ "».")
  raiseIf (request.paymentMethod ∉ state.config.enabledMethods)
    ("El medio de pago '" ++ request.paymentMethod.value ++ "' está deshabilitado.")

def frozenSurcharge : Option SurchargeQuoteSnapshot :=
  (checked.quote.map QuotePayload.surchargeQuoteSnapshot).or call.surchargeQuoteSnapshot

/-- Surcharge of a live collection. -/
def surchargeOfCall : Except String SurchargeInfo :=
  let request := call.request
  if call.applySurcharge = true ∧ ¬request.IsRefund ∧ request.collectedBefore = false then
    calculatePaymentSurcharge env state.surcharges request.paymentMethod
      request.amount checked.currency (frozenSurcharge call checked)
  else pure { amount := 0 }

/-- Confirmed ledger a payment is validated against. -/
def ledgerPaid : Int :=
  checked.reservation.paidAmountWithLegacyFallback state.ledger

/-- Validate against the confirmed transaction ledger. -/
def checkBalance (applied : Int) : Except String Unit :=
  let paid := ledgerPaid state checked
  if call.request.IsRefund then
    raiseIf (paid < applied) ("El importe de la devolución ($" ++ formatAmount applied ++
        ") supera el total pagado ($" ++ formatAmount paid ++ ").")
  else do
    let balance :=
      checked.reservation.operationalBalanceDue state.adjustments paid
    raiseIf (balance < applied) ("El importe del pago ($" ++ formatAmount applied ++
        ") supera el saldo pendiente ($" ++ formatAmount balance ++ ").")
    raiseIf (call.request.transactionType = .fullPayment ∧ 0 < balance - applied)
      ("El pago total debe cubrir el saldo pendiente ($" ++ formatAmount balance ++ ").")

/-- Cash and confirmed manual proofs are complete at once; a gateway decides
for itself. -/
def transactionStatus : TransactionStatus :=
  match call.gatewayResponse with
  | some response => if response.success then .completed else .failed
  | none =>
    if call.request.paymentMethod = .cash ∨ call.manualConfirmation = true then .completed
    else .pending

/-- Cash receipt of a completed collection in cash. -/
def receiptOfCall (gross : Int) (frozen : Option FrozenRate)
    (fxRateSnapshot : Option ℚ) : Except String (Option CashReceipt) := do
  let request := call.request
  raiseIf (request.cashReceivedAmount ≠ none ∧ transactionStatus call ≠ .completed)
    "El efectivo entregado solo se registra para cobros completados."
  if request.paymentMethod = .cash ∧ ¬request.IsRefund ∧ call.captureCashReceipt = true ∧
      transactionStatus call = .completed then do
    let receipt ← cashReceipt env state checked request gross frozen fxRateSnapshot
    pure (some receipt)
  else pure none

/-- Every drawer the payment moves is open. -/
def checkDrawers (receipt : Option CashReceipt) : Except String Unit :=
  if call.request.paymentMethod = .cash ∧ call.request.collectedBefore = false then
    (cashCurrencies checked.currency receipt).forM fun currency => do
      let _ ← requireOpenSessionForCurrency state.cashSessions currency
      pure ()
  else pure ()

/-- Provenance stored with the transaction. -/
def storedDetails (details : Option FxQuoteDetails) (receipt : Option CashReceipt)
    (surcharge : SurchargeInfo) : Option FxQuoteDetails :=
  let changed := match receipt with
    | some receipt =>
      { details.getD {} with
        cashChangeQuote := some
          { fromCurrency := checked.currency, toCurrency := receipt.settledCurrency
            rate := receipt.rate } }
    | none => details.getD {}
  let frozen :=
    (frozenSurcharge call checked).bind SurchargeQuoteSnapshot.surchargeFxQuoteDetails
  let surcharged :=
    if surcharge.fxQuoteDetails.getD [] ≠ [] then
      { changed with paymentSurchargeConversion := surcharge.fxQuoteDetails }
    else if frozen.getD [] ≠ [] then
      { changed with paymentSurchargeQuote := frozen }
    else changed
  if surcharged = {} then none else some surcharged

def transactionOfCall (applied : AppliedAmount) (amount : Int)
    (surcharge : SurchargeInfo) (receipt : Option CashReceipt) : Transaction :=
  let request := call.request
  { id := state.ledger.nextTransactionId
    reservationId := request.reservationId
    amount := amount
    currency := checked.reservation.currency
    tenderAmount := some request.amount
    tenderCurrency := some checked.currency
    cashReceivedAmount := receipt.map CashReceipt.received
    cashChangeAmount := receipt.map CashReceipt.change
    cashChangeSettledAmount := receipt.map CashReceipt.settled
    cashChangeSettledCurrency := receipt.map CashReceipt.settledCurrency
    cashChangeFxRateSnapshot := receipt.bind CashReceipt.rate
    cashTipAmount := (receipt.map CashReceipt.tip).getD 0
    -- No payment issues a rounding credit any more.
    roundingCreditAmount := 0
    creditRefundAmount := if request.IsCreditRefund then request.amount else 0
    refundComponent := request.refundComponent
    grossAmount := some (request.amount + surcharge.amount)
    feeAmount := some surcharge.amount
    fxRateSnapshot := applied.fxRateSnapshot
    fxQuoteDetails := storedDetails call checked applied.fxQuoteDetails receipt surcharge
    transactionType := request.transactionType
    paymentMethod := request.paymentMethod
    status := transactionStatus call
    externalPaymentId :=
      call.gatewayResponse.bind PaymentGatewayResponse.externalPaymentId
    externalStatus :=
      call.gatewayResponse.bind PaymentGatewayResponse.externalStatus
    manualReference := request.manualReference
    refundOfTransactionId := request.refundOfTransactionId
    refundReason := request.refundReason
    collectedBefore := request.collectedBefore
    collectedOn := request.collectedOn
    priorReceiptNote := request.priorReceiptNote
    gatewayResponse :=
      call.gatewayResponse.bind PaymentGatewayResponse.gatewayResponse
    description := request.description
    idempotencyKey := call.idempotencyKey
    createdByUserId := call.actorUserId
    processedAt :=
      if transactionStatus call = .completed then some env.now else none }

/-- A validated payment, ready to be written. -/
structure PaymentDraft where
  transaction : Transaction
  nights : List (Int × Int)
  manualQuote : Option ManualFxPaymentQuote

/-- Validate a call whose key is new. -/
def draftPayment : Except String PaymentDraft := do
  let manual ← manualAuthorization state call checked
  let frozen := frozenRate checked manual
  let source ← sourceOfCall state call checked
  let applied ← appliedOfCall env call checked frozen source
  let (amount, nights) ← nightsOfCall env state call checked source applied.amount
  checkCollectable state call checked nights
  let surcharge ← surchargeOfCall env state call checked
  checkBalance state call checked amount
  let receipt ← receiptOfCall env state call checked
    (call.request.amount + surcharge.amount) frozen applied.fxRateSnapshot
  checkDrawers state call checked receipt
  pure
    { transaction := transactionOfCall env state call checked applied amount
        surcharge receipt
      nights := nights
      manualQuote := manual }

/-! ## Writing a validated payment -/

variable (ledger : Ledger) (transaction : Transaction)

/-- Constraints of the transaction table on a new row. -/
def checkConstraints : Except String Unit := do
  raiseIf (¬transaction.CashReceivedChangeConsistent)
    "ck_transaction_cash_received_change_consistent"
  raiseIf (¬transaction.CashChangeSettlementConsistent)
    "ck_transaction_cash_change_settlement_consistent"
  raiseIf (¬transaction.AmountNonzeroOrCreditRefund)
    "ck_transaction_amount_nonzero_or_credit_refund"
  raiseIf (¬transaction.RoundingCreditFieldsConsistent)
    "ck_transaction_rounding_credit_fields_consistent"
  raiseIf (¬transaction.PriorReceiptConsistent) "ck_transaction_prior_receipt_consistent"
  raiseIf (¬transaction.AmountsFit) "numeric field overflow"
  raiseIf (transaction.manualReference ≠ none ∧ ∃ row ∈ state.ledger.transactions,
        row.paymentMethod = transaction.paymentMethod ∧ row.manualReference.map String.toLower =
            transaction.manualReference.map String.toLower ∧
          row.status ≠ .cancelled)
    "uq_transactions_manual_reference_hotel_method"

/-- Insert a transaction under the next id, with its night allocations. -/
def Ledger.record (isNext : transaction.id = ledger.nextTransactionId)
    (sourceBelow : ∀ source, transaction.refundOfTransactionId = some source ->
        source < ledger.nextTransactionId)
    (nights : List (Int × Int)) : Ledger where
  transactions := transaction :: ledger.transactions
  allocations := (nights.map fun night =>
    { transactionId := transaction.id, companyNightChargeId := night.1
      amount := night.2 }) ++ ledger.allocations
  nextTransactionId := ledger.nextTransactionId + 1
  distinctIds := by
    rw [List.map_cons, List.nodup_cons]
    refine ⟨fun member => ?_, ledger.distinctIds⟩
    obtain ⟨row, rowIn, sameId⟩ := List.mem_map.mp member
    have := ledger.idsBelow row rowIn
    omega
  idsBelow := by
    intro row member
    rcases List.mem_cons.mp member with rfl | old
    · omega
    · have := ledger.idsBelow row old
      omega
  sourcesBelow := by
    intro row member source isSource
    rcases List.mem_cons.mp member with rfl | old
    · have := sourceBelow source isSource
      omega
    · have := ledger.sourcesBelow row old source isSource
      omega
  allocationsBelow := by
    intro row member
    rcases List.mem_append.mp member with new | old
    · obtain ⟨night, -, rfl⟩ := List.mem_map.mp new
      simp only
      omega
    · have := ledger.allocationsBelow row old
      omega

instance (ledger : Ledger) (source : Option Int) :
    Decidable (∀ id, source = some id -> id < ledger.nextTransactionId) :=
  match source with
  | none => .isTrue (by simp)
  | some id => decidable_of_iff (id < ledger.nextTransactionId) (by simp)

/-- Insert the transaction and its night allocations. -/
def flushTransaction (draft : PaymentDraft) : Except String Ledger := do
  checkConstraints state draft.transaction
  if isNext : draft.transaction.id = state.ledger.nextTransactionId then
    if sourceBelow : ∀ source, draft.transaction.refundOfTransactionId = some source ->
          source < state.ledger.nextTransactionId then do
      raiseIf (∃ night ∈ draft.nights, night.2 ≤ 0)
        "ck_company_night_charge_allocations_amount_positive"
      pure (state.ledger.record draft.transaction isNext sourceBelow draft.nights)
    else throw "fk_transactions_refund_source_same_hotel"
  else throw "transactions_pkey"

/-- Post a completed cash transaction to its drawers: what the tender drawer
keeps, and change handed back from another drawer. -/
def recordCashPaymentMovement : Except String (List CashMovement) := do
  let session ← requireOpenSessionForCurrency state.cashSessions transaction.tenderCode
  let changeCurrency := normalizeCurrency
    (transaction.cashChangeSettledCurrency.getD transaction.tenderCode)
  let settledChange := (transaction.cashChangeSettledAmount.or transaction.cashChangeAmount).getD 0
  let crossCurrency := decide (¬transaction.IsRefund ∧ transaction.cashReceivedAmount ≠ none ∧
    changeCurrency ≠ normalizeCurrency transaction.tenderCode ∧
    0 < settledChange)
  let cashAmount :=
    if crossCurrency then transaction.cashReceivedAmount.getD 0
    else transaction.grossOrAmount + transaction.cashTipAmount
  let movement (sessionId : Int) (movementType : CashMovementType) (amount : Int) : CashMovement :=
    { sessionId := sessionId, reservationId := transaction.reservationId
      transactionId := transaction.id, recordedByUserId := call.actorUserId
      movementType := movementType, amount := amount, recordedAt := env.now }
  raiseIf (cashAmount ≤ 0) "El importe del movimiento de caja debe ser mayor que cero"
  let main := movement session.id (if transaction.IsRefund then .expense else .income) cashAmount
  if crossCurrency then do
    let changeSession ← requireOpenSessionForCurrency state.cashSessions changeCurrency
    pure [main, movement changeSession.id .expense settledChange]
  else pure [main]

/-- Reservation after a completed payment. -/
def settleReservation : Except String ReservationFinancials := do
  let updated ← checked.reservation.updateFinancials ledger state.adjustments
  pure (if verifiedLateSettlement call checked then
    { updated with requiresManualReview := true, settlementStatus := "review_cancellation" }
  else updated)

/-- The manual authorization is spent on the transaction. -/
def consumeManualQuote (manual : Option ManualFxPaymentQuote) (transactionId : Int) :
    List ManualFxPaymentQuote :=
  match manual with
  | none => state.manualQuotes
  | some used => state.manualQuotes.map fun quote =>
    if quote.id = used.id then
      { quote with consumedTransactionId := some transactionId, consumedAt := some env.now }
    else quote

/-- Cash movements of a completed transaction. -/
def movementsOfCall : Except String (List CashMovement) :=
  if call.request.paymentMethod = .cash ∧ call.request.collectedBefore = false then
    recordCashPaymentMovement env state call transaction
  else pure []

/-- Reservation columns and cash movements of a transaction. -/
def settleTransaction : Except String (ReservationFinancials × List CashMovement) :=
  if transaction.status = .completed then do
    let settled ← settleReservation state call checked ledger
    let movements ← movementsOfCall env state call transaction
    pure (settled, movements)
  else pure (checked.reservation, [])

end

def PaymentState.storeReservation (state : PaymentState) (reservation : ReservationFinancials) :
    PaymentState :=
  { state with
    reservations := Function.update state.reservations reservation.id (some reservation)
    ownIds := by
      intro id stored found
      by_cases same : id = reservation.id
      · subst same
        rw [Function.update_self] at found
        rw [← Option.some.inj found]
      · rw [Function.update_of_ne same] at found
        exact state.ownIds id stored found }

def writePayment (env : PaymentEnvironment) (state : PaymentState)
    (call : PaymentCall) (checked : CheckedRequest)
    (draft : PaymentDraft) : Except String (PaymentState × Transaction) := do
  let ledger ← flushTransaction state draft
  let (settled, movements) ← settleTransaction env state call checked ledger draft.transaction
  pure ({ state.storeReservation settled with
        ledger := ledger
        cashMovements := state.cashMovements ++ movements
        manualQuotes := consumeManualQuote env state draft.manualQuote draft.transaction.id },
      draft.transaction)

def processPayment (env : PaymentEnvironment) (state : PaymentState)
    (call : PaymentCall) : Except String (PaymentState × Transaction) := do
  let checked ← checkRequest env state call
  match call.idempotencyKey.bind (state.ledger.transactionByKey call.request.reservationId) with
  | some existing =>
    raiseIf (¬SameIdempotentPayment state.ledger existing call.request checked.currency)
      ("La clave de idempotencia ya se usó para una solicitud de pago " ++ "diferente.")
    pure (state, existing)
  | none => do
    let draft ← draftPayment env state call checked
    writePayment env state call checked draft

section

variable {env : PaymentEnvironment} {state after : PaymentState}
  {call : PaymentCall} {checked : CheckedRequest} {transaction : Transaction}

theorem processPayment_eq_ok
    (processed : processPayment env state call = .ok (after, transaction)) :
    ∃ checked, checkRequest env state call = .ok checked ∧ ((∃ key, call.idempotencyKey = some key ∧
          state.ledger.transactionByKey call.request.reservationId key = some transaction ∧
          SameIdempotentPayment state.ledger transaction call.request checked.currency ∧
          after = state) ∨
        (call.idempotencyKey.bind
            (state.ledger.transactionByKey call.request.reservationId) = none ∧
          ∃ draft, draftPayment env state call checked = .ok draft ∧
            writePayment env state call checked draft = .ok (after, transaction))) := by
  obtain ⟨checked, isChecked, processed⟩ := bind_eq_ok.mp processed
  refine ⟨checked, isChecked, ?_⟩
  split at processed
  · next existing found =>
    obtain ⟨key, isKey, found⟩ := Option.bind_eq_some_iff.mp found
    obtain ⟨_, same, result⟩ := bind_eq_ok.mp processed
    cases pure_eq_ok.mp result
    exact .inl ⟨key, isKey, found, not_not.mp (raiseIf_eq_ok.mp same), rfl⟩
  · next absent =>
    obtain ⟨draft, drafted, written⟩ := bind_eq_ok.mp processed
    exact .inr ⟨absent, draft, drafted, written⟩

theorem draftPayment_eq_ok {draft : PaymentDraft}
    (drafted : draftPayment env state call checked = .ok draft) :
    ∃ manual source applied amount nights surcharge receipt,
      manualAuthorization state call checked = .ok manual ∧
      sourceOfCall state call checked = .ok source ∧
      appliedOfCall env call checked (frozenRate checked manual) source = .ok applied ∧
      nightsOfCall env state call checked source applied.amount = .ok (amount, nights) ∧
      checkBalance state call checked amount = .ok () ∧
      receiptOfCall env state call checked
        (call.request.amount + surcharge.amount) (frozenRate checked manual)
        applied.fxRateSnapshot = .ok receipt ∧
      draft =
        { transaction := transactionOfCall env state call checked applied
            amount surcharge receipt
          nights := nights
          manualQuote := manual } := by
  unfold draftPayment at drafted
  simp only [bind_eq_ok, pure_eq_ok] at drafted
  obtain ⟨manual, isManual, source, isSource, applied, isApplied, ⟨amount, nights⟩, areNights, -, -,
    surcharge, -, _, balance, receipt, isReceipt, -, -, rfl⟩ := drafted
  exact ⟨manual, source, applied, amount, nights, surcharge, receipt, isManual,
    isSource, isApplied, areNights, balance, isReceipt, rfl⟩

/-- A flushed draft is the newest row of the ledger. -/
structure Flushed
    (before : Ledger) (draft : PaymentDraft) (ledger : Ledger) : Prop where
  isNext : draft.transaction.id = before.nextTransactionId
  amount : draft.transaction.AmountNonzeroOrCreditRefund
  credit : draft.transaction.RoundingCreditFieldsConsistent
  cash : draft.transaction.CashReceivedChangeConsistent
  transactions : ledger.transactions = draft.transaction :: before.transactions
  allocations : ledger.allocations = (draft.nights.map fun night =>
    { transactionId := draft.transaction.id, companyNightChargeId := night.1
      amount := night.2 }) ++ before.allocations

theorem flushTransaction_eq_ok {draft : PaymentDraft} {ledger : Ledger}
    (flushed : flushTransaction state draft = .ok ledger) :
    Flushed state.ledger draft ledger := by
  obtain ⟨_, constraints, flushed⟩ := bind_eq_ok.mp flushed
  split_ifs at flushed with isNext sourceBelow
  obtain ⟨-, -, recorded⟩ := bind_eq_ok.mp flushed
  cases recorded
  unfold checkConstraints at constraints
  simp only [bind_eq_ok, raiseIf_eq_ok, not_not] at constraints
  obtain ⟨_, cash, _, -, _, amount, _, credit, -⟩ := constraints
  exact
    { isNext := isNext, amount := amount, credit := credit, cash := cash, transactions := rfl
      allocations := rfl }

theorem writePayment_eq_ok {draft : PaymentDraft}
    (written : writePayment env state call checked draft = .ok (after, transaction)) :
    ∃ settled movements, Flushed state.ledger draft after.ledger ∧
      settleTransaction env state call checked after.ledger
        draft.transaction = .ok (settled, movements) ∧
      transaction = draft.transaction ∧
      after.reservations = Function.update state.reservations settled.id (some settled) ∧
      after.adjustments = state.adjustments ∧
      after.hotelId = state.hotelId := by
  unfold writePayment at written
  simp only [bind_eq_ok, pure_eq_ok] at written
  obtain ⟨ledger, flushed, ⟨settled, movements⟩, isSettled, result⟩ := written
  cases result
  exact ⟨settled, movements, flushTransaction_eq_ok flushed, isSettled, rfl, rfl, rfl, rfl⟩

end

end HotelPms.Payments
