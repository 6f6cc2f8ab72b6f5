import HotelPms.Foundation.Checked
import HotelPms.Foundation.Decimal
import HotelPms.Foundation.Text
import HotelPms.Hotel.State
import Mathlib.Algebra.BigOperators.Group.List.Basic

/-!
# Transactions and the confirmed ledger

The transaction rows of one hotel, the financial columns of its reservations,
and the read helpers that turn them into paid amounts and balances.  Money is
counted in cents; rates are rationals.
-/

namespace HotelPms.Payments

open Checked Hotel

/-- Tender of a transaction. -/
inductive PaymentMethod
  | cash
  | mercadoPago
  | paypal
  | creditCard
  | debitCard
  | bankTransfer
  deriving DecidableEq

inductive TransactionStatus
  | pending
  | completed
  | failed
  | refunded
  | cancelled
  deriving DecidableEq

inductive TransactionType
  | deposit
  | fullPayment
  | partialPayment
  | balancePayment
  | refund
  deriving DecidableEq

inductive RefundComponent
  | payment
  | roundingCredit
  deriving DecidableEq

structure CashChangeQuote where
  fromCurrency : String
  toCurrency : String
  rate : Option ℚ
  deriving DecidableEq

/-- Keys and texts a market quote is documented with. -/
abbrev Provenance := List (String × String)

/-- Provenance of a conversion, as stored with a transaction.  The keys no
payment rule reads are kept as text. -/
structure FxQuoteDetails where
  manualFxQuoteId : Option Int := none
  entries : Provenance := []
  refundUsesOriginalQuote : Bool := false
  refundUsesRoundingCredit : Bool := false
  cashChangeQuote : Option CashChangeQuote := none
  paymentSurchargeConversion : Option Provenance := none
  paymentSurchargeQuote : Option Provenance := none
  deriving DecidableEq

/-- The authorization an optional provenance names. -/
def manualFxQuoteIdOf (details : Option FxQuoteDetails) : Option Int :=
  details.bind FxQuoteDetails.manualFxQuoteId

/-- A money movement of a reservation. -/
structure Transaction where
  id : Int
  reservationId : Int
  amount : Int
  currency : String
  tenderAmount : Option Int
  tenderCurrency : Option String
  cashReceivedAmount : Option Int := none
  cashChangeAmount : Option Int := none
  cashChangeSettledAmount : Option Int := none
  cashChangeSettledCurrency : Option String := none
  cashChangeFxRateSnapshot : Option ℚ := none
  cashTipAmount : Int := 0
  roundingCreditAmount : Int := 0
  creditRefundAmount : Int := 0
  refundComponent : RefundComponent := .payment
  grossAmount : Option Int
  feeAmount : Option Int := none
  fxRateSnapshot : Option ℚ := none
  fxQuoteDetails : Option FxQuoteDetails := none
  transactionType : TransactionType
  paymentMethod : PaymentMethod
  status : TransactionStatus
  externalPaymentId : Option String := none
  externalStatus : Option String := none
  manualReference : Option String := none
  refundOfTransactionId : Option Int := none
  refundReason : Option String := none
  collectedBefore : Bool := false
  collectedOn : Option Int := none
  priorReceiptNote : Option String := none
  gatewayResponse : Option String := none
  description : Option String := none
  idempotencyKey : Option String := none
  createdByUserId : Option Int := none
  processedAt : Option Int := none
  deriving DecidableEq

/-- Part of a transaction assigned to a company night. -/
structure NightAllocation where
  transactionId : Int
  companyNightChargeId : Int
  amount : Int

namespace Transaction

variable (transaction : Transaction)

def IsRefund : Prop :=
  transaction.transactionType = .refund
deriving Decidable

/-- Amount in the tender currency; legacy rows only have the applied one. -/
def tender : Int :=
  transaction.tenderAmount.getD transaction.amount

/-- Currency of the tender; legacy rows only have the applied one. -/
def tenderCode : String :=
  transaction.tenderCurrency.getD transaction.currency

def IsPrincipalRefundOf (sourceId : Int) : Prop :=
  transaction.refundOfTransactionId = some sourceId ∧ transaction.IsRefund ∧
    transaction.refundComponent = .payment ∧ transaction.status = .completed
deriving Decidable

/-- Confirmed refund of the rounding credit of a source payment. -/
def IsCreditRefundOf (sourceId : Int) : Prop :=
  transaction.refundOfTransactionId = some sourceId ∧ transaction.IsRefund ∧
    transaction.refundComponent = .roundingCredit ∧
    transaction.status = .completed
deriving Decidable

/-- Tender of a payment that can be refunded as principal: the issued rounding
credit is a separate liability. -/
def principalTender : Int :=
  max 0 (transaction.tender - transaction.roundingCreditAmount)

/-- A completed-ledger transaction with refunds represented as negative. -/
def signedAmount : Int :=
  if transaction.IsRefund then -transaction.amount else transaction.amount

def grossOrAmount : Int :=
  transaction.grossAmount.getD transaction.amount

/-! The check constraints of the table. -/

def CashReceivedChangeConsistent : Prop :=
  match transaction.cashReceivedAmount, transaction.cashChangeAmount with
  | none, none => transaction.cashTipAmount = 0
  | some received, some change =>
    0 < received ∧ 0 ≤ change ∧ change ≤ received ∧ transaction.grossOrAmount ≤ received ∧
      0 ≤ transaction.cashTipAmount ∧
      transaction.cashTipAmount ≤ received - transaction.grossOrAmount ∧
      change = received - transaction.grossOrAmount - transaction.cashTipAmount ∧
      transaction.paymentMethod = .cash ∧ ¬transaction.IsRefund
  | _, _ => False

def CashChangeSettlementConsistent : Prop :=
  match transaction.cashReceivedAmount, transaction.cashChangeSettledAmount,
      transaction.cashChangeSettledCurrency with
  | none, none, none => transaction.cashChangeFxRateSnapshot = none
  | some _, some settled, some currency =>
    currency = currency.toUpper ∧ currency.length = 3 ∧ 0 ≤ settled ∧
      ((transaction.cashChangeAmount = some 0 ∧ settled = 0 ∧
          (transaction.cashChangeFxRateSnapshot.all (0 < ·)) = true) ∨
        ((transaction.cashChangeAmount.any (0 < ·)) = true ∧
          (transaction.cashChangeFxRateSnapshot.any fun rate => 0 < rate ∧ Decimal.roundHalfUp
                ((transaction.cashChangeAmount.getD 0) * rate) = settled) = true)) ∧
      transaction.paymentMethod = .cash ∧ ¬transaction.IsRefund
  | _, _, _ => False

def AmountNonzeroOrCreditRefund : Prop :=
  transaction.amount ≠ 0 ∨ (transaction.IsRefund ∧ transaction.refundComponent = .roundingCredit ∧
    0 < transaction.creditRefundAmount)
deriving Decidable

def RoundingCreditFieldsConsistent : Prop :=
  0 ≤ transaction.roundingCreditAmount ∧ 0 ≤ transaction.creditRefundAmount ∧
    (transaction.roundingCreditAmount = 0 ∨ ¬transaction.IsRefund) ∧
    ((transaction.refundComponent = .payment ∧ transaction.creditRefundAmount = 0) ∨
      (transaction.refundComponent = .roundingCredit ∧ transaction.IsRefund ∧
        transaction.amount = 0 ∧ 0 < transaction.creditRefundAmount ∧
        transaction.tenderAmount = some transaction.creditRefundAmount))
deriving Decidable

def PriorReceiptConsistent : Prop :=
  (transaction.collectedBefore = false ∧ transaction.collectedOn = none ∧
      transaction.priorReceiptNote = none) ∨
    (transaction.collectedBefore = true ∧ transaction.collectedOn ≠ none ∧
      transaction.priorReceiptNote ≠ none ∧
      transaction.paymentMethod = .cash ∧ ¬transaction.IsRefund ∧
      transaction.status = .completed)
deriving Decidable

/-- Amount columns hold ten digits before the point. -/
def AmountsFit : Prop :=
  ∀ amount ∈ [some transaction.amount, transaction.tenderAmount,
      transaction.cashReceivedAmount, transaction.cashChangeAmount,
      transaction.cashChangeSettledAmount, some transaction.cashTipAmount,
      some transaction.creditRefundAmount, transaction.grossAmount,
      transaction.feeAmount].reduceOption, |amount| < 10 ^ 12
deriving Decidable

instance (transaction : Transaction) : Decidable transaction.CashReceivedChangeConsistent := by
  unfold CashReceivedChangeConsistent
  split <;> infer_instance

instance (transaction : Transaction) : Decidable transaction.CashChangeSettlementConsistent := by
  unfold CashChangeSettlementConsistent
  split <;> infer_instance

end Transaction

/-- Transaction and allocation rows with their foreign keys. -/
structure Ledger where
  transactions : List Transaction := []
  allocations : List NightAllocation := []
  nextTransactionId : Int := 1
  distinctIds : (transactions.map Transaction.id).Nodup
  idsBelow : ∀ row ∈ transactions, row.id < nextTransactionId
  sourcesBelow : ∀ row ∈ transactions, ∀ source,
    row.refundOfTransactionId = some source -> source < nextTransactionId
  allocationsBelow : ∀ row ∈ allocations, row.transactionId < nextTransactionId

namespace Ledger

/-- A ledger without transactions. -/
def empty : Ledger where
  transactions := []
  distinctIds := List.nodup_nil
  idsBelow := by simp
  sourcesBelow := by simp
  allocationsBelow := by simp

variable (ledger : Ledger)

/-- Transaction row with an id. -/
def transaction? (id : Int) : Option Transaction :=
  ledger.transactions.find? (·.id = id)

variable (reservationId : Int)

def forReservation : List Transaction :=
  ledger.transactions.filter (·.reservationId = reservationId)

/-- Confirmed net payments of a reservation. -/
def completedPaidAmount : Int :=
  (((ledger.forReservation reservationId).filter fun row =>
    row.status = .completed).map Transaction.signedAmount).sum

/-- Some transaction of the reservation exists, whatever its status. -/
def hasTransactions : Bool :=
  !(ledger.forReservation reservationId).isEmpty

def transactionByKey (idempotencyKey : String) : Option Transaction :=
  ledger.transactions.find? fun row =>
    row.reservationId = reservationId ∧ row.idempotencyKey = some idempotencyKey

def nightAllocations (transactionId : Int) : List (Int × Int) :=
  (ledger.allocations.filter fun row =>
    row.transactionId = transactionId).map fun row => (row.companyNightChargeId, row.amount)

/-- Completed principal refunds of a source payment, in tender units. -/
def refundedTender (sourceId : Int) : Int :=
  (((ledger.forReservation reservationId).filter fun row =>
    row.IsPrincipalRefundOf sourceId).map Transaction.tender).sum

/-- Completed refunds of a source payment's rounding credit. -/
def refundedCredit (sourceId : Int) : Int :=
  (((ledger.forReservation reservationId).filter fun row =>
    row.IsCreditRefundOf sourceId).map Transaction.creditRefundAmount).sum

end Ledger

/-- A currency code as it is compared. -/
def normalizeCurrency (code : String) : String :=
  String.ofList (((code.toList.dropWhile Char.isWhitespace).reverse.dropWhile
    Char.isWhitespace).reverse.map Char.toUpper)

theorem normalizeCurrency_eq (code : String) :
    normalizeCurrency code = String.ofList ((Text.stripped code.toList).map Char.toUpper) := rfl

theorem normalizeCurrency_normalizeCurrency (code : String) :
    normalizeCurrency (normalizeCurrency code) = normalizeCurrency code := by
  rw [normalizeCurrency_eq, normalizeCurrency_eq, String.toList_ofList,
    Text.stripped_map_toUpper, Text.stripped_stripped, List.map_map]
  congr 1
  apply List.map_congr_left
  intro letter _
  exact Text.toUpper_toUpper letter

theorem toUpper_normalizeCurrency (code : String) :
    (normalizeCurrency code).toUpper = normalizeCurrency code := by
  apply String.toList_inj.mp
  rw [String.toUpper, String.toList_map, normalizeCurrency_eq, String.toList_ofList, List.map_map]
  apply List.map_congr_left
  intro letter _
  exact Text.toUpper_toUpper letter

/-- An amount as messages print it. -/
def formatAmount (amount : Int) : String :=
  let cents := amount.natAbs % 100
  (if amount < 0 then "-" else "") ++ toString (amount.natAbs / 100) ++ "." ++
    (if cents < 10 then "0" else "") ++ toString cents

def textGiven (text : Option String) : Bool :=
  text.any (· ≠ "")

theorem nothingPaid : (0 : Int) ≤ 0 := Int.le_refl 0

structure ReservationFinancials where
  id : Int
  currencyCode : String := "ARS"
  totalAmount : Int
  amountPaid : Int := 0
  paidNonneg : 0 ≤ amountPaid := by exact nothingPaid
  depositAmount : Int := 0
  status : ReservationStatus := .pending
  companyId : Option Int := none
  settlementStatus : String := "not_applicable"
  sourceProviderCode : Option String := none
  externalId : Option String := none
  externalPaidAmount : Int := 0
  externalPaidCurrency : Option String := none
  externalPaidConfirmed : Bool := false
  requiresManualReview : Bool := false
  deletedAt : Option Int := none
  deriving DecidableEq

/-- An extra or a consumption billed to a reservation. -/
structure BillingAdjustment where
  reservationId : Int
  totalAmount : Int

namespace ReservationFinancials

variable (reservation : ReservationFinancials)

def currency : String :=
  normalizeCurrency (if reservation.currencyCode = "" then "ARS"
      else reservation.currencyCode)

/-- The reservation came through an online agency. -/
def isOta : Bool :=
  textGiven reservation.sourceProviderCode || textGiven reservation.externalId

/-- External amount credited to the balance: confirmed, positive and in the
reservation's currency. -/
def externalPaidBalanceCredit : Int :=
  if reservation.externalPaidConfirmed = false then 0
  else if reservation.externalPaidAmount ≤ 0 then 0
  else
    let paidCurrency :=
      if textGiven reservation.externalPaidCurrency then
        normalizeCurrency (reservation.externalPaidCurrency.getD "")
      else reservation.currency
    if paidCurrency ≠ reservation.currency then 0
    else reservation.externalPaidAmount

/-- Confirmed external credits plus the net completed ledger; the stored
amount counts only for a direct reservation without transactions. -/
def paidAmountWithLegacyFallback (ledger : Ledger) : Int :=
  if reservation.isOta then
    ledger.completedPaidAmount reservation.id + reservation.externalPaidBalanceCredit
  else if ledger.hasTransactions reservation.id = false then
    reservation.amountPaid
  else ledger.completedPaidAmount reservation.id

variable (adjustments : List BillingAdjustment)

def adjustmentTotal : Int :=
  ((adjustments.filter fun row =>
    row.reservationId = reservation.id).map BillingAdjustment.totalAmount).sum

/-- Collectible balance given what is already paid. -/
def operationalBalanceDue (paidAmount : Int) : Int :=
  max 0 (reservation.totalAmount + reservation.adjustmentTotal adjustments - paidAmount)

/-- Status that follows from the paid amount, up to a cent. -/
def financialStatus : ReservationStatus :=
  if reservation.totalAmount + reservation.adjustmentTotal adjustments - 1 ≤
      reservation.amountPaid then .fullyPaid
  else if reservation.depositAmount - 1 ≤ reservation.amountPaid ∧
      0 < reservation.amountPaid then .depositPaid
  else .pending

/-- Statuses past which payments no longer move a reservation. -/
def statusSettled : Prop :=
  reservation.status ∈ [ReservationStatus.cancelled, .noShow, .preCheckIn,
    .partialCheckIn, .checkedIn, .checkedOut]
deriving Decidable

def syncFinancialStatus : ReservationFinancials :=
  if reservation.statusSettled then reservation
  else { reservation with status := reservation.financialStatus adjustments }

/-- Refresh the stored paid amount from the ledger, then the status. -/
def updateFinancials (ledger : Ledger) (adjustments : List BillingAdjustment) :
    Except String ReservationFinancials :=
  let paid := reservation.paidAmountWithLegacyFallback ledger
  if nonneg : 0 ≤ paid then
    .ok ({ reservation with
      amountPaid := paid
      paidNonneg := nonneg }.syncFinancialStatus adjustments)
  else .error "ck_reservation_paid_positive"

end ReservationFinancials

end HotelPms.Payments
