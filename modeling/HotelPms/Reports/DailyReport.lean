import HotelPms.Actions.Listing

/-!
# Daily report

The pending group of the daily report.  Stays billed here are selected, counted
and paged by the database; stays of companies that settle outside follow them,
with what their extra nights of the day still owe.
-/

namespace HotelPms.Reports

open Checked GroupSum Hotel KeySort Payments
open Actions.ActionDatabase (sqlNormalized)

def activeReservationStatuses : List ReservationStatus :=
  [.pending, .depositPaid, .fullyPaid, .preCheckIn, .checkedIn]

def arrivalPendingStatuses : List ReservationStatus :=
  [.pending, .depositPaid, .fullyPaid, .preCheckIn]

section Extras

variable (ledger : Ledger) (charges : List CompanyNightCharge)

def refundsByTransaction : List (Int × ℚ) :=
  let allocated := (allocationsByTransaction (chargeAllocations ledger charges)).map Prod.fst
  groupSum (·.refundOfTransactionId.getD 0) (fun row => (row.amount : ℚ))
    (ledger.transactions.filter fun row => decide (row.IsRefund ∧ row.status = .completed) &&
        row.refundOfTransactionId.any (· ∈ allocated))

/-- What an allocation adds to the amounts paid by night: only payments whose
whole amount is assigned to nights count, without what was refunded. -/
def addNightPayment (paid : Int -> ℚ) (pair : NightAllocation × Transaction) : Int -> ℚ :=
  let transaction := pair.2
  let allocated := ((allocationsByTransaction
    (chargeAllocations ledger charges)).lookup transaction.id).getD 0
  if transaction.status ≠ .completed ∨ transaction.IsRefund then paid
  else if transaction.amount ≤ 0 ∨ cents allocated ≠ cents transaction.amount then paid
  else
    let refunded := min (((refundsByTransaction ledger charges).lookup
      transaction.id).getD 0) (transaction.amount : ℚ)
    let netFraction := Decimal.inContext (1 - Decimal.inContext (refunded / transaction.amount))
    addToCharge paid pair.1.companyNightChargeId (Decimal.inContext (pair.1.amount * netFraction))

def addNightDue (paid : Int -> ℚ) (dates : Int × Int) (due : Int -> ℚ)
    (charge : CompanyNightCharge) : Int -> ℚ :=
  if dates.1 ≤ charge.stayDate ∧ charge.stayDate ≤ dates.2 then
    addToCharge due charge.reservationId
      (max 0 (Decimal.inContext (charge.amount - paid charge.id)))
  else due

end Extras

variable (db : Database) (hotelId : Int)

/-- Amounts still due of the extra nights of some reservations in a range of
dates, by reservation. -/
def companyNightExtraBalances (reservationIds : List Int) (dates : Int × Int)
    (reservationId : Int) : ℚ :=
  let ledger := db.ledger hotelId
  let charges := sortByKey CompanyNightCharge.id
    ((ofHotel hotelId db.nightCharges).filter (·.reservationId ∈ reservationIds))
  let paid := (chargeAllocations ledger charges).foldl (addNightPayment ledger charges) fun _ => 0
  cents (charges.foldl (addNightDue paid dates) (fun _ => 0) reservationId)

/-- What a report is made from: a hotel of a database, how the database writes
capitals, and a day. -/
structure ReportInput where
  db : Database
  hotelId : Int
  upper : String -> String
  reportDate : Int

def sqlExternalCurrency (upper : String -> String) (row : StoredReservation) : String :=
  sqlNormalized upper (if textGiven row.externalPaidCurrency then
      row.externalPaidCurrency.getD ""
    else row.currencyCode)

inductive BalanceQueryMode
  | flags
  | directPending

namespace ReportInput

variable (input : ReportInput)

def activeReservations : List StoredReservation :=
  input.db.activeReservations input.hotelId

def ledger : Ledger :=
  input.db.ledger input.hotelId

/-- Sum of the completed transactions of a reservation. -/
def completedPaid (reservationId : Int) : Int :=
  totalOf Transaction.reservationId
    (fun row => if row.status = .completed then row.signedAmount else 0)
    (ofHotel input.hotelId input.db.transactions) reservationId

variable (row : StoredReservation)

def sqlPaidAmount : Int :=
  if row.isOta = true then
    input.completedPaid row.id + (if row.externalPaidConfirmed = true ∧ 0 < row.externalPaidAmount ∧
          sqlExternalCurrency input.upper row = sqlNormalized input.upper row.currencyCode then
        row.externalPaidAmount
      else 0)
  else if input.ledger.hasTransactions row.id = true then
    input.completedPaid row.id
  else row.amountPaid

def directBalance : Int :=
  row.totalAmount + row.adjustmentTotal (ofHotel input.hotelId input.db.adjustments) -
    input.sqlPaidAmount row

/-- The query takes the stay for one of a company that settles outside. -/
def sqlDeferredCompany : Prop :=
  sqlNormalized String.toLower row.settlementStatus ∈ ["deferred", "settled"] ∨
    ∃ company ∈ ofHotel input.hotelId input.db.companies,
      row.companyId = some company.id ∧ company.paymentDeferred = true
deriving Decidable

def hasCompanyNightCharge : Prop :=
  ∃ charge ∈ ofHotel input.hotelId input.db.nightCharges, charge.reservationId = row.id
deriving Decidable

/-- Rows a mode of the query keeps. -/
def Selects : BalanceQueryMode -> Prop
  | .flags =>
    (input.sqlDeferredCompany row ∧ input.hasCompanyNightCharge row) ∨
      (row.checkInDate < input.reportDate ∧ row.status ∈ arrivalPendingStatuses) ∨
      row.requiresManualReview = true
  | .directPending =>
    ¬input.sqlDeferredCompany row ∧ 0 < input.directBalance row

instance (row : StoredReservation) (mode : BalanceQueryMode) : Decidable (input.Selects row mode) :=
  match mode with
  | .flags => inferInstanceAs (Decidable (_ ∨ _ ∨ _))
  | .directPending => inferInstanceAs (Decidable (_ ∧ _))

/-- Candidates of a mode, by arrival. -/
def balanceCandidates (mode : BalanceQueryMode) : List StoredReservation :=
  sortByKey (·.checkInDate) (sortByKey (·.id) ((input.activeReservations).filter fun row =>
      row.status ∈ activeReservationStatuses ∧ input.reportDate < row.checkOutDate ∧
        input.Selects row mode))

end ReportInput

/-- Row of a group of the report. -/
structure OperationalReservationSummary where
  reservationId : Int
  confirmationCode : String
  guestId : Int
  roomId : Option Int
  status : ReservationStatus
  checkInDate : Int
  checkOutDate : Int
  totalAmount : Option ℚ
  amountPaid : Option ℚ
  balanceDue : Option ℚ
  currencyCode : String
  companyBillingDeferred : Bool
  companyNightExtraDue : Option ℚ

/-- Amount an alert of the row asks for. -/
def OperationalReservationSummary.amount (item : OperationalReservationSummary) : Option ℚ :=
  if item.companyBillingDeferred then item.companyNightExtraDue
  else item.balanceDue

/-- The pending group: one page, and the count and totals of all. -/
structure OperationalReservationGroup where
  count : Nat
  reservations : List OperationalReservationSummary
  page : Nat
  pageSize : Nat
  totalPages : Nat
  totalBalanceByCurrency : List (String × ℚ)

def candidateSummary (row : StoredReservation)
    (paidAmount adjustmentTotal : Option ℚ) (companyBillingDeferred : Bool)
    (companyNightExtraDue : Option ℚ) : OperationalReservationSummary :=
  let paid := paidAmount.getD 0
  let totalDue := row.totalAmount + adjustmentTotal.getD 0
  let shown (amount : ℚ) : Option ℚ :=
    if companyBillingDeferred then none else some amount
  { reservationId := row.id
    confirmationCode := row.confirmationCode
    guestId := row.guestId
    roomId := row.roomId
    status := row.status
    checkInDate := row.checkInDate
    checkOutDate := row.checkOutDate
    totalAmount := shown row.totalAmount
    amountPaid := shown paid
    balanceDue := shown (max 0 (totalDue - paid))
    currencyCode := row.currency
    companyBillingDeferred
    companyNightExtraDue :=
      if companyBillingDeferred then companyNightExtraDue else none }

namespace ReportInput

variable (input : ReportInput)

def arrivals : List StoredReservation :=
  (input.activeReservations).filter fun row => row.checkInDate = input.reportDate ∧
      row.status ∉ [ReservationStatus.cancelled, .noShow]

def noShows : List StoredReservation :=
  (input.activeReservations).filter fun row =>
    row.checkInDate = input.reportDate ∧ row.status = .noShow

def departures : List StoredReservation :=
  (input.activeReservations).filter fun row =>
    row.checkOutDate = input.reportDate ∧ row.status ≠ .cancelled

def reportStays : List StoredReservation :=
  input.arrivals ++ input.noShows ++ input.departures ++ input.balanceCandidates .flags

def reportDeferredIds : List Int :=
  input.db.deferredCompanyReservationIds input.hotelId (input.reportStays)

def extraDueByReservation : Int -> ℚ :=
  companyNightExtraBalances input.db input.hotelId
    (input.reportDeferredIds) (input.reportDate, input.reportDate)

def deferredPendingCandidates : List StoredReservation :=
  (input.balanceCandidates .flags).filter fun row =>
    row.id ∈ input.reportDeferredIds ∧ 0 < input.extraDueByReservation row.id

/-- Totals of the stays billed here: the codes the query groups by, each
normalized again, in the order a dictionary takes them. -/
def directPendingTotals : List (String × ℚ) :=
  (groupSum (sqlNormalized input.upper ·.currencyCode) (fun row => (input.directBalance row : ℚ))
    (input.balanceCandidates .directPending)).map fun group => (normalizeCurrency
        (if group.1 = "" then "ARS" else group.1), cents group.2)

/-- Total of a currency: the last entry filed under it, and the extra nights
added to it one by one. -/
def pendingBalanceByCurrency : String -> ℚ :=
  (input.deferredPendingCandidates).foldl (fun totals row => Function.update totals row.currency
      (totals row.currency + input.extraDueByReservation row.id))
    fun currency => ((input.directPendingTotals).reverse.lookup currency).getD 0

def pendingCurrencies : List String :=
  ((input.directPendingTotals).map Prod.fst ++
    (input.deferredPendingCandidates).map (·.currency)).dedup

def directSummary (row : StoredReservation) : OperationalReservationSummary :=
  candidateSummary row (some (input.sqlPaidAmount row : ℚ))
    (some (row.adjustmentTotal (ofHotel input.hotelId input.db.adjustments) : ℚ)) false none

def deferredSummary (row : StoredReservation) : OperationalReservationSummary :=
  let ids := some ((input.reportStays).map (·.id))
  candidateSummary row ((input.db.paidAmountsByReservation input.hotelId ids).lookup row.id)
    ((input.db.billingAdjustmentTotalsByReservation input.hotelId ids).lookup row.id) true
    (some (input.extraDueByReservation row.id))

def pendingGroup (pendingPage pendingPageSize : Nat) : OperationalReservationGroup :=
  let direct := input.balanceCandidates .directPending
  let deferred := input.deferredPendingCandidates
  let pendingCount := direct.length + deferred.length
  let totalPages := (pendingCount + pendingPageSize - 1) / pendingPageSize
  let page := min pendingPage (max totalPages 1)
  let pendingStart := (page - 1) * pendingPageSize
  let directPage := (direct.drop pendingStart).take
    (min pendingPageSize (direct.length - pendingStart))
  let deferredPage := (deferred.drop (pendingStart - direct.length)).take
    (pendingPageSize - directPage.length)
  { count := pendingCount
    reservations :=
      directPage.map (input.directSummary) ++ deferredPage.map (input.deferredSummary)
    page
    pageSize := pendingPageSize
    totalPages
    totalBalanceByCurrency :=
      (sortByKey id (input.pendingCurrencies)).map
        fun currency => (currency, cents (input.pendingBalanceByCurrency currency)) }

/-- The pending group of the report of a day. -/
def dailyReport (pendingPage pendingPageSize : Nat) :
    Except String OperationalReservationGroup := do
  raiseIf (pendingPage < 1) "pending_page must be at least 1"
  raiseIf (pendingPageSize < 1 ∨ 100 < pendingPageSize)
    "pending_page_size must be between 1 and 100"
  pure (input.pendingGroup pendingPage pendingPageSize)

end ReportInput

end HotelPms.Reports
