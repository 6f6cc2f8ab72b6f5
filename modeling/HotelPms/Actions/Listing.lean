import HotelPms.Actions.Builder
import HotelPms.Foundation.KeySort
import Mathlib.Data.String.Basic

/-!
# The summary and the list of pending actions

The operations summary of a reservation reads its rows one by one and its
financial summary.  The list of the hotel selects the reservations that may
have an action with one query, reads their rows and four financial facts in
bulk, and ranks what the same rules find.
-/

namespace HotelPms.Actions

open Hotel Payments Checked GroupSum KeySort

/-- The tables the actions are read from. -/
structure ActionDatabase extends Database where
  actionColumns : Int -> ActionColumns := fun _ => {}
  otaLinks : List (Scoped OtaReservationLink) := []
  reservationAdjustments : List (Scoped ReservationAdjustment) := []

namespace ActionDatabase

variable (db : ActionDatabase) (hotelId : Int)

/-- A stored row with every column its actions read. -/
def actionReservation (row : StoredReservation) : ActionReservation :=
  { row, db.actionColumns row.id with }

/-- Reservations of the hotel that are not deleted. -/
def actionReservations : List ActionReservation :=
  (db.activeReservations hotelId).map db.actionReservation

def guestOf (reservation : ActionReservation) : Option Guest :=
  (ofHotel reservation.hotelId db.guests).find? (·.id = reservation.guestId)

variable (ids : List Int) (reservationId : Int)

/-- Links of a reservation, the latest first. -/
def otaLinksOf : List OtaReservationLink :=
  sortByKey (-·.updatedAt) (sortByKey (-·.id)
      ((ofHotel hotelId db.otaLinks).filter (·.reservationId = some reservationId)))

/-- An adjustment is of a reservation, or has led to it. -/
def RelatedTo (adjustment : ReservationAdjustment) (reservationId : Int) : Prop :=
  adjustment.reservationId = reservationId ∨ adjustment.resultingReservationId = some reservationId
deriving Decidable

/-- The latest request first. -/
def newestFirst (adjustments : List ReservationAdjustment) : List ReservationAdjustment :=
  sortByKey (-·.requestedAt) (sortByKey (-·.id) adjustments)

/-- Adjustments of a reservation, those that led to it included. -/
def relatedAdjustments : List ReservationAdjustment :=
  newestFirst ((ofHotel hotelId db.reservationAdjustments).filter fun row =>
    RelatedTo row reservationId)

def summaryFinancials (reservation : ActionReservation)
    (summary : FinancialSummary) : ActionFinancials where
  amountPaid := summary.amountPaid
  companyBillingDeferred := summary.companyBillingDeferred
  recommendedNextAction :=
    withoutCancelledCollection reservation.status
      (if summary.companyBillingDeferred = true then none
      else recommendedFinancialAction reservation summary.operationalBalanceDue)
  hasFinancialReconciliationGap :=
    summary.financialReconciliationGap.any (1 < |·|)

/-- What the operations page shows of a reservation. -/
structure OperationsSummary where
  reservation : ActionReservation
  pendingActions : List PendingAction
  financialSummary : FinancialSummary
  recommendedNextAction : Option FinancialAction
  otaLink : Option OtaReservationLink
  openAdjustments : List ReservationAdjustment

def getReservationOperationsSummary (formatDate : Int -> String)
    (today reservationId : Int) : Except String OperationsSummary :=
  match (db.actionReservations hotelId).find? fun row =>
      row.id = reservationId with
  | none =>
    .error ("Reservation " ++ toString reservationId ++ " not found")
  | some reservation => do
    let summary ← db.getReservationFinancialSummary (some hotelId) reservation.id
    let financial := summaryFinancials reservation summary
    let otaLink := (db.otaLinksOf hotelId reservation.id).head?
    let adjustments := db.relatedAdjustments hotelId reservation.id
    pure {
      reservation := reservation
      pendingActions := buildPendingActions formatDate reservation
        (db.guestOf reservation) otaLink adjustments financial today
      financialSummary := summary
      recommendedNextAction := financial.recommendedNextAction
      otaLink := otaLink
      openAdjustments := adjustments }

/-- A text as the database trims and capitalizes it.  It removes spaces alone,
and which letters have capitals depends on its collation. -/
def sqlNormalized (upper : String -> String) (text : String) : String :=
  upper (String.ofList (((text.toList.dropWhile (· = ' ')).reverse.dropWhile (· = ' ')).reverse))

/-- Currency of the reservation as the query reads it. -/
def sqlCurrencyValue (reservation : ReservationFinancials) : String :=
  if reservation.currencyCode = "" then "ARS" else reservation.currencyCode

def sqlExternalCredit (upper : String -> String) (reservation : ReservationFinancials) : Int :=
  let externalValue :=
    if textGiven reservation.externalPaidCurrency then
      reservation.externalPaidCurrency.getD ""
    else sqlCurrencyValue reservation
  if reservation.isOta = true ∧ reservation.externalPaidConfirmed = true ∧
      0 < reservation.externalPaidAmount ∧
      sqlNormalized upper externalValue = sqlNormalized upper (sqlCurrencyValue reservation) then
    reservation.externalPaidAmount
  else 0

/-- Sum of the completed transactions of a reservation. -/
def signedCompletedAmount : Int :=
  (((ofHotel hotelId db.transactions).filter fun row =>
    row.reservationId = reservationId ∧ row.status = .completed).map Transaction.signedAmount).sum

def hasBillingAdjustment : Prop :=
  ∃ row ∈ ofHotel hotelId db.adjustments, row.reservationId = reservationId
deriving Decidable

def otaManualResolution : Prop :=
  ∃ link ∈ ofHotel hotelId db.otaLinks,
    link.reservationId = some reservationId ∧ link.providerState = .manualResolutionRequired
deriving Decidable

def pendingAdjustment : Prop :=
  ∃ row ∈ ofHotel hotelId db.reservationAdjustments, RelatedTo row reservationId ∧
      (row.status ∈ pendingAdjustmentStatuses ∨
        ∃ status ∈ row.externalResolutionStatus, status ∈ problemSettlementStatuses)
deriving Decidable

def deferredCompany (reservation : ActionReservation) : Prop :=
  ∃ company ∈ ofHotel hotelId db.companies,
    reservation.companyId = some company.id ∧ company.paymentDeferred = true
deriving Decidable

variable (upper : String -> String) (today : Int) (reservation : ActionReservation)

/-- The stored amount differs from the evidence by more than a cent. -/
def sqlReconciliationGap : Prop :=
  1 < |reservation.amountPaid - db.signedCompletedAmount hotelId reservation.id -
      sqlExternalCredit upper reservation.toReservationFinancials|
deriving Decidable

def sqlRefundReview : Prop :=
  reservation.status ∈ refundReviewStatuses ∧ reservation.source = .direct ∧
    reservation.sourceProviderCode.getD "" = "" ∧
    reservation.externalId.getD "" = "" ∧
    reservation.settlementStatus ∉ ["deferred", "settled"] ∧
    ¬db.deferredCompany hotelId reservation ∧
    (0 < reservation.amountPaid ∨ 0 < db.signedCompletedAmount hotelId reservation.id)
deriving Decidable

/-- A reason other than a payment difference or a refund. -/
def hasPlainReason : Prop :=
  reservation.requiresManualReview = true ∨ IsOverdue reservation today ∨
    (IsActive reservation ∧ (reservation.roomId = none ∨
      reservation.allocationStatus ∈ problemAllocationStatuses)) ∨
    (reservation.status = .cancelled ∧ reservation.source ≠ .direct) ∨
    reservation.settlementStatus ∈ problemSettlementStatuses ∨
    (reservation.paymentCollectionModel = "ota_prepaid" ∧
      reservation.settlementStatus ∈ awaitedSettlementStatuses) ∨
    (reservation.status ≠ .cancelled ∧ reservation.paymentCollectionModel = "hotel_collect" ∧
      (reservation.amountPaid < reservation.totalAmount ∨
        db.hasBillingAdjustment hotelId reservation.id)) ∨
    db.otaManualResolution hotelId reservation.id ∨
    db.pendingAdjustment hotelId reservation.id
deriving Decidable

/-- The reservation may have an action. -/
def hasOperationalAction : Prop :=
  db.hasPlainReason hotelId today reservation ∨ db.sqlReconciliationGap hotelId upper reservation ∨
    db.sqlRefundReview hotelId reservation
deriving Decidable

/-- Terminal, overdue in the house, or leaving no earlier than yesterday. -/
def InActionWindow : Prop :=
  today - 1 ≤ reservation.checkOutDate ∨
    reservation.status ∈ terminalStatuses ∨ IsOverdue reservation today
deriving Decidable

/-- Reservations that may have an action, by arrival. -/
def candidateReservationIds : List Int :=
  (sortByKey (·.checkInDate) (sortByKey (·.id)
    ((db.actionReservations hotelId).filter fun row => InActionWindow today row ∧
        db.hasOperationalAction hotelId upper today row))).map (·.id)

/-- Rows of the candidates. -/
def loadPendingActionReservations : List ActionReservation :=
  (db.actionReservations hotelId).filter (·.id ∈ ids)

def latestOtaLinksByReservation : List (Int × OtaReservationLink) :=
  (ofHotel hotelId db.otaLinks).filterMap fun link =>
    match link.reservationId with
    | none => none
    | some id =>
      if id ∈ ids ∧ (db.otaLinksOf hotelId id).head? = some link then
        some (id, link)
      else none

/-- An adjustment that may have an action. -/
def MayAct (adjustment : ReservationAdjustment) : Prop :=
  adjustment.status ∈ pendingAdjustmentStatuses ∨ AwaitsChannel adjustment
deriving Decidable

/-- Adjustments of some reservation of the set that may have an action. -/
def candidateAdjustments : List ReservationAdjustment :=
  newestFirst ((ofHotel hotelId db.reservationAdjustments).filter fun row =>
    (row.reservationId ∈ ids ∨ ∃ id ∈ row.resultingReservationId, id ∈ ids) ∧ MayAct row)

def addAdjustment (grouped : Int -> List ReservationAdjustment) (id : Int)
    (adjustment : ReservationAdjustment) : Int -> List ReservationAdjustment :=
  Function.update grouped id (grouped id ++ [adjustment])

/-- Add an adjustment to its reservation, and to the one it led to. -/
def groupAdjustment (grouped : Int -> List ReservationAdjustment)
    (adjustment : ReservationAdjustment) : Int -> List ReservationAdjustment :=
  let own :=
    if adjustment.reservationId ∈ ids then
      addAdjustment grouped adjustment.reservationId adjustment
    else grouped
  match adjustment.resultingReservationId with
  | none => own
  | some other =>
    if other ∈ ids ∧ other ≠ adjustment.reservationId then
      addAdjustment own other adjustment
    else own

def relatedAdjustmentsByReservation : Int -> List ReservationAdjustment :=
  (db.candidateAdjustments hotelId ids).foldl (groupAdjustment ids) fun _ => []

/-- What a transaction adds to the completed total. -/
def completedAmount (row : Transaction) : ℚ :=
  if row.status = .completed then row.signedAmount else 0

def completedPaidByReservation : List (Int × ℚ) :=
  (groupSum Transaction.reservationId completedAmount
    ((ofHotel hotelId db.transactions).filter fun row =>
      row.reservationId ∈ ids)).map fun group => (group.1, cents group.2)

/-- The financial facts of one reservation, from the totals read in bulk. -/
def bulkFinancials (completedPaid : List (Int × ℚ))
    (adjustments : List BillingAdjustment) (deferredIds : List Int)
    (reservation : ActionReservation) : ActionFinancials :=
  let ledgerPaid := (completedPaid.lookup reservation.id).getD 0
  let credited := cents (ledgerPaid + reservation.externalPaidBalanceCredit)
  let paid :=
    if reservation.isOta = true then credited
    else if reservation.id ∈ completedPaid.map Prod.fst then ledgerPaid
    else cents reservation.amountPaid
  let evidencedPaid :=
    if reservation.isOta = true then credited else ledgerPaid
  if reservation.id ∈ deferredIds then
    { amountPaid := none, companyBillingDeferred := true, recommendedNextAction := none
      hasFinancialReconciliationGap := false }
  else
    let adjustmentTotal := cents (((adjustments.filter fun row =>
      row.reservationId = reservation.id).map fun row => (row.totalAmount : ℚ)).sum)
    let operationalBalanceDue :=
      max 0 (reservation.totalAmount + adjustmentTotal - paid)
    { amountPaid := some paid
      companyBillingDeferred := false
      recommendedNextAction :=
        withoutCancelledCollection reservation.status
          (recommendedFinancialAction reservation operationalBalanceDue)
      hasFinancialReconciliationGap :=
        decide (1 < |(reservation.amountPaid : ℚ) - evidencedPaid|) }

/-- The financial facts of the candidates. -/
def pendingActionFinancialInputs (reservations : List ActionReservation) :
    List (Int × ActionFinancials) :=
  let ids := reservations.map (·.id)
  let completedPaid := db.completedPaidByReservation hotelId ids
  let adjustments := (ofHotel hotelId db.adjustments).filter (·.reservationId ∈ ids)
  let deferredIds := db.deferredCompanyReservationIds hotelId
    (reservations.map (·.toStoredReservation))
  reservations.map fun row => (row.id, bulkFinancials completedPaid adjustments deferredIds row)

/-- Actions by priority, arrival, reservation and key. -/
def rankActions (actions : List PendingAction) : List PendingAction :=
  sortByKey (-·.priority.score) (sortByKey (·.checkInDate) (sortByKey (·.reservationId)
        (sortByKey (·.actionKey) actions)))

def candidateActions (formatDate : Int -> String) (ids : List Int) :
    Except String (List PendingAction) := do
  let reservations := db.loadPendingActionReservations hotelId ids
  let links := db.latestOtaLinksByReservation hotelId ids
  let adjustments := db.relatedAdjustmentsByReservation hotelId ids
  let inputs := db.pendingActionFinancialInputs hotelId reservations
  let actions ← ids.mapM fun id =>
    match reservations.find? (·.id = id), inputs.lookup id with
    | some reservation, some financial =>
      pure (buildPendingActions formatDate reservation
        (db.guestOf reservation) (links.lookup id) (adjustments id)
        financial today)
    | _, _ => throw ("Reservation " ++ toString id ++ " not found")
  pure actions.flatten

/-- The pending actions of the hotel, at most `limit` of them. -/
def listPendingReservationActions (formatDate : Int -> String)
    (limit : Nat) : Except String (List PendingAction) := do
  let ids := db.candidateReservationIds hotelId upper today
  if ids = [] then pure []
  else
    let actions ← db.candidateActions hotelId today formatDate ids
    pure ((rankActions actions).take limit)

end ActionDatabase

end HotelPms.Actions
