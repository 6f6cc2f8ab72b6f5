import HotelPms.Payments.Balances

/-!
# Financial summary of a reservation

The summary of a reservation has two modes.  Lodging billed here is collected
through the ledger and the billing adjustments.  For a company that settles
outside, only the extra nights are collectible, and what refunds without nights
took is spread over the nights of their source payment.
-/

namespace HotelPms.Payments

open Checked GroupSum Hotel

namespace Database

variable (db : Database)

/-- Reservations whose lodging is billed outside: settled so when they were
stored, or of a company configured so. -/
def deferredCompanyReservationIds (hotelId : Int)
    (reservations : List StoredReservation) : List Int :=
  let rows := reservations.filter fun row => row.hotelId = hotelId ∧ row.companyId ≠ none
  let deferredIds := (rows.filter fun row =>
    row.settlementStatus.toLower ∈ ["deferred", "settled"]).map (·.id)
  let candidates := (rows.filter (·.id ∉ deferredIds)).filterMap (·.companyId)
  let configured := ((ofHotel hotelId db.companies).filter fun company =>
    decide (company.id ∈ candidates) && company.paymentDeferred).map (·.id)
  deferredIds ++ (rows.filter fun row =>
    row.companyId.any (· ∈ configured)).map (·.id)

def reservationHasDeferredCompanyBilling (reservation : StoredReservation) (hotelId : Int) : Prop :=
  reservation.id ∈ db.deferredCompanyReservationIds hotelId [reservation]
deriving Decidable

variable {db} {hotelId : Int}

/-- Which reservations of a set are billed outside does not depend on the rest
of the set. -/
theorem mem_deferredCompanyReservationIds {rows : List StoredReservation} {row : StoredReservation}
    (unique : ∀ other ∈ rows, other.id = row.id -> other = row)
    (member : row ∈ rows) (own : row.hotelId = hotelId) :
    row.id ∈ db.deferredCompanyReservationIds hotelId rows ↔ row.companyId ≠ none ∧
        (row.settlementStatus.toLower ∈ ["deferred", "settled"] ∨
          ∃ company ∈ ofHotel hotelId db.companies,
            row.companyId = some company.id ∧ company.paymentDeferred = true) := by
  have companyRow : ∀ keep : StoredReservation -> Bool, row.id ∈ ((rows.filter fun row =>
        row.hotelId = hotelId ∧ row.companyId ≠ none).filter keep).map (·.id) ↔
        row.companyId ≠ none ∧ keep row = true := by
    intro keep
    simp only [List.mem_map, List.mem_filter, decide_eq_true_eq]
    constructor
    · rintro ⟨other, ⟨⟨otherIn, -, hasCompany⟩, kept⟩, same⟩
      obtain rfl := unique other otherIn same
      exact ⟨hasCompany, kept⟩
    · rintro ⟨hasCompany, kept⟩
      exact ⟨row, ⟨⟨member, own, hasCompany⟩, kept⟩, rfl⟩
  unfold deferredCompanyReservationIds
  simp only [List.mem_append, companyRow]
  rw [← and_or_left]
  refine and_congr_right fun hasCompany => ?_
  obtain ⟨companyId, isCompany⟩ := Option.ne_none_iff_exists'.mp hasCompany
  by_cases settled : row.settlementStatus.toLower ∈ ["deferred", "settled"]
  · simp only [settled, decide_true, true_or]
  · simp only [settled, decide_false, Bool.false_eq_true, false_or, isCompany, Option.any_some,
      decide_eq_true_eq, List.mem_map, List.mem_filter, Bool.and_eq_true]
    constructor
    · rintro ⟨company, ⟨stored, -, deferred⟩, rfl⟩
      exact ⟨company, stored, rfl, deferred⟩
    · rintro ⟨company, stored, same, deferred⟩
      cases same
      refine ⟨company, ⟨stored, ?_, deferred⟩, rfl⟩
      refine List.mem_filterMap.mpr ⟨row, ?_, isCompany⟩
      refine List.mem_filter.mpr ⟨List.mem_filter.mpr
        ⟨member, decide_eq_true ⟨own, hasCompany⟩⟩, decide_eq_true ?_⟩
      intro listed
      exact settled (of_decide_eq_true ((companyRow _).mp listed).2)

end Database

section Extras

variable (ledger : Ledger) (transactions : List Transaction) (charges : List CompanyNightCharge)

/-- Allocations of the nights, with their transactions. -/
def chargeAllocations : List (NightAllocation × Transaction) :=
  ledger.allocations.filterMap fun row =>
    if row.companyNightChargeId ∈ charges.map CompanyNightCharge.id then
      (ledger.transaction? row.transactionId).map fun transaction => (row, transaction)
    else none

/-- What each transaction assigns to the nights. -/
def allocationsByTransaction
    (allocations : List (NightAllocation × Transaction)) : List (Int × ℚ) :=
  groupSum (·.1.transactionId) (fun pair => (pair.1.amount : ℚ)) allocations

/-- Transactions of the reservation whose whole amount is assigned to its
nights. -/
def validExtraPaymentIds : List Int :=
  ((allocationsByTransaction (chargeAllocations ledger charges)).filter
    fun entry => transactions.any fun transaction =>
      transaction.id = entry.1 ∧ cents entry.2 = cents transaction.amount).map Prod.fst

/-- Ledger evidence of the extra nights: their transactions and the refunds
of those. -/
def visibleExtraTransactions : List Transaction :=
  transactions.filter fun transaction =>
    transaction.id ∈ validExtraPaymentIds ledger transactions charges ∨
      (transaction.IsRefund ∧ ∃ source ∈ transaction.refundOfTransactionId,
        source ∈ validExtraPaymentIds ledger transactions charges)

/-- Refunds that have allocations of their own. -/
def explicitlyAllocatedRefundIds : List Int :=
  ((chargeAllocations ledger charges).filter fun pair =>
    decide pair.2.IsRefund).map (·.2.id)

def legacyRefundsBySource : List (Int × ℚ) :=
  groupSum (·.refundOfTransactionId.getD 0) (fun row => (row.amount : ℚ))
    ((visibleExtraTransactions ledger transactions charges).filter fun row =>
      row.status = .completed ∧ row.IsRefund ∧
        row.id ∉ explicitlyAllocatedRefundIds ledger charges ∧
        row.refundOfTransactionId ≠ none)

/-- Share of a payment that refunds without allocations returned. -/
def legacyFraction (transaction : Transaction) : ℚ :=
  let legacyRefund := min (((legacyRefundsBySource ledger transactions charges).lookup
      transaction.id).getD 0) (transaction.amount : ℚ)
  if 0 < transaction.amount then
    Decimal.inContext (legacyRefund / transaction.amount)
  else 0

/-- Add an amount to the entry of a night. -/
def addToCharge (paid : Int -> ℚ) (chargeId : Int) (amount : ℚ) : Int -> ℚ :=
  Function.update paid chargeId (Decimal.inContext (paid chargeId + amount))

/-- Allocations of one transaction, each with a factor, added to what the
nights have paid. -/
def addAllocations (transaction : Transaction) (share : Int -> ℚ) (paid : Int -> ℚ) : Int -> ℚ :=
  (chargeAllocations ledger charges).foldl (fun paid pair =>
      if pair.1.transactionId = transaction.id then
        addToCharge paid pair.1.companyNightChargeId (share pair.1.amount)
      else paid) paid

/-- What a visible transaction changes in the amounts paid by night. -/
def addExtraTransaction (paid : Int -> ℚ) (transaction : Transaction) : Int -> ℚ :=
  if transaction.status ≠ .completed then paid
  else if transaction.IsRefund then
    -- refunds with nights return them as they say; the others are spread
    -- over the nights of their source
    addAllocations ledger charges transaction (-·) paid
  else
    let allocated := ((allocationsByTransaction
      (chargeAllocations ledger charges)).lookup transaction.id).getD 0
    if transaction.amount ≤ 0 ∨ cents allocated ≠ cents transaction.amount then paid
    else
      let fraction := legacyFraction ledger transactions charges transaction
      addAllocations ledger charges transaction
        (fun amount => Decimal.inContext (amount * Decimal.inContext (1 - fraction))) paid

/-- Amounts paid by night, not yet rounded. -/
def paidByCharge : Int -> ℚ :=
  (visibleExtraTransactions ledger transactions charges).foldl
    (addExtraTransaction ledger transactions charges) fun _ => 0

/-- Confirmed payments of extra nights, refunds subtracted. -/
def completedExtraPaymentTotal : ℚ :=
  cents ((((visibleExtraTransactions ledger transactions charges).filter
    (·.status = .completed)).map fun row => (row.signedAmount : ℚ)).sum)

/-- Collectible balance of the nights: each is rounded only in the total. -/
def extraBalanceDue : ℚ :=
  cents (charges.foldl (fun total charge => Decimal.inContext (total + max 0 (Decimal.inContext
        (charge.amount - paidByCharge ledger transactions charges charge.id)))) 0)

end Extras

/-- First identifier that is neither missing nor zero; without one, the
last. -/
def firstGiven : List (Option Int) -> Option Int
  | [] => none
  | [last] => last
  | first :: rest =>
    match first with
    | some id => if id = 0 then firstGiven rest else some id
    | none => firstGiven rest

/-- Hotel of a reservation from the caller's input or its transactions. -/
def resolveReservationHotel (reservationHotelId : Int)
    (hotelId existingTransactionHotelId : Option Int) : Except String Int := do
  raiseIf (∃ id ∈ hotelId, reservationHotelId ≠ id) "La reserva no pertenece al hotel seleccionado."
  raiseIf (∃ id ∈ existingTransactionHotelId, reservationHotelId ≠ id)
    "La reserva ya tiene pagos asociados a otro hotel."
  raiseIf (∃ existing ∈ existingTransactionHotelId, ∃ id ∈ hotelId, id ≠ existing)
    "La reserva ya tiene pagos asociados a otro hotel."
  match firstGiven [some reservationHotelId, hotelId, existingTransactionHotelId] with
  | some id => pure id
  | none => throw "Se requiere el hotel para operar con pagos."

structure FinancialSummary where
  reservationId : Int
  confirmationCode : String
  status : ReservationStatus
  currencyCode : String
  totalAmount : Option ℚ
  depositRequired : Option ℚ
  amountPaid : Option ℚ
  hotelReceivedAmount : Option ℚ
  otaPrepaidAmount : Option ℚ
  balanceDue : Option ℚ
  operationalTotalAmount : ℚ
  operationalBalanceDue : ℚ
  billingAdjustmentTotal : ℚ
  companyBillingDeferred : Bool
  settlementStatus : String
  financialReconciliationGap : Option ℚ
  transactions : List Transaction
  completedPayments : ℚ

namespace Database

variable (db : Database)

/-- Transactions of a reservation in a hotel. -/
def transactionsOf (hotelId reservationId : Int) : List Transaction :=
  (ofHotel hotelId db.transactions).filter (·.reservationId = reservationId)

def existingTransactionHotel (hotelId : Option Int) (reservationId : Int) : Option Int :=
  (db.transactions.find? fun entry => decide (entry.row.reservationId = reservationId) &&
      hotelId.all (entry.hotelId = ·)).map Scoped.hotelId

/-- Summary of a reservation whose lodging is billed outside. -/
def deferredSummary (hotelId : Int) (reservation : StoredReservation) : FinancialSummary :=
  let ledger := db.ledger hotelId
  let transactions := db.transactionsOf hotelId reservation.id
  let charges := chargesOfReservation (ofHotel hotelId db.nightCharges)
    reservation.toReservationFinancials
  let extraTotal := (charges.map (cents ·.amount)).sum
  { reservationId := reservation.id
    confirmationCode := reservation.confirmationCode
    status := reservation.status
    currencyCode := if reservation.currencyCode = "" then "ARS"
      else reservation.currencyCode
    totalAmount := none
    depositRequired := none
    amountPaid := none
    hotelReceivedAmount := none
    otaPrepaidAmount := none
    balanceDue := none
    operationalTotalAmount := extraTotal
    operationalBalanceDue := extraBalanceDue ledger transactions charges
    billingAdjustmentTotal := extraTotal
    companyBillingDeferred := true
    settlementStatus := reservation.settlementStatus
    financialReconciliationGap := none
    transactions := visibleExtraTransactions ledger transactions charges
    completedPayments :=
      completedExtraPaymentTotal ledger transactions charges }

/-- Summary of a reservation whose lodging is collected here. -/
def directSummary (hotelId : Int) (reservation : StoredReservation) : FinancialSummary :=
  let transactions := db.transactionsOf hotelId reservation.id
  let billingAdjustmentTotal := cents ((((ofHotel hotelId db.adjustments).filter fun row =>
      row.reservationId = reservation.id).map fun row => (row.totalAmount : ℚ)).sum)
  let completedPaymentTotal := cents (((transactions.filter (·.status = .completed)).map
      fun row => (row.signedAmount : ℚ)).sum)
  let paid := db.paidAmountWithLegacyFallback hotelId reservation.toReservationFinancials
  let operationalTotal := reservation.totalAmount + billingAdjustmentTotal
  let evidencedPaid := ((db.reconciledPaidAmountsByReservation hotelId
    (some [reservation.id])).lookup reservation.id).getD 0
  { reservationId := reservation.id
    confirmationCode := reservation.confirmationCode
    status := reservation.status
    currencyCode := if reservation.currencyCode = "" then "ARS"
      else reservation.currencyCode
    totalAmount := some reservation.totalAmount
    depositRequired := some reservation.depositAmount
    amountPaid := some paid
    hotelReceivedAmount := some completedPaymentTotal
    otaPrepaidAmount := some reservation.externalPaidBalanceCredit
    balanceDue := some (max 0 (reservation.totalAmount - paid))
    operationalTotalAmount := operationalTotal
    operationalBalanceDue := max 0 (operationalTotal - paid)
    billingAdjustmentTotal := billingAdjustmentTotal
    companyBillingDeferred := false
    settlementStatus := reservation.settlementStatus
    financialReconciliationGap := some (reservation.amountPaid - evidencedPaid)
    transactions := transactions
    completedPayments := completedPaymentTotal }

/-- Reservation row by its id, within a hotel if one is given. -/
def reservation? (hotelId : Option Int) (reservationId : Int) : Option StoredReservation :=
  db.reservations.find? fun row => decide (row.id = reservationId) && hotelId.all (row.hotelId = ·)

def getReservationFinancialSummary (hotelId : Option Int)
    (reservationId : Int) : Except String FinancialSummary :=
  match db.reservation? hotelId reservationId with
  | none => throw "No se encontró la reserva."
  | some reservation => do
    let resolved ← resolveReservationHotel reservation.hotelId hotelId
      (db.existingTransactionHotel hotelId reservationId)
    raiseIf (reservation.hotelId ≠ 0 ∧ reservation.hotelId ≠ resolved)
      ("La reserva " ++ toString reservationId ++
        " no pertenece al hotel " ++ toString resolved ++ ".")
    if db.reservationHasDeferredCompanyBilling reservation resolved then
      pure (db.deferredSummary resolved reservation)
    else pure (db.directSummary resolved reservation)

end Database

namespace Database

variable {db : Database} {reservation : StoredReservation}

section

variable (stored : reservation ∈ db.reservations)
include stored

theorem transaction_hotel {entry : Scoped Transaction} (member : entry ∈ db.transactions)
    (same : entry.row.reservationId = reservation.id) :
    entry.hotelId = reservation.hotelId := by
  obtain ⟨row, rowIn, sameHotel, sameId⟩ := db.transactionReservation entry member
  rw [← sameHotel, reservation_unique rowIn stored (sameId.trans same)]

theorem reservation?_eq_some
    {hotelId : Option Int} (own : ∀ id ∈ hotelId, id = reservation.hotelId) :
    db.reservation? hotelId reservation.id = some reservation := by
  have accepted : (hotelId.all fun id =>
      reservation.hotelId = id) = true := by
    cases hotelId with
    | none => rfl
    | some id => exact decide_eq_true (own id rfl).symm
  have found : (db.reservation? hotelId reservation.id).isSome = true := by
    apply List.find?_isSome.mpr
    refine ⟨reservation, stored, ?_⟩
    simp [accepted]
  obtain ⟨row, rowFound⟩ := Option.isSome_iff_exists.mp found
  have same := List.find?_some rowFound
  rw [Bool.and_eq_true, decide_eq_true_eq] at same
  rw [rowFound, reservation_unique (List.mem_of_find?_eq_some rowFound) stored same.1]

theorem resolveReservationHotel_eq_ok
    {hotelId : Option Int} (own : ∀ id ∈ hotelId, id = reservation.hotelId) :
    resolveReservationHotel reservation.hotelId hotelId
        (db.existingTransactionHotel hotelId reservation.id) =
      .ok reservation.hotelId := by
  have existing : ∀ id ∈ db.existingTransactionHotel hotelId reservation.id,
      id = reservation.hotelId := by
    intro id found
    obtain ⟨entry, entryFound, rfl⟩ := Option.map_eq_some_iff.mp found
    have same := List.find?_some entryFound
    rw [Bool.and_eq_true, decide_eq_true_eq] at same
    exact transaction_hotel stored (List.mem_of_find?_eq_some entryFound) same.1
  have given : firstGiven [some reservation.hotelId, hotelId,
      db.existingTransactionHotel hotelId reservation.id] = some reservation.hotelId := by
    have positive := db.hotelsPositive _ stored
    rw [firstGiven, if_neg (by omega)]
    exact List.cons_ne_nil _ _
  unfold resolveReservationHotel
  rw [given]
  refine bind_eq_ok.mpr ⟨(), raiseIf_eq_ok.mpr ?_, ?_⟩
  · rintro ⟨id, given, differs⟩
    exact differs (own id given).symm
  refine bind_eq_ok.mpr ⟨(), raiseIf_eq_ok.mpr ?_, ?_⟩
  · rintro ⟨id, found, differs⟩
    exact differs (existing id found).symm
  refine bind_eq_ok.mpr ⟨(), raiseIf_eq_ok.mpr ?_, rfl⟩
  rintro ⟨id, found, other, given, differs⟩
  exact differs ((own other given).trans (existing id found).symm)

theorem getReservationFinancialSummary_eq_ok {hotelId : Option Int}
    (own : ∀ id ∈ hotelId, id = reservation.hotelId) :
    db.getReservationFinancialSummary hotelId reservation.id =
      .ok (if db.reservationHasDeferredCompanyBilling reservation reservation.hotelId then
        db.deferredSummary reservation.hotelId reservation
      else db.directSummary reservation.hotelId reservation) := by
  unfold getReservationFinancialSummary
  rw [reservation?_eq_some stored own]
  refine bind_eq_ok.mpr ⟨_, resolveReservationHotel_eq_ok stored own, ?_⟩
  refine bind_eq_ok.mpr ⟨(), raiseIf_eq_ok.mpr ?_, ?_⟩
  · rintro ⟨-, differs⟩
    exact differs rfl
  split_ifs <;> rfl

end

theorem directSummary_operationalBalanceDue (hotelId : Int) :
    (db.directSummary hotelId reservation).operationalBalanceDue =
      db.operationalBalanceDue hotelId reservation.toReservationFinancials none := by
  unfold directSummary
  simp only
  rw [sum_intCast, cents_intCast, paidAmountWithLegacyFallback_eq,
    max_intCast, operationalBalanceDue_eq]
  rfl

/-- One balance everywhere: the bulk helper returns what the single helper
does, and the occupancy grid and the financial summary of a reservation whose
lodging is collected here show its collectible balance. -/
theorem balances_agree (stored : reservation ∈ db.reservations)
    (collectedHere : ¬db.reservationHasDeferredCompanyBilling reservation reservation.hotelId) :
    (∀ reservationIds, requested reservationIds reservation.id = true →
      (db.paidAmountsByReservation reservation.hotelId reservationIds).lookup reservation.id =
        some (db.paidAmountWithLegacyFallback reservation.hotelId
          reservation.toReservationFinancials)) ∧
    (∀ (F : Type) (float : ℚ → F) dateFrom dateTo today context grid,
      db.getOccupancyGrid float reservation.hotelId dateFrom dateTo today context = .ok grid →
        ∀ item ∈ grid.reservations ++ grid.unassigned, item.id = reservation.id →
            item.operationalBalanceDue = float (db.operationalBalanceDue reservation.hotelId
                reservation.toReservationFinancials none)) ∧
    ∀ hotelId, (∀ id ∈ hotelId, id = reservation.hotelId) →
      ∃ summary, db.getReservationFinancialSummary hotelId reservation.id = .ok summary ∧
        summary.operationalBalanceDue = db.operationalBalanceDue reservation.hotelId
            reservation.toReservationFinancials none := by
  refine ⟨?_, ?_, ?_⟩
  · intro reservationIds asked
    exact lookup_paidAmounts stored asked
  · intro F float dateFrom dateTo today context grid listed item member same
    obtain ⟨row, rowIn, -, sameId, shown⟩ := getOccupancyGrid_balance listed member
    rw [shown, reservation_unique rowIn stored (sameId.trans same)]
  · intro hotelId own
    refine ⟨_, getReservationFinancialSummary_eq_ok stored own, ?_⟩
    rw [if_neg collectedHere]
    exact directSummary_operationalBalanceDue reservation.hotelId

/-- Agency reservation of hotel 1 with a confirmed credit of 50.00. -/
def agencyStay : StoredReservation where
  id := 10
  hotelId := 1
  guestId := 4
  checkInDate := 20
  checkOutDate := 23
  totalAmount := 20000
  externalId := some "BK-1"
  externalPaidAmount := 5000
  externalPaidConfirmed := true

/-- Direct reservation of hotel 2. -/
def directStay : StoredReservation where
  id := 11
  hotelId := 2
  guestId := 5
  checkInDate := 20
  checkOutDate := 21
  totalAmount := 9000

/-- A card transaction of a reservation. -/
def cardRow (id reservationId amount : Int) (kind : TransactionType) : Transaction where
  id := id
  reservationId := reservationId
  amount := amount
  currency := "ARS"
  tenderAmount := none
  tenderCurrency := none
  grossAmount := none
  transactionType := kind
  paymentMethod := .creditCard
  status := .completed

theorem twoHotels_distinctReservations : ([agencyStay, directStay].map (·.id)).Nodup := by
  decide

theorem twoHotels_distinctTransactions :
    (([⟨1, cardRow 1 10 8000 .partialPayment⟩, ⟨2, cardRow 2 11 9000 .fullPayment⟩,
      ⟨1, cardRow 3 10 1000 .refund⟩] : List (Scoped Transaction)).map (·.row.id)).Nodup := by
  decide

theorem noCharges_distinct : (([] : List (Scoped CompanyNightCharge)).map (·.row.id)).Nodup :=
  List.nodup_nil

/-- A database with both reservations and their payments. -/
def twoHotels : Database where
  reservations := [agencyStay, directStay]
  transactions := [⟨1, cardRow 1 10 8000 .partialPayment⟩,
    ⟨2, cardRow 2 11 9000 .fullPayment⟩, ⟨1, cardRow 3 10 1000 .refund⟩]
  adjustments := [⟨1, ⟨10, 2500⟩⟩]
  guests := [⟨1, ⟨4, "Ana", "Paz"⟩⟩, ⟨2, ⟨5, "Luis", "Rey"⟩⟩]
  nextTransactionId := 4
  distinctReservations := twoHotels_distinctReservations
  hotelsPositive := by simp [agencyStay, directStay]
  guestStored := by simp [agencyStay, directStay]
  transactionReservation := by simp [agencyStay, directStay, cardRow]
  distinctTransactions := twoHotels_distinctTransactions
  distinctCharges := noCharges_distinct
  idsBelow := by simp [cardRow]
  sourcesBelow := by simp [cardRow]
  allocationsBelow := by simp
  allocationAmounts := by simp
  chargeAmounts := by simp
  allocationRows := by simp
  chargeRows := by simp

/-- The summary of the agency reservation, beside the other hotel's rows. -/
theorem balances_agree_twoHotels :
    ∃ summary, twoHotels.getReservationFinancialSummary (some 1) 10 = .ok summary ∧
      summary.operationalBalanceDue = twoHotels.operationalBalanceDue 1
          agencyStay.toReservationFinancials none := by
  have stored : agencyStay ∈ twoHotels.reservations := by
    simp [twoHotels]
  have collectedHere : ¬twoHotels.reservationHasDeferredCompanyBilling agencyStay 1 := by
    simp [reservationHasDeferredCompanyBilling, deferredCompanyReservationIds, agencyStay]
  exact (balances_agree stored collectedHere).2.2 (some 1) (by simp [agencyStay])

end Database

end HotelPms.Payments
