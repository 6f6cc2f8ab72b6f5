import HotelPms.Foundation.GroupSum
import HotelPms.Payments.Database

/-!
# Paid amounts and balances of many reservations

The read helpers over the shared tables, with the points at which they round,
and the occupancy grid that lists the balances of a range of dates.  Amounts
are counted in cents and need not be whole before they are rounded.
-/

namespace HotelPms.Payments

open Checked GroupSum Hotel

/-- An amount rounded to the cent, ties to even. -/
def cents (amount : ℚ) : ℚ :=
  Decimal.quantize 0 amount

/-- The reservation belongs to the requested set, if there is one. -/
def requested (reservationIds : Option (List Int)) (id : Int) : Bool :=
  reservationIds.all (id ∈ ·)

namespace Database

variable (db : Database) (hotelId : Int)

/-- Transactions of the hotel that have been confirmed. -/
def completedTransactions : List Transaction :=
  (ofHotel hotelId db.transactions).filter (·.status = .completed)

variable (reservationIds : Option (List Int))

/-- Aggregate confirmed payments once, optionally for a bounded set of
reservations. -/
def completedPaidAmountsByReservation : List (Int × ℚ) :=
  if reservationIds = some [] then []
  else
    (groupSum Transaction.reservationId (fun row => (row.signedAmount : ℚ))
      ((db.completedTransactions hotelId).filter fun row =>
        requested reservationIds row.reservationId)).map fun group => (group.1, cents group.2)

/-- Confirmed net payments of one reservation. -/
def completedPaidAmount (reservationId : Int) : ℚ :=
  ((db.completedPaidAmountsByReservation hotelId
    (some [reservationId])).lookup reservationId).getD 0

def reservationsWithTransactions : List Int :=
  (((ofHotel hotelId db.transactions).map Transaction.reservationId).filter
    (requested reservationIds)).dedup

/-- Bulk guest-balance credits: confirmed external amounts plus local
payments.  The stored amount counts only for a direct reservation without
transactions. -/
def paidAmountsByReservation : List (Int × ℚ) :=
  if reservationIds = some [] then []
  else
    let completed :=
      db.completedPaidAmountsByReservation hotelId reservationIds
    let hasTransactions :=
      db.reservationsWithTransactions hotelId reservationIds
    ((db.reservationsOf hotelId).filter fun row =>
      requested reservationIds row.id).map fun row =>
        let ledgerPaid := (completed.lookup row.id).getD 0
        (row.id,
          if row.isOta then cents (ledgerPaid + row.externalPaidBalanceCredit)
          else if row.id ∈ hasTransactions then ledgerPaid
          else cents row.amountPaid)

/-- Paid totals without the stored amounts: confirmed payments and explicitly
confirmed external credits. -/
def reconciledPaidAmountsByReservation : List (Int × ℚ) :=
  let totals := db.completedPaidAmountsByReservation hotelId reservationIds
  if reservationIds = some [] then []
  else
    (((db.reservationsOf hotelId).filter fun row =>
      requested reservationIds row.id).filter fun row =>
        row.isOta && row.externalPaidConfirmed).map (fun row =>
          (row.id, cents ((totals.lookup row.id).getD 0 + row.externalPaidBalanceCredit))) ++ totals

/-- Confirmed external credits plus the net completed ledger of one
reservation. -/
def paidAmountWithLegacyFallback (reservation : ReservationFinancials) : ℚ :=
  let completedLedger := db.completedPaidAmount hotelId reservation.id
  if reservation.isOta then
    cents (completedLedger + reservation.externalPaidBalanceCredit)
  else if ((ofHotel hotelId db.transactions).find? fun row =>
      row.reservationId = reservation.id) = none then
    cents reservation.amountPaid
  else completedLedger

def billingAdjustmentTotalsByReservation : List (Int × ℚ) :=
  if reservationIds = some [] then []
  else
    (groupSum BillingAdjustment.reservationId (fun row => (row.totalAmount : ℚ))
      ((ofHotel hotelId db.adjustments).filter fun row =>
        requested reservationIds row.reservationId)).map fun group => (group.1, cents group.2)

/-- Collectible balance from confirmed transactions and adjustments. -/
def operationalBalanceDue (reservation : ReservationFinancials) (paidAmount : Option ℚ) : ℚ :=
  let adjustmentTotal :=
    ((db.billingAdjustmentTotalsByReservation hotelId
      (some [reservation.id])).lookup reservation.id).getD 0
  let paid :=
    paidAmount.getD (db.paidAmountWithLegacyFallback hotelId reservation)
  cents (max 0 (reservation.totalAmount + adjustmentTotal - paid))

end Database

/-- Role of a caller in the hotel it is authenticated for. -/
structure AuthContext where
  hotelId : Int
  userRole : String

/-- A reservation of the grid; the balance has the type of the numbers the
caller receives. -/
structure GridItem (F : Type) where
  id : Int
  version : Int
  roomId : Option Int
  confirmationCode : String
  checkInDate : Int
  checkOutDate : Int
  status : ReservationStatus
  guestName : String
  numAdults : Nat
  numChildren : Nat
  operationalBalanceDue : F

/-- Reservations of the grid, apart from those without a room. -/
structure OccupancyGrid (F : Type) where
  reservations : List (GridItem F)
  unassigned : List (GridItem F)

namespace Database

variable (db : Database)

def dayAfterHours (midnight hours : Int) : Int :=
  (midnight * 24 + hours) / 24

/-- Active reservations that meet the visibility window of the caller's
role. -/
def visibleReservations (context : AuthContext) (today : Int) : List StoredReservation :=
  let query := db.activeReservations context.hotelId
  match (ofHotel context.hotelId db.visibilityWindows).find? fun window =>
      decide (window.role = context.userRole) with
  | none => query
  | some window =>
    query.filter fun row =>
      (window.pastHours.all fun hours => dayAfterHours today (-hours) ≤ row.checkOutDate) &&
      (window.futureHours.all (row.checkInDate ≤ dayAfterHours today ·))

/-- Reservations whose stay meets the dates of the grid, with their guests. -/
def gridRows (hotelId dateFrom dateTo : Int)
    (scope : List StoredReservation) : List (StoredReservation × Guest) :=
  (scope.filter fun row => row.status ≠ .cancelled ∧ row.status ≠ .checkedOut ∧
      row.checkInDate < dateTo ∧ dateFrom < row.checkOutDate).filterMap fun row =>
          ((ofHotel hotelId db.guests).find? fun guest =>
            guest.id = row.guestId).map fun guest => (row, guest)

/-- Balance of a row of the grid, given the bulk totals. -/
def gridBalance (adjustments paid : List (Int × ℚ)) (row : StoredReservation) : ℚ :=
  max 0 (row.totalAmount + (adjustments.lookup row.id).getD 0 - (paid.lookup row.id).getD 0)

/-- What the grid shows of a row. -/
def gridItem {F : Type} (float : ℚ → F) (adjustments paid : List (Int × ℚ))
    (row : StoredReservation × Guest) : GridItem F where
  id := row.1.id
  version := row.1.version
  roomId := row.1.roomId
  confirmationCode := row.1.confirmationCode
  checkInDate := row.1.checkInDate
  checkOutDate := row.1.checkOutDate
  status := row.1.status
  guestName := row.2.firstName ++ " " ++ row.2.lastName
  numAdults := row.1.numAdults
  numChildren := row.1.numChildren
  operationalBalanceDue := float (gridBalance adjustments paid row.1)

/-- Reservations the grid may show: those the caller's role sees, or all
active ones of the hotel. -/
def gridScope (hotelId today : Int) (context : Option AuthContext) : List StoredReservation :=
  match context with
  | some caller => db.visibleReservations caller today
  | none => db.activeReservations hotelId

/-- Items of the grid's rows, from totals read once for all of them. -/
def gridItems {F : Type} (float : ℚ -> F) (hotelId : Int)
    (rows : List (StoredReservation × Guest)) : List (GridItem F) :=
  let ids := rows.map (·.1.id)
  let paid := db.paidAmountsByReservation hotelId (some ids)
  let adjustments :=
    db.billingAdjustmentTotalsByReservation hotelId (some ids)
  rows.map (gridItem float adjustments paid)

def getOccupancyGrid {F : Type} (float : ℚ -> F) (hotelId dateFrom dateTo today : Int)
    (context : Option AuthContext) : Except String (OccupancyGrid F) := do
  raiseIf ((context.all (·.hotelId = hotelId)) = false)
    "El contexto autenticado no pertenece al hotel solicitado"
  let items := db.gridItems float hotelId
    (db.gridRows hotelId dateFrom dateTo (db.gridScope hotelId today context))
  pure
    { reservations := items.filter fun item => item.roomId.isSome
      unassigned := items.filter (·.roomId.isNone) }

end Database

/-! ## The helpers read the hotel's ledger -/

@[simp] theorem cents_intCast (amount : Int) : cents amount = amount := by
  unfold cents Decimal.quantize Decimal.roundHalfEven
  simp

namespace Database

variable {db : Database} {hotelId : Int}

/-- A sum of whole cents is whole. -/
theorem sum_intCast {α : Type} (rows : List α) (value : α -> Int) :
    (rows.map fun row => (value row : ℚ)).sum = ((rows.map value).sum : Int) := by
  induction rows with
  | nil => simp
  | cons row rows ih =>
    rw [List.map_cons, List.sum_cons, ih, List.map_cons, List.sum_cons, Int.cast_add]

variable {reservationIds : Option (List Int)}

theorem lookup_centsTotal {α : Type} (key value : α -> Int) {rows : List α}
    {id : Int} (asked : requested reservationIds id = true) :
    ((if reservationIds = some [] then [] else
      (groupSum key (fun row => (value row : ℚ))
        (rows.filter fun row => requested reservationIds (key row))).map
          fun group => (group.1, cents group.2)).lookup id).getD 0 =
      (((rows.filter (key · = id)).map value).sum : Int) := by
  have nonempty : reservationIds ≠ some [] := by
    rintro rfl
    simp [requested] at asked
  rw [if_neg nonempty, lookup_map_value]
  have zero : (0 : ℚ) = cents 0 := by
    have whole := cents_intCast 0
    exact whole.symm
  have read : ∀ entry : Option ℚ, (entry.map cents).getD 0 = cents (entry.getD 0) := by
    intro entry
    cases entry with
    | none => exact zero
    | some total => rfl
  rw [read, getD_lookup_groupSum, totalOf_filter, totalOf, sum_intCast, cents_intCast]
  intro row _ same
  rw [same]
  exact asked

theorem lookup_completedPaidAmounts {id : Int} (asked : requested reservationIds id = true) :
    ((db.completedPaidAmountsByReservation hotelId reservationIds).lookup id).getD 0 =
      ((db.ledger hotelId).completedPaidAmount id : ℚ) := by
  unfold completedPaidAmountsByReservation
  rw [lookup_centsTotal Transaction.reservationId Transaction.signedAmount asked]
  unfold Ledger.completedPaidAmount Ledger.forReservation completedTransactions
  rw [List.filter_filter, List.filter_filter]
  congr 4
  funext row
  exact Bool.and_comm _ _

theorem requested_singleton (id : Int) : requested (some [id]) id = true := by
  simp [requested]

theorem completedPaidAmount_eq (id : Int) :
    db.completedPaidAmount hotelId id = ((db.ledger hotelId).completedPaidAmount id : ℚ) :=
  lookup_completedPaidAmounts (requested_singleton id)

theorem find?_transaction_eq_none (id : Int) : ((ofHotel hotelId db.transactions).find? fun row =>
      row.reservationId = id) = none ↔ (db.ledger hotelId).hasTransactions id = false := by
  unfold Ledger.hasTransactions Ledger.forReservation ledger
  rw [List.find?_eq_none, Bool.not_eq_false', List.isEmpty_iff, List.filter_eq_nil_iff]

theorem paidAmountWithLegacyFallback_eq (reservation : ReservationFinancials) :
    db.paidAmountWithLegacyFallback hotelId reservation =
      (reservation.paidAmountWithLegacyFallback (db.ledger hotelId) : ℚ) := by
  unfold paidAmountWithLegacyFallback ReservationFinancials.paidAmountWithLegacyFallback
  simp only [completedPaidAmount_eq, find?_transaction_eq_none]
  split_ifs
  · rw [← Int.cast_add, cents_intCast]
  · exact cents_intCast _
  · rfl

theorem mem_reservationsWithTransactions {id : Int} (asked : requested reservationIds id = true) :
    id ∈ db.reservationsWithTransactions hotelId reservationIds ↔
      (db.ledger hotelId).hasTransactions id = true := by
  unfold reservationsWithTransactions Ledger.hasTransactions Ledger.forReservation
  rw [List.mem_dedup, List.mem_filter, List.mem_map, Bool.not_eq_true',
    ← Bool.not_eq_true, List.isEmpty_iff, List.filter_eq_nil_iff]
  simp only [decide_eq_true_eq, not_forall, not_not]
  constructor
  · rintro ⟨⟨row, member, same⟩, -⟩
    exact ⟨row, member, same⟩
  · rintro ⟨row, member, same⟩
    exact ⟨⟨row, member, same⟩, asked⟩

theorem lookup_paidAmounts {reservation : StoredReservation}
    (stored : reservation ∈ db.reservations)
    (asked : requested reservationIds reservation.id = true) :
    (db.paidAmountsByReservation reservation.hotelId reservationIds).lookup reservation.id =
      some (db.paidAmountWithLegacyFallback reservation.hotelId
        reservation.toReservationFinancials) := by
  have nonempty : reservationIds ≠ some [] := by
    rintro rfl
    simp [requested] at asked
  have listed : reservation ∈ (db.reservationsOf reservation.hotelId).filter
      (requested reservationIds ·.id) :=
    List.mem_filter.mpr ⟨mem_reservationsOf.mpr stored, asked⟩
  have distinct : (((db.reservationsOf reservation.hotelId).filter fun row =>
      requested reservationIds row.id).map (·.id)).Nodup :=
    db.distinctReservations.sublist ((List.filter_sublist.trans List.filter_sublist).map _)
  rw [paidAmountsByReservation, if_neg nonempty,
    lookup_of_mem _ _ distinct listed, paidAmountWithLegacyFallback_eq]
  congr 1
  unfold ReservationFinancials.paidAmountWithLegacyFallback
  simp only [lookup_completedPaidAmounts asked, mem_reservationsWithTransactions asked]
  by_cases ota : reservation.isOta = true
  · rw [if_pos ota, if_pos ota, ← Int.cast_add, cents_intCast]
  · rw [if_neg ota, if_neg ota]
    cases (db.ledger reservation.hotelId).hasTransactions reservation.id with
    | true => rfl
    | false => exact cents_intCast _

theorem lookup_billingAdjustmentTotals (reservation : ReservationFinancials)
    (asked : requested reservationIds reservation.id = true) :
    ((db.billingAdjustmentTotalsByReservation hotelId
        reservationIds).lookup reservation.id).getD 0 =
      (reservation.adjustmentTotal (ofHotel hotelId db.adjustments) : ℚ) := by
  exact lookup_centsTotal BillingAdjustment.reservationId BillingAdjustment.totalAmount asked

/-- The balance of whole amounts is whole. -/
theorem max_intCast (total adjustments paid : Int) :
    max 0 ((total : ℚ) + adjustments - paid) = (max 0 (total + adjustments - paid) : Int) := by
  push_cast
  rfl

theorem operationalBalanceDue_eq (reservation : ReservationFinancials) :
    db.operationalBalanceDue hotelId reservation none =
      (reservation.operationalBalanceDue (ofHotel hotelId db.adjustments)
        (reservation.paidAmountWithLegacyFallback (db.ledger hotelId)) : ℚ) := by
  unfold operationalBalanceDue
  simp only [Option.getD_none]
  rw [lookup_billingAdjustmentTotals reservation (requested_singleton reservation.id),
    paidAmountWithLegacyFallback_eq, max_intCast, cents_intCast]
  rfl

theorem gridBalance_eq {reservation : StoredReservation} (stored : reservation ∈ db.reservations)
    (asked : requested reservationIds reservation.id = true) :
    gridBalance (db.billingAdjustmentTotalsByReservation reservation.hotelId reservationIds)
        (db.paidAmountsByReservation reservation.hotelId reservationIds)
        reservation = db.operationalBalanceDue reservation.hotelId
        reservation.toReservationFinancials none := by
  unfold gridBalance
  rw [lookup_paidAmounts stored asked, Option.getD_some,
    lookup_billingAdjustmentTotals reservation.toReservationFinancials asked,
    paidAmountWithLegacyFallback_eq, max_intCast, operationalBalanceDue_eq]
  rfl

theorem mem_gridRows {dateFrom dateTo : Int} {scope : List StoredReservation}
    {row : StoredReservation × Guest}
    (member : row ∈ db.gridRows hotelId dateFrom dateTo scope) :
    row.1 ∈ scope := by
  obtain ⟨reservation, listed, guest⟩ := List.mem_filterMap.mp member
  obtain ⟨_, -, rfl⟩ := Option.map_eq_some_iff.mp guest
  exact (List.mem_filter.mp listed).1

theorem mem_visibleReservations {context : AuthContext} {today : Int} {row : StoredReservation}
    (member : row ∈ db.visibleReservations context today) :
    row ∈ db.activeReservations context.hotelId := by
  unfold visibleReservations at member
  split at member
  · exact member
  · exact (List.mem_filter.mp member).1

theorem mem_gridScope {today : Int} {context : Option AuthContext} {row : StoredReservation}
    (sameHotel : (context.all (·.hotelId = hotelId)) = true)
    (member : row ∈ db.gridScope hotelId today context) :
    row ∈ db.reservations ∧ row.hotelId = hotelId := by
  have active : row ∈ db.activeReservations hotelId := by
    cases context with
    | none => exact member
    | some caller =>
      have same : caller.hotelId = hotelId := by
        simpa using sameHotel
      rw [← same]
      exact mem_visibleReservations member
  have own := List.mem_filter.mp (List.mem_filter.mp active).1
  exact ⟨own.1, of_decide_eq_true own.2⟩

theorem mem_gridItems {F : Type} {float : ℚ -> F} {rows : List (StoredReservation × Guest)}
    (scope : ∀ row ∈ rows, row.1 ∈ db.reservations ∧ row.1.hotelId = hotelId)
    {item : GridItem F} (member : item ∈ db.gridItems float hotelId rows) :
    ∃ reservation ∈ db.reservations, reservation.hotelId = hotelId ∧ reservation.id = item.id ∧
      item.operationalBalanceDue = float (db.operationalBalanceDue hotelId
          reservation.toReservationFinancials none) := by
  obtain ⟨row, rowIn, rfl⟩ := List.mem_map.mp member
  obtain ⟨stored, rfl⟩ := scope row rowIn
  refine ⟨row.1, stored, rfl, rfl, ?_⟩
  have asked : requested (some (rows.map (·.1.id))) row.1.id =
      true := by
    rw [requested, Option.all_some, decide_eq_true_iff]
    exact List.mem_map_of_mem rowIn
  exact congrArg float (gridBalance_eq stored asked)

theorem getOccupancyGrid_balance {F : Type} {float : ℚ → F}
    {dateFrom dateTo today : Int} {context : Option AuthContext}
    {grid : OccupancyGrid F}
    (listed : db.getOccupancyGrid float hotelId dateFrom dateTo today context = .ok grid)
    {item : GridItem F} (member : item ∈ grid.reservations ++ grid.unassigned) :
    ∃ reservation ∈ db.reservations, reservation.hotelId = hotelId ∧ reservation.id = item.id ∧
      item.operationalBalanceDue = float (db.operationalBalanceDue hotelId
          reservation.toReservationFinancials none) := by
  simp only [getOccupancyGrid, bind_eq_ok, pure_eq_ok, raiseIf_eq_ok, Bool.not_eq_false] at listed
  obtain ⟨-, sameHotel, rfl⟩ := listed
  rw [List.mem_append, List.mem_filter, List.mem_filter] at member
  apply mem_gridItems _ (member.elim And.left And.left)
  intro row rowIn
  exact mem_gridScope sameHotel (mem_gridRows rowIn)

end Database

end HotelPms.Payments
