import HotelPms.Payments.Request

/-!
# Tables shared by all hotels

Every table holds the rows of all hotels and every query restricts them to one
of them.  `Database.ledger` is what a hotel sees of the transaction tables.
-/

namespace HotelPms.Payments

open Hotel

/-- A row of a table that all hotels share. -/
structure Scoped (α : Type) where
  hotelId : Int
  row : α

def ofHotel {α : Type} (hotelId : Int) (table : List (Scoped α)) : List α :=
  (table.filter (·.hotelId = hotelId)).map Scoped.row

theorem mem_ofHotel {α : Type} {hotelId : Int} {table : List (Scoped α)}
    {row : α} : row ∈ ofHotel hotelId table ↔ ⟨hotelId, row⟩ ∈ table := by
  simp only [ofHotel, List.mem_map, List.mem_filter, decide_eq_true_eq]
  constructor
  · rintro ⟨entry, ⟨member, rfl⟩, rfl⟩
    exact member
  · intro member
    exact ⟨⟨hotelId, row⟩, ⟨member, rfl⟩, rfl⟩

/-- Reservation row: the financial columns and those the grid shows. -/
structure StoredReservation extends ReservationFinancials where
  hotelId : Int
  version : Int := 1
  roomId : Option Int := none
  confirmationCode : String := ""
  guestId : Int
  checkInDate : Int
  checkOutDate : Int
  numAdults : Nat := 1
  numChildren : Nat := 0
  deriving DecidableEq

structure Guest where
  id : Int
  firstName : String
  lastName : String

/-- Visibility limits of a role, in hours around the hotel's midnight. -/
structure VisibilityWindow where
  role : String
  pastHours : Option Int
  futureHours : Option Int

/-- The tables the balances are read from, with their keys. -/
structure Database where
  reservations : List StoredReservation
  transactions : List (Scoped Transaction) := []
  allocations : List (Scoped NightAllocation) := []
  nightCharges : List (Scoped CompanyNightCharge) := []
  adjustments : List (Scoped BillingAdjustment) := []
  companies : List (Scoped Company) := []
  guests : List (Scoped Guest) := []
  visibilityWindows : List (Scoped VisibilityWindow) := []
  nextTransactionId : Int := 1
  /-- The identifier is the primary key of the table. -/
  distinctReservations : (reservations.map (·.id)).Nodup
  /-- Identifiers of hotels are assigned from one on. -/
  hotelsPositive : ∀ row ∈ reservations, 0 < row.hotelId
  /-- Every reservation names a guest of its hotel. -/
  guestStored : ∀ row ∈ reservations, ∃ entry ∈ guests,
    entry.hotelId = row.hotelId ∧ entry.row.id = row.guestId
  /-- `fk_transactions_hotel_reservation`. -/
  transactionReservation : ∀ entry ∈ transactions, ∃ row ∈ reservations,
    row.hotelId = entry.hotelId ∧ row.id = entry.row.reservationId
  distinctTransactions : (transactions.map (·.row.id)).Nodup
  distinctCharges : (nightCharges.map (·.row.id)).Nodup
  idsBelow : ∀ entry ∈ transactions, entry.row.id < nextTransactionId
  sourcesBelow : ∀ entry ∈ transactions, ∀ source, entry.row.refundOfTransactionId = some source ->
      source < nextTransactionId
  allocationsBelow : ∀ entry ∈ allocations, entry.row.transactionId < nextTransactionId
  /-- Amount columns hold ten digits before the point. -/
  allocationAmounts : ∀ entry ∈ allocations, entry.row.amount < 10 ^ 12
  chargeAmounts : ∀ entry ∈ nightCharges, |entry.row.amount| < 10 ^ 12
  /-- Rows are numbered by 32-bit identifiers. -/
  allocationRows : allocations.length < 2 ^ 31
  chargeRows : nightCharges.length < 2 ^ 31

namespace Database

variable (db : Database) (hotelId : Int)

theorem ledger_distinctIds : ((ofHotel hotelId db.transactions).map Transaction.id).Nodup := by
  have kept : (ofHotel hotelId db.transactions).map Transaction.id =
      (db.transactions.filter fun entry =>
        entry.hotelId = hotelId).map (·.row.id) := by
    rw [ofHotel, List.map_map]
    rfl
  rw [kept]
  exact db.distinctTransactions.sublist (List.filter_sublist.map _)

theorem ledger_idsBelow : ∀ row ∈ ofHotel hotelId db.transactions, row.id < db.nextTransactionId :=
  fun _ member => db.idsBelow _ (mem_ofHotel.mp member)

theorem ledger_sourcesBelow : ∀ row ∈ ofHotel hotelId db.transactions, ∀ source,
      row.refundOfTransactionId = some source → source < db.nextTransactionId :=
  fun _ member => db.sourcesBelow _ (mem_ofHotel.mp member)

theorem ledger_allocationsBelow :
    ∀ row ∈ ofHotel hotelId db.allocations, row.transactionId < db.nextTransactionId :=
  fun _ member => db.allocationsBelow _ (mem_ofHotel.mp member)

/-- Transaction tables as a hotel sees them. -/
def ledger : Ledger where
  transactions := ofHotel hotelId db.transactions
  allocations := ofHotel hotelId db.allocations
  nextTransactionId := db.nextTransactionId
  distinctIds := db.ledger_distinctIds hotelId
  idsBelow := db.ledger_idsBelow hotelId
  sourcesBelow := db.ledger_sourcesBelow hotelId
  allocationsBelow := db.ledger_allocationsBelow hotelId

/-- Reservations of a hotel, deleted ones included. -/
def reservationsOf : List StoredReservation :=
  db.reservations.filter (·.hotelId = hotelId)

/-- Single place that decides which reservations exist. -/
def activeReservations : List StoredReservation :=
  (db.reservationsOf hotelId).filter (·.deletedAt = none)

variable {db}

theorem mem_reservationsOf {row : StoredReservation} :
    row ∈ db.reservationsOf row.hotelId ↔ row ∈ db.reservations := by
  simp [reservationsOf]

/-- The primary key singles out a row. -/
theorem reservation_unique {first second : StoredReservation}
    (firstIn : first ∈ db.reservations) (secondIn : second ∈ db.reservations)
    (same : first.id = second.id) : first = second :=
  List.inj_on_of_nodup_map db.distinctReservations firstIn secondIn same

end Database

end HotelPms.Payments
