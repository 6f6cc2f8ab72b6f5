import HotelPms.Foundation.FloatFormat
import HotelPms.Foundation.Table
import HotelPms.Payments.Ledger

/-!
# Rows behind the agency webhooks

Online agencies report bookings by webhooks.  A mapping row remembers the
booking of an agency under its external number, and names the reservation that
was made of it, if any.  Reservations carry their money columns in cents, with
the limits and check constraints of the table.  All rows are those of one
hotel.
-/

namespace HotelPms.Ota

open Hotel Payments

/-- Agencies with an adapter. -/
inductive Provider
  | booking
  | expedia
  | despegar
  deriving DecidableEq

def Provider.code : Provider -> String
  | .booking => "booking"
  | .expedia => "expedia"
  | .despegar => "despegar"

/-- A booking as every adapter reports it.  The time a payload is received is
not part of it: adapters stamp each delivery with their clock. -/
structure NormalizedReservation (F : Type) where
  provider : Provider
  externalReservationId : String
  externalConfirmationCode : Option String := none
  guestFullName : String
  guestEmail : Option String := none
  checkInDate : Int
  checkOutDate : Int
  sellableProductCode : Option String := none
  ratePlanCode : Option String := none
  numAdults : Int := 1
  numChildren : Int := 0
  currencyCode : Option String := none
  grossTotal : Option F := none
  taxTotal : Option F := none
  feeTotal : Option F := none
  commissionTotal : Option F := none
  eventType : String := "new"
  guestPhone : Option String := none
  guestNationality : Option String := none
  guestDocumentType : Option String := none
  guestDocumentNumber : Option String := none
  paidAmount : Option F := none
  paymentCollectionModel : Option String := none
  settlementStatus : Option String := none
  arrivalTimeHint : Option String := none
  notes : Option String := none

namespace NormalizedReservation

variable {F : Type} (normalized : NormalizedReservation F)

/-- Key of the mapping of a booking. -/
def key : String × String :=
  (normalized.provider.code, normalized.externalReservationId)

def stay : Int × Int :=
  (normalized.checkInDate, normalized.checkOutDate)

/-- The booking has a number, and its mapping columns hold it and the name of
the guest. -/
def Identified : Prop :=
  normalized.externalReservationId ≠ "" ∧ normalized.externalReservationId.length ≤ 100 ∧
    normalized.guestFullName.length ≤ 250
deriving Decidable

/-- The columns of the reservation hold the party and the texts of the
payload. -/
def Storable : Prop :=
  0 < normalized.numAdults ∧ 0 ≤ normalized.numChildren ∧
    (normalized.externalConfirmationCode.getD "").length ≤ 120 ∧
    (normalized.arrivalTimeHint.getD "").length ≤ 80
deriving Decidable

end NormalizedReservation

/-- Guest columns that a payload may write. -/
structure Guest where
  id : Int
  firstName : String
  lastName : String
  email : Option String := none
  phone : Option String := none
  nationality : Option String := none
  documentType : Option String := none
  documentNumber : Option String := none

/-- The columns of the guest table hold the row. -/
def Guest.Fits (guest : Guest) : Prop :=
  guest.firstName.length ≤ 120 ∧ guest.lastName.length ≤ 120 ∧ (guest.email.getD "").length ≤ 200 ∧
    (guest.phone.getD "").length ≤ 50 ∧
    (guest.nationality.getD "").length ≤ 80 ∧
    (guest.documentNumber.getD "").length ≤ 50 ∧
    (guest.documentType.all fun kind => kind = "DNI" ∨ kind = "PASSPORT" ∨ kind = "CEDULA") = true
deriving Decidable

/-- Money columns of a reservation, in cents, and what goes with them. -/
structure MoneyColumns where
  totalAmount : Int := 0
  amountPaid : Int := 0
  externalPaidAmount : Int := 0
  externalPaidCurrency : Option String := none
  externalPaidReference : Option String := none
  externalPaidConfirmed : Bool := false
  externalPaidEverConfirmed : Bool := false
  externalPaidConfirmedByUserId : Option Int := none
  externalPaidConfirmedAt : Option Int := none
  depositAmount : Int := 0
  subtotalAmount : Int := 0
  taxAmount : Int := 0
  feeAmount : Int := 0
  commissionAmount : Int := 0
  netAmount : Int := 0
  currencyCode : String := "ARS"
  deriving DecidableEq

namespace MoneyColumns

variable (money : MoneyColumns)

def amounts : List Int :=
  [money.totalAmount, money.amountPaid, money.externalPaidAmount,
    money.depositAmount, money.subtotalAmount, money.taxAmount,
    money.feeAmount, money.commissionAmount, money.netAmount]

/-- The columns hold the row: twelve digits for an amount, three letters for a
currency, and no negative amount where the table forbids it. -/
def Fit : Prop :=
  (money.amounts.all (·.natAbs < 1000000000000)) = true ∧
    0 ≤ money.totalAmount ∧ 0 ≤ money.amountPaid ∧
    0 ≤ money.externalPaidAmount ∧ 0 ≤ money.subtotalAmount ∧
    0 ≤ money.taxAmount ∧ 0 ≤ money.feeAmount ∧
    money.currencyCode.length ≤ 3 ∧
    (money.externalPaidCurrency.getD "").length ≤ 3
deriving Decidable

variable {money}

theorem Fit.paidNonneg (fits : money.Fit) : 0 ≤ money.amountPaid :=
  fits.2.2.1

/-- An external credit has at most twelve digits. -/
theorem Fit.externalPaid (fits : money.Fit) :
    0 ≤ money.externalPaidAmount ∧ money.externalPaidAmount < 1000000000000 := by
  have bounded := List.all_eq_true.mp fits.1 money.externalPaidAmount (by simp [amounts])
  rw [decide_eq_true_eq] at bounded
  have nonneg := fits.2.2.2.1
  omega

end MoneyColumns

/-- A reservation with what the agencies write to it. -/
structure OtaReservation extends Hotel.Reservation where
  positiveId : 0 < id
  ratePlanId : Option Int := none
  taxPolicyId : Option Int := none
  money : MoneyColumns
  moneyFits : money.Fit
  sourceProviderCode : Option String := none
  externalId : Option String := none
  externalConfirmationCode : Option String := none
  arrivalTimeHint : Option String := none
  requestedAttributesJson : Option String := none
  pricingSnapshot : Option String := none
  allocationStatus : String := "unassigned"
  requiresManualReview : Bool := false
  paymentCollectionModel : String := "hotel_collect"
  settlementStatus : String := "not_applicable"
  notes : Option String := none
  deriving DecidableEq

namespace OtaReservation

variable (reservation : OtaReservation)

theorem stayOrdered : reservation.checkInDate < reservation.checkOutDate :=
  reservation.datesOrdered

/-- The columns that the payment rules read. -/
def financials : ReservationFinancials where
  id := reservation.id
  currencyCode := reservation.money.currencyCode
  totalAmount := reservation.money.totalAmount
  amountPaid := reservation.money.amountPaid
  paidNonneg := reservation.moneyFits.paidNonneg
  depositAmount := reservation.money.depositAmount
  status := reservation.status
  companyId := reservation.companyId
  settlementStatus := reservation.settlementStatus
  sourceProviderCode := reservation.sourceProviderCode
  externalId := reservation.externalId
  externalPaidAmount := reservation.money.externalPaidAmount
  externalPaidCurrency := reservation.money.externalPaidCurrency
  externalPaidConfirmed := reservation.money.externalPaidConfirmed
  requiresManualReview := reservation.requiresManualReview
  deletedAt := reservation.deletedAt

/-- The guest is in house, or has left. -/
def Operational : Prop :=
  reservation.status = .partialCheckIn ∨ reservation.status = .checkedIn ∨
    reservation.status = .checkedOut
deriving Decidable

end OtaReservation

structure CatalogCategory extends Hotel.RoomCategory where
  code : String

structure CatalogProduct extends Hotel.SellableProduct where
  code : String
  isActive : Bool := true

structure CatalogCompatibility extends Hotel.ProductRoomCompatibility where
  id : Int

structure RatePlan where
  id : Int
  code : String
  isActive : Bool := true

/-- Room type of an agency and what the hotel sells it as. -/
structure OtaRoomMapping where
  provider : Provider
  externalRoomTypeId : String
  sellableProductId : Option Int := none
  roomCategoryId : Option Int := none
  isActive : Bool := true

structure OtaRatePlanMapping where
  provider : Provider
  externalRatePlanId : String
  ratePlanId : Int
  isActive : Bool := true

/-- What the hotel sells, and how the agencies name it. -/
structure Catalog where
  categories : List CatalogCategory := []
  products : List CatalogProduct := []
  compatibilities : List CatalogCompatibility := []
  ratePlans : List RatePlan := []
  roomMappings : List OtaRoomMapping := []
  ratePlanMappings : List OtaRatePlanMapping := []

/-- Next number of a table. -/
def nextId (ids : List Int) : Int :=
  ids.foldr max 0 + 1

theorem le_foldr_max {ids : List Int} {id : Int} (member : id ∈ ids) : id ≤ ids.foldr max 0 := by
  induction ids with
  | nil => cases member
  | cons first rest ih =>
    rcases List.mem_cons.mp member with rfl | later
    · exact le_max_left _ _
    · exact (ih later).trans (le_max_right _ _)

theorem nextId_not_mem (ids : List Int) : nextId ids ∉ ids := by
  intro member
  have below := le_foldr_max member
  unfold nextId at below
  omega

theorem nextId_pos (ids : List Int) : 0 < nextId ids := by
  have nonneg : 0 ≤ ids.foldr max 0 := by
    induction ids with
    | nil => simp
    | cons first rest ih =>
      exact ih.trans (le_max_right _ _)
  unfold nextId
  omega

/-- What the front desk works on. -/
structure Desk where
  reservations : List OtaReservation
  distinctReservations : (reservations.map (·.id)).Nodup
  guests : List Guest
  distinctGuests : (guests.map Guest.id).Nodup
  rooms : List Room
  distinctRooms : (rooms.map Room.id).Nodup
  blocks : List RoomBlock := []
  catalog : Catalog := {}
  ledger : Ledger := Ledger.empty
  adjustments : List BillingAdjustment := []
  defaultCurrency : Option String := none

namespace Desk

variable (desk : Desk)

/-- Reservation row with an id. -/
def reservation? (id : Int) : Option OtaReservation :=
  Table.find (fun row : OtaReservation => row.id) id desk.reservations

/-- Guest row with an id. -/
def guest? (id : Int) : Option Guest :=
  Table.find Guest.id id desk.guests

/-- Room row with an id. -/
def room? (id : Int) : Option Room :=
  Table.find Room.id id desk.rooms

/-- Category row with an id. -/
def category? (id : Int) : Option CatalogCategory :=
  desk.catalog.categories.find? (·.id = id)

def nextReservationId : Int :=
  nextId (desk.reservations.map (·.id))

theorem nextReservationId_pos : 0 < desk.nextReservationId :=
  nextId_pos _

def nextGuestId : Int :=
  nextId (desk.guests.map Guest.id)

/-- No other reservation has this number of the agency. -/
def KeyFree (id : Int) (providerCode : String) (externalId : Option String) :
    Prop :=
  (desk.reservations.all fun row => row.id = id ∨ externalId = none ∨
      ¬(row.sourceProviderCode = some providerCode ∧ row.externalId = externalId)) = true
deriving Decidable

/-- The tables that allocation and availability read. -/
def hotelState : HotelState where
  reservations := desk.reservations.map OtaReservation.toReservation
  distinctReservations := by
    rw [List.map_map]
    exact desk.distinctReservations
  rooms := desk.rooms
  distinctRooms := desk.distinctRooms
  categories := desk.catalog.categories.map CatalogCategory.toRoomCategory
  blocks := desk.blocks

def writeReservation (row : OtaReservation) : Desk :=
  { desk with
    reservations := Table.upsert (·.id) row desk.reservations
    distinctReservations :=
      Table.nodup_upsert (fun row : OtaReservation => row.id) row desk.distinctReservations }

def writeGuest (guest : Guest) : Desk :=
  { desk with
    guests := Table.upsert Guest.id guest desk.guests
    distinctGuests := Table.nodup_upsert Guest.id guest desk.distinctGuests }

@[simp] theorem reservation?_writeGuest (guest : Guest) (id : Int) :
    (desk.writeGuest guest).reservation? id = desk.reservation? id := rfl

theorem reservation?_writeReservation (row : OtaReservation) (id : Int) :
    (desk.writeReservation row).reservation? id =
      if id = row.id then some row else desk.reservation? id := by
  split_ifs with same
  · rw [same]
    exact Table.find_upsert_self (fun row : OtaReservation => row.id) row desk.distinctReservations
  · exact Table.find_upsert_of_ne (same ·.symm)

theorem guest?_writeGuest (guest : Guest) (id : Int) : (desk.writeGuest guest).guest? id =
      if id = guest.id then some guest else desk.guest? id := by
  split_ifs with same
  · rw [same]
    exact Table.find_upsert_self Guest.id guest desk.distinctGuests
  · exact Table.find_upsert_of_ne (same ·.symm)

theorem reservation?_next : desk.reservation? desk.nextReservationId = none := by
  refine List.find?_eq_none.mpr fun row member => ?_
  rw [decide_eq_true_eq]
  intro same
  apply nextId_not_mem (desk.reservations.map (·.id))
  rw [← nextReservationId, ← same]
  exact List.mem_map_of_mem member

end Desk

inductive SyncStatus
  | pending
  | synced
  | failed
  | conflict

/-- What the hotel knows of a booking of an agency. -/
structure OtaMapping where
  otaName : String
  otaReservationId : String
  reservationId : Option Int := none
  otaGuestName : String := ""
  syncStatus : SyncStatus := .pending
  errorMessage : Option String := none

/-- Bookings are told apart by agency and number. -/
def OtaMapping.key (mapping : OtaMapping) : String × String :=
  (mapping.otaName, mapping.otaReservationId)

/-- The front desk and the bookings of the agencies. -/
structure OtaTables where
  desk : Desk
  mappings : List OtaMapping
  distinctMappings : (mappings.map OtaMapping.key).Nodup

namespace OtaTables

variable (tables : OtaTables)

/-- Mapping under a key. -/
def mapping? (key : String × String) : Option OtaMapping :=
  Table.find OtaMapping.key key tables.mappings

/-- Write a mapping next to what has become of the front desk. -/
def writeMapping (mapping : OtaMapping) (desk : Desk) : OtaTables where
  desk := desk
  mappings := Table.upsert OtaMapping.key mapping tables.mappings
  distinctMappings :=
    Table.nodup_upsert OtaMapping.key mapping tables.distinctMappings

theorem mapping?_writeMapping (mapping : OtaMapping) (desk : Desk) (key : String × String) :
    (tables.writeMapping mapping desk).mapping? key =
      if key = mapping.key then some mapping else tables.mapping? key := by
  split_ifs with same
  · rw [same]
    exact Table.find_upsert_self OtaMapping.key mapping tables.distinctMappings
  · exact Table.find_upsert_of_ne (same ·.symm)

end OtaTables

end HotelPms.Ota
