import HotelPms.Ota.Redelivery

/-!
# Modified bookings

A modification that is applied puts its stay into a room that is free, and one
that is left to the staff changes neither stay nor room nor money.  The status
of an applied modification follows from what has been paid.  It is the old one
or a valid next one for a pending reservation, for a stay in house or closed,
and for a paid one that stays paid; a no-show and a stay before its check-in
are set back.
-/

namespace HotelPms.Ota

open Hotel Payments Booking Checked FloatFormat HalfOpen

variable {F : Type}

/-- No two active reservations of one room overlap, and no active reservation
overlaps an unresolved block of its room. -/
structure Desk.RoomsExclusive (desk : Desk) : Prop where
  stays : desk.hotelState.NoDoubleBooking
  blocks : ∀ row ∈ desk.reservations, row.Active -> ∀ block ∈ desk.blocks,
    row.roomId = some block.roomId -> ¬block.BlocksWindow row.stay

/-- A row in a room that is free and not blocked while it is active. -/
structure FitsRoom (desk : Desk) (row : OtaReservation) : Prop where
  free : row.Active -> ∀ roomId, row.roomId = some roomId ->
    desk.hotelState.RoomFree roomId row.stay (some row.id)
  unblocked : row.Active -> ∀ block ∈ desk.blocks,
    row.roomId = some block.roomId -> ¬block.BlocksWindow row.stay

variable {desk : Desk} {row : OtaReservation}

theorem Desk.RoomsExclusive.writeReservation (exclusive : desk.RoomsExclusive)
    (fits : FitsRoom desk row) :
    (desk.writeReservation row).RoomsExclusive := by
  have members : ∀ item ∈ (desk.writeReservation row).hotelState.reservations,
      item = row.toReservation ∨ (item ∈ desk.hotelState.reservations ∧ item.id ≠ row.id) := by
    intro item member
    obtain ⟨other, isOther, rfl⟩ := List.mem_map.mp member
    rcases Table.mem_upsert isOther with rfl | ⟨old, differs⟩
    · exact .inl rfl
    · exact .inr ⟨List.mem_map_of_mem old, differs⟩
  constructor
  · refine Exclusive.of_changed {row.toReservation} exclusive.stays ?_
      (fun _ _ _ _ => id) (fun _ _ _ _ => id) ?_
    · rintro item ⟨member, active⟩ unchanged
      rcases members item member with same | ⟨old, -⟩
      · exact absurd same unchanged
      · exact ⟨old, active⟩
    · rintro item ⟨-, itemActive⟩ rfl other ⟨member, active⟩ different held
        itemHolds otherHolds overlap
      rcases members other member with same | ⟨old, otherId⟩
      · exact different same.symm
      · refine fits.free itemActive held itemHolds other old active ?_ otherHolds overlap.symm
        intro same
        exact otherId (Option.some.inj same).symm
  · intro item member active
    rcases Table.mem_upsert member with rfl | ⟨old, -⟩
    · exact fits.unblocked active
    · exact exclusive.blocks item old active

theorem Desk.RoomsExclusive.fitsRoom {old : OtaReservation} (exclusive : desk.RoomsExclusive)
    (stored : desk.reservation? old.id = some old)
    (sameId : row.id = old.id) (sameRoom : row.roomId = old.roomId)
    (sameStay : row.stay = old.stay)
    (stillActive : row.Active -> old.Active) : FitsRoom desk row := by
  have member := mem_reservations_iff.mpr stored
  constructor
  · intro active roomId inRoom other otherIn otherActive different otherRoom
    rw [sameStay]
    refine exclusive.stays other ⟨otherIn, otherActive⟩ old.toReservation
      ⟨List.mem_map_of_mem member, stillActive active⟩ ?_ roomId otherRoom ?_
    · rintro rfl
      exact different (congrArg some sameId)
    · rw [← sameRoom, inRoom]
  · intro active block blockIn inRoom
    rw [sameStay]
    refine exclusive.blocks old member (stillActive active) block blockIn ?_
    rw [← sameRoom, inRoom]

theorem fitsRoom_of_available {roomId : Int} (inRoom : row.roomId = some roomId)
    (available : checkRoomAvailability desk.hotelState roomId row.stay
      (some row.id) = .ok true) : FitsRoom desk row := by
  constructor
  · intro _ held isHeld
    rw [inRoom] at isHeld
    cases isHeld
    exact checkRoomAvailability_eq_ok available
  · intro _ block blockIn isHeld blocks
    have unblocked := (checkRoomAvailability_cases available).2.1
    refine List.any_eq_false.mp unblocked block blockIn ?_
    rw [inRoom] at isHeld
    exact decide_eq_true ⟨(Option.some.inj isHeld).symm, blocks⟩

section

variable [FloatFormat F] {env : OtaEnvironment F} {desk : Desk}
  {reservation : OtaReservation} {normalized : NormalizedReservation F}
  {receivedAt : Int}

def MoneyColumns.inCurrency (money : MoneyColumns) (currencyCode : String) :
    MoneyColumns :=
  { money with currencyCode := currencyCode }

/-- Amount paid for a reservation once a payload is applied, given the
currency that its stay is priced in. -/
def paidWithCredit (desk : Desk) (reservation : OtaReservation)
    (normalized : NormalizedReservation F) (currencyCode : String) : Int :=
  (normalized.creditColumns desk (reservation.money.inCurrency currencyCode)
    0).externalCredit + desk.ledger.completedPaidAmount reservation.id

/-- The currency in which the stay of a payload is priced, where the
reservation service accepts it. -/
def pricedCurrency (env : OtaEnvironment F) (desk : Desk)
    (reservation : OtaReservation) (normalized : NormalizedReservation F) :
    String :=
  let guest := syncedGuest normalized ((desk.guest? reservation.guestId).getD (newGuest desk))
  match updateReservationFields env (desk.writeGuest guest) reservation normalized with
  | .ok updated => updated.money.currencyCode
  | .error _ => reservation.money.currencyCode

theorem externalCredit_congr {again : Desk} {first second : MoneyColumns} {receivedAgain : Int}
    (sameAmount : second.externalPaidAmount = first.externalPaidAmount)
    (sameCurrency : second.externalPaidCurrency = first.externalPaidCurrency)
    (sameDefault : again.defaultCurrency = desk.defaultCurrency)
    (named : normalized.PreservesExternalPayment first ->
      given first.externalPaidCurrency = none -> second.currencyCode = first.currencyCode) :
    (normalized.creditColumns again second receivedAgain).externalCredit =
      (normalized.creditColumns desk first receivedAt).externalCredit := by
  have samePreserved : normalized.PreservesExternalPayment second ↔
      normalized.PreservesExternalPayment first := by
    unfold NormalizedReservation.PreservesExternalPayment
    rw [sameAmount]
  have samePaid : normalized.externalPaid second = normalized.externalPaid first := by
    unfold NormalizedReservation.externalPaid NormalizedReservation.amountPaid
    simp only [samePreserved, sameAmount]
  have sameReservationCurrency : reservationCurrency again normalized =
      reservationCurrency desk normalized := by
    unfold reservationCurrency hotelDefaultCurrency
    rw [sameDefault]
  have sameCreditCurrency : normalized.externalPaidCurrency again second =
      normalized.externalPaidCurrency desk first := by
    unfold NormalizedReservation.externalPaidCurrency
    rw [samePaid, sameReservationCurrency]
    by_cases preserved : normalized.PreservesExternalPayment first
    · rw [if_pos preserved, if_pos (samePreserved.mpr preserved), sameCurrency]
      cases isGiven : given first.externalPaidCurrency with
      | none => rw [named preserved isGiven]
      | some code => rfl
    · rw [if_neg preserved, if_neg (mt samePreserved.mp preserved)]
  unfold MoneyColumns.externalCredit ReservationFinancials.externalPaidBalanceCredit
    ReservationFinancials.currency NormalizedReservation.creditColumns
  simp only [samePaid, sameCreditCurrency, sameReservationCurrency]

/-- The status that follows from the paid amount is the old one or a valid
next one. -/
def NormalizedReservation.StatusMayFollow (normalized : NormalizedReservation F) (paid : Int) :
    ReservationStatus -> Prop
  | .pending | .partialCheckIn | .checkedIn | .checkedOut | .cancelled => True
  | .depositPaid => normalized.financialStatus paid ≠ .pending
  | .fullyPaid => normalized.financialStatus paid = .fullyPaid
  | .preCheckIn | .noShow => False

instance (paid : Int) : ∀ status, Decidable (normalized.StatusMayFollow paid status)
  | .pending | .partialCheckIn | .checkedIn | .checkedOut | .cancelled =>
    inferInstanceAs (Decidable True)
  | .depositPaid =>
    inferInstanceAs (Decidable (normalized.financialStatus paid ≠ .pending))
  | .fullyPaid =>
    inferInstanceAs (Decidable (normalized.financialStatus paid = .fullyPaid))
  | .preCheckIn | .noShow => inferInstanceAs (Decidable False)

/-- A status stays or moves on as the state machine allows. -/
def Follows (old new : ReservationStatus) : Prop :=
  new = old ∨ new ∈ old.validTransitions
deriving Decidable

theorem follows_financialStatus_iff (paid : Int) (notCancelled : reservation.status ≠ .cancelled)
    (notOperational : ¬reservation.Operational) :
    Follows reservation.status (normalized.financialStatus paid) ↔
      normalized.StatusMayFollow paid reservation.status := by
  unfold OtaReservation.Operational at notOperational
  unfold Follows
  cases status : reservation.status <;>
    rcases @financialStatus_open F _ normalized paid with paid | paid | paid <;>
    simp [NormalizedReservation.StatusMayFollow,
      ReservationStatus.validTransitions, status, paid] at *

omit [FloatFormat F] in
theorem changeFields_currencyCode {changed : OtaReservation} (isChanged : changeFields env
      (desk.writeGuest (syncedGuest normalized
        ((desk.guest? reservation.guestId).getD (newGuest desk))))
      reservation normalized = .ok changed) :
    changed.money.currencyCode = pricedCurrency env desk reservation normalized := by
  unfold changeFields at isChanged
  unfold pricedCurrency
  simp only
  split at isChanged
  · next updated isUpdated =>
    rw [isUpdated]
    rw [Except.ok.inj isChanged]
  · cases isChanged
  · next message isRefused =>
    rw [isRefused]
    split_ifs at isChanged with ordered
    rw [← Except.ok.inj isChanged]
    rfl

/-! ## Modifications -/

/-- What an applied modification writes. -/
structure Rewritten (env : OtaEnvironment F) (desk : Desk)
    (reservation : OtaReservation) (normalized : NormalizedReservation F)
    (updated : OtaReservation) : Prop where
  id : updated.id = reservation.id
  deletedAt : updated.deletedAt = reservation.deletedAt
  stay : updated.stay = normalized.stay
  operational : reservation.Operational -> updated.status = reservation.status ∧
      updated.roomId = reservation.roomId
  status : ¬reservation.Operational -> reservation.status ≠ .cancelled ->
    updated.status = normalized.financialStatus (paidWithCredit desk reservation normalized
        (pricedCurrency env desk reservation normalized))

variable {category : CatalogCategory} {room : Room} {updated : OtaReservation}

theorem applyModification_rewritten {after : Desk}
    (isApplied : applyModification env desk reservation normalized receivedAt
      category room = .ok (after, updated)) :
    Rewritten env desk reservation normalized updated ∧
      (¬updated.Operational -> updated.roomId = some room.id) ∧
      ∃ guest, after = desk.writeGuest guest := by
  unfold applyModification at isApplied
  simp only [bind_eq_ok, pure_eq_ok] at isApplied
  obtain ⟨⟨synced, guest⟩, isSynced, changed, isChanged, written, isWritten, result⟩ := isApplied
  obtain ⟨rfl, -, rfl⟩ := syncGuestRecord_eq_ok.mp isSynced
  cases result
  have fields := changeFields_eq_ok isChanged
  have terms := applyFinancialSnapshot_eq_ok isWritten
  have sameOperational := Operational.congr fields.status
  refine ⟨⟨?_, ?_, ?_, ?_, ?_⟩, ?_, _, rfl⟩
  · rw [assigned_id, terms.id]
    exact fields.id
  · have kept : (written.assigned category room).deletedAt = written.deletedAt := by
      unfold OtaReservation.assigned
      split_ifs <;> rfl
    rw [kept]
    exact terms.deletedAt.trans fields.deletedAt
  · rw [assigned_stay]
    exact terms.stay.trans fields.stay
  · intro operational
    have preserved : decide (changed.Operational ∨ changed.status = .cancelled) = true :=
      decide_eq_true (.inl (sameOperational.mpr operational))
    have status : written.status = changed.status := by
      rw [terms.status, if_pos preserved]
      rfl
    have inHouse : written.Operational :=
      (Operational.congr status).mpr (sameOperational.mpr operational)
    have stays : written.assigned category room = written := if_pos inHouse
    rw [stays]
    exact ⟨status.trans fields.status, terms.roomId.trans fields.roomId⟩
  · intro notOperational notCancelled
    have replaced : decide (changed.Operational ∨ changed.status = .cancelled) = false := by
      rw [decide_eq_false_iff_not, fields.status, sameOperational]
      exact not_or.mpr ⟨notOperational, notCancelled⟩
    have paid : written.money.amountPaid = paidWithCredit desk reservation normalized
          (pricedCurrency env desk reservation normalized) := by
      have credit := @externalCredit_congr F _ desk normalized 0
        (desk.writeGuest (syncedGuest normalized
          ((desk.guest? reservation.guestId).getD (newGuest desk))))
        (reservation.money.inCurrency (pricedCurrency env desk reservation normalized))
        changed.money receivedAt fields.externalPaidAmount
        fields.externalPaidCurrency rfl
        fun _ _ => changeFields_currencyCode isChanged
      unfold paidWithCredit
      rw [← credit, ← fields.id, terms.money]
      rfl
    rw [assigned_status, terms.status, if_neg (by rw [replaced]; simp), paid]
  · intro outside
    unfold OtaReservation.assigned at outside ⊢
    split_ifs at outside ⊢ with inHouse
    · exact absurd inHouse outside
    · rfl

/-- What a modification is meant to do to its reservation: the status follows
the state machine, rooms stay exclusive, and one that is refused as a conflict
changes neither stay nor room nor money. -/
structure ModifiedSafely (reservation : OtaReservation)
    (key : String × String) (after : OtaTables) : Prop where
  status : ∀ row, after.desk.reservation? reservation.id = some row ->
    Follows reservation.status row.status
  exclusive : after.desk.RoomsExclusive
  refused : ∀ mapping row, after.mapping? key = some mapping -> mapping.syncStatus = .conflict ->
    after.desk.reservation? reservation.id = some row ->
    row.stay = reservation.stay ∧ row.roomId = reservation.roomId ∧
      row.categoryId = reservation.categoryId ∧
      row.money = reservation.money

/-- The modification is left to the staff, or the status that follows from the
paid amount is the old one or a valid next one. -/
def FollowsStateMachine (env : OtaEnvironment F) (desk : Desk)
    (reservation : OtaReservation) (normalized : NormalizedReservation F) :
    Prop :=
  ∀ category room, planModification desk reservation normalized
      (desk.catalog.resolveCommercialContext normalized).candidateCategories =
        .ok (.apply category room) ->
    normalized.StatusMayFollow (paidWithCredit desk reservation normalized
        (pricedCurrency env desk reservation normalized))
      reservation.status

variable {tables after : OtaTables} {mapping : OtaMapping}

/-- A modification that is left to the staff does what it is meant to. -/
theorem modifiedSafely_reviewed {errorMessage : Option String} {reason : String}
    (stored : tables.desk.reservation? reservation.id = some reservation)
    (exclusive : tables.desk.RoomsExclusive) :
    ModifiedSafely reservation mapping.key (tables.writeMapping
        { mapping with syncStatus := .conflict, errorMessage := errorMessage }
        (tables.desk.writeReservation (reservation.markManualReview reason))) := by
  have same : (reservation.markManualReview reason).toReservation =
      reservation.toReservation := markManualReview_toReservation reason
  have isRow : ∀ row, (tables.desk.writeReservation
      (reservation.markManualReview reason)).reservation? reservation.id =
        some row -> row = reservation.markManualReview reason := by
    intro row found
    rw [Desk.reservation?_writeReservation, if_pos (markManualReview_id reason).symm] at found
    exact (Option.some.inj found).symm
  constructor
  · intro row found
    rw [isRow row found]
    exact .inl (markManualReview_status reason)
  · apply exclusive.writeReservation
    apply exclusive.fitsRoom stored
    · exact congrArg Reservation.id same
    · exact congrArg Reservation.roomId same
    · exact congrArg Reservation.stay same
    · exact id
  · intro _ row _ _ found
    rw [isRow row found, same]
    exact ⟨rfl, rfl, rfl, markManualReview_money reason⟩

theorem roomsExclusive_applied {desk : Desk}
    (stored : tables.desk.reservation? reservation.id = some reservation)
    (exclusive : tables.desk.RoomsExclusive)
    (planned : planModification tables.desk reservation normalized
      (tables.desk.catalog.resolveCommercialContext
        normalized).candidateCategories = .ok (.apply category room))
    (isApplied : applyModification env tables.desk reservation normalized
      receivedAt category room = .ok (desk, updated)) :
    (desk.writeReservation updated).RoomsExclusive := by
  obtain ⟨rewritten, assigned, guest, rfl⟩ := applyModification_rewritten isApplied
  have sameHotel : (tables.desk.writeGuest guest).RoomsExclusive :=
    ⟨exclusive.stays, exclusive.blocks⟩
  apply sameHotel.writeReservation
  rcases planModification_apply planned with
    ⟨operational, -, -, unmoved⟩ | ⟨notOperational, selected⟩
  · obtain ⟨sameStatus, sameRoom⟩ := rewritten.operational operational
    refine sameHotel.fitsRoom stored rewritten.id sameRoom (rewritten.stay.trans unmoved) ?_
    unfold Reservation.Active
    rw [rewritten.deletedAt, sameStatus]
    exact id
  · have notCancelled := status_ne_cancelled_of_apply planned
    have isOpen := open_of_financialStatus (rewritten.status notOperational notCancelled)
    apply fitsRoom_of_available (assigned isOpen.2)
    rw [rewritten.id, rewritten.stay]
    exact selected.available

theorem follows_iff_of_rewritten (planned : planModification desk reservation normalized
      (desk.catalog.resolveCommercialContext normalized).candidateCategories =
        .ok (.apply category room))
    (rewritten : Rewritten env desk reservation normalized updated) :
    Follows reservation.status updated.status ↔
      FollowsStateMachine env desk reservation normalized := by
  have notCancelled := status_ne_cancelled_of_apply planned
  by_cases operational : reservation.Operational
  · have kept := (rewritten.operational operational).1
    constructor
    · intro _ _ _ _
      rcases operational with status | status | status <;> rw [status] <;> trivial
    · intro _
      exact .inl kept
  · rw [rewritten.status operational notCancelled,
      follows_financialStatus_iff _ notCancelled operational]
    constructor
    · intro follows _ _ _
      exact follows
    · intro follows
      exact follows category room planned

/-- A modification does what it is meant to exactly if the status that follows
from the paid amount is the old one or a valid next one, or the staff reviews
it. -/
theorem modifiedSafely_iff (stored : tables.desk.reservation? reservation.id = some reservation)
    (exclusive : tables.desk.RoomsExclusive)
    (isUpdated : updateExistingReservation env tables mapping reservation
      normalized receivedAt = .ok after) :
    ModifiedSafely reservation mapping.key after ↔
      FollowsStateMachine env tables.desk reservation normalized := by
  unfold updateExistingReservation at isUpdated
  simp only [bind_eq_ok] at isUpdated
  obtain ⟨plan, planned, isUpdated⟩ := isUpdated
  cases plan with
  | review errorMessage reason =>
    cases isUpdated
    constructor
    · intro _ category room isApplied
      rw [planned] at isApplied
      cases isApplied
    · intro _
      exact modifiedSafely_reviewed stored exclusive
  | apply category room =>
    simp only [bind_eq_ok, pure_eq_ok] at isUpdated
    obtain ⟨⟨desk, updated⟩, isApplied, rfl⟩ := isUpdated
    obtain ⟨rewritten, -, guest, rfl⟩ := applyModification_rewritten isApplied
    have isRow : ((tables.desk.writeGuest guest).writeReservation
        updated).reservation? reservation.id = some updated := by
      rw [Desk.reservation?_writeReservation, if_pos rewritten.id.symm]
    have statusFollows := follows_iff_of_rewritten planned rewritten
    constructor
    · intro safe
      exact statusFollows.mp (safe.status updated isRow)
    · intro follows
      refine ⟨?_, roomsExclusive_applied stored exclusive planned isApplied, ?_⟩
      · intro row found
        rw [← Option.some.inj (isRow.symm.trans found)]
        exact statusFollows.mpr follows
      · intro written row found isConflict
        have isWritten : (tables.writeMapping
            { mapping with syncStatus := .synced, errorMessage := none }
            ((tables.desk.writeGuest guest).writeReservation updated)).mapping? mapping.key = some
            { mapping with syncStatus := .synced, errorMessage := none } := by
          rw [OtaTables.mapping?_writeMapping]
          exact if_pos rfl
        rw [← Option.some.inj (isWritten.symm.trans found)] at isConflict
        cases isConflict

end

theorem bookedDates : (10 : Int) < 12 := by decide

/-- A reservation of the double room. -/
def bookedRow (status : ReservationStatus) : OtaReservation where
  id := 1
  positiveId := by omega
  guestId := 1
  roomId := some 1
  categoryId := 1
  checkInDate := 10
  checkOutDate := 12
  datesOrdered := bookedDates
  status := status
  money := {}
  moneyFits := by decide
  sourceProviderCode := some "booking"
  externalId := some "B1"

/-- The hotel with one double room, and its reservation. -/
def bookedDesk (status : ReservationStatus) : Desk where
  reservations := [bookedRow status]
  distinctReservations := List.nodup_singleton _
  guests := [{ id := 1, firstName := "Ana", lastName := "Paz" }]
  distinctGuests := List.nodup_singleton _
  rooms := [{ id := 1, categoryId := 1 }]
  distinctRooms := oneRoomDesk.distinctRooms
  catalog :=
    { categories := [{ id := 1, maxOccupancy := 2, code := "DBL" }] }

def bookedMapping : OtaMapping where
  otaName := "booking"
  otaReservationId := "B1"
  reservationId := some 1

/-- The booking is mapped to its reservation. -/
def bookedTables (status : ReservationStatus) : OtaTables where
  desk := bookedDesk status
  mappings := [bookedMapping]
  distinctMappings := List.nodup_singleton _

theorem bookedDesk_exclusive (status : ReservationStatus) : (bookedDesk status).RoomsExclusive := by
  constructor
  · intro first firstIn second secondIn different
    have isFirst := List.mem_singleton.mp firstIn.1
    have isSecond := List.mem_singleton.mp secondIn.1
    exact absurd (isFirst.trans isSecond.symm) different
  · intro row _ _ block blockIn
    cases blockIn

/-- A pending reservation is modified to what it is. -/
theorem modifiedSafely_iff_pending :
    ∃ after, updateExistingReservation flatPrices (bookedTables .pending)
        bookedMapping (bookedRow .pending) (doubleRoomBooking "modified")
        0 = .ok after ∧
      ModifiedSafely (bookedRow .pending) bookedMapping.key after := by
  have results : (updateExistingReservation flatPrices
      (bookedTables .pending) bookedMapping (bookedRow .pending)
      (doubleRoomBooking "modified") 0).toOption.isSome = true := by
    decide +kernel
  obtain ⟨after, found⟩ := Option.isSome_iff_exists.mp results
  have isUpdated := toOption_eq_some found
  have stored : (bookedTables .pending).desk.reservation?
      (bookedRow .pending).id = some (bookedRow .pending) := by
    decide +kernel
  refine ⟨after, isUpdated, ?_⟩
  apply (modifiedSafely_iff stored (bookedDesk_exclusive .pending) isUpdated).mpr
  intro category room _
  trivial

/-- A modification makes a no-show pending. -/
theorem modified_noShow_is_pending :
    ¬∀ (env : OtaEnvironment ℚ) (tables : OtaTables) (mapping : OtaMapping)
      (reservation : OtaReservation) (normalized : NormalizedReservation ℚ)
      (receivedAt : Int) (after : OtaTables),
      tables.desk.reservation? reservation.id = some reservation ->
      tables.desk.RoomsExclusive ->
      updateExistingReservation env tables mapping reservation normalized receivedAt = .ok after ->
      ModifiedSafely reservation mapping.key after := by
  intro claimed
  have results : (updateExistingReservation flatPrices
      (bookedTables .noShow) bookedMapping (bookedRow .noShow)
      (doubleRoomBooking "modified") 0).toOption.map (fun after =>
        (after.desk.reservation? 1).map (·.status)) =
      some (some .pending) := by
    decide +kernel
  obtain ⟨after, isUpdated, isPending⟩ := Option.map_eq_some_iff.mp results
  obtain ⟨row, found, status⟩ := Option.map_eq_some_iff.mp isPending
  have stored : (bookedTables .noShow).desk.reservation?
      (bookedRow .noShow).id = some (bookedRow .noShow) := by
    decide +kernel
  have safe := claimed _ _ _ _ _ _ after stored
    (bookedDesk_exclusive .noShow) (toOption_eq_some isUpdated)
  have follows := safe.status row found
  rw [status] at follows
  revert follows
  decide

end HotelPms.Ota
