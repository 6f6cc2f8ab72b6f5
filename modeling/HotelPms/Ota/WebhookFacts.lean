import HotelPms.Ota.Webhooks

/-!
# What a webhook may do

Each step of a webhook with what it writes, and the five outcomes of a webhook
that is processed: a cancellation of an unknown booking is recorded, a booking
without a reservation gets one, and a reservation is cancelled, modified or
left to the staff.
-/

namespace HotelPms.Ota

open Hotel Payments Booking Checked FloatFormat

variable {F : Type}

@[simp] theorem reported_eq_ok {α : Type} {result : Except String α}
    {value : α} : reported result = .ok value ↔ result = .ok value := by
  cases result <;> simp [reported, Except.mapError]

/-! ## Steps -/

theorem syncGuestRecord_eq_ok {desk after : Desk} {stored : Option Guest}
    {normalized : NormalizedReservation F} {guest : Guest} :
    syncGuestRecord desk stored normalized = .ok (after, guest) ↔
      guest = syncedGuest normalized (stored.getD (newGuest desk)) ∧
        guest.Fits ∧ after = desk.writeGuest guest := by
  unfold syncGuestRecord
  constructor
  · intro synced
    simp only at synced
    split_ifs at synced with fits
    cases synced
    exact ⟨rfl, fits, rfl⟩
  · rintro ⟨rfl, fits, rfl⟩
    rw [if_pos fits]

@[simp] theorem syncedGuest_id (normalized : NormalizedReservation F)
    (guest : Guest) : (syncedGuest normalized guest).id = guest.id := by
  unfold syncedGuest
  rfl

/-- A guest that is named again keeps its row. -/
theorem syncedGuest_syncedGuest (normalized : NormalizedReservation F) (guest : Guest) :
    syncedGuest normalized (syncedGuest normalized guest) = syncedGuest normalized guest := by
  simp [syncedGuest, ← Option.or_assoc]

section

variable {reservation : OtaReservation}

@[simp] theorem markManualReview_toReservation (reason : String) :
    (reservation.markManualReview reason).toReservation = reservation.toReservation := by
  rfl

@[simp] theorem markManualReview_money (reason : String) :
    (reservation.markManualReview reason).money = reservation.money := by
  rfl

@[simp] theorem markManualReview_collectionModel (reason : String) :
    (reservation.markManualReview reason).paymentCollectionModel =
      reservation.paymentCollectionModel := by
  rfl

@[simp] theorem markManualReview_settlementStatus (reason : String) :
    (reservation.markManualReview reason).settlementStatus = reservation.settlementStatus := by
  rfl

theorem markManualReview_id (reason : String) :
    (reservation.markManualReview reason).id = reservation.id := by
  simp

theorem markManualReview_status (reason : String) :
    (reservation.markManualReview reason).status = reservation.status := by
  simp

/-- A row that takes over the number and the status of another one. -/
theorem Operational.congr {other : OtaReservation}
    (sameStatus : other.status = reservation.status) :
    other.Operational ↔ reservation.Operational := by
  unfold OtaReservation.Operational
  rw [sameStatus]

variable {desk : Desk} {cancelled : OtaReservation}

/-- What a cancellation makes of a stay in house or closed. -/
theorem cancelReservation_operational (operational : reservation.Operational)
    (isCancelled : cancelReservation desk reservation = .ok cancelled) :
    cancelled.toReservation = reservation.toReservation ∧ cancelled.money = reservation.money ∧
      cancelled.paymentCollectionModel = reservation.paymentCollectionModel ∧
      cancelled.settlementStatus = "manual_resolution_required" := by
  unfold cancelReservation at isCancelled
  rw [if_pos operational] at isCancelled
  rw [← Except.ok.inj isCancelled]
  simp

theorem cancelReservation_open (outside : ¬reservation.Operational)
    (isCancelled : cancelReservation desk reservation = .ok cancelled) :
    cancelled = { reservation with
        status := .cancelled
        requiresManualReview :=
          hasPaymentHistoryForCancellation desk reservation
        allocationStatus := "cancelled"
        settlementStatus :=
          if hasPaymentHistoryForCancellation desk reservation then
            "review_cancellation"
          else "not_applicable" } := by
  unfold cancelReservation at isCancelled
  split_ifs at isCancelled with already
  · simp only [pure_bind, pure_eq_ok] at isCancelled
    rw [← isCancelled, ← already]
  · simp only [bind_eq_ok, pure_eq_ok, reported_eq_ok, transitionReservationStatus] at isCancelled
    obtain ⟨_, ⟨_, _, rfl⟩, rfl⟩ := isCancelled
    rfl

/-- A stay in house or closed is left to the staff, and any other reservation
ends up cancelled. -/
theorem cancelReservation_eq_ok (isCancelled : cancelReservation desk reservation = .ok cancelled) :
    cancelled.id = reservation.id ∧ (cancelled.status = .cancelled ∨
        (reservation.Operational ∧ cancelled.status = reservation.status)) := by
  by_cases operational : reservation.Operational
  · have same := (cancelReservation_operational operational isCancelled).1
    exact ⟨congrArg Reservation.id same, .inr ⟨operational, congrArg Reservation.status same⟩⟩
  · rw [cancelReservation_open operational isCancelled]
    exact ⟨rfl, .inl rfl⟩

end

section

variable [FloatFormat F] {env : OtaEnvironment F} {desk : Desk}
  {reservation written : OtaReservation}
  {normalized : NormalizedReservation F} {receivedAt : Int}
  {preserve : Bool}

/-- The terms of a payload on a reservation. -/
structure Settled (desk : Desk) (reservation : OtaReservation)
    (normalized : NormalizedReservation F) (receivedAt : Int)
    (preserve : Bool) (written : OtaReservation) : Prop where
  id : written.id = reservation.id
  money : written.money = normalized.financialColumns desk reservation receivedAt
  status : written.status =
    if preserve then reservation.status
    else normalized.financialStatus written.money.amountPaid
  collectionModel : written.paymentCollectionModel = normalized.collectionModel
  settlement : written.settlementStatus = normalized.settlement written.money.externalCredit

/-- What writing the terms of a payload leaves and changes. -/
structure Written (desk : Desk) (reservation : OtaReservation)
    (normalized : NormalizedReservation F) (receivedAt : Int)
    (preserve : Bool) (written : OtaReservation) : Prop extends
    Settled desk reservation normalized receivedAt preserve written where
  guestId : written.guestId = reservation.guestId
  roomId : written.roomId = reservation.roomId
  categoryId : written.categoryId = reservation.categoryId
  stay : written.stay = reservation.stay
  deletedAt : written.deletedAt = reservation.deletedAt
  channelCode : written.channelCode = reservation.channelCode
  sourceProviderCode : written.sourceProviderCode = some normalized.provider.code
  externalId : written.externalId = reservation.externalId

theorem applyFinancialSnapshot_eq_ok
    (isWritten : applyFinancialSnapshot env desk reservation normalized
      receivedAt preserve = .ok written) :
    Written desk reservation normalized receivedAt preserve written := by
  unfold applyFinancialSnapshot at isWritten
  simp only at isWritten
  split_ifs at isWritten with fits storable preserved
  · cases isWritten
    exact ⟨⟨rfl, rfl, (if_pos preserved).symm, rfl, rfl⟩, rfl, rfl, rfl, rfl, rfl, rfl, rfl, rfl⟩
  · cases isWritten
    exact ⟨⟨rfl, rfl, (if_neg preserved).symm, rfl, rfl⟩, rfl, rfl, rfl, rfl, rfl, rfl, rfl, rfl⟩

/-- Terms are written or refused whatever the time. -/
theorem exists_applyFinancialSnapshot
    (isWritten : applyFinancialSnapshot env desk reservation normalized
      receivedAt preserve = .ok written) (later : Int) :
    ∃ again, applyFinancialSnapshot env desk reservation normalized later preserve = .ok again := by
  unfold applyFinancialSnapshot at isWritten ⊢
  simp only at isWritten ⊢
  split at isWritten
  · next fits =>
    have fitsLater : (normalized.financialColumns desk reservation later).Fit := fits
    rw [dif_pos fitsLater]
    by_cases storable : normalized.Storable ∧ desk.KeyFree reservation.id
      normalized.provider.code reservation.externalId
    · rw [if_pos storable]
      exact ⟨_, rfl⟩
    · rw [if_neg storable] at isWritten
      cases isWritten
  · cases isWritten

/-- The status that a payload leaves is not a final one. -/
theorem financialStatus_open (amountPaid : Int) :
    normalized.financialStatus amountPaid = .fullyPaid ∨
      normalized.financialStatus amountPaid = .depositPaid ∨
      normalized.financialStatus amountPaid = .pending := by
  unfold NormalizedReservation.financialStatus
  split_ifs <;> simp

/-- A guest, a category and a room are found for a new reservation. -/
structure Booked (desk : Desk) (normalized : NormalizedReservation F)
    (guest : Guest) (category : CatalogCategory) (room : Room)
    (created : OtaReservation) : Prop where
  selected : selectRoom desk none normalized
    (desk.catalog.resolveCommercialContext normalized).candidateCategories
    none = .ok (some (category, room))
  available : checkRoomAvailability desk.hotelState room.id normalized.stay none = .ok true
  synced : guest = syncedGuest normalized (newGuest desk)
  guestFits : guest.Fits
  id : created.id = desk.nextReservationId
  guestId : created.guestId = guest.id
  roomId : created.roomId = some room.id
  categoryId : created.categoryId = category.id
  stay : created.stay = normalized.stay
  deletedAt : created.deletedAt = none
  channelCode : created.channelCode = normalized.provider.code
  externalId : created.externalId = some normalized.externalReservationId

variable {created : OtaReservation} {room : Room} {after : Desk}

omit [FloatFormat F] in
theorem createReservation_eq_ok {data : ReservationCreate}
    (isCreated : createReservation env desk data = .ok created) :
    created.id = desk.nextReservationId ∧ created.guestId = data.guestId ∧
      (∃ room, desk.room? data.roomId = some room ∧ created.roomId = some room.id) ∧
      created.categoryId = data.categoryId ∧
      created.stay = (data.checkInDate, data.checkOutDate) ∧
      created.deletedAt = none ∧
      created.channelCode = data.pricingChannelCode ∧
      created.externalId = some data.externalId := by
  obtain ⟨_, -, isCreated⟩ := bind_eq_ok.mp isCreated
  split at isCreated
  · cases isCreated
  · simp only [bind_eq_ok] at isCreated
    obtain ⟨_, -, _, -, pricing, -, isCreated⟩ := isCreated
    split at isCreated
    · cases isCreated
    · next room found =>
      simp only [bind_eq_ok] at isCreated
      obtain ⟨_, -, _, -, _, -, _, -, isCreated⟩ := isCreated
      split_ifs at isCreated with ordered fits
      cases isCreated
      exact ⟨rfl, rfl, ⟨room, found, rfl⟩, rfl, rfl, rfl, rfl, rfl⟩

theorem room?_eq_some {id : Int} (found : desk.room? id = some room) : room.id = id :=
  (Table.find_eq_some found).2

omit [FloatFormat F] in
theorem bookIncoming_eq_ok (isBooked : bookIncoming env desk normalized = .ok (after, created)) :
    ∃ guest category room, after = desk.writeGuest guest ∧
      Booked desk normalized guest category room created := by
  unfold bookIncoming at isBooked
  simp only [bind_eq_ok, reported_eq_ok] at isBooked
  obtain ⟨_, -, selected, isSelected, isBooked⟩ := isBooked
  match selected, isSelected, isBooked with
  | none, _, isBooked => cases isBooked
  | some (category, room), isSelected, isBooked =>
    simp only [bind_eq_ok, reported_eq_ok, raiseIf_eq_ok, pure_eq_ok] at isBooked
    obtain ⟨available, isAvailable, _, notTaken, ⟨booked, guest⟩,
      isSynced, row, isCreated, result⟩ := isBooked
    obtain ⟨rfl, fits, rfl⟩ := syncGuestRecord_eq_ok.mp isSynced
    obtain ⟨id, guestId, ⟨locked, found, roomId⟩, categoryId, stay, deletedAt, channelCode,
      externalId⟩ := createReservation_eq_ok isCreated
    cases result
    rw [Bool.not_eq_false] at notTaken
    subst notTaken
    exact ⟨_, category, room, rfl, isSelected, isAvailable, rfl, fits, id,
      guestId, roomId.trans (congrArg some (room?_eq_some found)),
      categoryId, stay, deletedAt, channelCode, externalId⟩

variable {updated : OtaReservation}

theorem repriced_eq_ok {pricing : Option PricingResult}
    (isRepriced : reservation.repriced pricing = .ok updated) :
    ∃ sellableProductId ratePlanId taxPolicyId pricingSnapshot money fits,
      updated = { reservation with
        sellableProductId := sellableProductId
        ratePlanId := ratePlanId
        taxPolicyId := taxPolicyId
        pricingSnapshot := pricingSnapshot
        money := money
        moneyFits := fits } ∧
      money.externalPaidAmount = reservation.money.externalPaidAmount ∧
      money.externalPaidCurrency = reservation.money.externalPaidCurrency ∧
      money.externalPaidEverConfirmed = reservation.money.externalPaidEverConfirmed := by
  cases pricing with
  | none =>
    cases isRepriced
    exact ⟨_, _, _, _, _, reservation.moneyFits, rfl, rfl, rfl, rfl⟩
  | some pricing =>
    unfold OtaReservation.repriced at isRepriced
    simp only at isRepriced
    split_ifs at isRepriced with fits
    cases isRepriced
    exact ⟨_, _, _, _, _, fits, rfl, rfl, rfl, rfl⟩

structure Changed (reservation : OtaReservation)
    (normalized : NormalizedReservation F) (changed : OtaReservation) :
    Prop where
  id : changed.id = reservation.id
  guestId : changed.guestId = reservation.guestId
  roomId : changed.roomId = reservation.roomId
  status : changed.status = reservation.status
  deletedAt : changed.deletedAt = reservation.deletedAt
  channelCode : changed.channelCode = reservation.channelCode
  stay : changed.stay = normalized.stay
  externalPaidAmount : changed.money.externalPaidAmount = reservation.money.externalPaidAmount
  externalPaidCurrency : changed.money.externalPaidCurrency = reservation.money.externalPaidCurrency
  externalPaidEverConfirmed : changed.money.externalPaidEverConfirmed =
    reservation.money.externalPaidEverConfirmed

omit [FloatFormat F] in
theorem updateReservationFields_eq_ok
    (isUpdated : updateReservationFields env desk reservation normalized =
      .ok updated) : Changed reservation normalized updated := by
  obtain ⟨_, -, isUpdated⟩ := bind_eq_ok.mp isUpdated
  split at isUpdated
  · cases isUpdated
  · obtain ⟨_, -, isUpdated⟩ := bind_eq_ok.mp isUpdated
    split_ifs at isUpdated with ordered
    obtain ⟨_, -, isUpdated⟩ := bind_eq_ok.mp isUpdated
    obtain ⟨pricing, -, isUpdated⟩ := bind_eq_ok.mp isUpdated
    obtain ⟨row, isRepriced, isUpdated⟩ := bind_eq_ok.mp isUpdated
    cases isUpdated
    obtain ⟨_, _, _, _, _, _, rfl, amount, currency, ever⟩ := repriced_eq_ok isRepriced
    exact ⟨rfl, rfl, rfl, rfl, rfl, rfl, rfl, amount, currency, ever⟩

omit [FloatFormat F] in
theorem changeFields_eq_ok {changed : OtaReservation}
    (isChanged : changeFields env desk reservation normalized =
      .ok changed) : Changed reservation normalized changed := by
  unfold changeFields at isChanged
  split at isChanged
  · next updated isUpdated =>
    cases isChanged
    exact updateReservationFields_eq_ok isUpdated
  · cases isChanged
  · split_ifs at isChanged with ordered
    cases isChanged
    exact ⟨rfl, rfl, rfl, rfl, rfl, rfl, rfl, rfl, rfl, rfl⟩

/-- What an applied modification has done on its way. -/
structure Applied (env : OtaEnvironment F) (desk : Desk)
    (reservation : OtaReservation) (normalized : NormalizedReservation F)
    (receivedAt : Int) (category : CatalogCategory) (room : Room)
    (guest : Guest) (updated : OtaReservation) where
  changed : OtaReservation
  written : OtaReservation
  synced : guest = syncedGuest normalized ((desk.guest? reservation.guestId).getD (newGuest desk))
  isChanged : Changed reservation normalized changed
  isWritten : Written (desk.writeGuest guest)
    (changed.withContext (desk.catalog.resolveCommercialContext normalized)
      category normalized.externalReservationId)
    normalized receivedAt
    (decide (changed.Operational ∨ changed.status = .cancelled)) written
  isUpdated : updated = written.assigned category room

theorem applyModification_eq_ok {category : CatalogCategory}
    (isApplied : applyModification env desk reservation normalized receivedAt
      category room = .ok (after, updated)) :
    ∃ guest, after = desk.writeGuest guest ∧
      Nonempty (Applied env desk reservation normalized receivedAt category
        room guest updated) := by
  unfold applyModification at isApplied
  simp only [bind_eq_ok, pure_eq_ok] at isApplied
  obtain ⟨⟨synced, guest⟩, isSynced, changed, isChanged, written, isWritten, result⟩ := isApplied
  obtain ⟨rfl, -, rfl⟩ := syncGuestRecord_eq_ok.mp isSynced
  cases result
  exact ⟨_, rfl, ⟨changed, written, rfl, changeFields_eq_ok isChanged,
    applyFinancialSnapshot_eq_ok isWritten, rfl⟩⟩

@[simp] theorem assigned_id (category : CatalogCategory) (room : Room) :
    (reservation.assigned category room).id = reservation.id := by
  unfold OtaReservation.assigned
  split_ifs <;> rfl

/-- A modification keeps the number of its reservation. -/
theorem Applied.id {category : CatalogCategory} {guest : Guest}
    (applied : Applied env desk reservation normalized receivedAt category
      room guest updated) : updated.id = reservation.id := by
  rw [applied.isUpdated, assigned_id, applied.isWritten.id]
  exact applied.isChanged.id

/-- A reservation can be created for the payload and hold its terms.  The
time it is received does not matter. -/
def CanBeBooked (env : OtaEnvironment F) (desk : Desk)
    (normalized : NormalizedReservation F) : Prop :=
  ((bookIncoming env desk normalized).bind fun booked =>
    applyFinancialSnapshot env booked.1 booked.2 normalized 0 false).isOk = true
deriving Decidable

theorem CanBeBooked.of_written (isBooked : bookIncoming env desk normalized = .ok (after, created))
    (isWritten : applyFinancialSnapshot env after created normalized
      receivedAt false = .ok written) :
    CanBeBooked env desk normalized := by
  obtain ⟨again, isAgain⟩ := exists_applyFinancialSnapshot isWritten 0
  unfold CanBeBooked
  rw [isBooked, Except.bind, isAgain]
  rfl

theorem CanBeBooked.exists_written (possible : CanBeBooked env desk normalized) (receivedAt : Int) :
    ∃ after created written, bookIncoming env desk normalized = .ok (after, created) ∧
        applyFinancialSnapshot env after created normalized receivedAt false = .ok written := by
  unfold CanBeBooked at possible
  cases booked : bookIncoming env desk normalized with
  | error error =>
    rw [booked] at possible
    cases possible
  | ok result =>
    rw [booked, Except.bind] at possible
    cases isWritten : applyFinancialSnapshot env result.1 result.2 normalized 0 false with
    | error error =>
      rw [isWritten] at possible
      cases possible
    | ok written =>
      obtain ⟨again, isAgain⟩ := exists_applyFinancialSnapshot isWritten receivedAt
      exact ⟨result.1, result.2, again, rfl, isAgain⟩

end

/-! ## Outcomes -/

/-- The booking is mapped to a stored reservation. -/
structure Linked (tables : OtaTables) (key : String × String)
    (mapping : OtaMapping) (reservation : OtaReservation) : Prop where
  known : tables.mapping? key = some mapping
  names : mapping.reservationId = some reservation.id
  stored : tables.desk.reservation? reservation.id = some reservation

theorem Linked.unique {tables : OtaTables} {key : String × String}
    {mapping other : OtaMapping} {reservation second : OtaReservation}
    (first : Linked tables key mapping reservation)
    (again : Linked tables key other second) :
    other = mapping ∧ second = reservation := by
  have sameMapping : other = mapping :=
    Option.some.inj (again.known.symm.trans first.known)
  subst sameMapping
  have sameId : second.id = reservation.id :=
    Option.some.inj (again.names.symm.trans first.names)
  refine ⟨rfl, Option.some.inj ?_⟩
  rw [← again.stored, sameId, first.stored]

/-- The mapping of a booking stays under its key. -/
structure Keeps (key : String × String) (reservationId : Option Int)
    (mapping : OtaMapping) : Prop where
  key : mapping.key = key
  reservationId : mapping.reservationId = reservationId

section

variable [FloatFormat F]

/-- Outcomes of a webhook that is processed. -/
inductive Processed (env : OtaEnvironment F) (tables : OtaTables)
    (normalized : NormalizedReservation F) (receivedAt : Int) :
    OtaTables -> Prop
  | recorded {mapping : OtaMapping}
      (unknown : tables.mapping? normalized.key = none)
      (isCancellation : normalized.IsCancellation)
      (keeps : Keeps normalized.key none mapping) :
      Processed env tables normalized receivedAt (tables.writeMapping mapping tables.desk)
  | booked {mapping : OtaMapping} {desk : Desk}
      {created written : OtaReservation}
      (unlinked : ∀ known, tables.mapping? normalized.key = some known ->
        known.reservationId = none)
      (announced : tables.mapping? normalized.key = none -> ¬normalized.IsCancellation)
      (isBooked : bookIncoming env tables.desk normalized = .ok (desk, created))
      (isWritten : applyFinancialSnapshot env desk created normalized
        receivedAt false = .ok written)
      (keeps : Keeps normalized.key (some written.id) mapping) :
      Processed env tables normalized receivedAt
        (tables.writeMapping mapping (desk.writeReservation written))
  | cancelled {known mapping : OtaMapping}
      {reservation cancelled : OtaReservation} {desk : Desk} {guest : Guest}
      (linked : Linked tables normalized.key known reservation)
      (isCancellation : normalized.IsCancellation)
      (isSynced : syncGuestRecord tables.desk (tables.desk.guest? reservation.guestId) normalized =
          .ok (desk, guest))
      (isCancelled : cancelReservation desk reservation = .ok cancelled)
      (keeps : Keeps normalized.key (some reservation.id) mapping) :
      Processed env tables normalized receivedAt
        (tables.writeMapping mapping (desk.writeReservation cancelled))
  | reviewed {known mapping : OtaMapping} {reservation : OtaReservation}
      {errorMessage reason : String}
      (linked : Linked tables normalized.key known reservation)
      (isModification : ¬normalized.IsCancellation)
      (planned : planModification tables.desk reservation normalized
        (tables.desk.catalog.resolveCommercialContext
          normalized).candidateCategories = .ok (.review errorMessage reason))
      (keeps : Keeps normalized.key (some reservation.id) mapping) :
      Processed env tables normalized receivedAt (tables.writeMapping mapping
          (tables.desk.writeReservation (reservation.markManualReview reason)))
  | applied {known mapping : OtaMapping}
      {reservation updated : OtaReservation} {desk : Desk}
      {category : CatalogCategory} {room : Room}
      (linked : Linked tables normalized.key known reservation)
      (isModification : ¬normalized.IsCancellation)
      (planned : planModification tables.desk reservation normalized
        (tables.desk.catalog.resolveCommercialContext
          normalized).candidateCategories = .ok (.apply category room))
      (isApplied : applyModification env tables.desk reservation normalized
        receivedAt category room = .ok (desk, updated))
      (keeps : Keeps normalized.key (some reservation.id) mapping) :
      Processed env tables normalized receivedAt
        (tables.writeMapping mapping (desk.writeReservation updated))

variable {env : OtaEnvironment F} {tables after : OtaTables}
  {normalized : NormalizedReservation F} {receivedAt : Int}

variable {mapping : OtaMapping}

theorem mapping?_key {key : String × String}
    (known : tables.mapping? key = some mapping) : mapping.key = key :=
  (Table.find_eq_some known).2

theorem materialize_eq_ok (sameKey : mapping.key = normalized.key)
    (unlinked : ∀ known, tables.mapping? normalized.key = some known -> known.reservationId = none)
    (announced : tables.mapping? normalized.key = none -> ¬normalized.IsCancellation)
    (materialized : materializeIncomingReservation env tables mapping
      normalized receivedAt = .ok after) :
    Processed env tables normalized receivedAt after := by
  unfold materializeIncomingReservation at materialized
  simp only [bind_eq_ok, pure_eq_ok] at materialized
  obtain ⟨⟨desk, created⟩, isBooked, written, isWritten, rfl⟩ := materialized
  exact .booked unlinked announced isBooked isWritten ⟨sameKey, rfl⟩

theorem updateExisting_eq_ok {known : OtaMapping} {reservation : OtaReservation}
    (linked : Linked tables normalized.key known reservation)
    (isModification : ¬normalized.IsCancellation)
    (keeps : Keeps normalized.key (some reservation.id) mapping)
    (updated : updateExistingReservation env tables mapping reservation
      normalized receivedAt = .ok after) :
    Processed env tables normalized receivedAt after := by
  unfold updateExistingReservation at updated
  simp only [bind_eq_ok] at updated
  obtain ⟨plan, planned, updated⟩ := updated
  cases plan with
  | review errorMessage reason =>
    cases updated
    exact .reviewed linked isModification planned ⟨keeps.1, keeps.2⟩
  | apply category room =>
    simp only [bind_eq_ok, pure_eq_ok] at updated
    obtain ⟨⟨desk, row⟩, isApplied, rfl⟩ := updated
    exact .applied linked isModification planned isApplied ⟨keeps.1, keeps.2⟩

theorem cancelExisting_eq_ok {known : OtaMapping} {reservation : OtaReservation}
    (linked : Linked tables normalized.key known reservation)
    (isCancellation : normalized.IsCancellation)
    (keeps : Keeps normalized.key (some reservation.id) mapping)
    (cancelled : cancelExistingReservation tables mapping reservation normalized = .ok after) :
    Processed env tables normalized receivedAt after := by
  unfold cancelExistingReservation at cancelled
  simp only [bind_eq_ok, pure_eq_ok] at cancelled
  obtain ⟨⟨desk, guest⟩, isSynced, row, isCancelled, rfl⟩ := cancelled
  refine .cancelled linked isCancellation isSynced isCancelled ?_
  split_ifs
  · exact ⟨keeps.1, keeps.2⟩
  · exact ⟨keeps.1, keeps.2⟩

theorem processNormalizedWebhook_eq_ok
    (isProcessed : processNormalizedWebhook env tables normalized receivedAt = .ok after) :
    Processed env tables normalized receivedAt after := by
  obtain ⟨_, -, isProcessed⟩ := bind_eq_ok.mp isProcessed
  split at isProcessed
  · next mapping known =>
    have sameKey := mapping?_key known
    split at isProcessed
    · next unlinked =>
      refine materialize_eq_ok ?_ ?_ ?_ isProcessed
      · exact sameKey
      · intro other isKnown
        rw [known] at isKnown
        rw [← Option.some.inj isKnown, unlinked]
      · intro unknown
        rw [known] at unknown
        cases unknown
    · next id names =>
      split at isProcessed
      · cases isProcessed
      · next reservation stored =>
        have sameId := (Table.find_eq_some stored).2
        have linked : Linked tables normalized.key mapping
            reservation :=
          ⟨known, by rw [names, sameId], by rw [sameId]; exact stored⟩
        unfold processExistingIncomingReservation at isProcessed
        split_ifs at isProcessed with isCancellation
        · refine cancelExisting_eq_ok linked isCancellation ?_ isProcessed
          exact ⟨sameKey, linked.names⟩
        · refine updateExisting_eq_ok linked isCancellation ?_ isProcessed
          exact ⟨sameKey, linked.names⟩
  · next unknown =>
    split_ifs at isProcessed with isCancellation
    · cases isProcessed
      exact .recorded unknown isCancellation ⟨rfl, rfl⟩
    · refine materialize_eq_ok ?_ ?_ (fun _ => isCancellation) isProcessed
      · rfl
      intro known isKnown
      rw [unknown] at isKnown
      cases isKnown

end

end HotelPms.Ota
