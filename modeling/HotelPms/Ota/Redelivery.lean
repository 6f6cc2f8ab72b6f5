import HotelPms.Ota.CancellationSafety
import HotelPms.Ota.RedeliveredRoom
import HotelPms.Ota.RedeliveredTerms

/-!
# Webhooks that arrive twice

A webhook that arrives again right after it was processed changes nothing that
the front desk sees, whichever way the first one took: a new reservation is
found and modified to what it is, and a modified, reviewed or cancelled one
stays as it is.  The exception is a cancellation of a booking without a
reservation, which one of the two deliveries books.
-/

namespace HotelPms.Ota

open Hotel Payments Booking Checked FloatFormat

variable {F : Type} [FloatFormat F]

section

variable {env : OtaEnvironment F} {tables : OtaTables} {normalized : NormalizedReservation F}

/-- Two computations succeed or fail together. -/
def BothSucceed {ε α β : Type} (first : Except ε α) (second : Except ε β) :
    Prop :=
  first.isOk = second.isOk

theorem BothSucceed.bind {ε α β γ : Type} {first : Except ε α}
    {continue₁ : α -> Except ε β} {continue₂ : α -> Except ε γ}
    (together : ∀ value, BothSucceed (continue₁ value) (continue₂ value)) :
    BothSucceed (first >>= continue₁) (first >>= continue₂) := by
  cases first with
  | error error => rfl
  | ok value => exact together value

/-- What never fails does not matter. -/
theorem BothSucceed.total {ε α β γ δ : Type} {first : Except ε α}
    {second : Except ε β} {continue₁ : α -> Except ε γ}
    {continue₂ : β -> Except ε δ} (together : BothSucceed first second)
    (total₁ : ∀ value, (continue₁ value).isOk = true)
    (total₂ : ∀ value, (continue₂ value).isOk = true) :
    BothSucceed (first >>= continue₁) (second >>= continue₂) := by
  cases first with
  | error error =>
    cases second with
    | error other => rfl
    | ok value => cases together
  | ok value =>
    cases second with
    | error other => cases together
    | ok other => exact (total₁ value).trans (total₂ other).symm

variable {reservation : OtaReservation}

theorem bothSucceed_applyFinancialSnapshot {desk : Desk} {preserve : Bool} (first second : Int) :
    BothSucceed (applyFinancialSnapshot env desk reservation normalized first preserve)
      (applyFinancialSnapshot env desk reservation normalized second preserve) := by
  unfold applyFinancialSnapshot
  by_cases fits : (normalized.financialColumns desk reservation first).Fit
  · have fitsToo : (normalized.financialColumns desk reservation second).Fit := fits
    rw [dif_pos fits, dif_pos fitsToo]
    by_cases storable : normalized.Storable ∧ desk.KeyFree reservation.id
      normalized.provider.code reservation.externalId
    · rw [if_pos storable, if_pos storable]
      rfl
    · rw [if_neg storable, if_neg storable]
      rfl
  · have neither : ¬(normalized.financialColumns desk reservation second).Fit := fits
    rw [dif_neg fits, dif_neg neither]
    rfl

theorem bothSucceed_materialize {mapping : OtaMapping} (first second : Int) :
    BothSucceed (materializeIncomingReservation env tables mapping normalized first)
      (materializeIncomingReservation env tables mapping normalized second) := by
  apply BothSucceed.bind
  intro booked
  apply BothSucceed.total (bothSucceed_applyFinancialSnapshot first second)
  · intro written
    rfl
  · intro written
    rfl

theorem bothSucceed_applyModification {desk : Desk}
    {category : CatalogCategory} {room : Room} (first second : Int) :
    BothSucceed (applyModification env desk reservation normalized first category room)
      (applyModification env desk reservation normalized second category room) := by
  apply BothSucceed.bind
  intro synced
  apply BothSucceed.bind
  intro changed
  apply BothSucceed.total (bothSucceed_applyFinancialSnapshot first second)
  · intro written
    rfl
  · intro written
    rfl

theorem bothSucceed_updateExisting {mapping : OtaMapping} (first second : Int) :
    BothSucceed (updateExistingReservation env tables mapping reservation normalized
        first)
      (updateExistingReservation env tables mapping reservation normalized second) := by
  apply BothSucceed.bind
  intro plan
  cases plan with
  | review errorMessage reason => rfl
  | apply category room =>
    apply BothSucceed.total (bothSucceed_applyModification first second)
    · intro written
      rfl
    · intro written
      rfl

/-- A webhook is processed or refused whatever the time. -/
theorem bothSucceed_process (first second : Int) :
    BothSucceed (processNormalizedWebhook env tables normalized first)
      (processNormalizedWebhook env tables normalized second) := by
  apply BothSucceed.bind
  intro _
  split
  · split
    · exact bothSucceed_materialize first second
    · split
      · rfl
      · unfold processExistingIncomingReservation
        split_ifs
        · rfl
        · exact bothSucceed_updateExisting first second
  · split_ifs
    · rfl
    · exact bothSucceed_materialize first second

end

/-- What the front desk sees of a booking is unchanged. -/
structure Unchanged (key : String × String) (before after : OtaTables) :
    Prop where
  count : after.desk.reservations.length = before.desk.reservations.length
  link : (after.mapping? key).bind OtaMapping.reservationId =
    (before.mapping? key).bind OtaMapping.reservationId
  terms : ∀ mapping reservation, Linked before key mapping reservation ->
    ∃ row, after.desk.reservation? reservation.id = some row ∧ row.terms = reservation.terms
  guest : ∀ mapping reservation, Linked before key mapping reservation ->
    ∀ guest, before.desk.guest? reservation.guestId = some guest ->
      after.desk.guest? reservation.guestId = some guest
  adjustments : after.desk.adjustments = before.desk.adjustments

theorem Unchanged.refl (key : String × String) (tables : OtaTables) :
    Unchanged key tables tables where
  count := rfl
  link := rfl
  terms _ reservation linked := ⟨reservation, linked.stored, rfl⟩
  guest _ _ _ _ stored := stored
  adjustments := rfl

def GuestNamed (desk : Desk) (normalized : NormalizedReservation F) (guestId : Int) : Prop :=
  ∀ guest, desk.guest? guestId = some guest -> syncedGuest normalized guest = guest

section

variable {desk : Desk} {normalized : NormalizedReservation F} {guestId : Int}

omit [FloatFormat F]

theorem guestNamed_of_synced {guest : Guest}
    (synced : guest = syncedGuest normalized ((desk.guest? guestId).getD (newGuest desk))) :
    GuestNamed (desk.writeGuest guest) normalized guestId := by
  intro stored found
  rw [Desk.guest?_writeGuest] at found
  split_ifs at found with same
  · rw [← Option.some.inj found, synced, syncedGuest_syncedGuest]
  · exfalso
    apply same
    have sameId : stored.id = guestId := (Table.find_eq_some found).2
    rw [synced, found, Option.getD_some, syncedGuest_id]
    exact sameId.symm

theorem guest?_of_guestNamed {guest stored : Guest} (named : GuestNamed desk normalized guestId)
    (synced : guest = syncedGuest normalized ((desk.guest? guestId).getD (newGuest desk)))
    (found : desk.guest? guestId = some stored) :
    (desk.writeGuest guest).guest? guestId = some stored := by
  have same : guest = stored := by
    rw [synced, found, Option.getD_some, named stored found]
  have sameId : guestId = stored.id := (Table.find_eq_some found).2.symm
  rw [same, Desk.guest?_writeGuest, if_pos sameId]

end

section

variable {env : OtaEnvironment F} {tables after : OtaTables}
  {normalized : NormalizedReservation F} {receivedAt receivedAgain : Int}

variable {desk : Desk}

variable {reservation : OtaReservation} {room : Room} {guest : Guest}

theorem Unchanged.of_write {key : String × String}
    {known mapping : OtaMapping} {row : OtaReservation}
    (linked : Linked tables key known reservation)
    (keeps : Keeps key (some reservation.id) mapping)
    (sameId : row.id = reservation.id)
    (sameTerms : row.terms = reservation.terms)
    (sameRows : desk.reservations = tables.desk.reservations)
    (sameAdjustments : desk.adjustments = tables.desk.adjustments)
    (sameGuest : ∀ guest, tables.desk.guest? reservation.guestId = some guest ->
        desk.guest? reservation.guestId = some guest) :
    Unchanged key tables (tables.writeMapping mapping (desk.writeReservation row)) where
  count := by
    have known : row.id ∈ desk.reservations.map (·.id) := by
      rw [sameRows, sameId]
      exact List.mem_map_of_mem (mem_reservations_iff.mpr linked.stored)
    show (Table.upsert (fun row : OtaReservation => row.id) row desk.reservations).length = _
    unfold Table.upsert Table.replace
    rw [if_pos known, List.length_map, sameRows]
  link := by
    rw [OtaTables.mapping?_writeMapping, if_pos keeps.key.symm, linked.known]
    exact keeps.reservationId.trans linked.names.symm
  terms other held relinked := by
    obtain ⟨rfl, rfl⟩ := linked.unique relinked
    refine ⟨row, ?_, sameTerms⟩
    show (desk.writeReservation row).reservation? held.id = some row
    rw [Desk.reservation?_writeReservation, if_pos sameId.symm]
  guest other held relinked guest stored := by
    obtain ⟨rfl, rfl⟩ := linked.unique relinked
    exact sameGuest guest stored
  adjustments := sameAdjustments

variable {mapping : OtaMapping} {row : OtaReservation}

theorem Linked.written {key : String × String} (keeps : Keeps key (some row.id) mapping) :
    Linked (tables.writeMapping mapping (desk.writeReservation row)) key mapping row where
  known := by rw [OtaTables.mapping?_writeMapping, if_pos keeps.key.symm]
  names := keeps.reservationId
  stored := by
    show (desk.writeReservation row).reservation? row.id = some row
    rw [Desk.reservation?_writeReservation, if_pos rfl]

variable {category : CatalogCategory}

theorem Applied.terms_again [PrintsCents F] {desk later : Desk} {first row updated : OtaReservation}
    {preserve : Bool}
    (settled : Settled desk first normalized receivedAt preserve row)
    (stated : normalized.NamesCurrency desk)
    (sameDefault : later.defaultCurrency = desk.defaultCurrency)
    (sameLedger : later.ledger = desk.ledger)
    (sameStay : row.stay = normalized.stay)
    (preserves : decide (row.Operational ∨ row.status = .cancelled) = preserve)
    (applied : Applied env later row normalized receivedAgain category room guest updated)
    (ofCategory : category.id = row.categoryId)
    (inRoom : row.roomId = some room.id) :
    updated.id = row.id ∧ updated.terms = row.terms := by
  obtain ⟨changed, written, -, isChanged, isWritten, rfl⟩ := applied
  have samePreserve :
      decide (changed.Operational ∨ changed.status = .cancelled) =
        preserve := by
    rw [← preserves, decide_eq_decide, Operational.congr isChanged.status, isChanged.status]
  rw [samePreserve] at isWritten
  have financial : written.financialTerms = row.financialTerms :=
    settled.financialTerms_again isWritten.toSettled stated sameDefault
      sameLedger isChanged.id isChanged.status
      ⟨isChanged.externalPaidAmount, isChanged.externalPaidCurrency,
        isChanged.externalPaidEverConfirmed⟩
  have stay : written.stay = row.stay :=
    isWritten.stay.trans (isChanged.stay.trans sameStay.symm)
  have guestId : written.guestId = row.guestId :=
    isWritten.guestId.trans isChanged.guestId
  refine ⟨?_, ?_⟩
  · rw [assigned_id, isWritten.id]
    exact isChanged.id
  · unfold OtaReservation.assigned
    split_ifs
    · rw [BookingTerms.mk.injEq]
      exact ⟨stay, isWritten.roomId.trans isChanged.roomId,
        isWritten.categoryId.trans ofCategory, guestId, financial⟩
    · rw [BookingTerms.mk.injEq]
      exact ⟨stay, inRoom.symm, ofCategory, guestId, financial⟩

omit [FloatFormat F] in
/-- Where an applied modification puts its reservation. -/
theorem planModification_apply {categories : List CatalogCategory}
    (planned : planModification desk row normalized categories = .ok (.apply category room)) :
    (row.Operational ∧ row.roomId = some room.id ∧
        category.id = row.categoryId ∧ normalized.stay = row.stay) ∨
      (¬row.Operational ∧ Selected desk (some row.id) normalized categories category room) := by
  unfold planModification at planned
  split_ifs at planned with isCancelled empty operational
  · cases planned
  · cases planned
  · -- a stay in house or closed keeps its place
    left
    have isPlan := Except.ok.inj planned
    unfold planOperational at isPlan
    split at isPlan
    · next held own isHeld isOwn =>
      split_ifs at isPlan with unmoved
      cases isPlan
      obtain ⟨roomId, names, found⟩ := Option.bind_eq_some_iff.mp isHeld
      have ofCategory := List.find?_some isOwn
      rw [decide_eq_true_eq] at ofCategory
      refine ⟨operational, ?_, ofCategory, unmoved.1⟩
      rw [names, ← room?_eq_some found]
    · cases isPlan
  · right
    obtain ⟨selected, isSelected, planned⟩ := bind_eq_ok.mp planned
    match selected, isSelected, planned with
    | none, _, planned => cases pure_eq_ok.mp planned
    | some (own, held), isSelected, planned =>
      cases planned
      refine ⟨operational, selectRoom_eq_some ?_ (reported_eq_ok.mp isSelected)⟩
      intro current isCurrent
      obtain ⟨roomId, names, found⟩ := Option.bind_eq_some_iff.mp isCurrent
      rw [room?_eq_some found]
      exact found

omit [FloatFormat F] in
theorem planModification_selected {desk later : Desk}
    {excluded : Option Int} {categories : List CatalogCategory}
    (same : SameButFor row.id desk later)
    (excludes : ∀ other, other ≠ row.id -> truthy excluded ≠ some other)
    (selected : Selected desk excluded normalized categories category room)
    (notCancelled : row.status ≠ .cancelled) (notOperational : ¬row.Operational)
    (inRoom : row.roomId = some room.id) :
    ∃ own, own.id = room.categoryId ∧
      planModification later row normalized categories = .ok (.apply own room) := by
  have available := same.available excludes selected.available
  obtain ⟨own, isOwn, isSelected⟩ := selectRoom_current selected.candidate
    selected.ofCategory available
  refine ⟨own, isOwn, ?_⟩
  have current : row.roomId.bind later.room? = some room := by
    rw [inRoom]
    exact (same.room? room.id).trans selected.stored
  unfold planModification
  rw [if_neg notCancelled, if_neg (List.ne_nil_of_mem selected.candidate), if_neg notOperational,
    current, isSelected]
  rfl

/-- The status that a payload leaves is neither cancelled nor in house. -/
theorem open_of_financialStatus {amountPaid : Int}
    (isOpen : row.status = normalized.financialStatus amountPaid) :
    row.status ≠ .cancelled ∧ ¬row.Operational := by
  unfold OtaReservation.Operational
  rw [isOpen]
  rcases @financialStatus_open F _ normalized amountPaid with paid | paid | paid <;> simp [paid]

/-! ## Fixed points -/

/-- A webhook of a booking with a reservation cancels it, leaves it to the
staff or modifies it. -/
theorem Processed.cases_of_linked {known : OtaMapping}
    (linked : Linked tables normalized.key known reservation)
    (isProcessed : Processed env tables normalized receivedAt after) :
    (normalized.IsCancellation ∧ ∃ mapping desk guest cancelled,
        Keeps normalized.key (some reservation.id) mapping ∧
        syncGuestRecord tables.desk
          (tables.desk.guest? reservation.guestId) normalized = .ok (desk, guest) ∧
        cancelReservation desk reservation = .ok cancelled ∧
        after = tables.writeMapping mapping (desk.writeReservation cancelled)) ∨
      (¬normalized.IsCancellation ∧ ∃ mapping errorMessage reason,
        Keeps normalized.key (some reservation.id) mapping ∧
        planModification tables.desk reservation normalized
          (tables.desk.catalog.resolveCommercialContext
            normalized).candidateCategories = .ok (.review errorMessage reason) ∧
        after = tables.writeMapping mapping
          (tables.desk.writeReservation (reservation.markManualReview reason))) ∨
      (¬normalized.IsCancellation ∧ ∃ mapping desk updated category room,
        Keeps normalized.key (some reservation.id) mapping ∧
        planModification tables.desk reservation normalized
          (tables.desk.catalog.resolveCommercialContext
            normalized).candidateCategories = .ok (.apply category room) ∧
        applyModification env tables.desk reservation normalized receivedAt
          category room = .ok (desk, updated) ∧
        after = tables.writeMapping mapping (desk.writeReservation updated)) := by
  cases isProcessed with
  | recorded unknown _ _ =>
    rw [linked.known] at unknown
    cases unknown
  | booked unlinked _ _ _ _ =>
    have absent := unlinked known linked.known
    rw [linked.names] at absent
    cases absent
  | cancelled held isCancellation isSynced isCancelled keeps =>
    obtain ⟨rfl, rfl⟩ := linked.unique held
    exact .inl ⟨isCancellation, _, _, _, _, keeps, isSynced, isCancelled, rfl⟩
  | reviewed held isModification planned keeps =>
    obtain ⟨rfl, rfl⟩ := linked.unique held
    exact .inr (.inl ⟨isModification, _, _, _, keeps, planned, rfl⟩)
  | applied held isModification planned isApplied keeps =>
    obtain ⟨rfl, rfl⟩ := linked.unique held
    exact .inr (.inr ⟨isModification, _, _, _, _, _, keeps, planned, isApplied, rfl⟩)

/-- The reservation of a booking is what a modification would make of it. -/
structure FixedPoint (tables : OtaTables)
    (normalized : NormalizedReservation F) (mapping : OtaMapping)
    (row : OtaReservation) : Prop where
  linked : Linked tables normalized.key mapping row
  isModification : ¬normalized.IsCancellation
  settled : ∃ desk first receivedAt, normalized.NamesCurrency desk ∧
    tables.desk.defaultCurrency = desk.defaultCurrency ∧
    tables.desk.ledger = desk.ledger ∧
    Settled desk first normalized receivedAt
      (decide (row.Operational ∨ row.status = .cancelled)) row
  stay : row.stay = normalized.stay
  planned : ∃ category room, category.id = row.categoryId ∧ row.roomId = some room.id ∧
    planModification tables.desk row normalized (tables.desk.catalog.resolveCommercialContext
        normalized).candidateCategories = .ok (.apply category room)
  named : GuestNamed tables.desk normalized row.guestId

theorem FixedPoint.unchanged [PrintsCents F] (fixed : FixedPoint tables normalized mapping row)
    (isProcessed : Processed env tables normalized receivedAt after) :
    Unchanged normalized.key tables after := by
  obtain ⟨category, room, ofCategory, inRoom, planned⟩ := fixed.planned
  rcases isProcessed.cases_of_linked fixed.linked with ⟨isCancellation, -⟩ | ⟨-, _, _, _, -,
    isReviewed, -⟩ | ⟨-, written, desk, updated, own, held, keeps, isPlanned, isApplied, rfl⟩
  · exact absurd isCancellation fixed.isModification
  · rw [planned] at isReviewed
    cases isReviewed
  · rw [planned] at isPlanned
    cases isPlanned
    obtain ⟨guest, rfl, ⟨applied⟩⟩ := applyModification_eq_ok isApplied
    obtain ⟨desk, first, firstReceivedAt, stated, sameDefault, sameLedger, settled⟩ := fixed.settled
    obtain ⟨sameId, sameTerms⟩ := applied.terms_again settled stated
      sameDefault sameLedger fixed.stay rfl ofCategory inRoom
    exact .of_write fixed.linked keeps sameId sameTerms rfl rfl fun stored found =>
        guest?_of_guestNamed fixed.named applied.synced found

theorem fixedPoint_of_booked {created written : OtaReservation}
    (isModification : ¬normalized.IsCancellation)
    (stated : normalized.NamesCurrency tables.desk)
    (isBooked : bookIncoming env tables.desk normalized = .ok (desk, created))
    (isWritten : applyFinancialSnapshot env desk created normalized receivedAt false = .ok written)
    (keeps : Keeps normalized.key (some written.id) mapping) :
    FixedPoint (tables.writeMapping mapping (desk.writeReservation written))
      normalized mapping written := by
  obtain ⟨guest, category, room, rfl, booked⟩ := bookIncoming_eq_ok isBooked
  have terms := applyFinancialSnapshot_eq_ok isWritten
  obtain ⟨notCancelled, notOperational⟩ := open_of_financialStatus terms.status
  have inRoom : written.roomId = some room.id :=
    terms.roomId.trans booked.roomId
  have same := SameButFor.of_write tables.desk guest written
  have selected := selectRoom_eq_some (by simp) booked.selected
  obtain ⟨own, isOwn, planned⟩ := planModification_selected same
    (by simp [truthy]) selected notCancelled notOperational inRoom
  refine ⟨.written keeps, isModification, ?_, ?_, ?_, ?_⟩
  · have notPreserved : decide (written.Operational ∨ written.status = .cancelled) = false := by
      simp [notCancelled, notOperational]
    rw [notPreserved]
    exact ⟨tables.desk.writeGuest guest, _, _, stated, rfl, rfl, terms.toSettled⟩
  · exact terms.stay.trans booked.stay
  · refine ⟨own, room, ?_, inRoom, planned⟩
    rw [isOwn, selected.ofCategory, terms.categoryId, booked.categoryId]
  · rw [terms.guestId, booked.guestId]
    intro stored found
    have isStored : (tables.desk.writeGuest guest).guest? guest.id = some stored := found
    rw [Desk.guest?_writeGuest, if_pos rfl] at isStored
    rw [← Option.some.inj isStored, booked.synced, syncedGuest_syncedGuest]

omit [FloatFormat F] in
theorem Settled.assigned [FloatFormat F] {first written : OtaReservation} {preserve : Bool}
    (settled : Settled desk first normalized receivedAt preserve written)
    (category : CatalogCategory) (room : Room) :
    Settled desk first normalized receivedAt preserve (written.assigned category room) := by
  unfold OtaReservation.assigned
  split_ifs
  · exact settled
  · exact ⟨settled.id, settled.money, settled.status, settled.collectionModel, settled.settlement⟩

@[simp] theorem assigned_status (row : OtaReservation) (category : CatalogCategory) (room : Room) :
    (row.assigned category room).status = row.status := by
  unfold OtaReservation.assigned
  split_ifs <;> rfl

@[simp] theorem assigned_stay (row : OtaReservation) (category : CatalogCategory) (room : Room) :
    (row.assigned category room).stay = row.stay := by
  unfold OtaReservation.assigned
  split_ifs <;> rfl

@[simp] theorem assigned_guestId (row : OtaReservation) (category : CatalogCategory) (room : Room) :
    (row.assigned category room).guestId = row.guestId := by
  unfold OtaReservation.assigned
  split_ifs <;> rfl

theorem planModification_assigned {changed written : OtaReservation}
    (planned : planModification desk reservation normalized
      (desk.catalog.resolveCommercialContext normalized).candidateCategories =
        .ok (.apply category room))
    (isChanged : Changed reservation normalized changed)
    (isWritten : Written (desk.writeGuest guest)
      (changed.withContext (desk.catalog.resolveCommercialContext normalized)
        category normalized.externalReservationId)
      normalized receivedAt
      (decide (changed.Operational ∨ changed.status = .cancelled)) written) :
    (∃ own held, own.id = (written.assigned category room).categoryId ∧
      (written.assigned category room).roomId = some held.id ∧
      planModification ((desk.writeGuest guest).writeReservation (written.assigned category room))
        (written.assigned category room) normalized
        (desk.catalog.resolveCommercialContext
          normalized).candidateCategories = .ok (.apply own held)) ∧
      decide ((written.assigned category room).Operational ∨
          (written.assigned category room).status = .cancelled) =
        decide (changed.Operational ∨ changed.status = .cancelled) := by
  have same := SameButFor.of_write desk guest (written.assigned category room)
  have notCancelled := status_ne_cancelled_of_apply planned
  have sameId : (written.assigned category room).id = reservation.id :=
    (assigned_id category room).trans (isWritten.id.trans isChanged.id)
  have sameOperational := Operational.congr isChanged.status
  have keptStatus : changed.status ≠ .cancelled := by
    rw [isChanged.status]
    exact notCancelled
  rcases planModification_apply planned with
    ⟨operational, inRoom, ofCategory, unmoved⟩ | ⟨notOperational, selected⟩
  · have preserved : decide (changed.Operational ∨ changed.status = .cancelled) = true :=
      decide_eq_true (.inl (sameOperational.mpr operational))
    have status : written.status = changed.status := by
      rw [isWritten.status, if_pos preserved]
      rfl
    have inHouse : written.Operational :=
      (Operational.congr status).mpr (sameOperational.mpr operational)
    have stays : written.assigned category room = written := if_pos inHouse
    rw [stays] at same sameId ⊢
    have place : SamePlace reservation written :=
      ⟨sameId, isWritten.roomId.trans isChanged.roomId, isWritten.categoryId.trans ofCategory,
        isWritten.stay.trans (isChanged.stay.trans unmoved),
        status.trans isChanged.status⟩
    rw [sameId] at same
    refine ⟨⟨category, room, isWritten.categoryId.symm, place.roomId.trans inRoom, ?_⟩, ?_⟩
    · exact (same.planModification place normalized _).trans planned
    · rw [preserved]
      exact decide_eq_true (.inl inHouse)
  · have replaced : decide (changed.Operational ∨ changed.status = .cancelled) = false := by
      simp only [decide_eq_false_iff_not, not_or]
      exact ⟨fun inHouse => notOperational (sameOperational.mp inHouse), keptStatus⟩
    have isOpen : written.status = normalized.financialStatus written.money.amountPaid := by
      rw [isWritten.status, replaced]
      rfl
    obtain ⟨stillOpen, outside⟩ := open_of_financialStatus isOpen
    have moves : written.assigned category room = { written with
          roomId := some room.id
          categoryId := category.id
          requiresManualReview := false
          allocationStatus := "assigned" } := if_neg outside
    rw [moves] at same sameId ⊢
    obtain ⟨own, isOwn, isPlanned⟩ := planModification_selected same
      (by rw [← sameId]; exact excludes_some) selected stillOpen outside rfl
    refine ⟨⟨own, room, isOwn.trans selected.ofCategory, rfl, isPlanned⟩, ?_⟩
    rw [replaced]
    exact decide_eq_false (not_or.mpr ⟨outside, stillOpen⟩)

theorem fixedPoint_of_applied {updated : OtaReservation}
    (isModification : ¬normalized.IsCancellation)
    (stated : normalized.NamesCurrency tables.desk)
    (planned : planModification tables.desk reservation normalized
      (tables.desk.catalog.resolveCommercialContext
        normalized).candidateCategories = .ok (.apply category room))
    (isApplied : applyModification env tables.desk reservation normalized
      receivedAt category room = .ok (desk, updated))
    (keeps : Keeps normalized.key (some reservation.id) mapping) :
    FixedPoint (tables.writeMapping mapping (desk.writeReservation updated))
      normalized mapping updated := by
  obtain ⟨guest, rfl, ⟨applied⟩⟩ := applyModification_eq_ok isApplied
  obtain ⟨isPlanned, samePreserve⟩ := planModification_assigned planned
    applied.isChanged applied.isWritten
  have linked : Linked (tables.writeMapping mapping
      ((tables.desk.writeGuest guest).writeReservation updated))
      normalized.key mapping updated := by
    apply Linked.written
    rw [applied.id]
    exact keeps
  refine ⟨linked, isModification, ?_, ?_, ?_, ?_⟩
  · rw [applied.isUpdated, samePreserve]
    exact ⟨tables.desk.writeGuest guest, _, _, stated, rfl, rfl,
      applied.isWritten.toSettled.assigned category room⟩
  · rw [applied.isUpdated, assigned_stay]
    exact applied.isWritten.stay.trans applied.isChanged.stay
  · rw [applied.isUpdated]
    exact isPlanned
  · rw [applied.isUpdated, assigned_guestId, applied.isWritten.guestId]
    have named := guestNamed_of_synced applied.synced
    have sameGuest : applied.changed.guestId = reservation.guestId :=
      applied.isChanged.guestId
    intro stored found
    refine named stored ?_
    rw [← sameGuest]
    exact found

theorem terms_congr {first second : OtaReservation}
    (sameRow : second.toReservation = first.toReservation)
    (sameMoney : second.money = first.money)
    (sameModel : second.paymentCollectionModel = first.paymentCollectionModel)
    (sameSettlement : second.settlementStatus = first.settlementStatus) :
    second.terms = first.terms := by
  unfold OtaReservation.terms OtaReservation.financialTerms
  rw [sameRow, sameMoney, sameModel, sameSettlement]

theorem markManualReview_terms (reservation : OtaReservation) (reason : String) :
    (reservation.markManualReview reason).terms = reservation.terms := by
  apply terms_congr <;> simp

theorem reviewed_again {errorMessage reason : String} (isModification : ¬normalized.IsCancellation)
    (planned : planModification tables.desk reservation normalized
      (tables.desk.catalog.resolveCommercialContext
        normalized).candidateCategories = .ok (.review errorMessage reason))
    (keeps : Keeps normalized.key (some reservation.id) mapping)
    (isProcessed : Processed env (tables.writeMapping mapping
        (tables.desk.writeReservation (reservation.markManualReview reason)))
      normalized receivedAt after) :
    Unchanged normalized.key (tables.writeMapping mapping
        (tables.desk.writeReservation (reservation.markManualReview reason)))
      after := by
  have linked : Linked (tables.writeMapping mapping
      (tables.desk.writeReservation (reservation.markManualReview reason)))
      normalized.key mapping (reservation.markManualReview reason) :=
    Linked.written keeps
  rcases isProcessed.cases_of_linked linked with ⟨isCancellation, -⟩ | ⟨-, written, _, _, keepsToo,
    -, rfl⟩ | ⟨-, _, _, _, _, _, -, isPlanned, -, -⟩
  · exact absurd isCancellation isModification
  · exact .of_write linked keepsToo (markManualReview_id _)
      (markManualReview_terms _ _) rfl rfl fun _ found => found
  · have same : SameButFor reservation.id tables.desk
        (tables.desk.writeReservation (reservation.markManualReview reason)) :=
      SameButFor.of_writeReservation tables.desk (reservation.markManualReview reason)
    have place : SamePlace reservation (reservation.markManualReview reason) := by
      constructor <;> simp
    have isReviewed := (same.planModification place normalized
      (tables.desk.catalog.resolveCommercialContext normalized).candidateCategories).trans planned
    cases isReviewed.symm.trans isPlanned

theorem cancelReservation_again {desk later : Desk} {cancelled row : OtaReservation}
    (sameLedger : later.ledger = desk.ledger)
    (isCancelled : cancelReservation desk reservation = .ok cancelled)
    (isAgain : cancelReservation later cancelled = .ok row) :
    row.id = cancelled.id ∧ row.terms = cancelled.terms := by
  by_cases operational : reservation.Operational
  · obtain ⟨sameRow, sameMoney, sameModel, settlement⟩ :=
      cancelReservation_operational operational isCancelled
    have inHouse : cancelled.Operational :=
      (Operational.congr (congrArg Reservation.status sameRow)).mpr operational
    obtain ⟨rowAgain, moneyAgain, modelAgain, settlementAgain⟩ :=
      cancelReservation_operational inHouse isAgain
    exact ⟨congrArg Reservation.id rowAgain,
      terms_congr rowAgain moneyAgain modelAgain (settlementAgain.trans settlement.symm)⟩
  · have isFirst := cancelReservation_open operational isCancelled
    have outside : ¬cancelled.Operational := by
      rw [isFirst]
      unfold OtaReservation.Operational
      simp
    have isSecond := cancelReservation_open outside isAgain
    have sameHistory : hasPaymentHistoryForCancellation later cancelled =
        hasPaymentHistoryForCancellation desk reservation := by
      unfold hasPaymentHistoryForCancellation
      rw [sameLedger, isFirst]
      rfl
    rw [isSecond, sameHistory]
    refine ⟨rfl, terms_congr ?_ rfl rfl ?_⟩
    · rw [isFirst]
    · rw [isFirst]

theorem cancelled_again {cancelled : OtaReservation} (isCancellation : normalized.IsCancellation)
    (isSynced : syncGuestRecord tables.desk
      (tables.desk.guest? reservation.guestId) normalized = .ok (desk, guest))
    (isCancelled : cancelReservation desk reservation = .ok cancelled)
    (sameGuestId : cancelled.guestId = reservation.guestId)
    (keeps : Keeps normalized.key (some cancelled.id) mapping)
    (isProcessed : Processed env (tables.writeMapping mapping (desk.writeReservation cancelled))
      normalized receivedAt after) :
    Unchanged normalized.key (tables.writeMapping mapping (desk.writeReservation cancelled))
      after := by
  obtain ⟨synced, -, rfl⟩ := syncGuestRecord_eq_ok.mp isSynced
  have linked : Linked (tables.writeMapping mapping
      ((tables.desk.writeGuest guest).writeReservation cancelled))
      normalized.key mapping cancelled := Linked.written keeps
  rcases isProcessed.cases_of_linked linked with ⟨-, written, later, again, row, keepsToo,
    isSyncedToo, isAgain, rfl⟩ | ⟨isModification, -⟩ | ⟨isModification, -⟩
  · obtain ⟨syncedToo, -, rfl⟩ := syncGuestRecord_eq_ok.mp isSyncedToo
    obtain ⟨sameId, sameTerms⟩ := cancelReservation_again rfl isCancelled isAgain
    refine .of_write linked keepsToo sameId sameTerms rfl rfl ?_
    intro stored found
    refine guest?_of_guestNamed ?_ syncedToo found
    rw [sameGuestId]
    exact guestNamed_of_synced synced
  · exact absurd isCancellation isModification
  · exact absurd isCancellation isModification

/-- The booking has no reservation: it is not known, or its mapping names
none. -/
def WithoutReservation (tables : OtaTables) (key : String × String) : Prop :=
  ((tables.mapping? key).all (·.reservationId.isNone)) = true
deriving Decidable

/-- A cancellation of a booking without a reservation, for which one can be
created. -/
def RevivesAgain (env : OtaEnvironment F) (tables : OtaTables)
    (normalized : NormalizedReservation F) : Prop :=
  normalized.Identified ∧ normalized.IsCancellation ∧ WithoutReservation tables normalized.key ∧
    CanBeBooked env tables.desk normalized
deriving Decidable

theorem identified_of_processed
    (isProcessed : processNormalizedWebhook env tables normalized receivedAt =
      .ok after) : normalized.Identified := by
  obtain ⟨_, identified, -⟩ := bind_eq_ok.mp isProcessed
  simpa using identified

theorem process_unlinked (identified : normalized.Identified)
    (known : tables.mapping? normalized.key = some mapping)
    (unlinked : mapping.reservationId = none)
    (possible : CanBeBooked env tables.desk normalized) (receivedAt : Int) :
    ∃ after, processNormalizedWebhook env tables normalized receivedAt = .ok after := by
  obtain ⟨desk, created, written, isBooked, isWritten⟩ := possible.exists_written receivedAt
  unfold processNormalizedWebhook
  rw [known]
  simp only [unlinked]
  unfold processExistingIncomingReservation materializeIncomingReservation
  simp only [isBooked, raiseIf, identified, not_true_eq_false, if_false]
  simp only [bind_eq_ok]
  exact ⟨_, (), trivial, (desk, created), rfl, written, isWritten, rfl⟩

/-- A cancellation of a booking that is not known is recorded. -/
theorem process_unknown (identified : normalized.Identified)
    (isCancellation : normalized.IsCancellation)
    (unknown : tables.mapping? normalized.key = none) (receivedAt : Int) :
    ∃ after, processNormalizedWebhook env tables normalized receivedAt = .ok after := by
  unfold processNormalizedWebhook
  rw [unknown]
  simp only [raiseIf, identified, not_true_eq_false, if_false, isCancellation, if_true]
  exact ⟨_, rfl⟩

theorem process_open (identified : normalized.Identified)
    (isCancellation : normalized.IsCancellation)
    (linked : Linked tables normalized.key mapping row)
    (stored : tables.desk.guest? row.guestId = some guest)
    (named : syncedGuest normalized guest = guest) (guestFits : guest.Fits)
    (isOpen : .cancelled ∈ row.status.validTransitions) (receivedAt : Int) :
    ∃ after, processNormalizedWebhook env tables normalized receivedAt = .ok after := by
  have isSynced : syncGuestRecord tables.desk (tables.desk.guest? row.guestId) normalized =
        .ok (tables.desk.writeGuest guest, guest) := by
    rw [syncGuestRecord_eq_ok, stored]
    exact ⟨named.symm, guestFits, rfl⟩
  have outside : ¬row.Operational := by
    rintro (status | status | status) <;>
      simp [status, ReservationStatus.validTransitions] at isOpen
  have notCancelled : row.status ≠ .cancelled := by
    intro status
    simp [status, ReservationStatus.validTransitions] at isOpen
  have isCancelled : ∃ cancelled,
      cancelReservation (tables.desk.writeGuest guest) row = .ok cancelled := by
    unfold cancelReservation
    rw [if_neg outside]
    simp only [notCancelled, if_false, transitionReservationStatus, raiseIf,
      isOpen, not_true_eq_false]
    exact ⟨_, rfl⟩
  obtain ⟨cancelled, isCancelled⟩ := isCancelled
  unfold processNormalizedWebhook
  rw [linked.known]
  simp only [linked.names, linked.stored]
  unfold processExistingIncomingReservation cancelExistingReservation
  simp only [raiseIf, identified, not_true_eq_false, if_false, isCancellation, if_true]
  simp only [bind_eq_ok]
  exact ⟨_, (), trivial, _, isSynced, cancelled, isCancelled, rfl⟩

/-! ## Every webhook -/

theorem deliver_of_error {error : OtaError}
    (isRefused : processNormalizedWebhook env tables normalized receivedAt =
      .error error) : deliver env tables normalized receivedAt = tables := by
  unfold deliver
  rw [isRefused]

theorem deliver_of_ok (isProcessed : processNormalizedWebhook env tables normalized receivedAt =
      .ok after) : deliver env tables normalized receivedAt = after := by
  unfold deliver
  rw [isProcessed]

theorem cancelReservation_guestId {cancelled : OtaReservation}
    (isCancelled : cancelReservation desk reservation = .ok cancelled) :
    cancelled.guestId = reservation.guestId := by
  by_cases operational : reservation.Operational
  · exact congrArg Reservation.guestId (cancelReservation_operational operational isCancelled).1
  · rw [cancelReservation_open operational isCancelled]

theorem recorded_of_unknown (isCancellation : normalized.IsCancellation)
    (unknown : tables.mapping? normalized.key = none)
    (isProcessed : Processed env tables normalized receivedAt after) :
    ∃ mapping, Keeps normalized.key none mapping ∧
      after = tables.writeMapping mapping tables.desk := by
  have notLinked : ∀ mapping reservation, ¬Linked tables normalized.key mapping reservation := by
    intro mapping reservation linked
    have known := linked.known
    rw [unknown] at known
    cases known
  cases isProcessed with
  | recorded _ _ keeps => exact ⟨_, keeps, rfl⟩
  | booked _ announced _ _ _ =>
    exact absurd isCancellation (announced unknown)
  | cancelled linked _ _ _ _ => exact absurd linked (notLinked _ _)
  | reviewed linked _ _ _ => exact absurd linked (notLinked _ _)
  | applied linked _ _ _ _ => exact absurd linked (notLinked _ _)

theorem booked_of_unlinked (known : tables.mapping? normalized.key = some mapping)
    (unlinked : mapping.reservationId = none)
    (isProcessed : Processed env tables normalized receivedAt after) :
    ∃ named desk created written, bookIncoming env tables.desk normalized = .ok (desk, created) ∧
        applyFinancialSnapshot env desk created normalized receivedAt false = .ok written ∧
        Keeps normalized.key (some written.id) named ∧
        after = tables.writeMapping named (desk.writeReservation written) := by
  have notLinked : ∀ other reservation, ¬Linked tables normalized.key other reservation := by
    intro other reservation linked
    have names := linked.names
    rw [← Option.some.inj (known.symm.trans linked.known), unlinked] at names
    cases names
  cases isProcessed with
  | recorded unknown _ _ =>
    rw [known] at unknown
    cases unknown
  | booked _ _ isBooked isWritten keeps =>
    exact ⟨_, _, _, _, isBooked, isWritten, keeps, rfl⟩
  | cancelled linked _ _ _ _ => exact absurd linked (notLinked _ _)
  | reviewed linked _ _ _ => exact absurd linked (notLinked _ _)
  | applied linked _ _ _ _ => exact absurd linked (notLinked _ _)

theorem cancelled_after_booked {created written : OtaReservation}
    (isCancellation : normalized.IsCancellation)
    (identified : normalized.Identified)
    (isBooked : bookIncoming env tables.desk normalized = .ok (desk, created))
    (isWritten : applyFinancialSnapshot env desk created normalized receivedAt false = .ok written)
    (linked : Linked (tables.writeMapping mapping
      (desk.writeReservation written)) normalized.key mapping written)
    (receivedAgain : Int) :
    ((deliver env (tables.writeMapping mapping (desk.writeReservation written)) normalized
        receivedAgain).desk.reservation? written.id).map (fun row =>
          row.status) = some .cancelled := by
  obtain ⟨guest, category, room, rfl, booked⟩ := bookIncoming_eq_ok isBooked
  have terms := applyFinancialSnapshot_eq_ok isWritten
  obtain ⟨notCancelled, outside⟩ := open_of_financialStatus terms.status
  have isOpen : .cancelled ∈ written.status.validTransitions := by
    rw [terms.status]
    rcases @financialStatus_open F _ normalized written.money.amountPaid with status | status |
      status <;> simp [status, ReservationStatus.validTransitions]
  have stored : (tables.writeMapping mapping
      ((tables.desk.writeGuest guest).writeReservation written)).desk.guest?
        written.guestId = some guest := by
    show (tables.desk.writeGuest guest).guest? written.guestId = some guest
    rw [Desk.guest?_writeGuest, if_pos (terms.guestId.trans booked.guestId)]
  have named : syncedGuest normalized guest = guest := by
    rw [booked.synced, syncedGuest_syncedGuest]
  obtain ⟨again, isAgain⟩ := process_open identified isCancellation linked
    stored named booked.guestFits isOpen receivedAgain
  rw [deliver_of_ok isAgain]
  rcases (processNormalizedWebhook_eq_ok isAgain).cases_of_linked linked with ⟨-, other, later,
    held, cancelled, -, isSynced, isCancelled, rfl⟩ | ⟨isModification, -⟩ | ⟨isModification, -⟩
  · obtain ⟨sameId, outcome⟩ := cancelReservation_eq_ok isCancelled
    have isRow : (later.writeReservation cancelled).reservation? written.id = some cancelled := by
      rw [Desk.reservation?_writeReservation, if_pos sameId.symm]
    show ((later.writeReservation cancelled).reservation? written.id).map
      (·.status) = some .cancelled
    rw [isRow]
    rcases outcome with isDone | ⟨inHouse, -⟩
    · exact congrArg some isDone
    · exact absurd inHouse outside
  · exact absurd isCancellation isModification
  · exact absurd isCancellation isModification

theorem unchanged_of_recorded (settles : ¬RevivesAgain env tables normalized)
    (identified : normalized.Identified)
    (unknown : tables.mapping? normalized.key = none)
    (isCancellation : normalized.IsCancellation)
    (keeps : Keeps normalized.key none mapping)
    (isProcessed : Processed env (tables.writeMapping mapping tables.desk)
      normalized receivedAgain after) :
    Unchanged normalized.key (tables.writeMapping mapping tables.desk)
      after := by
  have known : (tables.writeMapping mapping tables.desk).mapping?
      normalized.key = some mapping := by
    rw [OtaTables.mapping?_writeMapping, if_pos keeps.key.symm]
  have unlinked : ∀ other reservation, ¬Linked
      (tables.writeMapping mapping tables.desk) normalized.key other
        reservation := by
    intro other reservation linked
    have absent := (linked.of_writeMapping keeps).1
    cases absent
  cases isProcessed with
  | recorded unknownToo _ _ =>
    rw [known] at unknownToo
    cases unknownToo
  | booked _ _ isBooked isWritten _ =>
    exfalso
    apply settles
    refine ⟨identified, isCancellation, ?_, ?_⟩
    · unfold WithoutReservation
      rw [unknown]
      rfl
    · exact .of_written isBooked isWritten
  | cancelled linked _ _ _ _ => exact absurd linked (unlinked _ _)
  | reviewed linked _ _ _ => exact absurd linked (unlinked _ _)
  | applied linked _ _ _ _ => exact absurd linked (unlinked _ _)

/-- What a processed webhook leaves is not changed by a second one. -/
theorem unchanged_of_processed [PrintsCents F] {again : OtaTables}
    (settles : ¬RevivesAgain env tables normalized)
    (stated : normalized.NamesCurrency tables.desk)
    (identified : normalized.Identified)
    (isProcessed : Processed env tables normalized receivedAt after)
    (isAgain : Processed env after normalized receivedAgain again) :
    Unchanged normalized.key after again := by
  cases isProcessed with
  | recorded unknown isCancellation keeps =>
    exact unchanged_of_recorded settles identified unknown isCancellation keeps isAgain
  | booked unlinked announced isBooked isWritten keeps =>
    have isModification : ¬normalized.IsCancellation := by
      intro isCancellation
      apply settles
      refine ⟨identified, isCancellation, ?_, .of_written isBooked isWritten⟩
      unfold WithoutReservation
      cases known : tables.mapping? normalized.key with
      | none => rfl
      | some mapping => simp [unlinked mapping known]
    exact (fixedPoint_of_booked isModification stated isBooked isWritten keeps).unchanged isAgain
  | cancelled linked isCancellation isSynced isCancelled keeps =>
    have sameId := (cancelReservation_eq_ok isCancelled).1
    refine cancelled_again isCancellation isSynced isCancelled ?_ ?_ isAgain
    · exact cancelReservation_guestId isCancelled
    · rw [sameId]
      exact keeps
  | reviewed linked isModification planned keeps =>
    exact reviewed_again isModification planned keeps isAgain
  | applied linked isModification planned isApplied keeps =>
    exact (fixedPoint_of_applied isModification stated planned isApplied keeps).unchanged isAgain

/-- A cancellation that may book its booking is not the same twice: one of
the two deliveries creates the reservation. -/
theorem changed_of_revivesAgain (revives : RevivesAgain env tables normalized)
    (receivedAt receivedAgain : Int) :
    ¬Unchanged normalized.key (deliver env tables normalized receivedAt)
      (deliver env (deliver env tables normalized receivedAt) normalized receivedAgain) := by
  obtain ⟨identified, isCancellation, without, possible⟩ := revives
  intro unchanged
  cases known : tables.mapping? normalized.key with
  | none =>
    -- the first delivery is recorded, the second one books
    obtain ⟨first, isFirst⟩ := process_unknown identified isCancellation known receivedAt
    rw [deliver_of_ok isFirst] at unchanged
    obtain ⟨mapping, keeps, rfl⟩ :=
      recorded_of_unknown isCancellation known (processNormalizedWebhook_eq_ok isFirst)
    have isMapped : (tables.writeMapping mapping tables.desk).mapping?
        normalized.key = some mapping := by
      rw [OtaTables.mapping?_writeMapping, if_pos keeps.key.symm]
    obtain ⟨second, isSecond⟩ := process_unlinked identified isMapped
      keeps.reservationId possible receivedAgain
    obtain ⟨named, desk, created, written, -, -, keepsToo, rfl⟩ :=
      booked_of_unlinked isMapped keeps.reservationId (processNormalizedWebhook_eq_ok isSecond)
    have link := unchanged.link
    rw [deliver_of_ok isSecond, OtaTables.mapping?_writeMapping, if_pos keepsToo.key.symm, isMapped,
      Option.bind_some, Option.bind_some, keepsToo.reservationId, keeps.reservationId] at link
    cases link
  | some mapping =>
    -- the first delivery books, the second one cancels
    have unlinked : mapping.reservationId = none := by
      unfold WithoutReservation at without
      rw [known] at without
      simpa using without
    obtain ⟨first, isFirst⟩ := process_unlinked identified known unlinked possible receivedAt
    rw [deliver_of_ok isFirst] at unchanged
    obtain ⟨named, desk, created, written, isBooked, isWritten, keeps,
      rfl⟩ := booked_of_unlinked known unlinked (processNormalizedWebhook_eq_ok isFirst)
    have linked : Linked (tables.writeMapping named
        (desk.writeReservation written)) normalized.key named written :=
      Linked.written keeps
    obtain ⟨row, isRow, sameTerms⟩ := unchanged.terms named written linked
    have isCancelled := cancelled_after_booked isCancellation identified
      isBooked isWritten linked receivedAgain
    rw [isRow] at isCancelled
    have status : row.status = written.status :=
      congrArg (·.financial.status) sameTerms
    have isOpen := (open_of_financialStatus (applyFinancialSnapshot_eq_ok isWritten).status).1
    apply isOpen
    rw [← status]
    simpa using isCancelled

end

end HotelPms.Ota
