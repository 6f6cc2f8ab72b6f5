import HotelPms.Ota.ManualEntry
import HotelPms.Ota.ModificationSafety

/-!
# Bookings of clerks and webhooks

Clerks and webhooks enter the bookings of the agencies.  A booking has one
active reservation, and a webhook that modifies or cancels the booking works on
it, as long as a clerk spells the channel as the reservation has it and the
mapping names the reservation.  A clerk who spells the channel otherwise gets
a second reservation, and a webhook does not find what a clerk has entered.
-/

namespace HotelPms.Ota

open Hotel Payments Booking Checked FloatFormat

variable {F : Type}

def OtaReservation.HoldsBooking (row : OtaReservation) (channelCode externalId : String) : Prop :=
  row.Active ∧ row.channelCode = channelCode ∧ row.externalId = some externalId
deriving Decidable

/-- No booking has two active reservations. -/
def Desk.OneBooking (desk : Desk) : Prop :=
  ∀ channelCode externalId, ∀ first ∈ desk.reservations, ∀ second ∈ desk.reservations,
      first.HoldsBooking channelCode externalId ->
      second.HoldsBooking channelCode externalId -> first.id = second.id

/-- A reservation of an agency has the channel code of the agency. -/
def Desk.ChannelsNamed (desk : Desk) : Prop :=
  ∀ row ∈ desk.reservations, ∀ channel, row.sourceProviderCode = some channel ->
    row.channelCode = (sourceForChannel channel).channelCode

/-- The reservation carries the number of a mapping. -/
structure Carries (row : OtaReservation) (key : String × String) : Prop where
  sourceProviderCode : row.sourceProviderCode = some key.1
  externalId : row.externalId = some key.2

/-- Mappings name stored reservations that carry their number. -/
def OtaTables.LinksKept (tables : OtaTables) : Prop :=
  ∀ key mapping id, tables.mapping? key = some mapping -> mapping.reservationId = some id ->
    ∃ row, tables.desk.reservation? id = some row ∧ Carries row key

/-- Bookings are kept apart. -/
structure OtaTables.Keyed (tables : OtaTables) : Prop where
  one : tables.desk.OneBooking
  channels : tables.desk.ChannelsNamed
  links : tables.LinksKept

variable {desk : Desk} {row : OtaReservation}

theorem Desk.OneBooking.writeReservation (one : desk.OneBooking)
    (alone : ∀ channelCode externalId, row.HoldsBooking channelCode externalId ->
      ∀ other ∈ desk.reservations, other.HoldsBooking channelCode externalId -> other.id = row.id) :
    (desk.writeReservation row).OneBooking := by
  intro channelCode externalId first firstIn second secondIn isFirst isSecond
  rcases Table.mem_upsert firstIn with rfl | ⟨oldFirst, -⟩
  · rcases Table.mem_upsert secondIn with rfl | ⟨oldSecond, -⟩
    · rfl
    · exact (alone _ _ isFirst second oldSecond isSecond).symm
  · rcases Table.mem_upsert secondIn with rfl | ⟨oldSecond, -⟩
    · exact alone _ _ isSecond first oldFirst isFirst
    · exact one _ _ first oldFirst second oldSecond isFirst isSecond

theorem Desk.OneBooking.rewrite {old : OtaReservation} (one : desk.OneBooking)
    (stored : desk.reservation? old.id = some old) (sameId : row.id = old.id)
    (held : ∀ channelCode externalId, row.HoldsBooking channelCode externalId ->
        old.HoldsBooking channelCode externalId) :
    (desk.writeReservation row).OneBooking := by
  apply one.writeReservation
  intro channelCode externalId holds other otherIn otherHolds
  rw [sameId]
  exact one channelCode externalId other otherIn old
    (mem_reservations_iff.mpr stored) otherHolds (held _ _ holds)

theorem Desk.ChannelsNamed.writeReservation (named : desk.ChannelsNamed)
    (rowNamed : ∀ channel, row.sourceProviderCode = some channel ->
      row.channelCode = (sourceForChannel channel).channelCode) :
    (desk.writeReservation row).ChannelsNamed := by
  intro item member
  rcases Table.mem_upsert member with rfl | ⟨old, -⟩
  · exact rowNamed
  · exact named item old

theorem OtaTables.LinksKept.writeReservation {tables : OtaTables} (links : tables.LinksKept)
    (kept : ∀ old, tables.desk.reservation? row.id = some old ->
      ∀ key, Carries old key -> Carries row key) :
    ∀ key mapping id, tables.mapping? key = some mapping -> mapping.reservationId = some id ->
      ∃ item, (tables.desk.writeReservation row).reservation? id =
        some item ∧ Carries item key := by
  intro key mapping id known names
  obtain ⟨old, stored, carries⟩ := links key mapping id known names
  rw [Desk.reservation?_writeReservation]
  split_ifs with same
  · subst same
    exact ⟨row, rfl, kept old stored key carries⟩
  · exact ⟨old, stored, carries⟩

section

variable {env : ManualEnvironment} {desk after : Desk}
  {data : ManualOTAReservationCreate} {reservation row : OtaReservation}
  {actorUserId : Option Int} {now : Int}

def ManualOTAReservationCreate.channelText (env : ManualEnvironment)
    (data : ManualOTAReservationCreate) : String :=
  env.lower (Text.strip data.channel)

def ManualOTAReservationCreate.number (data : ManualOTAReservationCreate) :
    String :=
  Text.strip data.externalId

/-- What an entry writes. -/
structure Entered (env : ManualEnvironment)
    (data : ManualOTAReservationCreate) (row : OtaReservation) : Prop where
  channelCode : row.channelCode = (sourceForChannel (data.channelText env)).channelCode
  sourceProviderCode : row.sourceProviderCode = some (data.channelText env)
  externalId : row.externalId = some data.number

theorem normalizeRequired_eq_ok {value fieldName cleaned : String}
    (normalized : normalizeRequired value fieldName = .ok cleaned) :
    cleaned = Text.strip value := by
  unfold normalizeRequired at normalized
  simp only at normalized
  split_ifs at normalized with blank
  exact (Except.ok.inj normalized).symm

/-- A changed reservation keeps its number and what becomes of it. -/
theorem updateManualFields_eq_ok
    (isUpdated : updateManualFields env desk data reservation = .ok row) :
    row.id = reservation.id ∧ row.status = reservation.status ∧
      row.deletedAt = reservation.deletedAt := by
  obtain ⟨_, -, isUpdated⟩ := bind_eq_ok.mp isUpdated
  obtain ⟨_, -, isUpdated⟩ := bind_eq_ok.mp isUpdated
  split at isUpdated
  · cases isUpdated
  · obtain ⟨_, -, isUpdated⟩ := bind_eq_ok.mp isUpdated
    split_ifs at isUpdated with ordered
    obtain ⟨pricing, -, isUpdated⟩ := bind_eq_ok.mp isUpdated
    obtain ⟨_, -, isUpdated⟩ := bind_eq_ok.mp isUpdated
    obtain ⟨updated, isRepriced, isUpdated⟩ := bind_eq_ok.mp isUpdated
    cases isUpdated
    have repriced : reservation.repriced pricing = .ok updated := by
      cases result : reservation.repriced pricing with
      | error error =>
        rw [result] at isRepriced
        cases isRepriced
      | ok value =>
        rw [result] at isRepriced
        have same : value = updated := Except.ok.inj isRepriced
        rw [same]
    obtain ⟨_, _, _, _, _, _, rfl, -⟩ := repriced_eq_ok repriced
    exact ⟨rfl, rfl, rfl⟩

theorem createManualReservation_eq_ok {channel : OtaChannel} {externalId : String}
    (isCreated : createManualReservation env desk data channel externalId =
      .ok row) : row.id = desk.nextReservationId := by
  unfold createManualReservation at isCreated
  split at isCreated
  · cases isCreated
  · obtain ⟨_, -, isCreated⟩ := bind_eq_ok.mp isCreated
    obtain ⟨_, -, isCreated⟩ := bind_eq_ok.mp isCreated
    split at isCreated
    · cases isCreated
    · obtain ⟨pricing, -, isCreated⟩ := bind_eq_ok.mp isCreated
      obtain ⟨roomId, -, isCreated⟩ := bind_eq_ok.mp isCreated
      obtain ⟨_, -, isCreated⟩ := bind_eq_ok.mp isCreated
      split at isCreated
      · split at isCreated
        · rw [← pure_eq_ok.mp isCreated]
        · cases isCreated
      · cases isCreated

theorem writeManualColumns_eq_ok {channel externalId : String}
    (isWritten : writeManualColumns desk data reservation channel externalId
      actorUserId now = .ok after) :
    ∃ row, after = desk.writeReservation row ∧ row.id = reservation.id ∧
      row.status = reservation.status ∧
      row.deletedAt = reservation.deletedAt ∧
      row.channelCode = (sourceForChannel channel).channelCode ∧
      row.sourceProviderCode = some channel ∧
      row.externalId = some externalId := by
  unfold writeManualColumns at isWritten
  simp only at isWritten
  split_ifs at isWritten with fits free
  exact ⟨_, (Except.ok.inj isWritten).symm, rfl, rfl, rfl, rfl, rfl, rfl⟩

theorem createOrUpdateManual_eq_ok
    (isEntered : createOrUpdateManualOtaReservation env desk data actorUserId now = .ok after) :
    ∃ row, after = desk.writeReservation row ∧ Entered env data row ∧
      ((∃ existing, desk.manualReservation? (data.channelText env)
          data.number = some existing ∧ row.id = existing.id ∧
          row.status = existing.status ∧
          row.deletedAt = existing.deletedAt) ∨
        (desk.manualReservation? (data.channelText env) data.number = none ∧
          row.id = desk.nextReservationId)) := by
  obtain ⟨_, -, isEntered⟩ := bind_eq_ok.mp isEntered
  obtain ⟨stripped, isStripped, isEntered⟩ := bind_eq_ok.mp isEntered
  obtain ⟨number, isNumber, isEntered⟩ := bind_eq_ok.mp isEntered
  obtain rfl := normalizeRequired_eq_ok isStripped
  obtain rfl := normalizeRequired_eq_ok isNumber
  split at isEntered
  · next existing found =>
    obtain ⟨updated, isUpdated, isEntered⟩ := bind_eq_ok.mp isEntered
    obtain ⟨sameId, sameStatus, sameDeleted⟩ := updateManualFields_eq_ok isUpdated
    obtain ⟨row, rfl, id, status, deletedAt, channelCode, provider,
      externalId⟩ := writeManualColumns_eq_ok isEntered
    exact ⟨row, rfl, ⟨channelCode, provider, externalId⟩, .inl ⟨existing,
      found, id.trans sameId, status.trans sameStatus,
      deletedAt.trans sameDeleted⟩⟩
  · next absent =>
    obtain ⟨created, isCreated, isEntered⟩ := bind_eq_ok.mp isEntered
    have isNext := createManualReservation_eq_ok isCreated
    obtain ⟨row, rfl, id, -, -, channelCode, provider, externalId⟩ :=
      writeManualColumns_eq_ok isEntered
    exact ⟨row, rfl, ⟨channelCode, provider, externalId⟩, .inr ⟨absent, id.trans isNext⟩⟩

/-- The clerk spells the channel as the active reservation of the booking has
it, if there is one. -/
def SpelledAsStored (env : ManualEnvironment) (desk : Desk)
    (data : ManualOTAReservationCreate) : Prop :=
  desk.manualReservation? (data.channelText env) data.number = none ->
    ∀ row ∈ desk.reservations, ¬row.HoldsBooking
      (sourceForChannel (data.channelText env)).channelCode data.number
deriving Decidable

end

section

variable [FloatFormat F] {env : OtaEnvironment F} {desk : Desk}
  {reservation written : OtaReservation}
  {normalized : NormalizedReservation F} {receivedAt : Int}

/-- Two rows are found under the same channel and number. -/
structure SameBooking (first second : OtaReservation) : Prop where
  channelCode : second.channelCode = first.channelCode
  sourceProviderCode : second.sourceProviderCode = first.sourceProviderCode
  externalId : second.externalId = first.externalId

theorem cancelReservation_booking {cancelled : OtaReservation}
    (isCancelled : cancelReservation desk reservation = .ok cancelled) :
    SameBooking reservation cancelled ∧ cancelled.deletedAt = reservation.deletedAt := by
  unfold cancelReservation at isCancelled
  split_ifs at isCancelled with operational already
  · rw [← Except.ok.inj isCancelled]
    exact ⟨⟨rfl, rfl, rfl⟩, rfl⟩
  · simp only [pure_bind, pure_eq_ok] at isCancelled
    rw [← isCancelled]
    exact ⟨⟨rfl, rfl, rfl⟩, rfl⟩
  · simp only [bind_eq_ok, pure_eq_ok, reported_eq_ok, transitionReservationStatus] at isCancelled
    obtain ⟨_, ⟨_, _, rfl⟩, rfl⟩ := isCancelled
    exact ⟨⟨rfl, rfl, rfl⟩, rfl⟩

theorem markManualReview_booking (reservation : OtaReservation) (reason : String) :
    SameBooking reservation (reservation.markManualReview reason) := by
  exact ⟨rfl, rfl, rfl⟩

theorem assigned_booking (reservation : OtaReservation) (category : CatalogCategory) (room : Room) :
    SameBooking reservation (reservation.assigned category room) ∧
      (reservation.assigned category room).deletedAt = reservation.deletedAt := by
  unfold OtaReservation.assigned
  split_ifs
  · exact ⟨⟨rfl, rfl, rfl⟩, rfl⟩
  · exact ⟨⟨rfl, rfl, rfl⟩, rfl⟩

end

theorem Carries.unique {key other : String × String}
    (carries : Carries row key) (again : Carries row other) : other = key := by
  apply Prod.ext
  · exact Option.some.inj (again.sourceProviderCode.symm.trans carries.sourceProviderCode)
  · exact Option.some.inj (again.externalId.symm.trans carries.externalId)

/-- A reservation of a booking is written again. -/
structure Rewrites (key : String × String)
    (reservation row : OtaReservation) : Prop where
  id : row.id = reservation.id
  active : row.Active -> reservation.Active
  channelCode : row.channelCode = reservation.channelCode
  carries : Carries row key

section

variable [FloatFormat F] {env : OtaEnvironment F} {tables after : OtaTables}
  {normalized : NormalizedReservation F} {receivedAt : Int}

variable {key : String × String} {reservation : OtaReservation} {desk : Desk}

theorem OtaTables.Keyed.carries {mapping : OtaMapping} (keyed : tables.Keyed)
    (linked : Linked tables key mapping reservation) :
    Carries reservation key := by
  obtain ⟨row, stored, carries⟩ := keyed.links key mapping reservation.id linked.known linked.names
  rw [linked.stored] at stored
  cases stored
  exact carries

/-- What a webhook does to the reservations of its agency. -/
inductive WorksOn (tables : OtaTables) (key : String × String) :
    OtaTables -> Prop
  | recorded {mapping : OtaMapping}
      (unknown : tables.mapping? key = none)
      (keeps : Keeps key none mapping) :
      WorksOn tables key (tables.writeMapping mapping tables.desk)
  | booked {mapping : OtaMapping} {desk : Desk} {row : OtaReservation}
      (unlinked : ∀ known, tables.mapping? key = some known -> known.reservationId = none)
      (sameRows : desk.reservations = tables.desk.reservations)
      (isNew : row.id = tables.desk.nextReservationId)
      (channelCode : row.channelCode = key.1)
      (carries : Carries row key)
      (keeps : Keeps key (some row.id) mapping) :
      WorksOn tables key (tables.writeMapping mapping (desk.writeReservation row))
  | rewritten {known mapping : OtaMapping} {desk : Desk}
      {reservation row : OtaReservation}
      (linked : Linked tables key known reservation)
      (sameRows : desk.reservations = tables.desk.reservations)
      (rewrites : Rewrites key reservation row)
      (keeps : Keeps key (some reservation.id) mapping) :
      WorksOn tables key (tables.writeMapping mapping (desk.writeReservation row))

theorem rewrites_cancelled {cancelled : OtaReservation} (carries : Carries reservation key)
    (isCancelled : cancelReservation desk reservation = .ok cancelled) :
    Rewrites key reservation cancelled := by
  obtain ⟨same, sameDeleted⟩ := cancelReservation_booking isCancelled
  obtain ⟨sameId, outcome⟩ := cancelReservation_eq_ok isCancelled
  refine ⟨sameId, ?_, same.channelCode, ?_, ?_⟩
  · unfold Reservation.Active
    rw [sameDeleted]
    rcases outcome with status | ⟨-, status⟩
    · rw [status]
      intro active
      exact absurd rfl active.2.1
    · rw [status]
      exact id
  · rw [same.sourceProviderCode]
    exact carries.sourceProviderCode
  · rw [same.externalId]
    exact carries.externalId

theorem rewrites_applied {after : Desk} {updated : OtaReservation} {category : CatalogCategory}
    {room : Room}
    (planned : planModification desk reservation normalized
      (desk.catalog.resolveCommercialContext normalized).candidateCategories =
        .ok (.apply category room))
    (isApplied : applyModification env desk reservation normalized receivedAt
      category room = .ok (after, updated)) :
    Rewrites normalized.key reservation updated := by
  have notCancelled := status_ne_cancelled_of_apply planned
  have rewritten := (applyModification_rewritten isApplied).1
  obtain ⟨guest, -, ⟨applied⟩⟩ := applyModification_eq_ok isApplied
  obtain ⟨same, -⟩ := assigned_booking applied.written category room
  have sameUpdated := applied.isUpdated
  refine ⟨rewritten.id, ?_, ?_, ?_, ?_⟩
  · unfold Reservation.Active
    rw [rewritten.deletedAt]
    rintro ⟨kept, -, notCheckedOut⟩
    refine ⟨kept, notCancelled, ?_⟩
    intro checkedOut
    apply notCheckedOut
    rw [(rewritten.operational (.inr (.inr checkedOut))).1, checkedOut]
  · rw [sameUpdated, same.channelCode, applied.isWritten.channelCode]
    exact applied.isChanged.channelCode
  · rw [sameUpdated, same.sourceProviderCode]
    exact applied.isWritten.sourceProviderCode
  · rw [sameUpdated, same.externalId]
    exact applied.isWritten.externalId

/-- A webhook that is processed records, books or rewrites its booking. -/
theorem worksOn_of_processed (keyed : tables.Keyed)
    (isProcessed : Processed env tables normalized receivedAt after) :
    WorksOn tables normalized.key after := by
  cases isProcessed with
  | recorded unknown _ keeps => exact .recorded unknown keeps
  | booked unlinked _ isBooked isWritten keeps =>
    obtain ⟨guest, category, room, rfl, booked⟩ := bookIncoming_eq_ok isBooked
    have terms := applyFinancialSnapshot_eq_ok isWritten
    refine .booked unlinked ?_ (terms.id.trans booked.id)
      (terms.channelCode.trans booked.channelCode)
      ⟨terms.sourceProviderCode, terms.externalId.trans booked.externalId⟩
      keeps
    rfl
  | cancelled linked _ isSynced isCancelled keeps =>
    obtain ⟨-, -, rfl⟩ := syncGuestRecord_eq_ok.mp isSynced
    refine .rewritten linked ?_ (rewrites_cancelled (keyed.carries linked) isCancelled) keeps
    rfl
  | @reviewed known mapping reservation errorMessage reason linked _ _ keeps =>
      have same := markManualReview_booking reservation reason
      have carries := keyed.carries linked
      refine .rewritten linked rfl ⟨markManualReview_id reason, ?_, same.channelCode, ?_, ?_⟩ keeps
      · exact id
      · exact carries.sourceProviderCode
      · exact carries.externalId
  | applied linked _ planned isApplied keeps =>
    have rewrites := rewrites_applied planned isApplied
    obtain ⟨guest, rfl, -⟩ := applyModification_eq_ok isApplied
    exact .rewritten linked rfl rewrites keeps

/-- The mapping of a booking names its active reservation, if there is one. -/
def FindsBooking (tables : OtaTables) (key : String × String) : Prop :=
  ∀ row ∈ tables.desk.reservations, row.HoldsBooking key.1 key.2 ->
    (tables.mapping? key).bind OtaMapping.reservationId = some row.id
deriving Decidable

theorem reservation?_of_sameRows {other : Desk}
    (sameRows : other.reservations = desk.reservations) (id : Int) :
    other.reservation? id = desk.reservation? id := by
  unfold Desk.reservation?
  rw [sameRows]

theorem OtaTables.LinksKept.writeMapping {mapping : OtaMapping} {row : OtaReservation}
    (links : tables.LinksKept)
    (sameRows : desk.reservations = tables.desk.reservations)
    (kept : ∀ old, tables.desk.reservation? row.id = some old ->
      ∀ other, Carries old other -> Carries row other)
    (carries : Carries row key) (keeps : Keeps key (some row.id) mapping) :
    (tables.writeMapping mapping (desk.writeReservation row)).LinksKept := by
  have sameStored : ∀ id, (desk.writeReservation row).reservation? id =
      (tables.desk.writeReservation row).reservation? id := by
    intro id
    rw [Desk.reservation?_writeReservation,
      Desk.reservation?_writeReservation, reservation?_of_sameRows sameRows]
  intro other found id known names
  show ∃ item, (desk.writeReservation row).reservation? id = some item ∧ _
  rw [sameStored]
  rw [OtaTables.mapping?_writeMapping] at known
  split_ifs at known with same
  · rw [← Option.some.inj known, keeps.reservationId] at names
    rw [same, keeps.key, ← Option.some.inj names, Desk.reservation?_writeReservation, if_pos rfl]
    exact ⟨row, rfl, carries⟩
  · exact links.writeReservation kept other found id known names

theorem OtaTables.Keyed.worksOn {provider : Provider} {externalId : String} (keyed : tables.Keyed)
    (finds : FindsBooking tables (provider.code, externalId))
    (works : WorksOn tables (provider.code, externalId) after) :
    after.Keyed := by
  cases works with
  | @recorded mapping unknown keeps =>
    refine ⟨keyed.one, keyed.channels, ?_⟩
    intro other found id known names
    rw [OtaTables.mapping?_writeMapping] at known
    split_ifs at known with same
    · rw [← Option.some.inj known, keeps.reservationId] at names
      cases names
    · exact keyed.links other found id known names
  | @booked mapping desk row unlinked sameRows isNew channelCode carries keeps =>
      have one : desk.OneBooking := by
        unfold Desk.OneBooking
        rw [sameRows]
        exact keyed.one
      have channels : desk.ChannelsNamed := by
        unfold Desk.ChannelsNamed
        rw [sameRows]
        exact keyed.channels
      refine ⟨?_, ?_, ?_⟩
      · apply one.writeReservation
        intro code number holds other otherIn otherHolds
        -- no active reservation of the booking was there
        have isCode : code = provider.code :=
          holds.2.1.symm.trans channelCode
        have isNumber : number = externalId :=
          Option.some.inj (holds.2.2.symm.trans carries.externalId)
        rw [isCode, isNumber] at otherHolds
        rw [sameRows] at otherIn
        have names := finds other otherIn otherHolds
        obtain ⟨known, isKnown, names⟩ := Option.bind_eq_some_iff.mp names
        rw [unlinked known isKnown] at names
        cases names
      · apply channels.writeReservation
        intro channel isChannel
        rw [carries.sourceProviderCode] at isChannel
        rw [← Option.some.inj isChannel, channelCode, sourceForChannel_code]
      · apply keyed.links.writeMapping sameRows _ carries keeps
        intro old stored
        rw [isNew, Desk.reservation?_next] at stored
        cases stored
  | @rewritten known mapping desk reservation row linked sameRows rewrites keeps =>
      have carried := keyed.carries linked
      have stored : desk.reservation? reservation.id = some reservation :=
        (reservation?_of_sameRows sameRows _).trans linked.stored
      have one : desk.OneBooking := by
        unfold Desk.OneBooking
        rw [sameRows]
        exact keyed.one
      have channels : desk.ChannelsNamed := by
        unfold Desk.ChannelsNamed
        rw [sameRows]
        exact keyed.channels
      refine ⟨?_, ?_, ?_⟩
      · apply one.rewrite stored rewrites.id
        intro code number holds
        refine ⟨rewrites.active holds.1, rewrites.channelCode.symm.trans holds.2.1, ?_⟩
        rw [carried.externalId, ← rewrites.carries.externalId]
        exact holds.2.2
      · apply channels.writeReservation
        intro channel isChannel
        rw [rewrites.channelCode]
        apply channels reservation (mem_reservations_iff.mpr stored)
        rw [carried.sourceProviderCode, ← rewrites.carries.sourceProviderCode]
        exact isChannel
      · rw [← rewrites.id] at keeps
        apply keyed.links.writeMapping sameRows _ rewrites.carries keeps
        intro old isOld other carries
        rw [rewrites.id, linked.stored] at isOld
        rw [← Option.some.inj isOld] at carries
        rw [carried.unique carries]
        exact rewrites.carries

/-- A clerk who spells the channel as it is stored keeps bookings apart. -/
theorem OtaTables.Keyed.entered {env : ManualEnvironment}
    {data : ManualOTAReservationCreate} {actorUserId : Option Int}
    {now : Int} (keyed : tables.Keyed)
    (spelled : SpelledAsStored env tables.desk data)
    (isEntered : createOrUpdateManualOtaReservation env tables.desk data
      actorUserId now = .ok desk) :
    OtaTables.Keyed { tables with desk := desk } := by
  obtain ⟨row, rfl, entered, outcome⟩ := createOrUpdateManual_eq_ok isEntered
  have named : ∀ channel, row.sourceProviderCode = some channel ->
      row.channelCode = (sourceForChannel channel).channelCode := by
    intro channel isChannel
    rw [entered.sourceProviderCode] at isChannel
    cases isChannel
    exact entered.channelCode
  rcases outcome with ⟨existing, found, sameId, sameStatus, sameDeleted⟩ | ⟨absent, isNew⟩
  · have member := List.mem_of_find?_eq_some found
    have matched := List.find?_some found
    rw [decide_eq_true_eq] at matched
    have stored := mem_reservations_iff.mp member
    refine ⟨?_, keyed.channels.writeReservation named, keyed.links.writeReservation ?_⟩
    · apply keyed.one.rewrite stored sameId
      intro code number holds
      refine ⟨?_, ?_, ?_⟩
      · have active := holds.1
        unfold Reservation.Active at active ⊢
        rw [sameStatus, sameDeleted] at active
        exact active
      · rw [keyed.channels existing member _ matched.1, ← entered.channelCode]
        exact holds.2.1
      · rw [matched.2, ← entered.externalId]
        exact holds.2.2
    · intro old isOld key carries
      rw [sameId, stored] at isOld
      rw [← Option.some.inj isOld] at carries
      refine ⟨?_, ?_⟩
      · rw [entered.sourceProviderCode, ← matched.1]
        exact carries.sourceProviderCode
      · rw [entered.externalId, ← matched.2]
        exact carries.externalId
  · refine ⟨?_, keyed.channels.writeReservation named, keyed.links.writeReservation ?_⟩
    · apply keyed.one.writeReservation
      intro code number holds other otherIn otherHolds
      have isCode : code = (sourceForChannel (data.channelText env)).channelCode :=
        holds.2.1.symm.trans entered.channelCode
      have isNumber : number = data.number :=
        Option.some.inj (holds.2.2.symm.trans entered.externalId)
      rw [isCode, isNumber] at otherHolds
      exact absurd otherHolds (spelled absent other otherIn)
    · intro old isOld
      rw [isNew, Desk.reservation?_next] at isOld
      cases isOld

/-- A webhook works on a reservation: the mapping of its booking names it, and
every other reservation is as it was. -/
structure ActsOn (before after : OtaTables) (key : String × String)
    (row : OtaReservation) : Prop where
  link : (after.mapping? key).bind OtaMapping.reservationId = some row.id
  others : ∀ id, id ≠ row.id -> after.desk.reservation? id = before.desk.reservation? id

/-- A modification or cancellation works on the active reservation of its
booking, if there is one. -/
def Delivery.ChangesBooking (delivery : Delivery F) : Prop :=
  normalizeEventType delivery.normalized.eventType ≠ .new ->
    ∀ row ∈ delivery.before.desk.reservations,
      row.HoldsBooking delivery.normalized.key.1 delivery.normalized.key.2 ->
      ActsOn delivery.before delivery.after delivery.normalized.key row

/-- A clerk enters a booking, or a webhook arrives. -/
inductive BookingEvent (F : Type)
  | manual (env : ManualEnvironment) (data : ManualOTAReservationCreate)
      (actorUserId : Option Int) (now : Int)
  | webhook (env : OtaEnvironment F) (normalized : NormalizedReservation F)
      (receivedAt : Int)

/-- One event.  What raises an error is rolled back. -/
def bookingStep (system : OtaSystem F) : BookingEvent F -> Option (OtaSystem F)
  | .manual env data actorUserId now =>
    match createOrUpdateManualOtaReservation env system.tables.desk data actorUserId now with
    | .error _ => some system
    | .ok desk => some
        { system with tables := { system.tables with desk := desk } }
  | .webhook env normalized receivedAt =>
    match processNormalizedWebhook env system.tables normalized receivedAt with
    | .error _ => some system
    | .ok after => some
        { tables := after
          deliveries :=
            ⟨system.tables, after, normalized⟩ :: system.deliveries }

def FindsReservation (system : OtaSystem F) : BookingEvent F -> Prop
  | .manual env data _ _ => SpelledAsStored env system.tables.desk data
  | .webhook _ normalized _ => FindsBooking system.tables normalized.key

instance decidableFindsReservation (system : OtaSystem F) :
    ∀ event, Decidable (FindsReservation system event)
  | .manual env data _ _ =>
    inferInstanceAs (Decidable (SpelledAsStored env system.tables.desk data))
  | .webhook _ normalized _ =>
    inferInstanceAs (Decidable (FindsBooking system.tables normalized.key))

omit [FloatFormat F] in
theorem changesBooking_of_worksOn (finds : FindsBooking tables normalized.key)
    (works : WorksOn tables normalized.key after) :
    Delivery.ChangesBooking ⟨tables, after, normalized⟩ := by
  intro _ row member holds
  have names := finds row member holds
  cases works with
  | recorded unknown _ =>
    rw [unknown] at names
    cases names
  | booked unlinked _ _ _ _ _ =>
    obtain ⟨known, isKnown, names⟩ := Option.bind_eq_some_iff.mp names
    rw [unlinked known isKnown] at names
    cases names
  | @rewritten known mapping desk reservation written linked sameRows rewrites keeps =>
      rw [linked.known, Option.bind_some, linked.names] at names
      have sameId : reservation.id = row.id := Option.some.inj names
      refine ⟨?_, ?_⟩
      · rw [OtaTables.mapping?_writeMapping, if_pos keeps.key.symm,
          Option.bind_some, keeps.reservationId, sameId]
      · intro id differs
        show (desk.writeReservation written).reservation? id = _
        rw [Desk.reservation?_writeReservation, rewrites.id, sameId, if_neg differs]
        exact reservation?_of_sameRows sameRows id

/-- Bookings are kept apart and every webhook has worked on its own. -/
structure OtaSystem.Shared (system : OtaSystem F) : Prop where
  keyed : system.tables.Keyed
  changes : ∀ delivery ∈ system.deliveries, delivery.ChangesBooking

theorem shared_bookingStep {before next : OtaSystem F}
    {event : BookingEvent F} (shared : before.Shared)
    (finds : FindsReservation before event)
    (taken : bookingStep before event = some next) : next.Shared := by
  cases event with
  | manual env data actorUserId now =>
    simp only [bookingStep] at taken
    cases isEntered : createOrUpdateManualOtaReservation env
        before.tables.desk data actorUserId now with
    | error error =>
      rw [isEntered] at taken
      cases taken
      exact shared
    | ok desk =>
      rw [isEntered] at taken
      cases taken
      exact ⟨shared.keyed.entered finds isEntered, shared.changes⟩
  | webhook env normalized receivedAt =>
    simp only [bookingStep] at taken
    cases isProcessed : processNormalizedWebhook env before.tables normalized receivedAt with
    | error error =>
      rw [isProcessed] at taken
      cases taken
      exact shared
    | ok after =>
      rw [isProcessed] at taken
      cases taken
      have works := worksOn_of_processed shared.keyed (processNormalizedWebhook_eq_ok isProcessed)
      refine ⟨shared.keyed.worksOn finds works, ?_⟩
      intro delivery member
      rcases List.mem_cons.mp member with rfl | earlier
      · exact changesBooking_of_worksOn finds works
      · exact shared.changes delivery earlier

end

/-- Prices and guests are accepted as they come. -/
def openDesk : ManualEnvironment where
  lower := String.toLower
  missingGuestData _ _ := none
  quote _ data := .ok
    { totalAmount := data.totalAmount.getD 0, subtotalAmount := data.totalAmount.getD 0
      netAmount := data.totalAmount.getD 0, currencyCode := "ARS" }
  dateChangePricing _ _ _ := .ok none
  guestProhibited _ _ := false
  allowOverbooking := false

def doubleRooms : List Room :=
  [{ id := 1, categoryId := 1 }, { id := 2, categoryId := 1 }]

theorem doubleRooms_distinct : (doubleRooms.map Room.id).Nodup := by
  simp [doubleRooms]

/-- A hotel with two free double rooms and a guest. -/
def twoRoomDesk : Desk where
  reservations := []
  distinctReservations := List.nodup_nil
  guests := [{ id := 1, firstName := "Ana", lastName := "Paz" }]
  distinctGuests := (bookedDesk .pending).distinctGuests
  rooms := doubleRooms
  distinctRooms := doubleRooms_distinct
  catalog :=
    { categories := [{ id := 1, maxOccupancy := 2, code := "DBL" }] }

/-- No booking is known. -/
def twoRoomTables : OtaTables where
  desk := twoRoomDesk
  mappings := []
  distinctMappings := oneRoomTables.distinctMappings

/-- Nothing is booked, so that bookings are kept apart. -/
theorem twoRoomTables_keyed : twoRoomTables.Keyed := by
  refine ⟨?_, ?_, ?_⟩
  · intro _ _ first firstIn
    cases firstIn
  · intro row member
    cases member
  · intro key mapping id known
    cases known

/-- The booking of the double room, entered under a channel. -/
def doubleRoomEntry (channel externalId : String) : ManualOTAReservationCreate where
  guestId := 1
  categoryId := 1
  checkInDate := 10
  checkOutDate := 12
  numAdults := 2
  channel := channel
  externalId := externalId

end HotelPms.Ota
