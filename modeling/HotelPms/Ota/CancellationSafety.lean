import HotelPms.Foundation.Transition
import HotelPms.Ota.WebhookFacts

/-!
# Cancelled bookings

The webhooks of the agencies and the front desk take turns.  A webhook that
reports a cancellation creates nothing active, and leaves the reservation of
its booking cancelled unless the guest is in house or has left, as long as the
booking does not lack its reservation.  A mapping without a reservation is
given one whatever the event says: a cancellation that arrives again for a
booking that was never known books a room.
-/

namespace HotelPms.Ota

open Hotel Payments Booking Checked FloatFormat

variable {F : Type} [FloatFormat F]

/-! ## One webhook -/

/-- The booking is known and has no reservation. -/
def Unlinked (tables : OtaTables) (key : String × String) : Prop :=
  ((tables.mapping? key).any (·.reservationId.isNone)) = true
deriving Decidable

theorem Unlinked.reservationId {tables : OtaTables} {key : String × String} {mapping : OtaMapping}
    (unlinked : Unlinked tables key)
    (known : tables.mapping? key = some mapping) :
    mapping.reservationId = none := by
  unfold Unlinked at unlinked
  rw [known] at unlinked
  simpa using unlinked

/-- A cancellation meets a mapping without a reservation, and a reservation
can be created for it. -/
def Revives (env : OtaEnvironment F) (tables : OtaTables)
    (normalized : NormalizedReservation F) : Prop :=
  normalized.IsCancellation ∧ Unlinked tables normalized.key ∧
    CanBeBooked env tables.desk normalized
deriving Decidable

/-- A webhook that has been processed, with the tables before and after. -/
structure Delivery (F : Type) where
  before : OtaTables
  after : OtaTables
  normalized : NormalizedReservation F

namespace Delivery

variable (delivery : Delivery F)

/-- No active reservation is new. -/
def CreatesNothingActive : Prop :=
  ∀ row ∈ delivery.after.desk.reservations, row.Active →
    (delivery.before.desk.reservation? row.id).isSome = true

/-- The reservation of the booking, if any, is cancelled, unless the guest
was in house or had left. -/
def MappedCancelled : Prop :=
  ∀ mapping reservation, Linked delivery.after delivery.normalized.key mapping reservation →
    reservation.status = .cancelled ∨
      ∃ old, delivery.before.desk.reservation? reservation.id = some old ∧ old.Operational

def HonoursCancellation : Prop :=
  delivery.normalized.IsCancellation → delivery.CreatesNothingActive ∧ delivery.MappedCancelled

def KeepsCancelled : Prop :=
  ∀ id old, delivery.before.desk.reservation? id = some old → old.status = .cancelled →
    ∃ row, delivery.after.desk.reservation? id = some row ∧ row.status = .cancelled

end Delivery

section

variable {env : OtaEnvironment F} {tables after : OtaTables}
  {normalized : NormalizedReservation F} {receivedAt : Int}

variable {reservation : OtaReservation}

variable {desk : Desk}

theorem Linked.of_writeMapping {key : String × String} {mapping found : OtaMapping}
    {reservationId : Option Int}
    (linked : Linked (tables.writeMapping mapping desk) key found reservation)
    (keeps : Keeps key reservationId mapping) :
    reservationId = some reservation.id ∧ desk.reservation? reservation.id = some reservation := by
  have isKnown := linked.known
  rw [OtaTables.mapping?_writeMapping, if_pos keeps.key.symm] at isKnown
  rw [← keeps.reservationId, Option.some.inj isKnown]
  exact ⟨linked.names, linked.stored⟩

theorem mem_writeReservation {reservation row : OtaReservation}
    (member : row ∈ (desk.writeReservation reservation).reservations) :
    row = reservation ∨ (desk.reservation? row.id).isSome = true := by
  rcases Table.mem_upsert member with rfl | ⟨old, -⟩
  · exact .inl rfl
  · right
    have found : desk.reservation? row.id = some row :=
      Table.find_of_mem desk.distinctReservations old
    rw [found]
    rfl

theorem isSome_of_mem {row : OtaReservation} (member : row ∈ desk.reservations) :
    (desk.reservation? row.id).isSome = true := by
  have found : desk.reservation? row.id = some row :=
    Table.find_of_mem desk.distinctReservations member
  rw [found]
  rfl

theorem honoursCancellation_of_processed
    (isProcessed : Processed env tables normalized receivedAt after)
    (dead : ¬Revives env tables normalized) :
    Delivery.HonoursCancellation ⟨tables, after, normalized⟩ := by
  intro isCancellation
  cases isProcessed with
  | recorded unknown _ keeps =>
    constructor
    · intro row member _
      exact isSome_of_mem member
    · intro mapping reservation linked
      have absent := (linked.of_writeMapping keeps).1
      cases absent
  | booked unlinked announced isBooked isWritten keeps =>
    exfalso
    apply dead
    refine ⟨isCancellation, ?_, .of_written isBooked isWritten⟩
    cases known : tables.mapping? normalized.key with
    | none => exact absurd isCancellation (announced known)
    | some mapping =>
      unfold Unlinked
      rw [known]
      simp [unlinked mapping known]
  | @cancelled known mapping reservation cancelled desk guest linked _ isSynced isCancelled keeps =>
      obtain ⟨-, -, rfl⟩ := syncGuestRecord_eq_ok.mp isSynced
      obtain ⟨sameId, outcome⟩ := cancelReservation_eq_ok isCancelled
      constructor
      · intro row member _
        rcases mem_writeReservation member with rfl | known
        · show (tables.desk.reservation? row.id).isSome = true
          rw [sameId, linked.stored]
          rfl
        · exact known
      · intro mapping row relinked
        obtain ⟨names, stored⟩ := relinked.of_writeMapping keeps
        have isRow : row.id = cancelled.id :=
          (Option.some.inj names).symm.trans sameId.symm
        rw [Desk.reservation?_writeReservation, if_pos isRow] at stored
        cases stored
        rcases outcome with isCancelled | ⟨operational, -⟩
        · exact .inl isCancelled
        · refine .inr ⟨reservation, ?_, operational⟩
          rw [sameId]
          exact linked.stored
  | reviewed _ isModification _ _ =>
    exact absurd isCancellation isModification
  | applied _ isModification _ _ _ =>
    exact absurd isCancellation isModification

theorem not_honoursCancellation_of_revives
    (isProcessed : Processed env tables normalized receivedAt after)
    (revived : Revives env tables normalized) :
    ¬Delivery.HonoursCancellation ⟨tables, after, normalized⟩ := by
  intro honours
  obtain ⟨isCancellation, unlinked, -⟩ := revived
  have nothing := (honours isCancellation).1
  cases isProcessed with
  | recorded unknown _ _ =>
    unfold Unlinked at unlinked
    rw [unknown] at unlinked
    cases unlinked
  | @booked mapping desk created written _ _ isBooked isWritten _ =>
    obtain ⟨guest, category, room, rfl, isNew⟩ := bookIncoming_eq_ok isBooked
    have terms := applyFinancialSnapshot_eq_ok isWritten
    have isNext : written.id = tables.desk.nextReservationId :=
      terms.id.trans isNew.id
    have active : written.Active := by
      refine ⟨terms.deletedAt.trans isNew.deletedAt, ?_⟩
      rw [terms.status]
      rcases @financialStatus_open F _ normalized written.money.amountPaid with isOpen | isOpen |
        isOpen <;> simp [isOpen]
    have stored := Table.find_eq_some
      (Table.find_upsert_self (fun row : OtaReservation => row.id) written
        (tables.desk.writeGuest guest).distinctReservations)
    have known := nothing written stored.1 active
    rw [show tables.desk.reservation? written.id = none by
      rw [isNext, Desk.reservation?_next]] at known
    cases known
  | cancelled linked _ _ _ _ =>
    have absent := unlinked.reservationId linked.known
    rw [linked.names] at absent
    cases absent
  | reviewed _ isModification _ _ =>
    exact absurd isCancellation isModification
  | applied _ isModification _ _ _ =>
    exact absurd isCancellation isModification

theorem keepsCancelled_writeReservation (kept : ∀ old, desk.reservation? reservation.id = some old ->
      old.status = .cancelled -> reservation.status = .cancelled)
    {id : Int} {old : OtaReservation} (stored : desk.reservation? id = some old)
    (isCancelled : old.status = .cancelled) :
    ∃ row, (desk.writeReservation reservation).reservation? id = some row ∧
      row.status = .cancelled := by
  rw [Desk.reservation?_writeReservation]
  split_ifs with same
  · subst same
    exact ⟨reservation, rfl, kept old stored isCancelled⟩
  · exact ⟨old, stored, isCancelled⟩

omit [FloatFormat F] in
theorem status_ne_cancelled_of_apply
    {categories : List CatalogCategory} {category : CatalogCategory}
    {room : Room}
    (planned : planModification desk reservation normalized categories =
      .ok (.apply category room)) :
    reservation.status ≠ .cancelled := by
  intro isCancelled
  unfold planModification at planned
  rw [if_pos isCancelled] at planned
  cases planned

/-- No webhook gives a cancelled reservation another status. -/
theorem keepsCancelled_of_processed
    (isProcessed : Processed env tables normalized receivedAt after) :
    Delivery.KeepsCancelled ⟨tables, after, normalized⟩ := by
  intro id old stored isCancelled
  cases isProcessed with
  | recorded _ _ _ => exact ⟨old, stored, isCancelled⟩
  | booked _ _ isBooked isWritten _ =>
    obtain ⟨guest, category, room, rfl, isNew⟩ := bookIncoming_eq_ok isBooked
    have terms := applyFinancialSnapshot_eq_ok isWritten
    refine keepsCancelled_writeReservation ?_ stored isCancelled
    intro other known
    rw [terms.id, isNew.id, Desk.reservation?_writeGuest, Desk.reservation?_next] at known
    cases known
  | @cancelled known mapping reservation cancelled desk guest linked _
      isSynced isCancelledRow keeps =>
      obtain ⟨-, -, rfl⟩ := syncGuestRecord_eq_ok.mp isSynced
      obtain ⟨sameId, outcome⟩ := cancelReservation_eq_ok isCancelledRow
      refine keepsCancelled_writeReservation ?_ stored isCancelled
      intro other isOther otherCancelled
      rw [sameId, Desk.reservation?_writeGuest, linked.stored] at isOther
      rcases outcome with done | ⟨-, same⟩
      · exact done
      · rw [same, Option.some.inj isOther, otherCancelled]
  | @reviewed known mapping reservation errorMessage reason linked _ _ _ =>
    refine keepsCancelled_writeReservation ?_ stored isCancelled
    intro other isOther otherCancelled
    rw [markManualReview_id, linked.stored] at isOther
    rw [markManualReview_status, Option.some.inj isOther, otherCancelled]
  | @applied known mapping reservation updated desk category room linked _ planned isApplied _ =>
      obtain ⟨guest, rfl, ⟨modification⟩⟩ := applyModification_eq_ok isApplied
      refine keepsCancelled_writeReservation ?_ stored isCancelled
      intro other isOther otherCancelled
      rw [modification.id, Desk.reservation?_writeGuest, linked.stored] at isOther
      rw [← Option.some.inj isOther] at otherCancelled
      exact absurd otherCancelled (status_ne_cancelled_of_apply planned)

end

/-- The tables and the webhooks that have been processed. -/
structure OtaSystem (F : Type) where
  tables : OtaTables
  deliveries : List (Delivery F) := []

/-- A webhook arrives, or the front desk does its work: check-ins, moves,
payments, cancellations, deleted rows, whatever it leaves. -/
inductive OtaEvent (F : Type)
  | webhook (env : OtaEnvironment F) (normalized : NormalizedReservation F)
      (receivedAt : Int)
  | frontDesk (tables : OtaTables)

/-- One event.  A webhook that raises an error is rolled back. -/
def otaStep (system : OtaSystem F) : OtaEvent F → Option (OtaSystem F)
  | .webhook env normalized receivedAt =>
    match processNormalizedWebhook env system.tables normalized receivedAt with
    | .error _ => some system
    | .ok after => some
        { tables := after
          deliveries :=
            ⟨system.tables, after, normalized⟩ :: system.deliveries }
  | .frontDesk tables => some { system with tables := tables }

/-- The event is not a cancellation that revives its booking. -/
def LeavesCancelled (system : OtaSystem F) : OtaEvent F -> Prop
  | .webhook env normalized _ => ¬Revives env system.tables normalized
  | .frontDesk _ => True

instance decidableLeavesCancelled (system : OtaSystem F) :
    ∀ event, Decidable (LeavesCancelled system event)
  | .webhook env normalized _ =>
    inferInstanceAs (Decidable (¬Revives env system.tables normalized))
  | .frontDesk _ => .isTrue trivial

/-- Every webhook that was processed did what a cancellation is meant to do,
and left what was cancelled cancelled. -/
def OtaSystem.NothingRevived (system : OtaSystem F) : Prop :=
  ∀ delivery ∈ system.deliveries, delivery.HonoursCancellation ∧ delivery.KeepsCancelled

theorem nothingRevived_otaStep {before after : OtaSystem F} {event : OtaEvent F}
    (nothingRevived : before.NothingRevived)
    (guarded : LeavesCancelled before event)
    (taken : otaStep before event = some after) : after.NothingRevived := by
  cases event with
  | frontDesk tables =>
    cases taken
    exact nothingRevived
  | webhook env normalized receivedAt =>
    simp only [otaStep] at taken
    cases isProcessed : processNormalizedWebhook env before.tables normalized receivedAt with
    | error error =>
      rw [isProcessed] at taken
      cases taken
      exact nothingRevived
    | ok tables =>
      rw [isProcessed] at taken
      cases taken
      have outcome := processNormalizedWebhook_eq_ok isProcessed
      intro delivery member
      rcases List.mem_cons.mp member with rfl | earlier
      · exact ⟨honoursCancellation_of_processed outcome guarded,
          keepsCancelled_of_processed outcome⟩
      · exact nothingRevived delivery earlier

/-- In every run in which no cancellation revives its booking, cancellations
create nothing active and leave the reservation cancelled unless the guest was
in house or had left, and no webhook changes a cancelled reservation's
status. -/
theorem cancelled_stays_cancelled {start finish : OtaSystem F} (begins : start.deliveries = [])
    (reached : Transition.Reaches otaStep LeavesCancelled start finish) :
    finish.NothingRevived := by
  apply reached.invariant
  · intro delivery member
    rw [begins] at member
    cases member
  · intro before event after nothingRevived guarded taken
    exact nothingRevived_otaStep nothingRevived guarded taken

/-- A hotel with one free double room. -/
def oneRoomDesk : Desk where
  reservations := []
  distinctReservations := List.nodup_nil
  guests := []
  distinctGuests := List.nodup_nil
  rooms := [{ id := 1, categoryId := 1 }]
  distinctRooms := List.nodup_singleton _
  catalog :=
    { categories := [{ id := 1, maxOccupancy := 2, code := "DBL" }] }

/-- No booking of an agency is known. -/
def oneRoomTables : OtaTables where
  desk := oneRoomDesk
  mappings := []
  distinctMappings := List.nodup_nil

/-- A stay costs a hundred. -/
def flatPrices : OtaEnvironment ℚ where
  quote _ data := .ok
    { totalAmount := 10000, subtotalAmount := 10000, netAmount := 10000
      currencyCode := data.targetCurrency.getD "ARS" }
  dateChangePricing _ _ _ _ := .ok none
  guestProhibited _ _ := false
  dumpPricing _ _ _ _ _ _ := ""
  dumpNotes notes := notes

def doubleRoomBooking (eventType : String) : NormalizedReservation ℚ where
  provider := .booking
  externalReservationId := "B1"
  guestFullName := "Ana Paz"
  checkInDate := 10
  checkOutDate := 12
  sellableProductCode := some "DBL"
  numAdults := 2
  currencyCode := some "USD"
  grossTotal := some 100
  eventType := eventType

/-- An ordinary booking is made, modified, cancelled twice and modified again;
its reservation is cancelled at the end. -/
theorem cancelled_stays_cancelled_ordinary :
    ∃ finish : OtaSystem ℚ, (finish.tables.desk.reservations.map (·.status)) =
        [.cancelled] ∧ finish.NothingRevived := by
  let events : List (OtaEvent ℚ) :=
    [.webhook flatPrices (doubleRoomBooking "new") 0,
      .webhook flatPrices (doubleRoomBooking "modified") 1,
      .webhook flatPrices (doubleRoomBooking "cancelled") 2,
      .webhook flatPrices (doubleRoomBooking "cancelled") 3,
      .webhook flatPrices (doubleRoomBooking "modified") 4]
  have results : (Transition.run otaStep { tables := oneRoomTables }
      events).map (fun finish => finish.tables.desk.reservations.map (·.status)) =
      some [.cancelled] := by
    decide +kernel
  have guarded : Transition.Guarded otaStep LeavesCancelled
      { tables := oneRoomTables } events := by
    decide +kernel
  obtain ⟨finish, ran, isCancelled⟩ := Option.map_eq_some_iff.mp results
  exact ⟨finish, isCancelled, cancelled_stays_cancelled rfl (Transition.reaches_of_run guarded ran)⟩

/-- A cancellation of an unknown booking that arrives twice creates an active
reservation. -/
theorem second_cancellation_books_room :
    ¬∀ (start finish : OtaSystem ℚ) (events : List (OtaEvent ℚ)), start.deliveries = [] →
      Transition.run otaStep start events = some finish →
      ∀ delivery ∈ finish.deliveries, delivery.HonoursCancellation := by
  intro claimed
  let events : List (OtaEvent ℚ) :=
    [.webhook flatPrices (doubleRoomBooking "cancelled") 0,
      .webhook flatPrices (doubleRoomBooking "cancelled") 1]
  have results : (Transition.run otaStep { tables := oneRoomTables }
      events).map (fun finish => finish.deliveries.any fun delivery =>
        decide delivery.normalized.IsCancellation && delivery.after.desk.reservations.any fun row =>
            decide row.Active && (delivery.before.desk.reservation? row.id).isNone) =
      some true := by
    decide +kernel
  obtain ⟨finish, ran, revived⟩ := Option.map_eq_some_iff.mp results
  obtain ⟨delivery, member, revived⟩ := List.any_eq_true.mp revived
  rw [Bool.and_eq_true, decide_eq_true_eq] at revived
  obtain ⟨row, rowIn, active⟩ := List.any_eq_true.mp revived.2
  rw [Bool.and_eq_true, decide_eq_true_eq] at active
  have known := (claimed _ finish events rfl ran delivery member revived.1).1 row rowIn active.1
  rw [Option.isNone_iff_eq_none.mp active.2] at known
  cases known

end HotelPms.Ota
