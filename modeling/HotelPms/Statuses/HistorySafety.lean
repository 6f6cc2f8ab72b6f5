import HotelPms.Ota.ModificationSafety
import HotelPms.Statuses.History

/-!
# The history replays to the status

The history rows of a reservation follow each other up to its status, and its
outcome is that of the status, as long as no reservation is due when no-shows
are detected and no webhook modifies a reservation into another status.  Those
two write statuses without a row.
-/

namespace HotelPms.Statuses

open Hotel Payments Booking Checked FloatFormat Ota Stays Replay

namespace StatusLog

variable (log : StatusLog)

theorem rowsOf_addRow (row : ReservationStatusHistory) (reservationId : Int) :
    (log.addRow row).rowsOf reservationId =
      if row.reservationId = reservationId then
        log.rowsOf reservationId ++ [row] else log.rowsOf reservationId := by
  unfold rowsOf addRow
  split_ifs with same
  · simp [same]
  · simp [same]

@[simp] theorem rowsOf_writeOutcome (reservationId : Int) (outcome : ReservationOutcome) :
    (log.writeOutcome reservationId outcome).rowsOf = log.rowsOf := rfl

@[simp] theorem outcomes_addRow (row : ReservationStatusHistory) :
    (log.addRow row).outcomes = log.outcomes := rfl

theorem outcomes_writeOutcome (reservationId id : Int) (outcome : ReservationOutcome) :
    (log.writeOutcome reservationId outcome).outcomes id =
      if id = reservationId then outcome else log.outcomes id := by
  exact Function.update_apply log.outcomes reservationId outcome id

/-- The log agrees with a status of a reservation. -/
structure Agrees (reservationId : Int) (status : ReservationStatus) :
    Prop where
  replays : Replays ReservationStatusHistory.fromStatus
    ReservationStatusHistory.toStatus (log.rowsOf reservationId) status
  outcome : log.outcomes reservationId = reservationStatusToOutcome status

variable {log}

variable {row : ReservationStatusHistory}

variable {reservationId : Int} {status : ReservationStatus}

theorem Agrees.move {newStatus : ReservationStatus} (agrees : log.Agrees reservationId status)
    (ofReservation : row.reservationId = reservationId)
    (starts : row.fromStatus = status) (ends : row.toStatus = newStatus) :
    ((log.writeOutcome reservationId (reservationStatusToOutcome newStatus)).addRow row).Agrees
        reservationId newStatus := by
  constructor
  · rw [rowsOf_addRow, if_pos ofReservation, rowsOf_writeOutcome, ← ends]
    exact agrees.replays.append starts
  · rw [outcomes_addRow, outcomes_writeOutcome, if_pos rfl]

theorem Agrees.step {newStatus : ReservationStatus} (agrees : log.Agrees reservationId status)
    (ofReservation : row.reservationId = reservationId)
    (starts : row.fromStatus = status) (ends : row.toStatus = newStatus)
    (sameOutcome : reservationStatusToOutcome newStatus = reservationStatusToOutcome status) :
    (log.addRow row).Agrees reservationId newStatus := by
  constructor
  · rw [rowsOf_addRow, if_pos ofReservation, ← ends]
    exact agrees.replays.append starts
  · rw [outcomes_addRow, sameOutcome]
    exact agrees.outcome

/-- Two logs are the same but for one reservation. -/
def SameButFor (reservationId : Int) (before after : StatusLog) : Prop :=
  ∀ id, id ≠ reservationId ->
    after.rowsOf id = before.rowsOf id ∧ after.outcomes id = before.outcomes id

theorem SameButFor.refl (reservationId : Int) (log : StatusLog) :
    SameButFor reservationId log log :=
  fun _ _ => ⟨rfl, rfl⟩

theorem sameButFor_writeOutcome (log : StatusLog) (reservationId : Int)
    (outcome : ReservationOutcome) :
    SameButFor reservationId log (log.writeOutcome reservationId outcome) := by
  intro id differs
  rw [outcomes_writeOutcome, if_neg differs]
  exact ⟨rfl, rfl⟩

theorem SameButFor.addRow {before after : StatusLog} (same : SameButFor reservationId before after)
    (ofReservation : row.reservationId = reservationId) :
    SameButFor reservationId before (after.addRow row) := by
  intro id differs
  rw [rowsOf_addRow, ofReservation, if_neg (Ne.symm differs), outcomes_addRow]
  exact same id differs

theorem Agrees.of_same {other : Int} {after : StatusLog} (agrees : log.Agrees other status)
    (same : SameButFor reservationId log after)
    (differs : other ≠ reservationId) : after.Agrees other status := by
  obtain ⟨sameRows, sameOutcome⟩ := same other differs
  constructor
  · rw [sameRows]
    exact agrees.replays
  · rw [sameOutcome]
    exact agrees.outcome

end StatusLog

namespace StatusSystem

/-- The history of every reservation replays to its status, and its outcome is
that of the status. -/
def HistoryReplays (system : StatusSystem) : Prop :=
  ∀ row ∈ system.tables.desk.reservations, system.log.Agrees row.id row.status

/-- Besides, history rows are those of stored reservations. -/
structure Recorded (system : StatusSystem) : Prop where
  replays : system.HistoryReplays
  known : ∀ id, system.tables.desk.reservation? id = none -> system.log.rowsOf id = []

variable {system after : StatusSystem} {reservation : OtaReservation}

section

variable (recorded : system.Recorded)
  (stored : system.tables.desk.reservation? reservation.id = some reservation)
include recorded stored

theorem Recorded.agrees : system.log.Agrees reservation.id reservation.status :=
  recorded.replays reservation (mem_reservations_iff.mpr stored)

omit stored in
theorem Recorded.write {desk : Desk} {row : OtaReservation}
    (sameRows : desk.reservations = system.tables.desk.reservations)
    (isDesk : after.tables.desk = desk.writeReservation row)
    (same : StatusLog.SameButFor row.id system.log after.log)
    (agrees : after.log.Agrees row.id row.status) : after.Recorded := by
  constructor
  · intro other member
    rw [isDesk] at member
    rcases Table.mem_upsert member with rfl | ⟨old, differs⟩
    · exact agrees
    · rw [sameRows] at old
      exact (recorded.replays other old).of_same same differs
  · intro id absent
    rw [isDesk, Desk.reservation?_writeReservation] at absent
    split_ifs at absent with isRow
    rw [(same id isRow).1]
    apply recorded.known id
    unfold Desk.reservation? at absent ⊢
    rw [sameRows] at absent
    exact absent

theorem Recorded.recordStatus {row : OtaReservation} (sameId : row.id = reservation.id)
    (sameStatus : row.status = reservation.status)
    (newStatus : ReservationStatus) (reasonCode notes : Option String)
    (changedByUserId : Option Int) :
    (system.recordStatus row newStatus reasonCode notes changedByUserId).Recorded := by
  have agrees := recorded.agrees stored
  rw [← sameId, ← sameStatus] at agrees
  refine recorded.write rfl rfl ?_ (agrees.move rfl rfl rfl)
  exact (StatusLog.sameButFor_writeOutcome _ _ _).addRow rfl

theorem Recorded.transition {newStatus : ReservationStatus}
    {reasonCode notes : Option String} {changedByUserId : Option Int}
    (isMoved : system.transitionReservationStatus reservation newStatus
      reasonCode notes changedByUserId = .ok after) : after.Recorded := by
  unfold StatusSystem.transitionReservationStatus at isMoved
  simp only [bind_eq_ok, pure_eq_ok] at isMoved
  obtain ⟨_, -, rfl⟩ := isMoved
  exact recorded.recordStatus stored rfl rfl newStatus reasonCode notes changedByUserId

theorem Recorded.noShow {clientVersion : Int} {notes : Option String} {changedByUserId : Option Int}
    (isMarked : system.markReservationNoShow reservation clientVersion notes
      changedByUserId = .ok after) : after.Recorded := by
  unfold markReservationNoShow at isMarked
  simp only [bind_eq_ok, pure_eq_ok] at isMarked
  obtain ⟨_, -, _, -, rfl⟩ := isMarked
  apply recorded.recordStatus stored
  · rfl
  · rfl

end

/-- Statuses that payments change have one outcome. -/
theorem outcome_of_unsettled {status : ReservationStatus} (unsettled : Unsettled status) :
    reservationStatusToOutcome status = .pending := by
  rcases unsettled with rfl | rfl | rfl <;> rfl

theorem unsettled_financialTarget (system : StatusSystem) (reservation : OtaReservation) :
    Unsettled (system.financialTarget reservation) := by
  unfold financialTarget Unsettled
  simp only
  split_ifs <;> simp

/-- A status that follows the payments is recorded, also where it steps
back. -/
theorem Recorded.sync {reasonCode : String} (recorded : system.Recorded)
    (stored : system.tables.desk.reservation? reservation.id = some reservation)
    (isSynced : system.syncReservationFinancialStatus reservation
      reasonCode = .ok after) : after.Recorded := by
  unfold syncReservationFinancialStatus at isSynced
  by_cases unsettled : Unsettled reservation.status
  · rw [if_neg (not_not.mpr unsettled)] at isSynced
    split at isSynced
    · rw [← Except.ok.inj isSynced]
      exact recorded
    · split at isSynced
      · exact recorded.transition stored isSynced
      · -- a step back
        rw [← Except.ok.inj isSynced]
        have sameOutcome := (outcome_of_unsettled
          (unsettled_financialTarget system reservation)).trans
            (outcome_of_unsettled unsettled).symm
        refine recorded.write rfl rfl ?_ ((recorded.agrees stored).step rfl rfl rfl sameOutcome)
        exact (StatusLog.SameButFor.refl _ _).addRow rfl
  · rw [if_pos unsettled] at isSynced
    rw [← Except.ok.inj isSynced]
    exact recorded

variable {reservationId : Int}

theorem activeReservation_eq_ok (found : system.activeReservation reservationId = .ok reservation) :
    system.tables.desk.reservation? reservation.id = some reservation := by
  unfold activeReservation at found
  split at found
  · cases found
  · next row selected =>
    cases found
    have stored := (Option.filter_eq_some_iff.mp selected).1
    rw [(Table.find_eq_some stored).2]
    exact stored

theorem Recorded.checkin {guestId : Int} {answers : ArrivalAnswers} {actorUserId : Option Int}
    (recorded : system.Recorded)
    (arrives : system.performGuestCheckin reservationId guestId answers
      actorUserId = .ok after) : after.Recorded := by
  obtain ⟨reservation, found, arrives⟩ := bind_eq_ok.mp arrives
  have stored := activeReservation_eq_ok found
  split at arrives
  · rw [← pure_eq_ok.mp arrives]
    exact recorded
  · obtain ⟨_, -, arrives⟩ := bind_eq_ok.mp arrives
    obtain ⟨_, -, arrives⟩ := bind_eq_ok.mp arrives
    obtain ⟨_, -, arrives⟩ := bind_eq_ok.mp arrives
    have arrived : Recorded { system with
        arrivals := (reservation.id, guestId) :: system.arrivals } :=
      ⟨recorded.replays, recorded.known⟩
    simp only at arrives
    split at arrives
    · rw [← pure_eq_ok.mp arrives]
      exact arrived
    · split at arrives
      · rw [← pure_eq_ok.mp arrives]
        exact arrived
      · exact arrived.transition stored arrives

theorem Recorded.checkout {checks : Except String Unit}
    {actorUserId : Option Int} (recorded : system.Recorded)
    (leaves : system.performCheckout reservationId checks actorUserId =
      .ok after) : after.Recorded := by
  obtain ⟨reservation, found, leaves⟩ := bind_eq_ok.mp leaves
  obtain ⟨_, -, leaves⟩ := bind_eq_ok.mp leaves
  obtain ⟨_, -, leaves⟩ := bind_eq_ok.mp leaves
  obtain ⟨_, -, leaves⟩ := bind_eq_ok.mp leaves
  exact recorded.transition (activeReservation_eq_ok found) leaves

end StatusSystem

/-! ## Webhooks -/

section

variable {F : Type} [FloatFormat F] {env : OtaEnvironment F}
  {tables : OtaTables} {normalized : NormalizedReservation F}
  {receivedAt : Int}

/-- The status that a modification leaves on a reservation, if it is
applied. -/
def modifiedStatus? (env : OtaEnvironment F) (desk : Desk)
    (reservation : OtaReservation) (normalized : NormalizedReservation F) :
    Option ReservationStatus :=
  match planModification desk reservation normalized
      (desk.catalog.resolveCommercialContext normalized).candidateCategories with
  | .ok (.apply _ _) =>
    if reservation.Operational then some reservation.status
    else some (normalized.financialStatus (paidWithCredit desk reservation normalized
        (pricedCurrency env desk reservation normalized)))
  | _ => none

/-- The webhook is not a modification that gives the reservation of its
booking another status. -/
def LeavesStatus (env : OtaEnvironment F) (tables : OtaTables)
    (normalized : NormalizedReservation F) : Prop :=
  normalized.IsCancellation ∨ ((linkedReservation? tables normalized.key).all fun reservation =>
      (modifiedStatus? env tables.desk reservation normalized).all fun status =>
        status = reservation.status) = true
deriving Decidable

theorem linkedReservation?_of_linked {key : String × String}
    {mapping : OtaMapping} {reservation : OtaReservation}
    (linked : Linked tables key mapping reservation) :
    linkedReservation? tables key = some reservation := by
  unfold linkedReservation?
  rw [linked.known, Option.bind_some, linked.names, Option.bind_some]
  exact linked.stored

theorem linkedReservation?_of_unlinked {key : String × String}
    (unlinked : ∀ known, tables.mapping? key = some known -> known.reservationId = none) :
    linkedReservation? tables key = none := by
  unfold linkedReservation?
  cases known : tables.mapping? key with
  | none => rfl
  | some mapping => rw [Option.bind_some, unlinked mapping known]; rfl

theorem status_of_leavesStatus {mapping : OtaMapping}
    {reservation updated : OtaReservation} {desk : Desk}
    {category : CatalogCategory} {room : Room}
    (linked : Linked tables normalized.key mapping reservation)
    (isModification : ¬normalized.IsCancellation)
    (leaves : LeavesStatus env tables normalized)
    (planned : planModification tables.desk reservation normalized
      (tables.desk.catalog.resolveCommercialContext
        normalized).candidateCategories = .ok (.apply category room))
    (isApplied : applyModification env tables.desk reservation normalized
      receivedAt category room = .ok (desk, updated)) :
    updated.status = reservation.status := by
  have rewritten := (applyModification_rewritten isApplied).1
  rcases leaves with isCancellation | kept
  · exact absurd isCancellation isModification
  · rw [linkedReservation?_of_linked linked, Option.all_some] at kept
    unfold modifiedStatus? at kept
    rw [planned] at kept
    by_cases operational : reservation.Operational
    · exact (rewritten.operational operational).1
    · simp only [if_neg operational, Option.all_some, decide_eq_true_eq] at kept
      rw [rewritten.status operational (status_ne_cancelled_of_apply planned)]
      exact kept

theorem outcome_financialStatus (amountPaid : Int) :
    reservationStatusToOutcome (normalized.financialStatus amountPaid) = .pending := by
  rcases @financialStatus_open F _ normalized amountPaid with
    status | status | status <;> rw [status] <;> rfl

theorem StatusSystem.Recorded.webhook {system after : StatusSystem} (recorded : system.Recorded)
    (leaves : LeavesStatus env system.tables normalized)
    (isProcessed : system.processWebhook env normalized receivedAt =
      .ok after) : after.Recorded := by
  unfold StatusSystem.processWebhook at isProcessed
  simp only [bind_eq_ok, pure_eq_ok] at isProcessed
  obtain ⟨tables, isProcessed, rfl⟩ := isProcessed
  cases processNormalizedWebhook_eq_ok isProcessed with
  | recorded unknown _ _ =>
    have unlinked : linkedReservation? system.tables normalized.key =
        none := by
      apply linkedReservation?_of_unlinked
      intro known isKnown
      rw [unknown] at isKnown
      cases isKnown
    have isLog : logWebhook system.log system.tables normalized =
        system.log.writeOutcome system.tables.desk.nextReservationId .pending := by
      unfold logWebhook
      rw [unlinked]
    rw [isLog]
    refine ⟨fun row member => ?_, recorded.known⟩
    have stored : system.tables.desk.reservation? row.id = some row :=
      mem_reservations_iff.mp member
    apply (recorded.replays row member).of_same (StatusLog.sameButFor_writeOutcome _ _ _)
    intro isNext
    rw [isNext, Desk.reservation?_next] at stored
    cases stored
  | booked unlinked _ isBooked isWritten _ =>
    obtain ⟨guest, category, room, rfl, booked⟩ := bookIncoming_eq_ok isBooked
    have terms := applyFinancialSnapshot_eq_ok isWritten
    have isNext := terms.id.trans booked.id
    have isLog : logWebhook system.log system.tables normalized =
        system.log.writeOutcome system.tables.desk.nextReservationId .pending := by
      unfold logWebhook
      rw [linkedReservation?_of_unlinked unlinked]
    have sameRows : (system.tables.desk.writeGuest guest).reservations =
        system.tables.desk.reservations := rfl
    rw [isLog, ← isNext]
    refine recorded.write sameRows rfl (StatusLog.sameButFor_writeOutcome _ _ _) ⟨?_, ?_⟩
    · have noRows := recorded.known _ system.tables.desk.reservation?_next
      rw [StatusLog.rowsOf_writeOutcome, isNext, noRows]
      exact Replays.nil _ _ _
    · rw [StatusLog.outcomes_writeOutcome, if_pos rfl, terms.status]
      exact (outcome_financialStatus _).symm
  | @cancelled known mapping reservation cancelled desk guest linked
      isCancellation isSynced isCancelled keeps =>
      obtain ⟨-, -, rfl⟩ := syncGuestRecord_eq_ok.mp isSynced
      obtain ⟨sameId, -⟩ := cancelReservation_eq_ok isCancelled
      have agrees := recorded.agrees linked.stored
      have sameRows : (system.tables.desk.writeGuest guest).reservations =
          system.tables.desk.reservations := rfl
      by_cases moves : ¬reservation.Operational ∧ reservation.status ≠ .cancelled
      · have isLog : logWebhook system.log system.tables normalized =
            (system.log.writeOutcome reservation.id .cancelled).addRow
              { reservationId := reservation.id
                fromStatus := reservation.status
                toStatus := .cancelled } := by
          unfold logWebhook
          rw [linkedReservation?_of_linked linked]
          exact if_pos ⟨isCancellation, moves⟩
        have isStatus : cancelled.status = .cancelled := by
          rw [cancelReservation_open moves.1 isCancelled]
        rw [isLog]
        refine recorded.write sameRows rfl ?_ ?_
        · rw [sameId]
          exact (StatusLog.sameButFor_writeOutcome _ _ _).addRow rfl
        · rw [sameId, isStatus]
          exact @StatusLog.Agrees.move _
            { reservationId := reservation.id, fromStatus := reservation.status
              toStatus := .cancelled } _ _ .cancelled agrees rfl rfl rfl
      · have isLog : logWebhook system.log system.tables normalized = system.log := by
          unfold logWebhook
          rw [linkedReservation?_of_linked linked]
          exact if_neg (moves ·.2)
        have sameStatus : cancelled.status = reservation.status := by
          by_cases operational : reservation.Operational
          · exact congrArg Reservation.status
              (cancelReservation_operational operational isCancelled).1
          · have already : reservation.status = .cancelled := by
              by_contra other
              exact moves ⟨operational, other⟩
            rw [cancelReservation_open operational isCancelled, already]
        rw [isLog]
        refine recorded.write sameRows rfl (StatusLog.SameButFor.refl _ _) ?_
        rw [sameId, sameStatus]
        exact agrees
  | @reviewed known mapping reservation errorMessage reason linked isModification _ _ =>
      have isLog : logWebhook system.log system.tables normalized = system.log := by
        unfold logWebhook
        rw [linkedReservation?_of_linked linked]
        exact if_neg (isModification ·.1)
      rw [isLog]
      refine recorded.write rfl rfl (StatusLog.SameButFor.refl _ _) ?_
      rw [markManualReview_toReservation]
      exact recorded.agrees linked.stored
  | @applied known mapping reservation updated desk category room linked
      isModification planned isApplied _ =>
      have isLog : logWebhook system.log system.tables normalized = system.log := by
        unfold logWebhook
        rw [linkedReservation?_of_linked linked]
        exact if_neg (isModification ·.1)
      have sameStatus := status_of_leavesStatus linked isModification leaves planned isApplied
      obtain ⟨rewritten, -, guest, rfl⟩ := applyModification_rewritten isApplied
      have sameRows : (system.tables.desk.writeGuest guest).reservations =
          system.tables.desk.reservations := rfl
      rw [isLog]
      refine recorded.write sameRows rfl (StatusLog.SameButFor.refl _ _) ?_
      rw [rewritten.id, sameStatus]
      exact recorded.agrees linked.stored

end

/-- Something changes a status, or leaves every status and the log as they
are: payments, edits, moves of a room. -/
inductive StatusEvent (F : Type)
  | transition (reservationId : Int) (newStatus : ReservationStatus)
      (reasonCode notes : Option String) (changedByUserId : Option Int)
  | noShow (reservationId clientVersion : Int) (notes : Option String)
      (changedByUserId : Option Int)
  | sync (reservationId : Int) (reasonCode : String)
  | detect (cutoffHours now : Int)
  | checkin (reservationId guestId : Int) (answers : StatusSystem.ArrivalAnswers)
      (actorUserId : Option Int)
  | checkout (reservationId : Int) (checks : Except String Unit)
      (actorUserId : Option Int)
  | webhook (env : OtaEnvironment F) (normalized : NormalizedReservation F)
      (receivedAt : Int)
  | other (tables : OtaTables)

/-- Numbers and statuses of the reservations. -/
def statuses (tables : OtaTables) : List (Int × ReservationStatus) :=
  tables.desk.reservations.map fun row => (row.id, row.status)

/-- Work on a stored reservation. -/
def onReservation (system : StatusSystem) (reservationId : Int)
    (work : OtaReservation -> Except String StatusSystem) :
    Except String StatusSystem :=
  match system.tables.desk.reservation? reservationId with
  | none => .error "No se encontró la reserva"
  | some reservation => work reservation

section

variable {F : Type} [FloatFormat F]

/-- What an event leaves, unless it raises an error. -/
def performStatus (system : StatusSystem) : StatusEvent F -> Except String StatusSystem
  | .transition reservationId newStatus reasonCode notes changedByUserId =>
    onReservation system reservationId fun reservation =>
      system.transitionReservationStatus reservation newStatus reasonCode notes changedByUserId
  | .noShow reservationId clientVersion notes changedByUserId =>
    onReservation system reservationId fun reservation =>
      system.markReservationNoShow reservation clientVersion notes changedByUserId
  | .sync reservationId reasonCode =>
    onReservation system reservationId fun reservation =>
      system.syncReservationFinancialStatus reservation reasonCode
  | .detect cutoffHours now => .ok (system.detectNoShows cutoffHours now)
  | .checkin reservationId guestId answers actorUserId =>
    system.performGuestCheckin reservationId guestId answers actorUserId
  | .checkout reservationId checks actorUserId =>
    system.performCheckout reservationId checks actorUserId
  | .webhook env normalized receivedAt =>
    (system.processWebhook env normalized receivedAt).mapError fun _ => "OTAError"
  | .other tables =>
    if statuses tables = statuses system.tables then
      .ok { system with tables := tables }
    else .error "not another operation"

/-- One event; what raises an error is rolled back. -/
def statusStep (system : StatusSystem) (event : StatusEvent F) : Option StatusSystem :=
  match performStatus system event with
  | .ok after => some after
  | .error _ => some system

/-- No reservation is due when no-shows are detected, and no webhook modifies
a reservation into another status. -/
def RecordsStatus (system : StatusSystem) : StatusEvent F -> Prop
  | .detect cutoffHours now => system.dueReservations cutoffHours now = []
  | .webhook env normalized _ => LeavesStatus env system.tables normalized
  | _ => True

instance decidableRecordsStatus (system : StatusSystem) :
    ∀ event : StatusEvent F, Decidable (RecordsStatus system event)
  | .detect cutoffHours now =>
    inferInstanceAs (Decidable (system.dueReservations cutoffHours now = []))
  | .webhook env normalized _ =>
    inferInstanceAs (Decidable (LeavesStatus env system.tables normalized))
  | .transition .. | .noShow .. | .sync .. | .checkin .. | .checkout ..
  | .other .. => .isTrue trivial

theorem StatusSystem.Recorded.other {system : StatusSystem}
    {tables : OtaTables} (recorded : system.Recorded)
    (same : statuses tables = statuses system.tables) :
    StatusSystem.Recorded { system with tables := tables } := by
  constructor
  · intro row member
    have listed : (row.id, row.status) ∈ statuses system.tables := by
      rw [← same]
      exact List.mem_map_of_mem member
    obtain ⟨old, oldIn, sameOld⟩ := List.mem_map.mp listed
    obtain ⟨sameId, sameStatus⟩ := Prod.mk.inj sameOld
    rw [← sameId, ← sameStatus]
    exact recorded.replays old oldIn
  · intro id absent
    apply recorded.known id
    apply List.find?_eq_none.mpr
    intro old oldIn
    rw [decide_eq_true_eq]
    intro isId
    have listed : (old.id, old.status) ∈ statuses tables := by
      rw [same]
      exact List.mem_map_of_mem oldIn
    obtain ⟨row, rowIn, sameRow⟩ := List.mem_map.mp listed
    have sameId : row.id = id := (Prod.mk.inj sameRow).1.trans isId
    exact Table.find_eq_none absent row rowIn sameId

theorem onReservation_eq_ok {system after : StatusSystem}
    {reservationId : Int} {work : OtaReservation -> Except String StatusSystem}
    (worked : onReservation system reservationId work = .ok after) :
    ∃ reservation, system.tables.desk.reservation? reservation.id =
      some reservation ∧ work reservation = .ok after := by
  unfold onReservation at worked
  split at worked
  · cases worked
  · next reservation stored =>
    refine ⟨reservation, ?_, worked⟩
    rw [(Table.find_eq_some stored).2]
    exact stored

theorem recorded_performStatus {system after : StatusSystem}
    {event : StatusEvent F} (recorded : system.Recorded)
    (records : RecordsStatus system event)
    (performed : performStatus system event = .ok after) : after.Recorded := by
  cases event with
  | transition reservationId newStatus reasonCode notes changedByUserId =>
    obtain ⟨reservation, stored, isMoved⟩ := onReservation_eq_ok performed
    exact recorded.transition stored isMoved
  | noShow reservationId clientVersion notes changedByUserId =>
    obtain ⟨reservation, stored, isMarked⟩ := onReservation_eq_ok performed
    exact recorded.noShow stored isMarked
  | sync reservationId reasonCode =>
    obtain ⟨reservation, stored, isSynced⟩ := onReservation_eq_ok performed
    exact recorded.sync stored isSynced
  | detect cutoffHours now =>
    rw [← Except.ok.inj performed]
    unfold StatusSystem.detectNoShows
    rw [show system.dueReservations cutoffHours now = [] from records]
    exact recorded
  | checkin reservationId guestId answers actorUserId =>
    exact recorded.checkin performed
  | checkout reservationId checks actorUserId =>
    exact recorded.checkout performed
  | webhook env normalized receivedAt =>
    cases isProcessed : system.processWebhook env normalized receivedAt with
    | error error =>
      simp only [performStatus, isProcessed] at performed
      cases performed
    | ok next =>
      simp only [performStatus, isProcessed] at performed
      rw [← Except.ok.inj performed]
      exact recorded.webhook records isProcessed
  | other tables =>
    simp only [performStatus] at performed
    split at performed
    · next same =>
      rw [← Except.ok.inj performed]
      exact recorded.other same
    · cases performed

/-- In every run in which no reservation is due when no-shows are detected and
no webhook modifies a reservation into another status, the history of every
reservation replays to its status, and its outcome is that of the status. -/
theorem history_replays {start finish : StatusSystem} (recorded : start.Recorded)
    (reached : Transition.Reaches (statusStep (F := F)) RecordsStatus start
      finish) : finish.HistoryReplays := by
  have kept : finish.Recorded := by
    apply reached.invariant recorded
    intro before event after recorded records taken
    unfold statusStep at taken
    split at taken
    · next next performed =>
      cases taken
      exact recorded_performStatus recorded records performed
    · cases taken
      exact recorded
  exact kept.replays

end

/-- The hotel with one pending reservation and no history. -/
def bookedSystem : StatusSystem where
  tables := bookedTables .pending

theorem recorded_bookedSystem : bookedSystem.Recorded := by
  constructor
  · intro row member
    rw [List.mem_singleton.mp member]
    exact ⟨Replays.nil _ _ _, rfl⟩
  · intro id _
    rfl

/-- A modification leaves the status, a deposit that is not there is taken
back, and both guests arrive and leave. -/
theorem history_replays_stay :
    ∃ finish : StatusSystem, finish.log.history.map ReservationStatusHistory.toStatus =
          [.depositPaid, .pending, .partialCheckIn, .checkedIn, .checkedOut] ∧
        finish.HistoryReplays := by
  let events : List (StatusEvent ℚ) :=
    [.webhook flatPrices (doubleRoomBooking "modified") 0,
      .transition 1 .depositPaid (some "deposit") none (some 7),
      .sync 1 "financial_sync",
      .detect 24 0,
      .checkin 1 1 { participants := 2 } (some 7),
      .checkin 1 2 { participants := 2 } (some 7),
      .checkout 1 (.ok ()) (some 7)]
  have results : (Transition.run statusStep bookedSystem events).map (fun finish =>
        finish.log.history.map ReservationStatusHistory.toStatus) =
      some [.depositPaid, .pending, .partialCheckIn, .checkedIn, .checkedOut] := by
    decide +kernel
  have guarded : Transition.Guarded statusStep RecordsStatus bookedSystem
      events := by
    decide +kernel
  obtain ⟨finish, ran, isHistory⟩ := Option.map_eq_some_iff.mp results
  exact ⟨finish, isHistory, history_replays recorded_bookedSystem
    (Transition.reaches_of_run guarded ran)⟩

/-- A reservation whose deposit is recorded becomes a no-show without a
row. -/
theorem detected_noShow_has_no_row :
    ¬∀ (start finish : StatusSystem) (events : List (StatusEvent ℚ)),
      start.Recorded -> Transition.run statusStep start events = some finish ->
        finish.HistoryReplays := by
  intro claimed
  let events : List (StatusEvent ℚ) :=
    [.transition 1 .depositPaid (some "deposit") none (some 7), .detect 24 (11 * 86400)]
  have results : (Transition.run statusStep bookedSystem events).map (fun finish =>
        (finish.tables.desk.reservations.map fun row => (row.id, row.status),
          (finish.log.rowsOf 1).map ReservationStatusHistory.toStatus)) =
      some ([(1, .noShow)], [.depositPaid]) := by
    decide +kernel
  obtain ⟨finish, ran, isFinish⟩ := Option.map_eq_some_iff.mp results
  obtain ⟨isStatus, isHistory⟩ := Prod.mk.inj isFinish
  have listed : ((1 : Int), ReservationStatus.noShow) ∈
      finish.tables.desk.reservations.map fun row =>
        (row.id, row.status) := by
    rw [isStatus]
    exact List.mem_singleton_self _
  obtain ⟨row, member, isRow⟩ := List.mem_map.mp listed
  obtain ⟨isId, isNoShow⟩ := Prod.mk.inj isRow
  have agrees := claimed bookedSystem finish events recorded_bookedSystem ran row member
  rw [isId, isNoShow] at agrees
  have isLast : (finish.log.rowsOf 1).getLast?.map
      ReservationStatusHistory.toStatus = some .depositPaid := by
    rw [← List.getLast?_map, isHistory]
    rfl
  obtain ⟨last, isEntry, ends⟩ := Option.map_eq_some_iff.mp isLast
  have ends' := agrees.replays.last last isEntry
  rw [ends] at ends'
  cases ends'

end HotelPms.Statuses
