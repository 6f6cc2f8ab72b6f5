import HotelPms.Foundation.Transition
import HotelPms.Notifications.Outbox

/-!
# The outbox delivers safely

Rows are unique for a recipient and channel, and each puts at most one item
into the inbox.  A row that has ended stays as it is, and adapters are called
for pending rows alone, before they expire and outside of quiet hours.  A blank
failure of a device counts twice, so attempts stay bounded in runs where no
device answers the last attempt of a row with one.
-/

namespace HotelPms.Notifications

open Checked

theorem quietHour_iff {start finish localHour : Hour} :
    QuietHour start finish localHour ↔ localHour - start < finish - start := by
  unfold QuietHour
  split_ifs with same ordered
  · subst same
    simp
  · rw [Fin.lt_def] at ordered
    simp only [Fin.lt_def, Fin.le_def, Fin.sub_def]
    omega
  · rw [Fin.lt_def] at ordered
    rw [Fin.ext_iff] at same
    simp only [Fin.lt_def, Fin.le_def, Fin.sub_def]
    omega

/-- The clock of the hotel shows a quiet hour of the recipient. -/
def InQuietHours (env : DeliveryEnvironment) (system : NotificationSystem)
    (row : NotificationOutbox) (now : Int) : Prop :=
  let preference := getEffectiveNotificationPreference system row.hotelId
    row.recipientUserId row.eventType
  ∃ start finish localHour, preference.quietHoursStart = some start ∧
    preference.quietHoursEnd = some finish ∧
    env.localHour row.hotelId now = some localHour ∧
    localHour - start < finish - start

variable {env : DeliveryEnvironment} {system after : NotificationSystem}
  {row left : NotificationOutbox} {now : Int}

theorem not_inQuietHours (awake : inQuietHours env system row now = .ok false) :
    ¬InQuietHours env system row now := by
  rintro ⟨start, finish, localHour, isStart, isFinish, isHour, quiet⟩
  unfold inQuietHours at awake
  simp only [isStart, isFinish, isHour] at awake
  exact of_decide_eq_false (Except.ok.inj awake) (quietHour_iff.mpr quiet)

theorem inQuietHours_congr (same : after.preferences = system.preferences) :
    InQuietHours env after row now ↔ InQuietHours env system row now := by
  unfold InQuietHours getEffectiveNotificationPreference
  rw [same]

/-- A failure text that is blank but not empty. -/
def NoFirstLine (reason : String) : Prop :=
  reason ≠ "" ∧ blankText reason = true

theorem redact_eq_error {message error : String} (failed : redact message = .error error) :
    NoFirstLine message ∧ error = "list index out of range" := by
  unfold redact at failed
  split_ifs at failed with empty
  cases letters : stripped message with
  | nil =>
    rw [letters] at failed
    refine ⟨⟨empty, ?_⟩, (Except.error.inj failed).symm⟩
    unfold blankText
    rw [letters]
    rfl
  | cons first rest =>
    rw [letters] at failed
    cases failed

/-- The attempts of a row are bounded, and a pending row has one left. -/
def WithinAttempts (row : NotificationOutbox) : Prop :=
  row.attemptCount ≤ maxOutboxAttempts ∧
    (row.status = .pending -> row.attemptCount < maxOutboxAttempts)

/-- A row under its number and key. -/
def SameRow (left row : NotificationOutbox) : Prop :=
  left.id = row.id ∧ left.key = row.key

theorem SameRow.refl (row : NotificationOutbox) : SameRow row row := ⟨rfl, rfl⟩

theorem SameRow.trans {middle : NotificationOutbox}
    (first : SameRow left middle) (second : SameRow middle row) :
    SameRow left row :=
  ⟨first.1.trans second.1, first.2.trans second.2⟩

section Retries

variable {reason error : String}

theorem scheduleRetry_sameRow : SameRow (scheduleRetry row reason now).1 row := by
  unfold scheduleRetry
  split
  · exact ⟨rfl, rfl⟩
  · simp only
    split_ifs
    · exact ⟨rfl, rfl⟩
    · exact ⟨rfl, rfl⟩

theorem scheduleRetry_withinAttempts (hasAttempt : row.attemptCount < maxOutboxAttempts)
    (scheduled : scheduleRetry row reason now = (left, .ok ())) :
    WithinAttempts left := by
  unfold scheduleRetry at scheduled
  split at scheduled
  · cases scheduled
  · simp only at scheduled
    split_ifs at scheduled with exhausted
    · obtain rfl := (Prod.mk.inj scheduled).1
      refine ⟨?_, nofun⟩
      show row.attemptCount + 1 ≤ maxOutboxAttempts
      omega
    · obtain rfl := (Prod.mk.inj scheduled).1
      have below : row.attemptCount + 1 < maxOutboxAttempts :=
        Int.not_le.mp exhausted
      exact ⟨Int.le_of_lt below, fun _ => below⟩

theorem scheduleRetry_eq_error (scheduled : scheduleRetry row reason now = (left, .error error)) :
    left = countAttempt row ∧ NoFirstLine reason := by
  unfold scheduleRetry at scheduled
  split at scheduled
  · rename_i failed
    obtain ⟨isLeft, -⟩ := Prod.mk.inj scheduled
    exact ⟨isLeft.symm, (redact_eq_error failed).1⟩
  · simp only at scheduled
    split_ifs at scheduled
    · cases (Prod.mk.inj scheduled).2
    · cases (Prod.mk.inj scheduled).2

end Retries

/-! ## Deliveries -/

section Devices

variable {devices : List PushSubscription} {progress finished : PushProgress} {ended : PushEnd}

theorem callDevices_calls (forRow : ∀ call ∈ progress.calls, call.row = row)
    (called : callDevices env row devices progress = (finished, ended)) :
    ∀ call ∈ finished.calls, call.row = row := by
  induction devices generalizing progress with
  | nil =>
    cases called
    exact forRow
  | cons device devices ih =>
    have oneMore : ∀ call ∈ progress.calls ++
        [{ row := row, target := device.endpoint }], call.row = row := by
      intro call member
      rcases List.mem_added.mp member with old | new
      · exact forRow call old
      · rw [new]
    unfold callDevices at called
    cases answer : env.push row device with
    | delivered =>
      simp only [answer] at called
      exact ih oneMore called
    | subscriptionInvalid =>
      simp only [answer] at called
      exact ih oneMore called
    | sendError reason =>
      simp only [answer] at called
      exact ih oneMore called
    | unavailable =>
      simp only [answer] at called
      cases called
      exact oneMore
    | otherError reason =>
      simp only [answer] at called
      cases called
      exact oneMore

theorem callDevices_lastReason (called : callDevices env row devices progress = (finished, ended)) :
    finished.lastReason = progress.lastReason ∨
      ∃ device ∈ devices, env.push row device = .sendError finished.lastReason := by
  induction devices generalizing progress with
  | nil =>
    cases called
    exact .inl rfl
  | cons device devices ih =>
    have continued {next : PushProgress}
        (rest : callDevices env row devices next = (finished, ended)) :
        finished.lastReason = next.lastReason ∨ ∃ device' ∈ device :: devices,
            env.push row device' = .sendError finished.lastReason := by
      refine (ih rest).imp_right ?_
      rintro ⟨other, member, reported⟩
      exact ⟨other, List.mem_cons_of_mem device member, reported⟩
    unfold callDevices at called
    cases answer : env.push row device with
    | delivered =>
      simp only [answer] at called
      have same := continued called
      exact same
    | subscriptionInvalid =>
      simp only [answer] at called
      have same := continued called
      exact same
    | sendError reason =>
      simp only [answer] at called
      rcases continued called with same | reported
      · refine .inr ⟨device, List.mem_cons_self, ?_⟩
        rw [answer, same]
      · exact .inr reported
    | unavailable =>
      simp only [answer] at called
      cases called
      exact .inl rfl
    | otherError reason =>
      simp only [answer] at called
      cases called
      exact .inl rfl

end Devices

/-- What the delivery of a row leaves of the other tables. -/
structure Leaves (system after : NotificationSystem)
    (row : NotificationOutbox) : Prop where
  preferences : after.preferences = system.preferences
  nextOutboxId : after.nextOutboxId = system.nextOutboxId
  devices : ∀ device ∈ after.subscriptions, device.expiredAt = none -> device ∈ system.subscriptions
  notifications : after.notifications = system.notifications ∨
    ∃ item : Notification, item.outboxId = row.id ∧
      item.outboxId ∉ system.notifications.map Notification.outboxId ∧
      after.notifications = system.notifications ++ [item]

theorem Leaves.refl (system : NotificationSystem) (row : NotificationOutbox) :
    Leaves system system row where
  preferences := rfl
  nextOutboxId := rfl
  devices := fun _ member _ => member
  notifications := .inl rfl

theorem Leaves.writeRow (leaves : Leaves system after row) :
    Leaves system (writeRow after left) row :=
  ⟨leaves.preferences, leaves.nextOutboxId, leaves.devices, leaves.notifications⟩

theorem expireDevices_leaves (gone : List Int) :
    Leaves system (expireDevices system gone now) row where
  preferences := rfl
  nextOutboxId := rfl
  devices := by
    intro device member isActive
    obtain ⟨old, oldIn, rfl⟩ := List.mem_map.mp member
    by_cases isGone : old.id ∈ gone
    · rw [if_pos isGone] at isActive
      cases isActive
    · rw [if_neg isGone]
      exact oldIn
  notifications := .inl rfl

theorem deliverInApp_leaves : Leaves system (deliverInApp system row).system row := by
  unfold deliverInApp
  split_ifs with known
  · exact .refl system row
  · refine ⟨rfl, rfl, fun _ member _ => member, .inr ⟨_, ?_, ?_, rfl⟩⟩
    · rfl
    · exact known

/-- A device reports a failure with a blank text for the last attempt. -/
def BlankFailure (env : DeliveryEnvironment) (system : NotificationSystem)
    (row : NotificationOutbox) : Prop :=
  row.channel = .push ∧ ∃ device ∈ activePushSubscriptions system row.hotelId row.recipientUserId,
      ∃ reason, env.push row device = .sendError reason ∧ NoFirstLine reason

/-- What a delivery does with its row. -/
structure Handles (env : DeliveryEnvironment) (system : NotificationSystem)
    (row : NotificationOutbox) (delivery : Delivery) : Prop where
  leaves : Leaves system delivery.system row
  outbox : delivery.system.outbox = system.outbox
  sameRow : SameRow delivery.row row
  calls : ∀ call ∈ delivery.calls, call.row = row ∧ row.channel ≠ .inApp
  finished : row.attemptCount < maxOutboxAttempts ->
    delivery.result = .ok () -> WithinAttempts delivery.row
  raised : ∀ reason, delivery.result = .error reason -> delivery.row = row ∨
      (delivery.row = countAttempt row ∧ BlankFailure env system row)

theorem withinAttempts_sent (hasAttempt : row.attemptCount < maxOutboxAttempts) :
    WithinAttempts { row with status := .sent } :=
  ⟨Int.le_of_lt hasAttempt, nofun⟩

variable {status : OutboxStatus} {reason : String}

theorem withinAttempts_markTerminal (hasAttempt : row.attemptCount < maxOutboxAttempts)
    (isEnded : status ≠ .pending) :
    WithinAttempts (markTerminal row status reason) :=
  ⟨Int.le_of_lt hasAttempt, (absurd · isEnded)⟩

theorem markTerminal_sameRow : SameRow (markTerminal row status reason) row := ⟨rfl, rfl⟩

theorem markTerminal_handles (isEnded : status ≠ .pending) : Handles env system row
      { system := system, row := markTerminal row status reason } where
  leaves := .refl system row
  outbox := rfl
  sameRow := markTerminal_sameRow
  calls := by
    intro call member
    cases member
  finished := fun hasAttempt _ => withinAttempts_markTerminal hasAttempt isEnded
  raised := by
    intro reason isError
    cases isError

theorem deliverInApp_handles : Handles env system row (deliverInApp system row) where
  leaves := deliverInApp_leaves
  outbox := by
    unfold deliverInApp
    split_ifs
    · rfl
    · rfl
  sameRow := ⟨rfl, rfl⟩
  calls := by
    intro call member
    cases member
  finished := fun hasAttempt _ => withinAttempts_sent hasAttempt
  raised := nofun

theorem deliverEmail_handles (isEmail : row.channel = .email) :
    Handles env system row (deliverEmail env system row) := by
  have one {target : String} : ∀ call ∈ [({ row := row, target := target } : AdapterCall)],
        call.row = row ∧ row.channel ≠ .inApp := by
    intro call member
    rw [List.mem_singleton.mp member, isEmail]
    exact ⟨rfl, nofun⟩
  unfold deliverEmail
  split_ifs with disabled
  · exact markTerminal_handles (by decide)
  · split
    · exact markTerminal_handles (by decide)
    · split
      · exact ⟨.refl system row, rfl, ⟨rfl, rfl⟩, one,
          fun hasAttempt _ => withinAttempts_sent hasAttempt, nofun⟩
      · exact ⟨.refl system row, rfl, .refl row, one, nofun, fun _ _ => .inl rfl⟩

theorem not_noFirstLine_push_delivery_failed : ¬NoFirstLine "push_delivery_failed" := by
  unfold NoFirstLine
  decide

theorem deliverPush_handles (isPush : row.channel = .push) :
    Handles env system row (deliverPush env system row now) := by
  unfold deliverPush
  cases active : activePushSubscriptions system row.hotelId row.recipientUserId with
  | nil =>
    exact markTerminal_handles (by decide)
  | cons device devices =>
    simp only
    cases called : callDevices env row (device :: devices) {} with
    | mk progress ended =>
    have calls : ∀ call ∈ progress.calls, call.row = row ∧ row.channel ≠ .inApp := by
      intro call member
      refine ⟨callDevices_calls ?_ called call member, ?_⟩
      · intro call member
        cases member
      · rw [isPush]
        decide
    have leaves := @expireDevices_leaves system row now progress.expired
    cases ended with
    | unavailable =>
      simp only
      split_ifs with sent
      · exact ⟨leaves, rfl, ⟨rfl, rfl⟩, calls,
          fun hasAttempt _ => withinAttempts_sent hasAttempt, nofun⟩
      · exact ⟨leaves, rfl, markTerminal_sameRow, calls, fun hasAttempt _ =>
            withinAttempts_markTerminal hasAttempt (by decide), nofun⟩
    | raised reason =>
      exact ⟨leaves, rfl, .refl row, calls, nofun, fun _ _ => .inl rfl⟩
    | finished =>
      split_ifs with sent unnamed
      · exact ⟨leaves, rfl, ⟨rfl, rfl⟩, calls,
          fun hasAttempt _ => withinAttempts_sent hasAttempt, nofun⟩
      · refine ⟨leaves, rfl, scheduleRetry_sameRow, calls, ?_, ?_⟩
        · intro hasAttempt isOk
          exact scheduleRetry_withinAttempts hasAttempt (Prod.ext rfl isOk)
        · intro error isError
          have scheduled := scheduleRetry_eq_error (Prod.ext rfl isError)
          exact absurd scheduled.2 not_noFirstLine_push_delivery_failed
      · refine ⟨leaves, rfl, scheduleRetry_sameRow, calls, ?_, ?_⟩
        · intro hasAttempt isOk
          exact scheduleRetry_withinAttempts hasAttempt (Prod.ext rfl isOk)
        · intro error isError
          have scheduled := scheduleRetry_eq_error (Prod.ext rfl isError)
          refine .inr ⟨scheduled.1, isPush, ?_⟩
          rw [active]
          rcases callDevices_lastReason called with same | reported
          · exact absurd same unnamed
          · obtain ⟨reporting, member, reported⟩ := reported
            exact ⟨reporting, member, _, reported, scheduled.2⟩

theorem deliver_handles : Handles env system row (deliver env system row now) := by
  unfold deliver
  cases isChannel : row.channel with
  | inApp => exact deliverInApp_handles
  | push => exact deliverPush_handles isChannel
  | email => exact deliverEmail_handles isChannel

/-! ## Batches -/

section Rows

variable {progress next : RunProgress} {result : Except String Unit}

theorem attemptRow_leaves (attempted : attemptRow env progress row now = (next, result)) :
    Leaves progress.system next.system row ∧ ∃ more, next.calls = progress.calls ++ more ∧
        ∀ call ∈ more, call.row = row ∧ row.channel ≠ .inApp := by
  have handles := @deliver_handles env progress.system row now
  cases attempted
  exact ⟨handles.leaves.writeRow, _, rfl, handles.calls⟩

theorem processRow_leaves (processed : processRow env now progress row = (next, result)) :
    Leaves progress.system next.system row ∧ ∃ more, next.calls = progress.calls ++ more ∧
        ∀ call ∈ more, call.row = row ∧ ¬RowExpired row now ∧
          ¬InQuietHours env progress.system row now := by
  have none : ∃ more, progress.calls = progress.calls ++ more ∧
      ∀ call ∈ more, call.row = row ∧ ¬RowExpired row now ∧
        ¬InQuietHours env progress.system row now := by
    refine ⟨[], (List.append_nil _).symm, ?_⟩
    intro call member
    cases member
  unfold processRow at processed
  simp only at processed
  split_ifs at processed with expired
  · cases processed
    exact ⟨(Leaves.refl progress.system row).writeRow, none⟩
  · cases isDeferred : deferred env progress.system row now with
    | error error =>
      rw [isDeferred] at processed
      cases processed
      exact ⟨.refl progress.system row, none⟩
    | ok waits =>
      rw [isDeferred] at processed
      cases waits with
      | true =>
        cases processed
        exact ⟨(Leaves.refl progress.system row).writeRow, none⟩
      | false =>
        obtain ⟨leaves, more, isMore, calls⟩ := attemptRow_leaves processed
        refine ⟨leaves, more, isMore, fun call member => ?_⟩
        obtain ⟨forRow, notInApp⟩ := calls call member
        refine ⟨forRow, expired, not_inQuietHours ?_⟩
        unfold deferred at isDeferred
        cases isChannel : row.channel with
        | inApp => exact absurd isChannel notInApp
        | push =>
          rw [isChannel] at isDeferred
          exact isDeferred
        | email =>
          rw [isChannel] at isDeferred
          exact isDeferred

theorem processRow_eq_ok (hasAttempt : row.attemptCount < maxOutboxAttempts)
    (answers : row.attemptCount + 1 = maxOutboxAttempts -> ¬BlankFailure env progress.system row)
    (processed : processRow env now progress row = (next, .ok ())) :
    ∃ left, SameRow left row ∧ WithinAttempts left ∧ next.system.outbox =
        Table.replace NotificationOutbox.id left progress.system.outbox := by
  have handles := @deliver_handles env progress.system row now
  unfold processRow at processed
  simp only at processed
  split_ifs at processed with expired
  · cases processed
    exact ⟨_, markTerminal_sameRow, withinAttempts_markTerminal hasAttempt (by decide), rfl⟩
  · cases isDeferred : deferred env progress.system row now with
    | error error =>
      rw [isDeferred] at processed
      cases (Prod.mk.inj processed).2
    | ok waits =>
      rw [isDeferred] at processed
      cases waits with
      | true =>
        cases processed
        exact ⟨{ row with nextRetryAt := some (now + 30 * 60) },
          ⟨rfl, rfl⟩, ⟨Int.le_of_lt hasAttempt, fun _ => hasAttempt⟩, rfl⟩
      | false =>
        unfold attemptRow at processed
        cases isResult : (deliver env progress.system row now).result with
        | ok done =>
          simp only [isResult] at processed
          cases processed
          refine ⟨_, handles.sameRow, handles.finished hasAttempt isResult, ?_⟩
          show Table.replace _ _ _ = _
          rw [handles.outbox]
        | error reason =>
          simp only [isResult] at processed
          obtain ⟨rfl, scheduled⟩ := Prod.mk.inj processed
          refine ⟨_, scheduleRetry_sameRow.trans handles.sameRow,
            scheduleRetry_withinAttempts ?_ (Prod.ext rfl scheduled), ?_⟩
          · rcases handles.raised reason isResult with same | counted
            · rw [same]
              exact hasAttempt
            · obtain ⟨isCounted, blank⟩ := counted
              rw [isCounted]
              have notLast : row.attemptCount + 1 ≠ maxOutboxAttempts :=
                (answers · blank)
              show row.attemptCount + 1 < maxOutboxAttempts
              omega
          · show Table.replace _ _ _ = _
            rw [handles.outbox]

/-- The outbox is numbered, its rows differ in their keys and stay within
their attempts, and each has at most one item in the inbox. -/
structure WellKept (system : NotificationSystem) : Prop where
  numbered : Table.Numbered NotificationOutbox.id system.nextOutboxId system.outbox
  oneRow : (system.outbox.map NotificationOutbox.key).Nodup
  oneItem : (system.notifications.map Notification.outboxId).Nodup
  attempts : ∀ row ∈ system.outbox, WithinAttempts row

theorem WellKept.work (kept : WellKept system)
    (isRow : row ∈ system.outbox) (sameRow : SameRow left row)
    (within : WithinAttempts left)
    (written : after.outbox = Table.replace NotificationOutbox.id left system.outbox)
    (leaves : Leaves system after row) : WellKept after where
  numbered := by
    rw [written, leaves.nextOutboxId]
    apply kept.numbered.replace
    rw [sameRow.1]
    exact kept.numbered.below row isRow
  oneRow := by
    rw [written, Table.map_replace NotificationOutbox.key]
    · exact kept.oneRow
    · intro old oldIn same
      have isOld := Table.eq_of_key kept.numbered.distinct oldIn isRow (same.trans sameRow.1)
      rw [isOld]
      exact sameRow.2.symm
  oneItem := by
    rcases leaves.notifications with same | ⟨item, -, isNew, added⟩
    · rw [same]
      exact kept.oneItem
    · rw [added, List.map_append, List.map_singleton, ← List.concat_eq_append]
      exact kept.oneItem.concat isNew
  attempts := by
    intro other member
    rw [written] at member
    rcases Table.mem_replace member with rfl | ⟨old, -⟩
    · exact within
    · exact kept.attempts other old

theorem Leaves.blankFailure {other : NotificationOutbox} (leaves : Leaves system after other)
    (blank : BlankFailure env after row) : BlankFailure env system row := by
  obtain ⟨isPush, device, active, reported⟩ := blank
  refine ⟨isPush, device, ?_, reported⟩
  obtain ⟨member, isActive⟩ := List.mem_filter.mp active
  have isNow := of_decide_eq_true isActive
  exact List.mem_filter.mpr ⟨leaves.devices device member isNow.2.2, isActive⟩

/-- What a batch of rows leaves. -/
structure Batch (system after : NotificationSystem)
    (rows : List NotificationOutbox) : Prop where
  kept : WellKept after
  others : ∀ row ∈ system.outbox, row.id ∉ rows.map NotificationOutbox.id -> row ∈ after.outbox
  items : ∀ item ∈ after.notifications, item ∈ system.notifications ∨
    ∃ row ∈ rows, item.outboxId = row.id

theorem processRows_eq_ok {rows : List NotificationOutbox} (kept : WellKept progress.system)
    (loaded : ∀ row ∈ rows, row ∈ progress.system.outbox ∧ row.status = .pending)
    (distinct : (rows.map NotificationOutbox.id).Nodup)
    (answers : ∀ row ∈ rows, row.attemptCount + 1 = maxOutboxAttempts ->
      ¬BlankFailure env progress.system row)
    (processed : processRows env now rows progress = (next, .ok ())) :
    Batch progress.system next.system rows := by
  induction rows generalizing progress with
  | nil =>
    cases processed
    exact ⟨kept, fun row member _ => member, fun item member => .inl member⟩
  | cons row rows ih =>
    obtain ⟨isRow, isPending⟩ := loaded row List.mem_cons_self
    rw [List.map_cons, List.nodup_cons] at distinct
    unfold processRows at processed
    cases first : processRow env now progress row with
    | mk middle result =>
    rw [first] at processed
    cases result with
    | error error => cases (Prod.mk.inj processed).2
    | ok done =>
      have leaves := (processRow_leaves first).1
      obtain ⟨left, sameRow, within, written⟩ := processRow_eq_ok ((kept.attempts row isRow).2
        isPending) (answers row List.mem_cons_self) first
      have untouched : ∀ other ∈ progress.system.outbox,
          other.id ≠ row.id -> other ∈ middle.system.outbox := by
        intro other member differs
        rw [written]
        apply Table.mem_replace_of_ne member
        rw [sameRow.1]
        exact differs
      have batch := ih (kept.work isRow sameRow within written leaves) (by
          intro other member
          obtain ⟨otherIn, otherPending⟩ := loaded other (List.mem_cons_of_mem row member)
          refine ⟨untouched other otherIn ?_, otherPending⟩
          intro same
          apply distinct.1
          rw [← same]
          exact List.mem_map_of_mem member)
        distinct.2
        (by
          intro other member isLast blank
          exact answers other (List.mem_cons_of_mem row member) isLast (leaves.blankFailure blank))
        processed
      refine ⟨batch.kept, ?_, ?_⟩
      · intro other member isOther
        rw [List.map_cons, List.mem_cons, not_or] at isOther
        exact batch.others other (untouched other member isOther.1) isOther.2
      · intro item member
        rcases batch.items item member with early | ⟨source, isSource, isId⟩
        · rcases leaves.notifications with same | added
          · rw [same] at early
            exact .inl early
          · obtain ⟨new, isNew, -, added⟩ := added
            rw [added] at early
            rcases List.mem_added.mp early with old | rfl
            · exact .inl old
            · exact .inr ⟨row, List.mem_cons_self, isNew⟩
        · exact .inr ⟨source, List.mem_cons_of_mem row isSource, isId⟩

theorem processRows_calls {rows : List NotificationOutbox}
    (processed : processRows env now rows progress = (next, result)) :
    ∀ call ∈ next.calls, call ∈ progress.calls ∨ (call.row ∈ rows ∧ ¬RowExpired call.row now ∧
        ¬InQuietHours env progress.system call.row now) := by
  induction rows generalizing progress with
  | nil =>
    cases processed
    exact fun call member => .inl member
  | cons row rows ih =>
    unfold processRows at processed
    cases first : processRow env now progress row with
    | mk middle outcome =>
    rw [first] at processed
    obtain ⟨leaves, more, isMore, calls⟩ := processRow_leaves first
    have begun : ∀ call ∈ middle.calls, call ∈ progress.calls ∨
        (call.row ∈ row :: rows ∧ ¬RowExpired call.row now ∧
          ¬InQuietHours env progress.system call.row now) := by
      intro call member
      rw [isMore] at member
      refine (List.mem_append.mp member).imp_right fun new => ?_
      obtain ⟨forRow, onTime, awake⟩ := calls call new
      rw [forRow]
      exact ⟨List.mem_cons_self, onTime, awake⟩
    cases outcome with
    | error error =>
      cases processed
      exact begun
    | ok done =>
      intro call member
      rcases ih processed call member with early | late
      · exact begun call early
      · obtain ⟨isRow, onTime, quiet⟩ := late
        rw [inQuietHours_congr leaves.preferences] at quiet
        exact .inr ⟨List.mem_cons_of_mem row isRow, onTime, quiet⟩

end Rows

theorem mem_dueRows {batchSize : Nat} (due : row ∈ dueRows env system now batchSize) :
    row ∈ system.outbox ∧ row.status = .pending := by
  have sorted := List.mem_of_mem_take due
  rw [KeySort.mem_sortByKey] at sorted
  obtain ⟨member, isDue⟩ := List.mem_filter.mp sorted
  exact ⟨member, (of_decide_eq_true isDue).1⟩

theorem nodup_dueRows {batchSize : Nat} (kept : WellKept system) :
    ((dueRows env system now batchSize).map NotificationOutbox.id).Nodup := by
  unfold dueRows
  rw [List.map_take]
  apply List.Nodup.sublist (List.take_sublist _ _)
  apply KeySort.nodup_map_sortByKey
  exact kept.numbered.distinct.sublist (List.filter_sublist.map _)

/-! ## Runs -/

/-- Fan-outs and runs of the outbox, and the changes of preferences and
devices between them. -/
inductive OutboxEvent
  | enqueue (event : NotificationEvent)
  | setPreference (hotelId userId : Int) (eventType : String)
      (update : PreferenceUpdate)
  | registerDevice (hotelId userId : Int) (endpoint p256dh auth : String)
      (now : Int)
  | unregisterDevice (hotelId userId : Int) (endpoint : String)
  | process (env : DeliveryEnvironment) (now : Int) (batchSize : Nat)

/-- Take an event.  A run of the outbox that raises an error is rolled
back. -/
def step (system : NotificationSystem) : OutboxEvent -> Option NotificationSystem
  | .enqueue event =>
    ((enqueueNotificationsForEvent system event).map Prod.fst).toOption
  | .setPreference hotelId userId eventType update =>
    some (setNotificationPreference system hotelId userId eventType update)
  | .registerDevice hotelId userId endpoint p256dh auth now =>
    (registerPushSubscription system hotelId userId endpoint p256dh auth now).toOption
  | .unregisterDevice hotelId userId endpoint =>
    some (unregisterPushSubscription system hotelId userId endpoint)
  | .process env now batchSize =>
    match processPendingOutbox env system now batchSize with
    | (progress, .ok ()) => some progress.system
    | (_, .error _) => some system

def AnswersLastAttempts (system : NotificationSystem) : OutboxEvent -> Prop
  | .process env now batchSize =>
    ∀ row ∈ dueRows env system now batchSize,
      row.attemptCount + 1 = maxOutboxAttempts -> ¬BlankFailure env system row
  | _ => True

/-- A step keeps the outbox and the rows that have ended, and the items it
adds are those of pending rows. -/
structure KeepsOutbox (before after : NotificationSystem) : Prop where
  kept : WellKept after
  ended : ∀ row ∈ before.outbox, row.status ≠ .pending -> row ∈ after.outbox
  items : ∀ item ∈ after.notifications, item ∈ before.notifications ∨
    ∃ row ∈ before.outbox, row.status = .pending ∧ item.outboxId = row.id

section Steps

variable {before : NotificationSystem}

/-- Preferences and devices do not touch the outbox. -/
theorem KeepsOutbox.of_same (kept : WellKept before) (sameOutbox : after.outbox = before.outbox)
    (sameNext : after.nextOutboxId = before.nextOutboxId)
    (sameItems : after.notifications = before.notifications) :
    KeepsOutbox before after where
  kept :=
    { numbered := by
        rw [sameOutbox, sameNext]
        exact kept.numbered
      oneRow := by
        rw [sameOutbox]
        exact kept.oneRow
      oneItem := by
        rw [sameItems]
        exact kept.oneItem
      attempts := by
        rw [sameOutbox]
        exact kept.attempts }
  ended := by
    rw [sameOutbox]
    exact fun row member _ => member
  items := by
    rw [sameItems]
    exact fun item member => .inl member

theorem KeepsOutbox.trans {middle : NotificationSystem}
    (first : KeepsOutbox before middle) (second : KeepsOutbox middle after)
    (sameItems : after.notifications = middle.notifications) :
    KeepsOutbox before after where
  kept := second.kept
  ended := fun row member isEnded => second.ended row (first.ended row member isEnded) isEnded
  items := by
    rw [sameItems]
    exact first.items

/-- A new row has been tried never. -/
theorem outboxRow_withinAttempts (event : NotificationEvent)
    (id userId : Int) (channel : NotificationChannel) :
    WithinAttempts (event.outboxRow id userId channel) := by
  have isNew : (event.outboxRow id userId channel).attemptCount = 0 := rfl
  unfold WithinAttempts
  rw [isNew]
  exact ⟨by decide, fun _ => by decide⟩

theorem insertIgnore_notifications (event : NotificationEvent)
    (target : Int × NotificationChannel) :
    (event.insertIgnore before target).notifications = before.notifications := by
  unfold NotificationEvent.insertIgnore
  simp only
  split_ifs
  · rfl
  · rfl

section

variable (kept : WellKept before)
include kept

/-- A row is added under a key that is not there yet. -/
theorem insertIgnore_keeps (event : NotificationEvent) (target : Int × NotificationChannel) :
    KeepsOutbox before (event.insertIgnore before target) := by
  unfold NotificationEvent.insertIgnore
  simp only
  split_ifs with known
  · exact .of_same kept rfl rfl rfl
  · refine ⟨⟨kept.numbered.append rfl, ?_, kept.oneItem, ?_⟩, ?_, ?_⟩
    · rw [List.map_append, List.map_singleton, ← List.concat_eq_append]
      exact kept.oneRow.concat known
    · intro row member
      rcases List.mem_added.mp member with old | rfl
      · exact kept.attempts row old
      · exact outboxRow_withinAttempts event _ _ _
    · exact fun row member _ => List.mem_append_left _ member
    · exact fun item member => .inl member

theorem foldl_insertIgnore_keeps
    (event : NotificationEvent) (targets : List (Int × NotificationChannel)) :
    KeepsOutbox before (targets.foldl event.insertIgnore before) ∧
      (targets.foldl event.insertIgnore before).notifications = before.notifications := by
  induction targets generalizing before with
  | nil => exact ⟨.of_same kept rfl rfl rfl, rfl⟩
  | cons target targets ih =>
    have first := insertIgnore_keeps kept event target
    obtain ⟨others, sameItems⟩ := ih first.kept
    exact ⟨first.trans others sameItems, sameItems.trans (insertIgnore_notifications event target)⟩

theorem enqueue_keeps {event : NotificationEvent} {rows : List NotificationOutbox}
    (enqueued : enqueueNotificationsForEvent before event =
      .ok (after, rows)) : KeepsOutbox before after := by
  unfold enqueueNotificationsForEvent at enqueued
  simp only [bind_eq_ok, raiseIf_eq_ok] at enqueued
  obtain ⟨_, -, _, -, _, -, _, -, enqueued⟩ := enqueued
  split_ifs at enqueued with none
  · obtain ⟨rfl, -⟩ := enqueued
    exact .of_same kept rfl rfl rfl
  · obtain ⟨rfl, -⟩ := enqueued
    exact (foldl_insertIgnore_keeps kept event _).1

theorem registerDevice_keeps {hotelId userId : Int} {endpoint p256dh auth : String}
    (registered : registerPushSubscription before hotelId userId endpoint
      p256dh auth now = .ok after) : KeepsOutbox before after := by
  unfold registerPushSubscription at registered
  simp only [bind_eq_ok] at registered
  obtain ⟨_, -, registered⟩ := registered
  split at registered
  · cases registered
    exact .of_same kept rfl rfl rfl
  · cases registered
    exact .of_same kept rfl rfl rfl

theorem process_keeps {batchSize : Nat} {progress : RunProgress}
    (answers : ∀ row ∈ dueRows env before now batchSize,
      row.attemptCount + 1 = maxOutboxAttempts -> ¬BlankFailure env before row)
    (processed : processPendingOutbox env before now batchSize =
      (progress, .ok ())) : KeepsOutbox before progress.system := by
  have batch := @processRows_eq_ok _ _ { system := before } _ _ kept
    (fun row => mem_dueRows) (nodup_dueRows kept) answers processed
  refine ⟨batch.kept, ?_, ?_⟩
  · intro row member isEnded
    apply batch.others row member
    intro listed
    obtain ⟨due, isDue, sameId⟩ := List.mem_map.mp listed
    obtain ⟨dueIn, isPending⟩ := mem_dueRows isDue
    have := Table.eq_of_key kept.numbered.distinct dueIn member sameId
    exact isEnded (this ▸ isPending)
  · intro item member
    refine (batch.items item member).imp_right ?_
    rintro ⟨row, isDue, isId⟩
    obtain ⟨isRow, isPending⟩ := mem_dueRows isDue
    exact ⟨row, isRow, isPending, isId⟩

theorem step_keeps {event : OutboxEvent} (answers : AnswersLastAttempts before event)
    (taken : step before event = some after) : KeepsOutbox before after := by
  cases event with
  | enqueue event =>
    obtain ⟨rows, enqueued⟩ := map_fst_eq_ok.mp (toOption_eq_some taken)
    exact enqueue_keeps kept enqueued
  | setPreference hotelId userId eventType update =>
    cases taken
    exact .of_same kept rfl rfl rfl
  | registerDevice hotelId userId endpoint p256dh auth now =>
    exact registerDevice_keeps kept (toOption_eq_some taken)
  | unregisterDevice hotelId userId endpoint =>
    cases taken
    exact .of_same kept rfl rfl rfl
  | process env now batchSize =>
    unfold step at taken
    cases processed : processPendingOutbox env before now batchSize with
    | mk progress result =>
    simp only [processed] at taken
    cases result with
    | ok done =>
      cases taken
      exact process_keeps kept answers processed
    | error error =>
      cases taken
      exact .of_same kept rfl rfl rfl

end

end Steps

/-- A state of the outbox with one row for each key and one item for each row,
from which ended rows stay as they are and runs call for due rows alone. -/
structure DeliversSafely (system : NotificationSystem) : Prop where
  oneRow : (system.outbox.map NotificationOutbox.key).Nodup
  oneItem : (system.notifications.map Notification.outboxId).Nodup
  attempts : ∀ row ∈ system.outbox, row.attemptCount ≤ maxOutboxAttempts
  settled : ∀ later, Transition.Reaches step AnswersLastAttempts system later ->
    ∀ row ∈ system.outbox, row.status ≠ .pending ->
      (∀ found ∈ later.outbox, found.id = row.id ↔ found = row) ∧ row ∈ later.outbox ∧
        ∀ item ∈ later.notifications, item.outboxId = row.id -> item ∈ system.notifications
  deliveries : ∀ env now batchSize,
    ∀ call ∈ (processPendingOutbox env system now batchSize).1.calls,
      call.row ∈ system.outbox ∧ call.row.status = .pending ∧
        ¬RowExpired call.row now ∧ ¬InQuietHours env system call.row now

theorem wellKept_empty : WellKept {} where
  numbered := .nil _ _
  oneRow := List.nodup_nil
  oneItem := List.nodup_nil
  attempts := by
    intro row member
    cases member

theorem wellKept_of_reaches {start : NotificationSystem} (kept : WellKept start)
    (reached : Transition.Reaches step AnswersLastAttempts start system) :
    WellKept system :=
  reached.invariant kept fun kept answers taken => (step_keeps kept answers taken).kept

theorem settled_of_reaches {start later : NotificationSystem} (kept : WellKept start)
    (reached : Transition.Reaches step AnswersLastAttempts start later)
    (isRow : row ∈ start.outbox) (isEnded : row.status ≠ .pending) :
    row ∈ later.outbox ∧ ∀ item ∈ later.notifications, item.outboxId = row.id ->
        item ∈ start.notifications := by
  have everywhere : WellKept later ∧ row ∈ later.outbox ∧
      ∀ item ∈ later.notifications, item.outboxId = row.id -> item ∈ start.notifications := by
    apply reached.invariant ⟨kept, isRow, fun item member _ => member⟩
    rintro before event after ⟨keptBefore, isBefore, items⟩ answers taken
    have keeps := step_keeps keptBefore answers taken
    refine ⟨keeps.kept, keeps.ended row isBefore isEnded, ?_⟩
    intro item member isItem
    rcases keeps.items item member with old | ⟨source, sourceIn, fresh⟩
    · exact items item old isItem
    · obtain ⟨isPending, isSource⟩ := fresh
      have same := Table.eq_of_key keptBefore.numbered.distinct sourceIn
        isBefore (isSource.symm.trans isItem)
      exact absurd (same ▸ isPending) isEnded
  exact everywhere.2

/-- A message to a guest's host, in the inbox and on a device. -/
def arrivalMessage : NotificationEvent where
  content :=
    { eventType := "arrival", title := "A guest has arrived" }
  hotelId := 1
  dedupeKey := "arrival-7"
  recipientUserIds := [5]
  channels := [.inApp, .push]

def devicesAnswering (outcome : PushOutcome) : DeliveryEnvironment where
  push := fun _ _ => outcome
  recipientEmail := fun _ => none
  email := fun _ _ => none
  localHour := fun _ _ => some 12

end HotelPms.Notifications
