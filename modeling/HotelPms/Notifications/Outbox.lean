import HotelPms.Foundation.Checked
import HotelPms.Foundation.KeySort
import HotelPms.Foundation.UniqueIndex
import Mathlib.Algebra.Order.Group.Int

/-!
# The notification outbox

An event is fanned out to one outbox row for each recipient and channel.  A
run of the outbox delivers the pending rows that are due: into the inbox at
once, and to devices and mailboxes outside of quiet hours.  What fails is
retried a few times, and what is too old expires.
-/

namespace HotelPms.Notifications

open Checked

inductive NotificationSeverity
  | info
  | warning
  | critical

inductive NotificationChannel
  | inApp
  | push
  | email
  deriving DecidableEq

inductive OutboxStatus
  | pending
  | sent
  | failed
  | expired
  deriving DecidableEq

structure NotificationContent where
  eventType : String
  severity : NotificationSeverity := .info
  title : String
  body : Option String := none
  entityType : Option String := none
  entityId : Option Int := none
  payload : Option String := none
  expiresAt : Option Int := none

/-- The delivery of a notification to a recipient on a channel. -/
structure NotificationOutbox extends NotificationContent where
  id : Int
  hotelId : Int
  dedupeKey : String
  channel : NotificationChannel
  recipientUserId : Int
  status : OutboxStatus := .pending
  attemptCount : Int := 0
  nextRetryAt : Option Int := none
  lastError : Option String := none
  createdAt : Int

variable (env : DeliveryEnvironment) (system : NotificationSystem) (hotelId : Int)
  (row : NotificationOutbox)

def NotificationOutbox.key : Int × String × NotificationChannel × Int :=
  (row.hotelId, row.dedupeKey, row.channel, row.recipientUserId)

/-- An item of the inbox, made from an outbox row. -/
structure Notification extends NotificationContent where
  hotelId : Int
  recipientUserId : Int
  outboxId : Int

/-- A device of a user. -/
structure PushSubscription where
  id : Int
  hotelId : Int
  userId : Int
  endpoint : String
  p256dh : String
  auth : String
  lastSeenAt : Option Int := none
  expiredAt : Option Int := none

abbrev Hour := Fin 24

/-- Channels and quiet hours of a user, for a type of event or for all. -/
structure NotificationPreference where
  hotelId : Int
  userId : Int
  eventType : String := ""
  inAppEnabled : Bool := true
  pushEnabled : Bool := true
  emailEnabled : Bool := false
  quietHoursStart : Option Hour := none
  quietHoursEnd : Option Hour := none

structure NotificationSystem where
  outbox : List NotificationOutbox := []
  nextOutboxId : Int := 1
  notifications : List Notification := []
  subscriptions : List PushSubscription := []
  nextSubscriptionId : Int := 1
  preferences : List NotificationPreference := []

/-- White space, as `strip` sees it. -/
def isSpace (letter : Char) : Bool :=
  let code := letter.toNat
  decide ((9 ≤ code ∧ code ≤ 13) ∨ (28 ≤ code ∧ code ≤ 32) ∨ code = 133 ∨
    code = 160 ∨ code = 5760 ∨ (8192 ≤ code ∧ code ≤ 8202) ∨ code = 8232 ∨
    code = 8233 ∨ code = 8239 ∨ code = 8287 ∨ code = 12288)

/-- Ends of lines, as `splitlines` sees them. -/
def isLineBreak (letter : Char) : Bool :=
  let code := letter.toNat
  decide ((10 ≤ code ∧ code ≤ 13) ∨ (28 ≤ code ∧ code ≤ 30) ∨ code = 133 ∨
    code = 8232 ∨ code = 8233)

/-- A text without the white space around it. -/
def stripped (text : String) : List Char :=
  ((text.toList.dropWhile isSpace).reverse.dropWhile isSpace).reverse

def blankText (text : String) : Bool := (stripped text).isEmpty

/-- The first line of a failure, cut short.  A text that is blank but not
empty has no first line, and raises an error. -/
def redact (message : String) : Except String String :=
  if message = "" then .ok ""
  else
    match stripped message with
    | [] => .error "list index out of range"
    | first :: rest => .ok (String.ofList
        (((first :: rest).takeWhile (!isLineBreak ·)).take 300))

/-- The preference of a user for a type of event: their own row for it, their
row for all events, or the default. -/
def getEffectiveNotificationPreference
    (userId : Int) (eventType : String) : NotificationPreference :=
  let rowFor (wanted : String) :=
    system.preferences.find? fun row =>
      row.hotelId = hotelId ∧ row.userId = userId ∧ row.eventType = wanted
  ((rowFor eventType).or (rowFor "")).getD { hotelId := hotelId, userId := userId }

structure PreferenceUpdate where
  inAppEnabled : Option Bool := none
  pushEnabled : Option Bool := none
  emailEnabled : Option Bool := none
  quietHoursStart : Option Hour := none
  quietHoursEnd : Option Hour := none
  clearQuietHours : Bool := false

def setNotificationPreference (userId : Int) (eventType : String) (update : PreferenceUpdate) :
    NotificationSystem :=
  let key (row : NotificationPreference) :=
    (row.hotelId, row.userId, row.eventType)
  let row := (Table.find key (hotelId, userId, eventType) system.preferences).getD
      { hotelId := hotelId, userId := userId, eventType := eventType }
  let updated : NotificationPreference :=
    { row with
      inAppEnabled := update.inAppEnabled.getD row.inAppEnabled
      pushEnabled := update.pushEnabled.getD row.pushEnabled
      emailEnabled := update.emailEnabled.getD row.emailEnabled
      quietHoursStart :=
        if update.clearQuietHours then none
        else update.quietHoursStart.or row.quietHoursStart
      quietHoursEnd :=
        if update.clearQuietHours then none
        else update.quietHoursEnd.or row.quietHoursEnd }
  { system with preferences := Table.upsert key updated system.preferences }

def QuietHour (start finish localHour : Hour) : Prop :=
  if start = finish then False
  else if start < finish then start ≤ localHour ∧ localHour < finish
  else start ≤ localHour ∨ localHour < finish
deriving Decidable

/-- Active devices of a user. -/
def activePushSubscriptions (userId : Int) : List PushSubscription :=
  system.subscriptions.filter fun row =>
    row.hotelId = hotelId ∧ row.userId = userId ∧ row.expiredAt = none

def registerPushSubscription (userId : Int) (endpoint p256dh auth : String) (now : Int) :
    Except String NotificationSystem := do
  raiseIf (endpoint = "" ∨ p256dh = "" ∨ auth = "") "endpoint, p256dh and auth are required"
  match system.subscriptions.find? fun row =>
      decide (row.hotelId = hotelId ∧ row.userId = userId ∧ row.endpoint = endpoint) with
  | none =>
    pure { system with
      subscriptions := system.subscriptions ++
        [{ id := system.nextSubscriptionId, hotelId := hotelId, userId := userId
           endpoint := endpoint, p256dh := p256dh, auth := auth, lastSeenAt := some now }]
      nextSubscriptionId := system.nextSubscriptionId + 1 }
  | some row =>
    pure { system with
      subscriptions := Table.replace PushSubscription.id { row with
          p256dh := p256dh
          auth := auth
          lastSeenAt := some now
          expiredAt := none } system.subscriptions }

def unregisterPushSubscription (userId : Int) (endpoint : String) : NotificationSystem :=
  { system with
    subscriptions := system.subscriptions.filter fun row =>
      decide ¬(row.hotelId = hotelId ∧ row.userId = userId ∧ row.endpoint = endpoint) }

/-- An event to notify, with what the other tables answer. -/
structure NotificationEvent where
  content : NotificationContent
  hotelId : Int
  dedupeKey : String
  /-- Payload errors of the caller. -/
  payloadValid : Except String Unit := .ok ()
  recipientUserIds : List Int := []
  /-- Active members with one of the roles the caller names. -/
  roleRecipientIds : List Int := []
  /-- Recipients with an active membership that may read the entity. -/
  allowed : Int -> Bool := fun _ => true
  channels : List NotificationChannel := [.inApp, .push, .email]
  forceInApp : Bool := false
  now : Int := 0

namespace NotificationEvent

variable (event : NotificationEvent)

/-- Recipients, in order and once each. -/
def recipients : List Int :=
  KeySort.sortByKey id
    ((event.recipientUserIds ++ event.roleRecipientIds).dedup.filter event.allowed)

/-- A recipient takes the event on a channel. -/
def channelEnabled (preference : NotificationPreference) : NotificationChannel → Bool
  | .inApp => preference.inAppEnabled || event.forceInApp
  | .push => preference.pushEnabled
  | .email => preference.emailEnabled

def outboxRow (id userId : Int) (channel : NotificationChannel) : NotificationOutbox :=
  { event.content with
    id := id
    hotelId := event.hotelId
    dedupeKey := event.dedupeKey
    channel := channel
    recipientUserId := userId
    createdAt := event.now }

/-- Recipients and channels that take the event. -/
def targets (system : NotificationSystem) : List (Int × NotificationChannel) :=
  event.recipients.flatMap fun userId => (event.channels.dedup.filter (event.channelEnabled
      (getEffectiveNotificationPreference system event.hotelId userId
        event.content.eventType))).map fun channel => (userId, channel)

/-- Add the row of a target, unless there is one with its key. -/
def insertIgnore (system : NotificationSystem)
    (target : Int × NotificationChannel) : NotificationSystem :=
  let row := event.outboxRow system.nextOutboxId target.1 target.2
  if row.key ∈ system.outbox.map NotificationOutbox.key then system
  else
    { system with outbox := system.outbox ++ [row], nextOutboxId := system.nextOutboxId + 1 }

end NotificationEvent

/-- Fan an event out; rows that exist are left as they are. -/
def enqueueNotificationsForEvent (event : NotificationEvent) :
    Except String (NotificationSystem × List NotificationOutbox) := do
  raiseIf (blankText event.content.eventType = true) "event_type is required"
  raiseIf (blankText event.dedupeKey = true) "dedupe_key is required"
  raiseIf (blankText event.content.title = true) "title is required"
  event.payloadValid
  let targets := event.targets system
  if targets = [] then pure (system, [])
  else
    let after := targets.foldl event.insertIgnore system
    pure (after, after.outbox.filter fun row =>
      row.hotelId = event.hotelId ∧ row.dedupeKey = event.dedupeKey ∧
        row.eventType = event.content.eventType)

def maxOutboxAttempts : Int := 3

/-- Minutes to wait after an attempt. -/
def backoffMinutes (attemptCount : Int) : Int :=
  if attemptCount - 1 ≤ 0 then 5
  else if attemptCount - 1 = 1 then 30
  else 120

/-- What a device answers. -/
inductive PushOutcome
  | delivered
  | subscriptionInvalid
  | unavailable
  | sendError (reason : String)
  | otherError (reason : String)

/-- The adapters and the other tables, during a run of the outbox. -/
structure DeliveryEnvironment where
  push : NotificationOutbox → PushSubscription → PushOutcome
  emailEnabled : Bool := true
  recipientEmail : Int → Option String
  /-- The error of a mail that cannot be sent. -/
  email : NotificationOutbox → String → Option String
  /-- Hour on the clock of a hotel, unless its time zone is unknown. -/
  localHour : Int → Int → Option Hour
  /-- Rows of the worker's hotels that no other worker holds. -/
  claimed : NotificationOutbox → Bool := fun _ => true

structure AdapterCall where
  row : NotificationOutbox
  target : String

/-- End the delivery of a row. -/
def markTerminal (status : OutboxStatus) (reason : String) : NotificationOutbox :=
  { row with status := status, lastError := (redact reason).toOption, nextRetryAt := none }

/-- One more attempt of a row. -/
def countAttempt : NotificationOutbox :=
  { row with attemptCount := row.attemptCount + 1 }

/-- Try a row again later, unless it has been tried too often.  The attempt
stays counted when the reason cannot be shortened. -/
def scheduleRetry (reason : String) (now : Int) : NotificationOutbox × Except String Unit :=
  let counted := countAttempt row
  match redact reason with
  | .error error => (counted, .error error)
  | .ok text =>
    if maxOutboxAttempts ≤ counted.attemptCount then
      ({ counted with
        lastError := some text
        status := .failed
        nextRetryAt := none }, .ok ())
    else
      ({ counted with
        lastError := some text
        nextRetryAt :=
          some (now + backoffMinutes counted.attemptCount * 60) }, .ok ())

/-- What the delivery of a row leaves.  An error goes on to the caller. -/
structure Delivery where
  system : NotificationSystem
  row : NotificationOutbox
  calls : List AdapterCall := []
  result : Except String Unit := .ok ()

/-- Put a row into the inbox, once. -/
def deliverInApp : Delivery where
  system :=
    if row.id ∈ system.notifications.map Notification.outboxId then system
    else
      { system with
        notifications := system.notifications ++ [{ row.toNotificationContent with
             hotelId := row.hotelId
             recipientUserId := row.recipientUserId
             outboxId := row.id }] }
  row := { row with status := .sent }

/-- How far the devices of a recipient have been called. -/
structure PushProgress where
  sent : Bool := false
  lastReason : String := ""
  expired : List Int := []
  calls : List AdapterCall := []

/-- Why no more devices are called. -/
inductive PushEnd
  | finished
  | unavailable
  | raised (reason : String)

def callDevices (env : DeliveryEnvironment) (row : NotificationOutbox) :
    List PushSubscription -> PushProgress -> PushProgress × PushEnd
  | [], progress => (progress, .finished)
  | device :: devices, progress =>
    let called : PushProgress :=
      { progress with
        calls := progress.calls ++ [{ row := row, target := device.endpoint }] }
    match env.push row device with
    | .delivered => callDevices env row devices { called with sent := true }
    | .subscriptionInvalid =>
      callDevices env row devices { called with expired := device.id :: called.expired }
    | .unavailable => (called, .unavailable)
    | .sendError reason =>
      callDevices env row devices { called with lastReason := reason }
    | .otherError reason => (called, .raised reason)

/-- Devices that are gone are not called again. -/
def expireDevices (gone : List Int) (now : Int) : NotificationSystem :=
  { system with
    subscriptions := system.subscriptions.map fun device =>
      if device.id ∈ gone then { device with expiredAt := some now }
      else device }

/-- Deliver a row to the devices of its recipient. -/
def deliverPush (now : Int) : Delivery :=
  match activePushSubscriptions system row.hotelId row.recipientUserId with
  | [] =>
    { system := system, row := markTerminal row .failed "no_active_push_subscription" }
  | devices =>
    let (progress, ended) := callDevices env row devices {}
    let expired := expireDevices system progress.expired now
    match ended with
    | .unavailable =>
      { system := expired
        row :=
          if progress.sent then { row with status := .sent }
          else markTerminal row .failed "web_push_unavailable"
        calls := progress.calls }
    | .raised reason =>
      { system := expired, row := row, calls := progress.calls, result := .error reason }
    | .finished =>
      if progress.sent then
        { system := expired, row := { row with status := .sent }, calls := progress.calls }
      else
        let (retried, result) := scheduleRetry row
          (if progress.lastReason = "" then "push_delivery_failed"
            else progress.lastReason) now
        { system := expired, row := retried, calls := progress.calls, result := result }

/-- Deliver a row to the mailbox of its recipient. -/
def deliverEmail : Delivery :=
  if env.emailEnabled = false then
    { system := system, row := markTerminal row .failed "notification_email_disabled" }
  else
    match (env.recipientEmail row.recipientUserId).filter fun address => decide (address ≠ "") with
    | none =>
      { system := system, row := markTerminal row .failed "recipient_has_no_email" }
    | some address =>
      let calls : List AdapterCall :=
        [{ row := row, target := address }]
      match env.email row address with
      | none =>
        { system := system, row := { row with status := .sent }, calls := calls }
      | some reason =>
        { system := system, row := row, calls := calls, result := .error reason }

/-- Deliver a row on its channel. -/
def deliver (now : Int) : Delivery :=
  match row.channel with
  | .inApp => deliverInApp system row
  | .push => deliverPush env system row now
  | .email => deliverEmail env system row

/-- What a run reports. -/
structure OutboxCounts where
  processed : Nat := 0
  sent : Nat := 0
  failed : Nat := 0
  expired : Nat := 0
  retried : Nat := 0
  deferred : Nat := 0

def OutboxCounts.addStatus (counts : OutboxCounts) : OutboxStatus -> OutboxCounts
  | .sent => { counts with sent := counts.sent + 1 }
  | .failed => { counts with failed := counts.failed + 1 }
  | .pending => { counts with retried := counts.retried + 1 }
  | .expired => counts

/-- How far a run has come. -/
structure RunProgress where
  system : NotificationSystem
  calls : List AdapterCall := []
  counts : OutboxCounts := {}

/-- Rows that a run works on: pending, due, and the oldest first. -/
def dueRows (now : Int) (batchSize : Nat) : List NotificationOutbox :=
  (KeySort.sortByKey NotificationOutbox.createdAt (system.outbox.filter fun row =>
      row.status = .pending ∧ env.claimed row = true ∧
        (row.nextRetryAt.all fun retryAt => decide (retryAt ≤ now)) = true)).take (max batchSize 1)

/-- The row is too old. -/
def RowExpired (now : Int) : Prop :=
  (row.expiresAt.any (· ≤ now)) = true
deriving Decidable

/-- The recipient of a row is in quiet hours, on the clock of the hotel. -/
def inQuietHours (now : Int) : Except String Bool :=
  let preference := getEffectiveNotificationPreference system row.hotelId
    row.recipientUserId row.eventType
  match preference.quietHoursStart, preference.quietHoursEnd with
  | some start, some finish =>
    match env.localHour row.hotelId now with
    | none => .error "No time zone found"
    | some localHour => .ok (decide (QuietHour start finish localHour))
  | _, _ => .ok false

/-- Quiet hours hold back devices and mailboxes only. -/
def deferred (now : Int) : Except String Bool :=
  match row.channel with
  | .inApp => .ok false
  | .push | .email => inQuietHours env system row now

/-- Store a row that has been worked on. -/
def writeRow : NotificationSystem :=
  { system with outbox := Table.replace NotificationOutbox.id row system.outbox }

/-- Deliver a row and schedule a retry of what failed. -/
def attemptRow (progress : RunProgress)
    (row : NotificationOutbox) (now : Int) : RunProgress × Except String Unit :=
  let delivery := deliver env progress.system row now
  let (left, result) :=
    match delivery.result with
    | .ok () => (delivery.row, .ok ())
    | .error reason => scheduleRetry delivery.row reason now
  ({ system := writeRow delivery.system left, calls := progress.calls ++ delivery.calls
     counts := progress.counts.addStatus left.status }, result)

/-- Work on a row: it expires, waits for the end of quiet hours, or is
delivered. -/
def processRow (now : Int) (progress : RunProgress) (row : NotificationOutbox) :
    RunProgress × Except String Unit :=
  let begun : RunProgress :=
    { progress with
      counts :=
        { progress.counts with processed := progress.counts.processed + 1 } }
  if RowExpired row now then
    ({ begun with
      system := writeRow begun.system (markTerminal row .expired "expired_before_delivery")
      counts := { begun.counts with expired := begun.counts.expired + 1 } },
      .ok ())
  else
    match deferred env begun.system row now with
    | .error error => (begun, .error error)
    | .ok true =>
      ({ begun with
        system := writeRow begun.system { row with nextRetryAt := some (now + 30 * 60) }
        counts :=
          { begun.counts with deferred := begun.counts.deferred + 1 } },
        .ok ())
    | .ok false => attemptRow env begun row now

/-- Work on rows in turn, until one of them raises an error. -/
def processRows (env : DeliveryEnvironment) (now : Int) :
    List NotificationOutbox -> RunProgress -> RunProgress × Except String Unit
  | [], progress => (progress, .ok ())
  | row :: rows, progress =>
    match processRow env now progress row with
    | (next, .ok ()) => processRows env now rows next
    | (next, .error error) => (next, .error error)

def processPendingOutbox (now : Int) (batchSize : Nat) : RunProgress × Except String Unit :=
  processRows env now (dueRows env system now batchSize) { system := system }

end HotelPms.Notifications
