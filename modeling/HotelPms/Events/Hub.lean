import HotelPms.Events.Outbox
import HotelPms.Foundation.OrderedLog
import HotelPms.Foundation.Transition

/-!
# The event stream hub

A hub shares the outbox of one hotel among the streams of a process.  Its
cursor is moved by notifications, by a poll task and by the batch that is read
when the listener comes back; a first subscriber sets it.  The database is
read outside the lock of the hub, except for a first subscriber, who holds the
lock meanwhile.  How long a poll sleeps is left open.
-/

namespace HotelPms.Events

open OrderedLog Transition

/-- Frames a queue holds. -/
def streamQueueSize : Nat := 256

/-- Frames the hub remembers. -/
def streamHistorySize : Nat := 500

/-- Rows a reader takes at once. -/
def fallbackBatchSize : Nat := 100

/-- A stream: the cursor after which it asked for rows (the hub's, when it
named none), its queue, and every frame queued since it subscribed. -/
structure Subscriber where
  key : Nat
  streamCursor : Int
  queue : List Frame := []
  queued : List Frame := []

def Subscriber.queueFrame (hotelId hubCursor : Int) (subscriber : Subscriber)
    (frame : Frame) : Subscriber :=
  if streamQueueSize ≤ subscriber.queue.length then
    let frames := recoveryFrames hotelId (if frame.cursor = 0 then hubCursor else frame.cursor)
    { subscriber with queue := frames, queued := subscriber.queued ++ frames }
  else
    { subscriber with queue := subscriber.queue ++ [frame], queued := subscriber.queued ++ [frame] }

structure Hub where
  hotelId : Int
  subscribers : List Subscriber := []
  history : List Frame := []
  cursor : Int := 0
  historyFloor : Int := 0
  listenerAvailable : Bool := false

namespace Hub

variable (hub : Hub)

/-- Remember a frame, forgetting the oldest one when there is no room. -/
def remember (frame : Frame) : Hub :=
  if hub.history.length = streamHistorySize then
    { hub with
      historyFloor :=
        match hub.history.head? with
        | some oldest =>
          if oldest.cursor = 0 then hub.historyFloor else oldest.cursor
        | none => hub.historyFloor
      history := hub.history.drop 1 ++ [frame] }
  else { hub with history := hub.history ++ [frame] }

/-- Queue a frame for every subscriber. -/
def queueAll (frame : Frame) : Hub :=
  { hub with subscribers := hub.subscribers.map fun subscriber =>
      subscriber.queueFrame hub.hotelId hub.cursor frame }

def publishRow (row : OutboxRow) : Hub :=
  if row.cursor ≤ hub.cursor then hub
  else
    let moved := { hub with cursor := row.cursor }
    match outboxSsePayload row with
    | none => moved
    | some frame => (moved.remember frame).queueAll frame

def publishRows (rows : List OutboxRow) : Hub :=
  rows.foldl publishRow hub

/-- Frames that a stream which is behind gets at once. -/
def replayFrames (afterCursor : Int) : List Frame :=
  if hub.historyFloor ≤ afterCursor then
    hub.history.filter (afterCursor < ·.cursor)
  else recoveryFrames hub.hotelId hub.cursor

/-- Replay the remembered frames, or recover every domain. -/
def replayOrReset (subscriber : Subscriber) (afterCursor : Int) : Subscriber :=
  (hub.replayFrames afterCursor).foldl
    (fun state frame => state.queueFrame hub.hotelId hub.cursor frame)
    subscriber

def streamCursor (afterCursor : Option Int) : Int :=
  afterCursor.getD hub.cursor

/-- The hub starts over with its first subscriber; `latest` is the last
visible cursor. -/
def subscribeFirst (key : Nat) (afterCursor : Option Int) (latest : Int) :
    Hub :=
  let cursor := afterCursor.getD latest
  { hub with
    cursor := cursor
    history := []
    historyFloor := cursor
    subscribers := [{ key := key, streamCursor := cursor }] }

/-- A further subscriber is brought up to the cursor of the hub. -/
def subscribeFurther (key : Nat) (afterCursor : Option Int) : Hub :=
  let subscriber : Subscriber :=
    { key := key, streamCursor := hub.streamCursor afterCursor }
  let replayed :=
    if hub.streamCursor afterCursor < hub.cursor then
      hub.replayOrReset subscriber (hub.streamCursor afterCursor)
    else subscriber
  { hub with subscribers := hub.subscribers ++ [replayed] }

/-- Take the stream with a key out. -/
def drop (key : Nat) : Hub :=
  { hub with subscribers :=
      hub.subscribers.filter (·.key ≠ key) }

/-- The stream with a key takes the first frame of its queue. -/
def take (key : Nat) : Hub :=
  { hub with subscribers := hub.subscribers.map fun subscriber =>
      if subscriber.key = key then
        { subscriber with queue := subscriber.queue.drop 1 }
      else subscriber }

end Hub

/-- A task that reads a batch: before its read, with the cursor it reads from,
or with the rows it has read. -/
inductive Reader
  | waiting
  | reading (cursor : Int)
  | holding (cursor : Int) (rows : List OutboxRow)

/-- A hub, its tasks and the rows that are visible. -/
structure HubSystem where
  hub : Hub
  visible : List OutboxRow := []
  poll : Option Reader := none
  catchUps : List Reader := []
  subscribing : Bool := false

inductive HubEvent
  | commitRow (row : OutboxRow)
  | subscribe (key : Nat) (afterCursor : Option Int) (listenerAvailable : Bool)
  | subscribed (readFails : Bool)
  | subscribeFails (listenerAvailable : Bool)
  | getFrame (key : Nat)
  | unsubscribe (key : Nat)
  | publishNotification (row : OutboxRow)
  | setListenerAvailable (available : Bool)
  | pollWakes
  | pollReads (fails : Bool)
  | pollPublishes
  | catchUpStarts (index : Nat)
  | catchUpReads (index : Nat) (fails : Bool)
  | catchUpPublishes (index : Nat)

namespace HubSystem

variable (s : HubSystem)

/-- Rows that a reader finds above a cursor. -/
def readPostgresEventBatch (cursor : Int) : List OutboxRow :=
  batch OutboxRow.cursor fallbackBatchSize s.visible cursor

/-- Cursor of the last visible row. -/
def readLatestPostgresEventCursor : Int :=
  s.visible.foldl (fun latest row => max latest row.cursor) 0

def startPoll : HubSystem :=
  { s with poll := some (s.poll.getD .waiting) }

/-- Row of the hotel that is stored after the visible ones. -/
def Commits (row : OutboxRow) : Prop :=
  row.hotelId = s.hub.hotelId ∧ (outboxSsePayload row).isSome = true ∧
    ∀ other ∈ s.visible, other.cursor < row.cursor
deriving Decidable

/-- A subscription begins; a first one keeps the lock for its batch. -/
def subscribe (key : Nat) (afterCursor : Option Int) (listenerAvailable : Bool) : HubSystem :=
  let hub := { s.hub with listenerAvailable := listenerAvailable }
  if s.hub.subscribers = [] then
    { s with
      hub := hub.subscribeFirst key afterCursor s.readLatestPostgresEventCursor
      subscribing := true }
  else
    let after := { s with hub := hub.subscribeFurther key afterCursor }
    if listenerAvailable = true then after else after.startPoll

/-- The batch of a first subscriber is published. -/
def subscribed (readFails : Bool) : HubSystem :=
  let rows := if readFails = true then []
    else s.readPostgresEventBatch s.hub.cursor
  let after := { s with hub := s.hub.publishRows rows, subscribing := false }
  if s.hub.listenerAvailable = true then after else after.startPoll

/-- A stream ends; the poll task ends with the last one. -/
def unsubscribe (key : Nat) : HubSystem :=
  let hub := s.hub.drop key
  { s with hub := hub, poll := if hub.subscribers = [] then none else s.poll }

def publishNotification (row : OutboxRow) : HubSystem :=
  if s.hub.subscribers = [] then s
  else { s with hub := s.hub.publishRows [row] }

/-- The listener comes or goes: the poll task is cancelled and a batch is
read, or a poll task is started. -/
def setListenerAvailable (available : Bool) : HubSystem :=
  if s.hub.listenerAvailable = available then s
  else
    let changed := { s with hub := { s.hub with listenerAvailable := available } }
    if available = true then
      { changed with
        poll := none
        catchUps := if s.hub.subscribers = [] then s.catchUps
          else s.catchUps ++ [.waiting] }
    else if s.hub.subscribers = [] then changed
    else changed.startPoll

/-- The poll task goes on while it is needed. -/
def pollWakes : HubSystem :=
  { s with poll :=
      if s.hub.subscribers ≠ [] ∧ s.hub.listenerAvailable = false then
        some (.reading s.hub.cursor)
      else none }

def pollPublishes (rows : List OutboxRow) : HubSystem :=
  if s.hub.subscribers = [] then { s with poll := none }
  else { s with hub := s.hub.publishRows rows, poll := some .waiting }

/-- What was read when the listener came back is published. -/
def catchUpPublishes (index : Nat) (rows : List OutboxRow) : HubSystem :=
  let hub :=
    if s.hub.listenerAvailable = true ∧ s.hub.subscribers ≠ [] then
      s.hub.publishRows rows
    else s.hub
  { s with hub := hub, catchUps := s.catchUps.eraseIdx index }

/-- One event; those that take the lock wait for a first subscriber, and a
notification is about a visible row. -/
def step : HubEvent -> Option HubSystem
  | .commitRow row =>
    if s.Commits row then some { s with visible := s.visible ++ [row] }
    else none
  | .subscribe key afterCursor listenerAvailable =>
    if s.subscribing = true ∨ s.hub.subscribers.any (·.key = key) = true
    then none
    else some (s.subscribe key afterCursor listenerAvailable)
  | .subscribed readFails =>
    if s.subscribing = true then some (s.subscribed readFails) else none
  | .subscribeFails listenerAvailable =>
    if s.subscribing = true ∨ s.hub.subscribers ≠ [] then none
    else some { s with hub := { s.hub with listenerAvailable := listenerAvailable } }
  | .getFrame key => some { s with hub := s.hub.take key }
  | .unsubscribe key =>
    if s.subscribing = true then none else some (s.unsubscribe key)
  | .publishNotification row =>
    if s.subscribing = true ∨ row ∉ s.visible then none
    else some (s.publishNotification row)
  | .setListenerAvailable available =>
    if s.subscribing = true then none
    else some (s.setListenerAvailable available)
  | .pollWakes =>
    match s.poll with
    | some .waiting => some s.pollWakes
    | _ => none
  | .pollReads fails =>
    match s.poll with
    | some (.reading cursor) =>
      some { s with poll := some (if fails = true then .waiting
        else .holding cursor (s.readPostgresEventBatch cursor)) }
    | _ => none
  | .pollPublishes =>
    match s.poll with
    | some (.holding _ rows) =>
      if s.subscribing = true then none else some (s.pollPublishes rows)
    | _ => none
  | .catchUpStarts index =>
    match s.catchUps[index]? with
    | some .waiting => some { s with catchUps := s.catchUps.set index (.reading s.hub.cursor) }
    | _ => none
  | .catchUpReads index fails =>
    match s.catchUps[index]? with
    | some (.reading cursor) => some { s with
        catchUps := if fails = true then s.catchUps.eraseIdx index
          else s.catchUps.set index (.holding cursor (s.readPostgresEventBatch cursor)) }
    | _ => none
  | .catchUpPublishes index =>
    match s.catchUps[index]? with
    | some (.holding _ rows) =>
      if s.subscribing = true then none
      else some (s.catchUpPublishes index rows)
    | _ => none

/-- A hub without streams over an empty outbox. -/
def init (hotelId : Int) : HubSystem where
  hub := { hotelId := hotelId }

end HubSystem

end HotelPms.Events
