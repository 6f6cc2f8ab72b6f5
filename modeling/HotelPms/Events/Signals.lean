import HotelPms.Events.Outbox
import HotelPms.Foundation.Transition

/-!
# Signals of a session

A session queues the signals of its changes and hands them over to the
transport when its root transaction commits.  A queued signal carries the
identity of the innermost transaction it was queued in, and a savepoint that
is rolled back takes the signals with its own identity along.  An identity may
be given to a new savepoint as soon as the one that had it has ended.

For the comparison with the committed work the session also numbers its
savepoints and keeps every call with the savepoints it was made in.
-/

namespace HotelPms.Events

open Transition

/-- What makes two signals the same; the payload is its canonical text. -/
structure Signal where
  hotelId : Int
  domain : String
  eventType : String
  payload : String
  deriving DecidableEq

/-- Arguments of a call. -/
structure DomainChange where
  hotelId : Int
  domain : String
  eventType : String
  payload : String := "\x7b\x7d"
  originKey : Option String := none
  durable : Bool := true

/-- Signal that a call queues. -/
def DomainChange.signal (change : DomainChange) : Signal where
  hotelId := change.hotelId
  domain := (Text.strip change.domain).toLower
  eventType := Text.strip change.eventType
  payload := change.payload

/-- A queued signal, with the savepoints that enclose the call. -/
structure QueuedDomainChange where
  signal : Signal
  originKey : Option String
  durable : Bool
  transactionId : Int
  enclosing : List Nat

structure TransportAnswer where
  permitted : Bool
  accepted : Bool

/-- An open savepoint: its number and the identity of its object. -/
structure Savepoint where
  number : Nat
  transactionId : Int

structure SignalSession where
  rootId : Int
  nested : List Savepoint := []
  pending : List QueuedDomainChange := []
  published : List Signal := []
  savepoints : Nat := 0
  points : List (Signal × List Nat) := []
  rolledBack : List Nat := []

/-- Signals that reach the transport, in order.  After a failure the durable
ones are left to the workers. -/
def publishLoop (answer : QueuedDomainChange → TransportAnswer) :
    Bool → List QueuedDomainChange → List Signal
  | _, [] => []
  | durablePublishFailed, change :: rest =>
    if change.durable = true ∧
        (durablePublishFailed = true ∨ (answer change).permitted = false) then
      publishLoop answer durablePublishFailed rest
    else if (answer change).accepted = true then
      change.signal :: publishLoop answer durablePublishFailed rest
    else publishLoop answer (durablePublishFailed || change.durable) rest

inductive SessionEvent
  | queue (change : DomainChange)
  | beginNested (transactionId : Int)
  | release
  | rollbackNested
  | commit (postgresTransport : Bool)
      (answer : QueuedDomainChange → TransportAnswer) (nextRootId : Int)
  | rollback (nextRootId : Int)

namespace SignalSession

variable (session : SignalSession)

/-- Identity of the innermost transaction. -/
def transactionId : Int :=
  match session.nested with
  | [] => session.rootId
  | savepoint :: _ => savepoint.transactionId

/-- Numbers of the open savepoints. -/
def enclosing : List Nat :=
  session.nested.map Savepoint.number

def queueDomainChange (change : DomainChange) : SignalSession :=
  let called := { session with points := session.points ++ [(change.signal, session.enclosing)] }
  if session.pending.any (·.signal = change.signal) = true then called
  else
    { called with
      pending := session.pending ++
        [{ signal := change.signal, originKey := change.originKey, durable := change.durable
           transactionId := session.transactionId, enclosing := session.enclosing }] }

/-- Drop the signals of a transaction, or all of them. -/
def discardQueuedDomainChanges (transactionId : Option Int) : SignalSession :=
  match transactionId with
  | none => { session with pending := [] }
  | some id =>
    { session with
      pending := session.pending.filter (·.transactionId ≠ id) }

/-- Hand the queue over to the transport.  The PostgreSQL transport tells the
stored rows by itself. -/
def publishQueuedDomainChanges (postgresTransport : Bool)
    (answer : QueuedDomainChange -> TransportAnswer) : SignalSession :=
  { session with
    pending := []
    published := session.published ++
      if postgresTransport = true then []
      else publishLoop answer false session.pending }

/-- A commit publishes, unless it is that of a savepoint. -/
def afterCommit (postgresTransport : Bool)
    (answer : QueuedDomainChange -> TransportAnswer) : SignalSession :=
  if session.nested = [] then
    session.publishQueuedDomainChanges postgresTransport answer
  else session

/-- A rollback empties the queue, unless it is that of a savepoint. -/
def afterRollback : SignalSession :=
  if session.nested = [] then session.discardQueuedDomainChanges none
  else session

/-- A savepoint that was rolled back takes its signals along; a root
transaction that has ended leaves none. -/
def afterSoftRollback (previousNested : Option Int) (inTransaction : Bool) :
    SignalSession :=
  match previousNested with
  | some id => session.discardQueuedDomainChanges (some id)
  | none =>
    if inTransaction = true then session
    else session.discardQueuedDomainChanges none

/-- The innermost savepoint ends. -/
def close : SignalSession :=
  { session with nested := session.nested.drop 1 }

/-- A new root transaction begins. -/
def restart (nextRootId : Int) : SignalSession :=
  { session with rootId := nextRootId, points := [] }

/-- Answers of a transport that accepts nothing; releasing a savepoint asks
for none. -/
def noAnswer : QueuedDomainChange → TransportAnswer :=
  fun _ => ⟨false, false⟩

/-- The change is one that may be queued. -/
def Accepts (change : DomainChange) : Prop :=
  validEventInput change.hotelId change.domain change.eventType = true
deriving Decidable

/-- One event.  Savepoints end before their root transaction does. -/
def step : SessionEvent → Option SignalSession
  | .queue change =>
    if Accepts change then some (session.queueDomainChange change) else none
  | .beginNested id =>
    if id = session.rootId ∨ session.nested.any (fun savepoint =>
        savepoint.transactionId = id) = true then none
    else some { session with
      nested := ⟨session.savepoints, id⟩ :: session.nested
      savepoints := session.savepoints + 1 }
  | .release =>
    if session.nested = [] then none
    else some (session.afterCommit false noAnswer).close
  | .rollbackNested =>
    match session.nested with
    | [] => none
    | savepoint :: _ =>
      some (({ session.afterRollback with
        rolledBack := savepoint.number :: session.rolledBack } :
          SignalSession).close.afterSoftRollback (some savepoint.transactionId) true)
  | .commit postgresTransport answer nextRootId =>
    if session.nested = [] then
      some ((session.afterCommit postgresTransport answer).restart nextRootId)
    else none
  | .rollback nextRootId =>
    if session.nested = [] then
      some ((session.afterRollback.afterSoftRollback none false).restart nextRootId)
    else none

/-- A session that has done nothing. -/
def init (rootId : Int) : SignalSession where
  rootId := rootId

end SignalSession

end HotelPms.Events
