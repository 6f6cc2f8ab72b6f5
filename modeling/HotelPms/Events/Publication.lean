import Mathlib.Algebra.Group.Nat.Defs
import HotelPms.Foundation.KeySort
import HotelPms.Foundation.RowStore

/-!
# Publication of outbox rows

A row is stored as pending with its business change.  The request that stored
it publishes it once and records the outcome in a transaction of its own,
which reads the row without a lock and writes the columns that have changed.
Workers select the rows that are due, skip the locked ones, keep the others
locked while they publish them, and record every outcome.  On the PostgreSQL
transport rows are stored as published and nothing of this is run.  Times are
in microseconds.
-/

namespace HotelPms.Events

open KeySort RowStore Transition

inductive OutboxStatus
  | pending
  | published
  | deadLetter
  deriving DecidableEq

/-- Columns of an outbox row that its delivery reads and writes. -/
structure OutboxDelivery where
  hotelId : Int
  status : OutboxStatus := .pending
  attempts : Nat := 0
  revision : Int := 0
  publishedAt : Option Int := none
  nextAttemptAt : Option Int := none
  deadLetteredAt : Option Int := none
  lastError : Option String := none
  deriving DecidableEq

/-- Failing attempts after which a row is given up. -/
def outboxMaxAttempts : Nat := 8

def outboxRetryBaseSeconds : Nat := 5

def outboxRetryMaxSeconds : Nat := 15 * 60

/-- Delay of the next attempt. -/
def outboxBackoffSeconds (attempts : Nat) : Nat :=
  min outboxRetryMaxSeconds (outboxRetryBaseSeconds * 2 ^ (attempts - 1))

/-- What a publication ends with: the revision it was given, or the name of
the error. -/
inductive PublishOutcome
  | published (revision : Int)
  | failed (errorType : String)
  deriving DecidableEq

def PublishOutcome.isFailure : PublishOutcome -> Bool
  | published _ => false
  | failed _ => true

/-- The transport as a whole is not available. -/
def realtimeEventsUnavailable : String := "RealtimeEventsUnavailable"

namespace OutboxDelivery

variable (row : OutboxDelivery)

def markPublished (revision now : Int) : OutboxDelivery :=
  { row with
    attempts := row.attempts + 1
    status := .published
    revision := revision
    publishedAt := some now
    lastError := none
    nextAttemptAt := none }

/-- An attempt has failed: the row is given up, or tried again later. -/
def markFailed (error : String) (now nextAttemptAt : Int) : OutboxDelivery :=
  if outboxMaxAttempts ≤ row.attempts + 1 then
    { row with
      attempts := row.attempts + 1
      lastError := some error
      status := .deadLetter
      deadLetteredAt := some now }
  else
    { row with
      attempts := row.attempts + 1
      lastError := some error
      status := .pending
      nextAttemptAt := some nextAttemptAt }

/-- Outcome of the attempt that a request has made. -/
def recordOutboxAttempt (outcome : PublishOutcome) (now : Int) :
    OutboxDelivery :=
  match outcome with
  | .published revision => row.markPublished revision now
  | .failed errorType => row.markFailed errorType now now

/-- Outcome of the attempt of a worker. -/
def publishPending (outcome : PublishOutcome) (now : Int) : OutboxDelivery :=
  match outcome with
  | .published revision => row.markPublished revision now
  | .failed errorType =>
    row.markFailed ("publish_failed:" ++ errorType) now
      (now + outboxBackoffSeconds (row.attempts + 1) * 1000000)

/-- Rows that a worker of a hotel selects. -/
def Due (hotelId now : Int) : Prop :=
  row.hotelId = hotelId ∧ row.publishedAt = none ∧ row.status ≠ .deadLetter ∧
    ∀ nextAttemptAt ∈ row.nextAttemptAt, nextAttemptAt ≤ now
deriving Decidable

end OutboxDelivery

def updatedColumn {α : Type} [DecidableEq α] (loaded changed current : α) : α :=
  if changed = loaded then current else changed

/-- Row after an update of the columns that were changed since it was
loaded. -/
def updatedRow (loaded changed current : OutboxDelivery) : OutboxDelivery where
  hotelId := updatedColumn loaded.hotelId changed.hotelId current.hotelId
  status := updatedColumn loaded.status changed.status current.status
  attempts := updatedColumn loaded.attempts changed.attempts current.attempts
  revision := updatedColumn loaded.revision changed.revision current.revision
  publishedAt := updatedColumn loaded.publishedAt changed.publishedAt current.publishedAt
  nextAttemptAt := updatedColumn loaded.nextAttemptAt changed.nextAttemptAt current.nextAttemptAt
  deadLetteredAt := updatedColumn loaded.deadLetteredAt changed.deadLetteredAt
    current.deadLetteredAt
  lastError := updatedColumn loaded.lastError changed.lastError current.lastError

/-- Row as a business transaction stores it. -/
def insertedOutboxRow (hotelId : Int) (postgresTransport : Bool) (now : Int) :
    OutboxDelivery :=
  if postgresTransport = true then
    { hotelId := hotelId, status := .published, publishedAt := some now }
  else { hotelId := hotelId }

/-! ## Sessions -/

/-- Answer of a worker's call. -/
structure OutboxSweepResult where
  selected : Nat
  published : Nat := 0
  failed : Nat := 0
  retryAfterSeconds : Option Nat := none
  backendUnavailable : Bool := false

/-- Answer with one more outcome; `attempts` are those of the row. -/
def OutboxSweepResult.count (result : OutboxSweepResult) (attempts : Nat) :
    PublishOutcome -> OutboxSweepResult
  | .published _ => { result with published := result.published + 1 }
  | .failed _ =>
    let backoff := outboxBackoffSeconds attempts
    { result with
      failed := result.failed + 1
      retryAfterSeconds := some (match result.retryAfterSeconds with
        | none => backoff
        | some earlier => min earlier backoff) }

/-- A worker's call: the rows it has selected and not yet published. -/
structure OutboxSweep where
  stopOnFailure : Bool
  remaining : List Int
  result : OutboxSweepResult

/-- Call after the first of its rows. -/
def OutboxSweep.next (sweep : OutboxSweep) (attempts : Nat)
    (outcome : PublishOutcome) : OutboxSweep :=
  if sweep.stopOnFailure = true ∧ outcome = .failed realtimeEventsUnavailable then
    { sweep with
      remaining := []
      result := { sweep.result.count attempts outcome with
        backendUnavailable := true } }
  else
    { sweep with
      remaining := sweep.remaining.drop 1
      result := sweep.result.count attempts outcome }

/-- An outcome that is written to a row. -/
inductive DeliveryEffect
  | record (outcome : PublishOutcome) (now : Int)
  | publish (outcome : PublishOutcome) (now : Int)

namespace DeliveryEffect

def outcome : DeliveryEffect -> PublishOutcome
  | record outcome _ => outcome
  | publish outcome _ => outcome

/-- Row that an outcome is written to, as the source does it. -/
def assign (row : OutboxDelivery) : DeliveryEffect -> OutboxDelivery
  | record outcome now => row.recordOutboxAttempt outcome now
  | publish outcome now => row.publishPending outcome now

end DeliveryEffect

/-- The rows, the open transactions, the objects that the sessions of requests
have loaded, and the outcomes that were written: by the open transactions, and
by the committed ones in the order of their commits. -/
structure PublicationSystem (τ : Type) where
  ids : List Int := []
  store : RowStore Int OutboxDelivery τ
  sweeps : τ -> Option OutboxSweep := fun _ => none
  loaded : τ -> Int -> Option OutboxDelivery := fun _ _ => none
  effects : τ -> List (Int × DeliveryEffect) := fun _ => []
  log : List (Int × DeliveryEffect) := []
  returned : List (τ × OutboxSweepResult) := []

inductive PublicationEvent (τ : Type)
  | insertRow (id hotelId : Int) (postgresTransport : Bool) (now : Int)
  | selectRows (worker : τ) (hotelId batchSize : Int) (stopOnFailure : Bool)
      (now : Int)
  | publishRow (worker : τ) (outcome : PublishOutcome) (now : Int)
  | loadRow (session : τ) (id : Int)
  | recordAttempt (session : τ) (id : Int) (outcome : PublishOutcome)
      (now : Int)
  | commit (owner : τ)
  | rollback (owner : τ)

namespace PublicationSystem

variable {τ : Type} [DecidableEq τ] (system : PublicationSystem τ) (owner : τ)

/-- There is no row. -/
def init : PublicationSystem τ where
  store := .initial fun _ => none

/-- The first rows of a hotel that are due and that no other transaction has
locked. -/
def pendingDomainEvents (hotelId batchSize now : Int) : List Int :=
  ((sortByKey id system.ids).filter fun rowId =>
    (system.store.visible owner rowId).any (·.Due hotelId now) &&
    decide (system.store.locks.Available rowId owner)).take (max batchSize 1).toNat

def lockRows (store : RowStore Int OutboxDelivery τ) (owner : τ) :
    List Int -> RowStore Int OutboxDelivery τ
  | [] => store
  | rowId :: rest =>
    if available : store.locks.Available rowId owner then
      lockRows (store.lock owner rowId available) owner rest
    else lockRows store owner rest

def selectRows (hotelId batchSize : Int) (stopOnFailure : Bool) (now : Int) : PublicationSystem τ :=
  let rows := system.pendingDomainEvents owner hotelId batchSize now
  { system with
    store := lockRows system.store owner rows
    sweeps := Function.update system.sweeps owner (some
        { stopOnFailure := stopOnFailure, remaining := rows
          result := { selected := rows.length } }) }

/-- Write a row and note the outcome; without its lock the session waits. -/
def writeRow (rowId : Int) (effect : DeliveryEffect)
    (change : OutboxDelivery -> OutboxDelivery) : Option (PublicationSystem τ) :=
  match system.store.updateWhere owner rowId (fun row => some (change row)) with
  | some (store, true) =>
    some { system with
      store := store
      effects := Function.update system.effects owner (system.effects owner ++ [(rowId, effect)]) }
  | _ => none

def publishRow (sweep : OutboxSweep) (rowId : Int) (outcome : PublishOutcome)
    (now : Int) : Option (PublicationSystem τ) :=
  (system.store.visible owner rowId).bind fun row =>
    (system.writeRow owner rowId (.publish outcome now) fun current =>
      current.publishPending outcome now).map fun after =>
        { after with
          sweeps := Function.update system.sweeps owner
            (some (sweep.next (row.attempts + 1) outcome)) }

/-- A request's session loads a row, unless it has done so before. -/
def loadRow (rowId : Int) : PublicationSystem τ :=
  { system with
    loaded := Function.update system.loaded owner (Function.update (system.loaded owner) rowId
        ((system.loaded owner rowId).or (system.store.visible owner rowId))) }

/-- The outcome is recorded on the loaded object, and the columns that have
changed are written. -/
def recordAttempt (rowId : Int) (row : OutboxDelivery)
    (outcome : PublishOutcome) (now : Int) : Option (PublicationSystem τ) :=
  let changed := row.recordOutboxAttempt outcome now
  (system.writeRow owner rowId (.record outcome now) fun current =>
    updatedRow row changed current).map fun after =>
      { after with
        loaded := Function.update system.loaded owner
          (Function.update (system.loaded owner) rowId (some changed)) }

/-- The transaction of a session ends; what it has loaded expires. -/
def finish (store : RowStore Int OutboxDelivery τ)
    (log : List (Int × DeliveryEffect)) : PublicationSystem τ :=
  { system with
    store := store
    sweeps := Function.update system.sweeps owner none
    loaded := Function.update system.loaded owner fun _ => none
    effects := Function.update system.effects owner []
    log := log
    returned := system.returned ++ (((system.sweeps owner).filter fun sweep =>
        sweep.remaining.isEmpty).map fun sweep => (owner, sweep.result)).toList }

/-- One event.  A worker commits when it has gone through its rows. -/
def step : PublicationEvent τ -> Option (PublicationSystem τ)
  | .insertRow rowId hotelId postgresTransport now =>
    if system.store.committed rowId = none ∧ system.store.locks.holder rowId = none then
      some { system with
        ids := rowId :: system.ids
        store := system.store.insert rowId (insertedOutboxRow hotelId postgresTransport now) }
    else none
  | .selectRows worker hotelId batchSize stopOnFailure now =>
    if system.sweeps worker = none then
      some (system.selectRows worker hotelId batchSize stopOnFailure now)
    else none
  | .publishRow worker outcome now =>
    match system.sweeps worker with
    | none => none
    | some sweep =>
      match sweep.remaining with
      | [] => none
      | rowId :: _ => system.publishRow worker sweep rowId outcome now
  | .loadRow session rowId =>
    if system.sweeps session = none then some (system.loadRow session rowId)
    else none
  | .recordAttempt session rowId outcome now =>
    if system.sweeps session = none then
      (system.loaded session rowId).bind fun row =>
        system.recordAttempt session rowId row outcome now
    else none
  | .commit owner =>
    if (system.sweeps owner).all (·.remaining.isEmpty) = true then
      some (system.finish owner (system.store.commit owner) (system.log ++ system.effects owner))
    else none
  | .rollback owner =>
    some (system.finish owner (system.store.rollback owner) system.log)

end PublicationSystem

end HotelPms.Events
