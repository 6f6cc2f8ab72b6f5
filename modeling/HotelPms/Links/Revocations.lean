import HotelPms.Foundation.RowStore
import HotelPms.Links.State

/-!
# Revocations at the provider

A cancelled link leaves a checkout at the provider that has to be invalidated.
Workers claim one link after the other, each claim in a short transaction of
its own, call the provider without a transaction, and record the outcome in a
third one.  Claims that are older than five minutes go back to the queue.  A
transaction of another call may come between any two statements, and a worker
may stop at any of them.  Times are in seconds.
-/

namespace HotelPms.Links

open RowStore Transition

/-- Columns of a link that its revocation reads and writes. -/
structure RevocableLink where
  hotelId : Int
  reservationId : Int
  status : LinkStatus
  executionMode : ExecutionMode
  provider : String
  providerRevocationStatus : RevocationStatus := .notRequired
  providerRevocationAttempts : Nat := 0
  providerRevocationLastAttemptAt : Option Int := none
  providerRevocationError : Option String := none

/-- What a call of the provider ends with. -/
inductive GatewayAnswer
  | returned (result : Json)
  | externalEffectsDisabled
  | paymentLinkError (message : String)
  | otherError

/-- What is recorded for an attempt. -/
inductive RevocationOutcome
  | succeeded
  | failed (error : String)
  deriving DecidableEq

/-- Errors of the provider that are recorded as they are. -/
def safeRevocationCodes : List String :=
  ["preference_id_unavailable", "provider_preference_unavailable",
    "provider_account_mismatch", "provider_preference_mismatch",
    "provider_rejected_revocation", "provider_revocation_unconfirmed"]

def Json.isTrue : Json -> Bool
  | .bool value => value
  | _ => false

/-- The provider says that the checkout has expired. -/
def preferenceExpired (result : Json) : Bool :=
  result.isObject && (result.get? "preference_expired").any Json.isTrue

def paymentLinkErrorCode (message : String) : String :=
  if message ∈ safeRevocationCodes then message else "provider_unconfirmed"

def GatewayAnswer.outcome : GatewayAnswer -> RevocationOutcome
  | .returned result =>
    if preferenceExpired result = true then .succeeded
    else .failed (paymentLinkErrorCode "provider_revocation_unconfirmed")
  | .externalEffectsDisabled => .failed "external_connections_disabled"
  | .paymentLinkError message => .failed (paymentLinkErrorCode message)
  | .otherError => .failed "provider_unconfirmed"

/-- After this long a claim counts as abandoned. -/
def staleClaimSeconds : Int := 5 * 60

namespace RevocableLink

variable (row : RevocableLink)

/-- A claim without a time, or with one that is too old. -/
def StaleClaim (now : Int) : Prop :=
  row.providerRevocationStatus = .processing ∧
    ∀ last ∈ row.providerRevocationLastAttemptAt, last ≤ now - staleClaimSeconds
deriving Decidable

/-- A cancelled checkout whose revocation is queued. -/
def Candidate : Prop :=
  row.status = .cancelled ∧ row.providerRevocationStatus = .pending ∧
    row.executionMode = .provider ∧
    row.provider ∈ ["mercado_pago", "mercadopago"]
deriving Decidable

/-- The claim with this number is the current one. -/
def ClaimedWith (attempt : Nat) : Prop :=
  row.providerRevocationStatus = .processing ∧ row.providerRevocationAttempts = attempt
deriving Decidable

end RevocableLink

/-- An update of the revocation columns, with the worker that makes it. -/
inductive RevocationEffect (τ : Type)
  | queue
  | reclaim (now : Int)
  | claim (worker : τ) (attempt : Nat) (now : Int)
  | settle (worker : τ) (attempt : Nat) (outcome : RevocationOutcome)
  deriving DecidableEq

namespace RevocationEffect

variable {τ : Type}

/-- Values that an update sets. -/
def assign (row : RevocableLink) : RevocationEffect τ → RevocableLink
  | queue => { row with
      status := .cancelled
      providerRevocationStatus := .pending
      providerRevocationError := none }
  | reclaim _ => { row with providerRevocationStatus := .pending }
  | claim _ attempt now => { row with
      providerRevocationStatus := .processing
      providerRevocationAttempts := attempt
      providerRevocationLastAttemptAt := some now }
  | settle _ _ .succeeded => { row with
      providerRevocationStatus := .succeeded
      providerRevocationError := none }
  | settle _ _ (.failed error) => { row with
      providerRevocationStatus := .failed
      providerRevocationError := some error }

/-- Rows that an update is meant for. -/
def Accepts (row : RevocableLink) : RevocationEffect τ → Prop
  | queue => row.providerRevocationStatus = .notRequired
  | reclaim now => row.StaleClaim now
  | claim _ attempt _ =>
    row.Candidate ∧ row.providerRevocationAttempts + 1 = attempt
  | settle _ attempt _ => row.ClaimedWith attempt

instance (row : RevocableLink) : ∀ effect : RevocationEffect τ, Decidable (effect.Accepts row)
  | queue => inferInstanceAs (Decidable (_ = _))
  | reclaim now => inferInstanceAs (Decidable (row.StaleClaim now))
  | claim _ _ _ => inferInstanceAs (Decidable (_ ∧ _))
  | settle _ attempt _ => inferInstanceAs (Decidable (row.ClaimedWith attempt))

def claimNumber : RevocationEffect τ -> Option Nat
  | claim _ attempt _ => some attempt
  | _ => none

end RevocationEffect

/-- Row after an update, if the update is meant for it. -/
def applyRevocation {τ : Type} (row : RevocableLink)
    (effect : RevocationEffect τ) : Option RevocableLink :=
  if effect.Accepts row then some (effect.assign row) else none

/-! ## Workers -/

/-- How far a worker has come with its next link. -/
inductive RevocationStage
  | ready
  | reclaiming (now : Int) (stale : List Int)
  | claiming (linkId : Int) (attempt : Nat) (now : Int)
  | verifying (linkId : Int) (attempt : Nat)
  | calling (linkId : Int) (attempt : Nat)
  | recording (linkId : Int) (attempt : Nat) (outcome : RevocationOutcome)
  | settling (linkId : Int) (attempt : Nat) (outcome : RevocationOutcome)

/-- Link and attempt that a worker has claimed. -/
def RevocationStage.held : RevocationStage -> Option (Int × Nat)
  | ready => none
  | reclaiming _ _ => none
  | claiming linkId attempt _ => some (linkId, attempt)
  | verifying linkId attempt => some (linkId, attempt)
  | calling linkId attempt => some (linkId, attempt)
  | recording linkId attempt _ => some (linkId, attempt)
  | settling linkId attempt _ => some (linkId, attempt)

structure RevocationCounts where
  processed : Nat := 0
  succeeded : Nat := 0
  failed : Nat := 0
  skipped : Nat := 0

def RevocationCounts.record (counts : RevocationCounts) : RevocationOutcome -> RevocationCounts
  | .succeeded => { counts with
      processed := counts.processed + 1
      succeeded := counts.succeeded + 1 }
  | .failed _ => { counts with processed := counts.processed + 1, failed := counts.failed + 1 }

def RevocationCounts.skip (counts : RevocationCounts) : RevocationCounts :=
  { counts with skipped := counts.skipped + 1 }

/-- An open call of the processor. -/
structure RevocationWorker where
  hotelId : Int
  reservationId : Option Int := none
  boundedLimit : Int
  claimCount : Nat := 0
  counts : RevocationCounts := {}
  stage : RevocationStage := .ready

/-- The link belongs to the hotel, and to the reservation if one is named. -/
def RevocationWorker.InScope (worker : RevocationWorker) (row : RevocableLink) : Prop :=
  row.hotelId = worker.hotelId ∧
    ∀ reservationId ∈ worker.reservationId, row.reservationId = reservationId
deriving Decidable

/-- The links, the open calls and what has been updated: by the open
transactions, and by the committed ones in the order of their commits.
Queries return rows in the order of `ids`. -/
structure RevocationSystem (τ : Type) where
  ids : List Int
  store : RowStore Int RevocableLink τ
  workers : τ -> Option RevocationWorker := fun _ => none
  effects : τ -> List (Int × RevocationEffect τ) := fun _ => []
  log : List (Int × RevocationEffect τ) := []
  returned : List (τ × RevocationCounts) := []

namespace RevocationSystem

variable {τ : Type} [DecidableEq τ] (system : RevocationSystem τ) (worker : τ)

/-- No call is open. -/
def initial (ids : List Int) (rows : Int → Option RevocableLink) : RevocationSystem τ where
  ids := ids
  store := .initial rows

/-- Rows a worker reads that satisfy a condition. -/
def select (condition : RevocableLink -> Bool) : List Int :=
  system.ids.filter fun id => (system.store.visible worker id).any condition

/-- First row that satisfies a condition and is not locked by another one. -/
def selectForUpdateSkipLocked (condition : RevocableLink -> Bool) : Option Int :=
  (system.select worker condition).find? (system.store.locks.Available · worker)

variable (current : RevocationWorker) (now : Int)

/-- Let one worker go on. -/
def advance (stage : RevocationStage) : RevocationSystem τ :=
  { system with
    workers := Function.update system.workers worker (some { current with stage := stage }) }

def lockRow (id : Int) (current : RevocationWorker)
    (stage : RevocationStage) : Option (RevocationSystem τ) :=
  if available : system.store.locks.Available id worker then
    some (({ system with
      store := system.store.lock worker id available }).advance worker current stage)
  else none

/-- An update of one row.  Without the lock of the row the worker waits. -/
def update (id : Int) (effect : RevocationEffect τ)
    (change : RevocableLink → Option RevocableLink) :
    Option (RevocationSystem τ × Bool) :=
  match system.store.updateWhere worker id change with
  | none => none
  | some (_, false) => some (system, false)
  | some (store, true) => some ({ system with
      store := store
      effects := Function.update system.effects worker
        (system.effects worker ++ [(id, effect)]) }, true)

/-- The transaction of a worker is committed. -/
def commit : RevocationSystem τ :=
  { system with
    store := system.store.commit worker
    effects := Function.update system.effects worker []
    log := system.log ++ system.effects worker }

/-- The transaction of a worker is given up. -/
def rollback : RevocationSystem τ :=
  { system with
    store := system.store.rollback worker
    effects := Function.update system.effects worker [] }

/-- The call of a worker returns. -/
def return_ (counts : RevocationCounts) : RevocationSystem τ :=
  { system with
    workers := Function.update system.workers worker none
    returned := system.returned ++ [(worker, counts)] }

/-- A worker stops where it is. -/
def crash : RevocationSystem τ :=
  { system.rollback worker with workers := Function.update system.workers worker none }

/-- The written row is flushed and the transaction committed.  The object is
written by its number, whatever the row holds; without its row the flush
raises. -/
def flushAndCommit (id : Int) (effect : RevocationEffect τ)
    (current : RevocationWorker) (stage : RevocationStage) :
    Option (RevocationSystem τ) :=
  match system.update worker id effect fun row => some (effect.assign row) with
  | none => none
  | some (after, true) => some ((after.commit worker).advance worker current stage)
  | some (_, false) => some (system.crash worker)

/-- Begin with the next link: give back the stale claims, or return. -/
def beginIteration : RevocationSystem τ :=
  if (current.claimCount : Int) < current.boundedLimit then
    system.advance worker current (.reclaiming now (system.select worker fun row =>
        decide (current.InScope row ∧ row.StaleClaim now)))
  else system.return_ worker current.counts

/-- Give one stale claim back, unless it has changed meanwhile. -/
def reclaim (current : RevocationWorker) (now id : Int) (stale : List Int) :
    Option (RevocationSystem τ) :=
  (system.update worker id (.reclaim now) fun row =>
    if current.InScope row ∧ row.StaleClaim now then
      some ((RevocationEffect.reclaim now : RevocationEffect τ).assign row)
    else none).map (·.1.advance worker current (.reclaiming now stale))

/-- Lock the first queued link, or return when there is none. -/
def selectCandidate : Option (RevocationSystem τ) :=
  match system.selectForUpdateSkipLocked worker fun row =>
      decide (current.InScope row ∧ row.Candidate) with
  | none => some ((system.commit worker).return_ worker current.counts)
  | some id =>
    (system.store.visible worker id).bind fun row =>
      system.lockRow worker id current (.claiming id (row.providerRevocationAttempts + 1) now)

/-- The row is still claimed with the number of the attempt. -/
def HoldsClaim (attempt : Nat) (row : RevocableLink) : Prop :=
  row.hotelId = current.hotelId ∧ row.ClaimedWith attempt
deriving Decidable

/-- Read the claimed row again, without a lock. -/
def verify (id : Int) (attempt : Nat) : RevocationSystem τ :=
  if (system.store.visible worker id).any fun row => decide (HoldsClaim current attempt row) then
    (system.commit worker).advance worker current (.calling id attempt)
  else
    (system.commit worker).advance worker { current with counts := current.counts.skip } .ready

/-- Lock the row for its outcome, unless it is locked or claimed anew. -/
def selectCurrentLink (id : Int) (attempt : Nat) (outcome : RevocationOutcome) :
    Option (RevocationSystem τ) :=
  if ((system.store.visible worker id).any (HoldsClaim current attempt ·)) = true ∧
      system.store.locks.Available id worker then
    system.lockRow worker id current (.settling id attempt outcome)
  else
    some ((system.rollback worker).advance worker
      { current with counts := current.counts.skip } .ready)

/-- Next statement of an open call.  A call of the provider goes on with its
answer only. -/
def next : Option (RevocationSystem τ) :=
  match current.stage with
  | .ready => some (system.beginIteration worker current now)
  | .reclaiming started (id :: stale) =>
    system.reclaim worker current started id stale
  | .reclaiming started [] => system.selectCandidate worker current started
  | .claiming id attempt started =>
    system.flushAndCommit worker id (.claim worker attempt started)
      { current with claimCount := current.claimCount + 1 }
      (.verifying id attempt)
  | .verifying id attempt => some (system.verify worker current id attempt)
  | .calling _ _ => none
  | .recording id attempt outcome =>
    system.selectCurrentLink worker current id attempt outcome
  | .settling id attempt outcome =>
    system.flushAndCommit worker id (.settle worker attempt outcome)
      { current with counts := current.counts.record outcome } .ready

/-- The provider answers the call of a worker. -/
def answer (answered : GatewayAnswer) : Option (RevocationSystem τ) :=
  match current.stage with
  | .calling id attempt => some (system.advance worker current
      (.recording id attempt answered.outcome))
  | _ => none

/-- A call of `process_payment_link_revocations` begins.  While connections
are closed it returns at once. -/
def call (hotelId : Int) (reservationId : Option Int) (limit : Int)
    (externalConnectionsEnabled : Bool) : RevocationSystem τ :=
  if externalConnectionsEnabled = true then
    { system with
      workers := Function.update system.workers worker (some {
        hotelId := hotelId
        reservationId := reservationId
        boundedLimit := max 1 (min limit 100) }) }
  else
    { system with returned := system.returned ++ [(worker, { skipped := 1 })] }

/-- The cancellation of a link that was not queued before is committed. -/
def queue (id : Int) : Option (RevocationSystem τ) :=
  (system.update worker id .queue fun row =>
    applyRevocation row (.queue : RevocationEffect τ)).map (·.1.commit worker)

end RevocationSystem

/-- A call begins, takes its next statement, gets the answer of the provider
or stops; or a link is queued. -/
inductive RevocationEvent (τ : Type)
  | call (worker : τ) (hotelId : Int) (reservationId : Option Int)
      (limit : Int) (externalConnectionsEnabled : Bool)
  | next (worker : τ) (now : Int)
  | answer (worker : τ) (answered : GatewayAnswer)
  | crash (worker : τ)
  | queue (session : τ) (id : Int)

namespace RevocationSystem

variable {τ : Type} [DecidableEq τ]

/-- Interleaving of the statements of all calls. -/
def step (system : RevocationSystem τ) : RevocationEvent τ -> Option (RevocationSystem τ)
  | .call worker hotelId reservationId limit externalConnectionsEnabled =>
    match system.workers worker with
    | some _ => none
    | none => some (system.call worker hotelId reservationId limit externalConnectionsEnabled)
  | .next worker now =>
    (system.workers worker).bind (system.next worker · now)
  | .answer worker answered =>
    (system.workers worker).bind (system.answer worker · answered)
  | .crash worker => some (system.crash worker)
  | .queue session id =>
    match system.workers session with
    | some _ => none
    | none => system.queue session id

end RevocationSystem
end HotelPms.Links
