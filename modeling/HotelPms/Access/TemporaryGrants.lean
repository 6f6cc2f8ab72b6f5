import HotelPms.Foundation.Checked
import HotelPms.Foundation.KeySort
import HotelPms.Foundation.RowStore
import HotelPms.Foundation.Text

/-!
# Temporary grants

A grant lets one member of a hotel cancel one reservation once.  Approving,
denying, revoking, expiring and consuming grants are transactions of several
statements: reads, conditional updates, the write of the loaded object when
the session is flushed, and the commit.  Times are in seconds.  Memberships,
the second factor and the password hashes come from outside these rows; a
call that raises ends without a write.
-/

namespace HotelPms.Access

open Checked KeySort Transition

inductive GrantStatus
  | pending
  | approved
  | denied
  | used
  | expired
  | revoked
  deriving DecidableEq

/-- One short-lived authorization for one requester and one permission. -/
structure TemporaryActionGrant where
  hotelId : Int
  requesterUserId : Int
  approverUserId : Option Int := none
  permissionCode : String
  resourceType : Option String
  resourceId : Option String
  status : GrantStatus := .pending
  tokenHash : Option String := none
  createdAt : Int
  approvedAt : Option Int := none
  usedAt : Option Int := none
  expiresAt : Option Int := none

/-- A principal and the hotel of the request. -/
structure TemporaryGrantActor where
  userId : Int
  hotelId : Int

inductive TemporaryGrantError
  | notFound (message : String)
  | authorization (message : String)
  | state (message : String)
  | rateLimit (message : String)
  | mfa (message : String)
  | staleData

def permissionReservationCancel : String := "reservation:cancel"

/-- How long an approval is good for. -/
def temporaryGrantTtl : Int := 15 * 60

def temporaryGrantApproverRoles : List String := ["owner", "co_owner"]

/-- A conditional update of one grant. -/
inductive GrantEffect
  | approve (approver : TemporaryGrantActor) (tokenHash : String) (now : Int)
  | deny (approver : TemporaryGrantActor)
  | revoke (actor : TemporaryGrantActor)
  | expire (current : Int)
  | use (requester : TemporaryGrantActor) (resourceId : String) (now : Int)

variable (row : TemporaryActionGrant)

/-- Values that an update sets, and the loaded object sets again.  The hash is
not among those of the object. -/
def GrantEffect.assign : GrantEffect → TemporaryActionGrant
  | .approve approver _ now =>
    { row with
      approverUserId := some approver.userId
      status := .approved
      approvedAt := some now
      expiresAt := some (now + temporaryGrantTtl) }
  | .deny _ => { row with status := .denied }
  | .revoke _ => { row with status := .revoked }
  | .expire _ => { row with status := .expired }
  | .use _ _ now => { row with status := .used, usedAt := some now }

/-- The row passes the condition of an update. -/
def GrantEffect.Accepts : GrantEffect → Prop
  | .approve approver _ _ =>
    row.hotelId = approver.hotelId ∧ row.status = .pending
  | .deny approver => row.hotelId = approver.hotelId ∧ row.status = .pending
  | .revoke actor => row.hotelId = actor.hotelId ∧ row.status = .approved
  | .expire current =>
    row.status = .approved ∧ ∃ expiresAt ∈ row.expiresAt, expiresAt ≤ current
  | .use requester resourceId now =>
    row.hotelId = requester.hotelId ∧ row.requesterUserId = requester.userId ∧
      row.permissionCode = permissionReservationCancel ∧
      row.resourceType = some "reservation" ∧
      row.resourceId = some resourceId ∧
      row.status = .approved ∧
      ∃ expiresAt ∈ row.expiresAt, now < expiresAt

instance (row : TemporaryActionGrant) : ∀ effect : GrantEffect, Decidable (effect.Accepts row)
  | .approve _ _ _ => inferInstanceAs (Decidable (_ ∧ _))
  | .deny _ => inferInstanceAs (Decidable (_ ∧ _))
  | .revoke _ => inferInstanceAs (Decidable (_ ∧ _))
  | .expire _ => inferInstanceAs (Decidable (_ ∧ _))
  | .use _ _ _ => inferInstanceAs (Decidable (_ ∧ _))

/-- Row after an update, if the update accepts it. -/
def applyEffect (effect : GrantEffect) : Option TemporaryActionGrant :=
  if effect.Accepts row then
    match effect with
    | .approve _ tokenHash _ =>
      some { effect.assign row with tokenHash := some tokenHash }
    | _ => some (effect.assign row)
  else none

/-- A token presented for an action. -/
structure ConsumeCall where
  token : String
  requester : TemporaryGrantActor
  permissionCode : String
  resourceType : String
  resourceId : String

/-- Transactions of this service.  The role of an actor's active membership,
the answer of the second factor and the clock are given. -/
inductive GrantRequest
  | approve (grantId : Int) (approver : TemporaryGrantActor)
      (membership : Option String)
      (secondFactor : Except TemporaryGrantError Unit) (token : String)
      (now : Int)
  | deny (grantId : Int) (approver : TemporaryGrantActor)
      (membership : Option String)
  | revoke (grantId : Int) (actor : TemporaryGrantActor)
      (membership : Option String)
  | expire (hotelId : Option Int) (now : Int)
  | consume (call : ConsumeCall) (membership : Option String) (now : Int)

inductive CallResult
  | grant
  | count (expired : Nat)
  | consumed (allowed : Bool)
  deriving DecidableEq

/-- How far a call has come. -/
inductive GrantStage
  | comparing (grantId : Int) (effect : GrantEffect)
  | expiring (current : Int) (stale expired : List Int)
  | flushingExpired (current : Int) (unflushed : List Int) (count : Nat)
  | matching (requester : TemporaryGrantActor) (token resourceId : String)
      (now : Int) (candidates : List (Int × Option String))
  | flushing (grantId : Int) (effect : GrantEffect) (result : CallResult)
  | finished (result : CallResult)

/-- An open call, with the updates it has made. -/
structure GrantSession where
  request : GrantRequest
  stage : GrantStage
  effects : List (Int × GrantEffect) := []

structure CommittedCall where
  request : GrantRequest
  result : CallResult
  effects : List (Int × GrantEffect)

structure PasswordScheme where
  hashPassword : String -> String
  verifyPassword : String -> String -> Bool

def PasswordScheme.tokenMatches (scheme : PasswordScheme) (token : String)
    (tokenHash : Option String) : Bool :=
  match tokenHash with
  | some stored => stored != "" && scheme.verifyPassword token stored
  | none => false

/-- The rows, the open calls and the committed ones in the order of their
commits.  Queries return rows in the order of `ids`. -/
structure GrantSystem (τ : Type) where
  ids : List Int
  store : RowStore Int TemporaryActionGrant τ
  sessions : τ -> Option GrantSession := fun _ => none
  log : List CommittedCall := []

/-- Number that decimal digits spell. -/
def decimalValue (text : String) : Option Nat :=
  text.toList.foldlM (fun number digit =>
    if digit.isDigit then some (10 * number + (digit.toNat - '0'.toNat))
    else none) 0

/-- Number of a reservation in its canonical spelling.  A sign, a blank or a
separator spells no number canonically. -/
def canonicalReservationId (resourceId : String) : Option String :=
  let value := Text.strip resourceId
  match decimalValue value with
  | some number =>
    if 0 < number ∧ toString number = value then some value else none
  | none => none

/-- A call names the one action that grants are for. -/
def ConsumeCall.Supported (call : ConsumeCall) : Prop :=
  call.permissionCode = permissionReservationCancel ∧
    call.resourceType = "reservation" ∧ Text.strip call.token ≠ "" ∧
    call.token.length ≤ 512
deriving Decidable

def activeMembership (membership : Option String) : Except TemporaryGrantError String :=
  match membership with
  | some role => pure role
  | none => throw (.authorization "El usuario no tiene una membership activa en este hotel")

def requireApprover (membership : Option String) : Except TemporaryGrantError Unit := do
  let role ← activeMembership membership
  raiseIf (role ∉ temporaryGrantApproverRoles)
    (.authorization "Solo owner o co_owner puede aprobar grants")

namespace GrantSystem

variable {τ : Type} [DecidableEq τ] (system : GrantSystem τ) (session : τ)

/-- No call is open. -/
def initial (ids : List Int) (rows : Int → Option TemporaryActionGrant) : GrantSystem τ where
  ids := ids
  store := .initial rows

/-- Rows a session reads that satisfy a condition. -/
def select (condition : TemporaryActionGrant -> Bool) : List (Int × TemporaryActionGrant) :=
  (system.ids.filterMap fun id => (system.store.visible session id).map fun row => (id, row)).filter
      (condition ·.2)

def grantForActor (grantId : Int) (actor : TemporaryGrantActor) :
    Except TemporaryGrantError TemporaryActionGrant :=
  match system.store.visible session grantId with
  | some row => do
    raiseIf (row.hotelId ≠ actor.hotelId) (.notFound "Grant no encontrado")
    pure row
  | none => throw (.notFound "Grant no encontrado")

/-- Stale approvals, of one hotel or of all. -/
def staleGrants (hotelId : Option Int) (current : Int) : List Int :=
  (system.select session fun row =>
    decide (row.status = .approved ∧ (∃ expiresAt ∈ row.expiresAt, expiresAt ≤ current) ∧
      ∀ hotel ∈ hotelId, row.hotelId = hotel)).map Prod.fst

/-- Approvals that a call may consume, the older ones first. -/
def candidates (requester : TemporaryGrantActor) (resourceId : String)
    (now : Int) : List (Int × Option String) :=
  (sortByKey (·.2.createdAt) (system.select session fun row =>
      decide ((GrantEffect.use requester resourceId now).Accepts row))).map
        fun found => (found.1, found.2.tokenHash)

/-- An approver's decision over a grant it reads in some status. -/
def openDecision (grantId : Int) (actor : TemporaryGrantActor)
    (membership : Option String) (expected : GrantStatus)
    (refusal : String) : Except TemporaryGrantError Unit := do
  let row ← system.grantForActor session grantId actor
  requireApprover membership
  raiseIf (row.status ≠ expected) (.state refusal)

variable (scheme : PasswordScheme) (current : GrantSession)

/-- Reads and checks of a call before its first update. -/
def openRequest : GrantRequest → Except TemporaryGrantError GrantStage
  | .approve grantId approver membership secondFactor token now => do
    system.openDecision session grantId approver membership .pending "El grant no esta pendiente"
    secondFactor
    pure (.comparing grantId (.approve approver (scheme.hashPassword token) now))
  | .deny grantId approver membership => do
    system.openDecision session grantId approver membership .pending "El grant no esta pendiente"
    pure (.comparing grantId (.deny approver))
  | .revoke grantId actor membership => do
    system.openDecision session grantId actor membership .approved
      "Solo se puede revocar un grant aprobado"
    pure (.comparing grantId (.revoke actor))
  | .expire hotelId now =>
    pure (.expiring now (system.staleGrants session hotelId now) [])
  | .consume call membership now =>
    if call.Supported then
      match canonicalReservationId call.resourceId with
      | none => pure (.finished (.consumed false))
      | some _ => do
        let _ ← activeMembership membership
        pure (.expiring now (system.staleGrants session (some call.requester.hotelId) now) [])
    else pure (.finished (.consumed false))

/-- Let one call go on over some rows. -/
def advance (store : RowStore Int TemporaryActionGrant τ)
    (current : GrantSession) (stage : GrantStage) : GrantSystem τ :=
  { system with
    store := store
    sessions := Function.update system.sessions session (some { current with stage := stage }) }

/-- Let one call go on after an update that it made. -/
def record (store : RowStore Int TemporaryActionGrant τ)
    (current : GrantSession) (grantId : Int) (effect : GrantEffect)
    (stage : GrantStage) : GrantSystem τ :=
  { system with
    store := store
    sessions := Function.update system.sessions session (some { current with
        stage := stage
        effects := current.effects ++ [(grantId, effect)] }) }

/-- End a call without a write. -/
def rollback : GrantSystem τ :=
  { system with
    store := system.store.rollback session
    sessions := Function.update system.sessions session none }

/-- End a call with its writes. -/
def commit (current : GrantSession) (result : CallResult) : GrantSystem τ :=
  { system with
    store := system.store.commit session
    sessions := Function.update system.sessions session none
    log := system.log ++ [{
      request := current.request
      result := result
      effects := current.effects }] }

/-- A conditional update, and how the call goes on when it changed a row and
when it did not. -/
def compareAndSet (grantId : Int) (effect : GrantEffect) (changed : GrantStage)
    (unchanged : GrantSystem τ) : Option (GrantSystem τ) :=
  match system.store.updateWhere session grantId fun row =>
      applyEffect row effect with
  | none => none
  | some (store, true) =>
    some (system.record session store current grantId effect changed)
  | some (_, false) => some unchanged

/-- The loaded object is written by its number, whatever the row holds. -/
def flush (grantId : Int) (effect : GrantEffect) (next : GrantStage) : Option (GrantSystem τ) :=
  match system.store.updateWhere session grantId fun row =>
      some (effect.assign row) with
  | none => none
  | some (store, true) => some (system.advance session store current next)
  | some (_, false) => some (system.rollback session)

/-- After the stale approvals are expired, a consumption reads its
candidates. -/
def afterExpiry (count : Nat) : GrantStage :=
  match current.request with
  | .consume call _ now =>
    match canonicalReservationId call.resourceId with
    | none => .finished (.consumed false)
    | some resourceId =>
      .matching call.requester (Text.strip call.token) resourceId now
        (system.candidates session call.requester resourceId now)
  | _ => .finished (.count count)

/-- Next statement of an open call. -/
def next : Option (GrantSystem τ) :=
  match current.stage with
  | .comparing grantId effect =>
    -- a grant that left its status in between raises
    system.compareAndSet session current grantId effect
      (.flushing grantId effect .grant) (system.rollback session)
  | .expiring now [] expired =>
    some (system.advance session system.store current (.flushingExpired now expired expired.length))
  | .expiring now (grantId :: stale) expired =>
    system.compareAndSet session current grantId (.expire now)
      (.expiring now stale (expired ++ [grantId]))
      (system.advance session system.store current (.expiring now stale expired))
  | .flushingExpired _ [] count =>
    some (system.advance session system.store current (system.afterExpiry session current count))
  | .flushingExpired now (grantId :: unflushed) count =>
    system.flush session current grantId (.expire now) (.flushingExpired now unflushed count)
  | .matching _ _ _ _ [] =>
    some (system.advance session system.store current (.finished (.consumed false)))
  | .matching requester token resourceId now ((grantId, hash) :: rest) =>
    if scheme.tokenMatches token hash = true then
      system.compareAndSet session current grantId (.use requester resourceId now)
        (.flushing grantId (.use requester resourceId now) (.consumed true))
        (system.advance session system.store current
          (.matching requester token resourceId now rest))
    else
      some (system.advance session system.store current
        (.matching requester token resourceId now rest))
  | .flushing grantId effect result =>
    system.flush session current grantId effect (.finished result)
  | .finished result => some (system.commit session current result)

/-- A session begins a call, takes its next statement, or gives it up. -/
inductive Statement (τ : Type)
  | begin_ (session : τ) (request : GrantRequest)
  | next (session : τ)
  | rollback (session : τ)

/-- Interleaving of the statements of all sessions. -/
def step (system : GrantSystem τ) : Statement τ -> Option (GrantSystem τ)
  | .begin_ session request =>
    match system.sessions session with
    | some _ => none
    | none =>
      match system.openRequest session scheme request with
      | .ok stage =>
        some (system.advance session system.store { request := request, stage := stage } stage)
      | .error _ => some system
  | .next session =>
    (system.sessions session).bind (system.next session scheme ·)
  | .rollback session => some (system.rollback session)

end GrantSystem
end HotelPms.Access
