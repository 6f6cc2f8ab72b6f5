import HotelPms.Foundation.Transition
import Mathlib.Data.List.Chain
import Mathlib.Logic.Function.Basic

/-!
# Rotation of session tokens

A request with the current token of a session replaces it by a successor that
is derived from it; a request with the token before it recovers the successor
for two minutes.  Requests find their row by either digest and wait for its
lock, so any number of them rotate one chain of tokens.
-/

namespace HotelPms.Access

open Transition

/-- Digest of a token, and the successor derived from a session, its owner, the
digest of a token and that of the CSRF token. -/
structure SessionCodec where
  hashValue : String -> String
  successor : Int -> Int -> String -> String -> String

/-- Instants are counted in microseconds. -/
structure UserSession where
  id : Int
  userId : Int
  sessionTokenHash : String
  previousSessionTokenHash : Option String := none
  previousTokenRotatedAt : Option Int := none
  csrfTokenHash : String
  lastSeenAt : Int
  expiresAt : Int
  revokedAt : Option Int := none

def sessionAbsoluteTtl : Int := 30 * 24 * 60 * 60 * 1000000

def sessionIdleTtl : Int := 7 * 24 * 60 * 60 * 1000000

def rotationRecoveryWindow : Int := 120 * 1000000

def issueRotationSuccessor (codec : SessionCodec) (session : UserSession)
    (previousTokenHash : String) : String :=
  codec.successor session.id session.userId previousTokenHash session.csrfTokenHash

structure SessionRequest where
  sessionToken : String
  csrfTokenHeader : Option String
  csrfTokenCookie : Option String

def csrfDoubleSubmitMatches (header cookie : Option String) : Bool :=
  decide (header.getD "" ≠ "" ∧ cookie.getD "" ≠ "" ∧ header = cookie)

def SessionRequest.wellFormed (request : SessionRequest) : Bool :=
  decide (request.sessionToken ≠ "") &&
    csrfDoubleSubmitMatches request.csrfTokenHeader request.csrfTokenCookie

/-- The session is revoked or past one of its lifetimes. -/
def UserSession.Ended (session : UserSession) (now : Int) : Prop :=
  session.revokedAt ≠ none ∨ session.expiresAt ≤ now ∨ session.lastSeenAt + sessionIdleTtl ≤ now

def UserSession.rotated (codec : SessionCodec) (session : UserSession) (now : Int) : UserSession :=
  { session with
    previousSessionTokenHash := some session.sessionTokenHash
    previousTokenRotatedAt := some now
    sessionTokenHash := codec.hashValue
      (issueRotationSuccessor codec session session.sessionTokenHash)
    lastSeenAt := now }

/-- Decision on a locked row, found by its previous digest or its current
one. -/
def validateLocked (codec : SessionCodec) (session : UserSession)
    (request : SessionRequest) (isRotationReplay : Bool) (now : Int) :
    UserSession × Option String :=
  if session.revokedAt ≠ none then (session, none)
  else if session.expiresAt ≤ now ∨ session.lastSeenAt + sessionIdleTtl ≤ now then
    ({ session with revokedAt := some now }, none)
  else if session.csrfTokenHash ≠
      codec.hashValue (request.csrfTokenCookie.getD "") then (session, none)
  else if isRotationReplay then
    if session.previousTokenRotatedAt.any (fun rotatedAt => decide
        (rotatedAt ≤ now ∧ now - rotatedAt ≤ rotationRecoveryWindow)) then
      (session, some (issueRotationSuccessor codec session (codec.hashValue request.sessionToken)))
    else (session, none)
  else (session.rotated codec now,
    some (issueRotationSuccessor codec session session.sessionTokenHash))

/-- A call that holds the lock of the row. -/
structure LockedCall where
  call : Nat
  request : SessionRequest
  isRotationReplay : Bool

/-- The lookup of a call matches the row. -/
def UserSession.FoundBy (codec : SessionCodec) (session : UserSession)
    (locked : LockedCall) : Prop :=
  (if locked.isRotationReplay then session.previousSessionTokenHash
    else some session.sessionTokenHash) =
    some (codec.hashValue locked.request.sessionToken)
deriving Decidable

inductive SessionCall where
  | idle
  | looking (request : SessionRequest)
  | missed (request : SessionRequest)
  | revoking
  | answered (answer : Option String)

structure IssuedToken where
  token : String
  issuedAt : Int

/-- The committed row, its lock, the calls, and the tokens issued so far, the
newest first. -/
structure SessionState where
  session : UserSession
  lock : Option LockedCall := none
  calls : Nat → SessionCall := fun _ => .idle
  issued : List IssuedToken
  clock : Int

def createSession (codec : SessionCodec) (id userId now : Int)
    (sessionToken csrfToken : String) : SessionState where
  session := {
    id, userId
    sessionTokenHash := codec.hashValue sessionToken
    csrfTokenHash := codec.hashValue csrfToken
    lastSeenAt := now
    expiresAt := now + sessionAbsoluteTtl }
  issued := [{ token := sessionToken, issuedAt := now }]
  clock := now

inductive SessionEvent where
  | arrive (call : Nat) (request : SessionRequest)
  | lookCurrent (call : Nat)
  | lookPrevious (call : Nat)
  | finish (now : Int)
  | rollback
  | readRevoked (call : Nat)
  | writeRevoked (call : Nat) (now : Int)
  | pass (now : Int)

def SessionState.moved (state : SessionState) (call : Nat) (phase : SessionCall) : SessionState :=
  { state with calls := Function.update state.calls call phase }

/-- A lookup that finds the row waits for its lock and takes it. -/
def SessionState.look (state : SessionState) (codec : SessionCodec)
    (locked : LockedCall) (otherwise : SessionCall) : Option SessionState :=
  if state.session.FoundBy codec locked then
    if state.lock.isNone then some { state with lock := some locked }
    else none
  else some (state.moved locked.call otherwise)

def SessionState.finished (state : SessionState) (codec : SessionCodec)
    (locked : LockedCall) (now : Int) : SessionState :=
  let result := validateLocked codec state.session locked.request locked.isRotationReplay now
  { session := result.1
    calls := Function.update state.calls locked.call (.answered result.2)
    issued := if locked.isRotationReplay then state.issued
      else (result.2.map fun token =>
        { token, issuedAt := now }).toList ++ state.issued
    clock := now }

def sessionStep (codec : SessionCodec) (state : SessionState) : SessionEvent → Option SessionState
  | .arrive call request =>
    match state.calls call with
    | .idle => some (state.moved call
      (if request.wellFormed then .looking request else .answered none))
    | _ => none
  | .lookCurrent call =>
    match state.calls call with
    | .looking request => state.look codec
      { call, request, isRotationReplay := false } (.missed request)
    | _ => none
  | .lookPrevious call =>
    match state.calls call with
    | .missed request => state.look codec
      { call, request, isRotationReplay := true } (.answered none)
    | _ => none
  | .finish now =>
    match state.lock with
    | some locked =>
      if state.clock ≤ now then some (state.finished codec locked now)
      else none
    | none => none
  | .rollback => state.lock.map fun locked =>
    { state.moved locked.call (.answered none) with lock := none }
  | .readRevoked call =>
    match state.calls call with
    | .idle => some (state.moved call
      (if state.session.revokedAt = none then .revoking else .answered none))
    | _ => none
  | .writeRevoked call now =>
    match state.calls call with
    | .revoking =>
      if state.lock.isNone ∧ state.clock ≤ now then
        some { state.moved call (.answered none) with
          session := { state.session with revokedAt := some now }
          clock := now }
      else none
    | _ => none
  | .pass now =>
    if state.clock ≤ now then some { state with clock := now } else none

variable {codec : SessionCodec} {start session : UserSession}
  {state after : SessionState} {event : SessionEvent} {locked : LockedCall}
  {now : Int} {returned : String}

theorem validateLocked_cases (codec : SessionCodec) (session : UserSession)
    (request : SessionRequest) (replay : Bool) (now : Int) :
    validateLocked codec session request replay now = (session, none) ∨
    validateLocked codec session request replay now =
      ({ session with revokedAt := some now }, none) ∨
    ¬session.Ended now ∧ ((replay = true ∧
        (∃ rotatedAt, session.previousTokenRotatedAt = some rotatedAt ∧
          now - rotatedAt ≤ rotationRecoveryWindow) ∧
        validateLocked codec session request replay now =
          (session, some (issueRotationSuccessor codec session
            (codec.hashValue request.sessionToken)))) ∨
      (replay = false ∧ validateLocked codec session request replay now =
        (session.rotated codec now, some (issueRotationSuccessor codec session
          session.sessionTokenHash)))) := by
  unfold validateLocked
  by_cases revoked : session.revokedAt ≠ none
  · simp only [if_pos revoked, true_or]
  by_cases expired : session.expiresAt ≤ now ∨ session.lastSeenAt + sessionIdleTtl ≤ now
  · simp only [if_neg revoked, if_pos expired, true_or, or_true]
  simp only [if_neg revoked, if_neg expired]
  by_cases other : session.csrfTokenHash ≠ codec.hashValue (request.csrfTokenCookie.getD "")
  · simp only [if_pos other, true_or]
  simp only [if_neg other]
  have live : ¬(session.revokedAt ≠ none ∨ session.expiresAt ≤ now ∨
      session.lastSeenAt + sessionIdleTtl ≤ now) := by
    rintro (isRevoked | isExpired)
    · exact revoked isRevoked
    · exact expired isExpired
  cases replay with
  | false => exact .inr (.inr ⟨live, .inr (by simp)⟩)
  | true =>
    simp only [if_true]
    split_ifs with recent
    · obtain ⟨rotatedAt, isRotated, within⟩ := (Option.any_eq_true _ _).mp recent
      exact .inr (.inr ⟨live, .inl ⟨trivial,
        ⟨rotatedAt, isRotated, (decide_eq_true_eq.mp within).2⟩, rfl⟩⟩)
    · exact .inl rfl

/-- A step finishes a call, or keeps the tokens of the row. -/
theorem sessionStep_cases (taken : sessionStep codec state event = some after) :
    (∃ locked now, event = .finish now ∧ state.lock = some locked ∧
      state.clock ≤ now ∧ after = state.finished codec locked now) ∨
    ((after.session = state.session ∨ ∃ now,
        after.session = { state.session with revokedAt := some now }) ∧
      after.issued = state.issued ∧ state.clock ≤ after.clock ∧
      ∀ locked ∈ after.lock, locked ∈ state.lock ∨ state.session.FoundBy codec locked) := by
  unfold sessionStep at taken
  cases event with
  | finish now =>
    simp only at taken
    split at taken
    · next locked held =>
      split_ifs at taken with passed
      exact .inl ⟨locked, now, rfl, held, passed, (Option.some.inj taken).symm⟩
    · cases taken
  | lookCurrent call | lookPrevious call =>
    simp only [SessionState.look] at taken
    split at taken
    · split_ifs at taken with found
      · cases taken
        exact .inr ⟨.inl rfl, rfl, Int.le_refl _, fun locked isLocked =>
          .inr (Option.some.inj isLocked ▸ found)⟩
      · cases taken
        exact .inr ⟨.inl rfl, rfl, Int.le_refl _, fun _ => .inl⟩
    · cases taken
  | arrive call request | readRevoked call =>
    simp only at taken
    split at taken
    · cases taken
      exact .inr ⟨.inl rfl, rfl, Int.le_refl _, fun _ => .inl⟩
    · cases taken
  | rollback =>
    obtain ⟨locked, -, rfl⟩ := Option.map_eq_some_iff.mp taken
    exact .inr ⟨.inl rfl, rfl, Int.le_refl _, fun _ absent => nomatch absent⟩
  | writeRevoked call now =>
    simp only at taken
    split at taken
    · split_ifs at taken with free
      cases taken
      exact .inr ⟨.inr ⟨now, rfl⟩, rfl, free.2, fun _ => .inl⟩
    · cases taken
  | pass now =>
    simp only at taken
    split_ifs at taken with passed
    cases taken
    exact .inr ⟨.inl rfl, rfl, passed, fun _ => .inl⟩

/-- The row holds the digests of the two newest tokens of one chain, and the
holder of its lock was found by one of them. -/
structure OneChain (codec : SessionCodec) (start : UserSession)
    (state : SessionState) : Prop where
  current : ∃ newest older, state.issued = newest :: older ∧
    state.session.sessionTokenHash = codec.hashValue newest.token ∧
    state.session.previousSessionTokenHash = older.head?.map (codec.hashValue ·.token) ∧
    state.session.previousTokenRotatedAt = older.head?.map fun _ => newest.issuedAt
  chain : state.issued.IsChain fun newer older => newer.token =
    issueRotationSuccessor codec start (codec.hashValue older.token)
  found : ∀ locked ∈ state.lock, state.session.FoundBy codec locked
  derives : issueRotationSuccessor codec state.session = issueRotationSuccessor codec start

theorem OneChain.finished (holds : OneChain codec start state) (locked : LockedCall) (now : Int) :
    OneChain codec start (state.finished codec locked now) := by
  obtain ⟨newest, older, isIssued, current, -, -⟩ := holds.current
  have free : ∀ other ∈ (state.finished codec locked now).lock,
      (state.finished codec locked now).session.FoundBy codec other :=
    fun other absent => nomatch absent
  revert free
  unfold SessionState.finished
  rcases validateLocked_cases codec state.session locked.request
    locked.isRotationReplay now with kept | kept | ⟨-, replayed | rotated⟩
  · rw [kept]
    exact fun free => ⟨by simpa using holds.current,
      by simpa using holds.chain, free, holds.derives⟩
  · rw [kept]
    exact fun free => ⟨by simpa using holds.current,
      by simpa using holds.chain, free, holds.derives⟩
  · obtain ⟨isReplay, -, kept⟩ := replayed
    rw [kept, isReplay]
    exact (⟨holds.current, holds.chain, ·, holds.derives⟩)
  · obtain ⟨isCurrent, kept⟩ := rotated
    rw [kept, isCurrent, isIssued]
    refine (⟨⟨_, _, rfl, rfl, congrArg some current, rfl⟩, ?_, ·, holds.derives⟩)
    have chain := holds.chain
    rw [isIssued] at chain
    apply chain.cons_cons
    rw [← current]
    exact congrFun holds.derives _

theorem OneChain.step (holds : OneChain codec start state)
    (taken : sessionStep codec state event = some after) :
    OneChain codec start after := by
  rcases sessionStep_cases taken with ⟨locked, now, -, -, -, rfl⟩ | ⟨session, issued, -, held⟩
  · exact holds.finished locked now
  · have found : ∀ locked ∈ after.lock, state.session.FoundBy codec locked :=
      fun locked isLocked => (held locked isLocked).elim (holds.found locked) id
    obtain ⟨current, chain, -, derives⟩ := holds
    rw [← issued] at current chain
    rcases session with same | ⟨now, same⟩
    all_goals
      refine ⟨?_, chain, ?_, ?_⟩ <;> rw [same]
      · exact current
      · exact found
      · exact derives

theorem UserSession.Ended.later {instant : Int}
    (ended : session.Ended instant) (passed : instant ≤ now) :
    session.Ended now := by
  rcases ended with revoked | expired | idle
  · exact .inl revoked
  · exact .inr (.inl (Int.le_trans expired passed))
  · exact .inr (.inr (Int.le_trans idle passed))

theorem SessionState.finished_of_ended (ended : state.session.Ended now) (locked : LockedCall) :
    (state.finished codec locked now).session.Ended now ∧
      (state.finished codec locked now).calls locked.call = .answered none := by
  unfold SessionState.finished
  rcases validateLocked_cases codec state.session locked.request
    locked.isRotationReplay now with kept | kept | ⟨live, -⟩
  · rw [kept]
    exact ⟨ended, Function.update_self _ _ _⟩
  · rw [kept]
    exact ⟨.inl (by simp), Function.update_self _ _ _⟩
  · exact absurd ended live

def SessionState.HasEnded (state : SessionState) : Prop :=
  state.session.Ended state.clock

theorem SessionState.HasEnded.step (ended : state.HasEnded)
    (taken : sessionStep codec state event = some after) :
    after.HasEnded := by
  unfold SessionState.HasEnded
  rcases sessionStep_cases taken with ⟨locked, now, -, -, passed, rfl⟩ |
    ⟨same | ⟨now, same⟩, -, passed, -⟩
  · exact (SessionState.finished_of_ended (ended.later passed) locked).1
  · exact same ▸ ended.later passed
  · rw [same]
    exact .inl (by simp)

/-- An accepted token is the newest, or for two minutes the one before it: that
one recovers the newest and leaves the row as it is. -/
def SessionState.AcceptsLinearly (state after : SessionState)
    (token returned : String) (now : Int) : Prop :=
  ∃ newest older, state.issued = newest :: older ∧ ((token = newest.token ∧
        after.issued = { token := returned, issuedAt := now } :: state.issued) ∨
      (older.head?.map IssuedToken.token = some token ∧
        now - newest.issuedAt ≤ rotationRecoveryWindow ∧
        returned = newest.token ∧ after.session = state.session ∧
        after.issued = state.issued))

theorem OneChain.acceptsLinearly (injective : Function.Injective codec.hashValue)
    (holds : OneChain codec start state) (held : state.lock = some locked)
    (accepted : (state.finished codec locked now).calls locked.call = .answered (some returned)) :
    state.AcceptsLinearly (state.finished codec locked now)
      locked.request.sessionToken returned now := by
  obtain ⟨newest, older, isIssued, current, previous, rotatedAt⟩ := holds.current
  have found := holds.found locked held
  refine ⟨newest, older, isIssued, ?_⟩
  unfold SessionState.finished at accepted ⊢
  rcases validateLocked_cases codec state.session locked.request
    locked.isRotationReplay now with kept | kept | ⟨-, replayed | rotated⟩
  · rw [kept] at accepted
    simp at accepted
  · rw [kept] at accepted
    simp at accepted
  · right
    obtain ⟨isReplay, ⟨instant, isInstant, recent⟩, kept⟩ := replayed
    rw [kept] at accepted
    unfold UserSession.FoundBy at found
    rw [isReplay, if_pos rfl, previous] at found
    cases older with
    | nil => cases found
    | cons former rest =>
      have same : former.token = locked.request.sessionToken :=
        injective (Option.some.inj found)
      have chain := holds.chain
      rw [isIssued, List.isChain_cons_cons] at chain
      simp only [Function.update_self, SessionCall.answered.injEq,
        Option.some.injEq, holds.derives] at accepted
      rw [isInstant] at rotatedAt
      cases rotatedAt
      rw [kept, isReplay, ← same]
      refine ⟨rfl, recent, ?_, rfl, rfl⟩
      rw [chain.1, same, accepted]
  · left
    obtain ⟨isCurrent, kept⟩ := rotated
    rw [kept] at accepted
    unfold UserSession.FoundBy at found
    rw [isCurrent, current] at found
    simp only [Function.update_self, SessionCall.answered.injEq, Option.some.injEq] at accepted
    rw [kept, isCurrent, accepted]
    exact ⟨(injective (Option.some.inj found)).symm, rfl⟩

theorem finish_eq_some (held : state.lock = some locked)
    (taken : sessionStep codec state (.finish now) = some after) :
    state.clock ≤ now ∧ after = state.finished codec locked now := by
  simp only [sessionStep, held] at taken
  split_ifs at taken with passed
  exact ⟨passed, (Option.some.inj taken).symm⟩

theorem reaches_oneChain {guard : SessionState → SessionEvent → Prop} {id userId created : Int}
    {sessionToken csrfToken : String}
    (reached : Reaches (sessionStep codec) guard
      (createSession codec id userId created sessionToken csrfToken) state) :
    OneChain codec (createSession codec id userId created sessionToken
      csrfToken).session state := by
  apply reached.invariant _ fun holds _ taken => OneChain.step holds taken
  refine ⟨⟨_, _, rfl, rfl, rfl, rfl⟩, List.IsChain.singleton _, ?_, rfl⟩
  intro _ absent
  cases absent

/-- Over every history of calls, the tokens of a session are one chain, a call
is accepted only with the newest or shortly with the one before it, and none is
accepted once the session has ended. -/
theorem reaches_rotation_linear (injective : Function.Injective codec.hashValue)
    {guard : SessionState → SessionEvent → Prop} {id userId created : Int}
    {sessionToken csrfToken : String}
    (reached : Reaches (sessionStep codec) guard
      (createSession codec id userId created sessionToken csrfToken) state) :
    (state.issued.IsChain fun newer older => newer.token =
      codec.successor id userId (codec.hashValue older.token) (codec.hashValue csrfToken)) ∧
    (∀ locked now after returned, state.lock = some locked →
      sessionStep codec state (.finish now) = some after →
      after.calls locked.call = .answered (some returned) →
        state.AcceptsLinearly after locked.request.sessionToken returned now) ∧
    (state.HasEnded → ∀ later, Reaches (sessionStep codec) guard state later →
      ∀ locked now after, later.lock = some locked →
      sessionStep codec later (.finish now) = some after →
        after.calls locked.call = .answered none) := by
  have holds := reaches_oneChain reached
  refine ⟨holds.chain, ?_, ?_⟩
  · intro locked now after returned held taken accepted
    obtain ⟨-, rfl⟩ := finish_eq_some held taken
    exact holds.acceptsLinearly injective held accepted
  · intro ended later continued locked now after held taken
    have still : later.HasEnded :=
      continued.invariant ended fun ended _ taken => ended.step taken
    obtain ⟨passed, rfl⟩ := finish_eq_some held taken
    exact (SessionState.finished_of_ended (still.later passed) locked).2

def plainCodec : SessionCodec where
  hashValue := id
  successor := fun _ _ previousTokenHash _ => "usr1_" ++ previousTokenHash

def firstRequest : SessionRequest where
  sessionToken := "token"
  csrfTokenHeader := some "csrf"
  csrfTokenCookie := some "csrf"

/-- Two requests with the first token. -/
def racingCalls : List SessionEvent :=
  [.arrive 0 firstRequest, .arrive 1 firstRequest, .lookCurrent 0, .finish 5,
    .lookCurrent 1, .lookPrevious 1]

/-- The second of them recovers what the first was given. -/
theorem reaches_rotation_linear_race : ∃ state locked, run (sessionStep plainCodec)
        (createSession plainCodec 1 7 0 "token" "csrf") racingCalls = some state ∧
      state.lock = some locked ∧
      ∀ after returned, sessionStep plainCodec state (.finish 8) = some after ->
        after.calls locked.call = .answered (some returned) ->
        state.AcceptsLinearly after locked.request.sessionToken returned
          8 := by
  have ran : ((run (sessionStep plainCodec)
      (createSession plainCodec 1 7 0 "token" "csrf") racingCalls).bind
        SessionState.lock).isSome := by decide +kernel
  obtain ⟨locked, isLocked⟩ := Option.isSome_iff_exists.mp ran
  obtain ⟨state, isState, held⟩ := Option.bind_eq_some_iff.mp isLocked
  have guarded : Guarded (sessionStep plainCodec) (fun _ _ => True)
      (createSession plainCodec 1 7 0 "token" "csrf") racingCalls :=
    guarded_of_forall (fun _ _ => trivial) _ _
  have linear := reaches_rotation_linear (fun _ _ same => same) (reaches_of_run guarded isState)
  exact ⟨state, locked, isState, held, fun after returned =>
    linear.2.1 locked 8 after returned held⟩

end HotelPms.Access
