import HotelPms.Foundation.Transition
import HotelPms.Subscriptions.Entitlements
import Mathlib.Data.List.Count

/-!
# Entitlements stay within what was granted

A hotel starts one trial, which a snapshot offers exactly when it would be
accepted.  The legacy subscription mirrors the canonical one, and a trial that
is over does not write.  A comped subscription keeps writing: the validity of
its adjustment is part of the record alone.
-/

namespace HotelPms.Subscriptions

open Checked

/-- What has set the status of the subscription. -/
inductive StatusOrigin
  | other
  | trial (endAt : Int)
  | comped (validUntil : Option Int)
  deriving DecidableEq

inductive SubscriptionCall
  | startTrial (planCode : String)
  | endTrial
  | suspend
  | grantComped (request : CompedRequest)
  | changePlan (planCode : String)
  | setRoomLimit (roomLimit : Int)
  | clearRoomLimit
  | snapshot
  deriving DecidableEq

/-- The tables, with what has set the status. -/
structure TracedState where
  state : SubscriptionState := {}
  origin : StatusOrigin := .other

section

variable (defaultKey : String -> String -> Option Int -> String)

/-- What a call leaves, with enforcement on. -/
def performCall (state : SubscriptionState) (now : Int) :
    SubscriptionCall -> Except String SubscriptionState
  | .startTrial planCode => startTrial state now planCode
  | .endTrial => endTrial state
  | .suspend => .ok (suspendSubscription state)
  | .grantComped request => grantComped defaultKey state now request
  | .changePlan planCode =>
    (changeSubscriptionPlan state true now planCode).map Prod.fst
  | .setRoomLimit roomLimit => .ok (setRoomLimitOverride state roomLimit)
  | .clearRoomLimit => .ok (clearRoomLimitOverride state)
  | .snapshot => .ok (getSubscriptionSnapshot state true now).1

/-- What has set the status after a call that was accepted.  The end of a
trial suspends it without another origin. -/
def originAfter (before : TracedState) (after : SubscriptionState)
    (now : Int) : SubscriptionCall -> StatusOrigin
  | .startTrial _ => .trial (now + trialDuration)
  | .suspend | .changePlan _ => .other
  | .grantComped request =>
    if after.adjustments = before.state.adjustments then before.origin
    else .comped request.validUntil
  | .endTrial | .setRoomLimit _ | .clearRoomLimit | .snapshot => before.origin

/-- A call at a time; a refused call changes nothing. -/
def subscriptionStep (before : TracedState) (event : Int × SubscriptionCall) : Option TracedState :=
  match performCall defaultKey before.state event.1 event.2 with
  | .ok after => some
      { state := after, origin := originAfter before after event.1 event.2 }
  | .error _ => some before

end

/-- No room limit is overridden by zero. -/
def PositiveLimit (_ : TracedState) (event : Int × SubscriptionCall) : Prop :=
  event.2 ≠ .setRoomLimit 0
deriving Decidable

/-- The legacy subscription mirrors the canonical one. -/
def Mirrors (state : SubscriptionState) : Prop :=
  ∀ sub legacy, state.subscription = some sub -> state.legacy = some legacy ->
      legacy.planCode = sub.plan.code ∧ legacy.roomLimitOverride = some sub.effectiveRoomLimit ∧
        (legacy.status = "active" ↔ sub.status.WriteOk)

def StatusOrigin.Explains (origin : StatusOrigin) (state : SubscriptionState) : Prop :=
  match origin with
  | .other => True
  | .trial endAt => ∃ sub, state.subscription = some sub ∧
      (sub.status = .suspended ∨ sub.status = .trialing ∧ sub.trialEndAt = some endAt)
  | .comped _ => ∃ sub, state.subscription = some sub ∧ sub.status = .comped

/-- Facts that every call keeps. -/
structure TracedState.Consistent (traced : TracedState) : Prop where
  hotel : traced.state.subscriptionActive ≠ none
  oneTrial : traced.state.events.count .trialStarted ≤ 1
  mirrors : Mirrors traced.state
  explained : traced.origin.Explains traced.state

theorem consistent_of_missing {state : SubscriptionState} (hotel : state.subscriptionActive ≠ none)
    (missing : state.subscription = none) (noEvents : state.events = []) :
    TracedState.Consistent { state := state } := by
  constructor
  · exact hotel
  · show state.events.count .trialStarted ≤ 1
    rw [noEvents]
    decide
  · intro sub legacy isSub
    rw [missing] at isSub
    cases isSub
  · trivial

section Writes

variable {state : SubscriptionState} {sub : Subscription} {plan : Plan}
  {roomLimit now : Int} {statusValue : String}

theorem Mirrors.recordEvent (mirrors : Mirrors state)
    (event : SubscriptionEvent) : Mirrors (state.recordEvent event) :=
  mirrors

@[simp] theorem syncLegacyTables_subscription :
    (syncLegacyTables state plan roomLimit statusValue).subscription = state.subscription := rfl

@[simp] theorem syncLegacyTables_adjustments :
    (syncLegacyTables state plan roomLimit statusValue).adjustments = state.adjustments := rfl

theorem syncLegacyTables_hotel (hotel : state.subscriptionActive ≠ none) :
    (syncLegacyTables state plan roomLimit statusValue).subscriptionActive ≠ none := by
  intro isNone
  exact hotel (Option.map_eq_none_iff.mp isNone)

/-- The legacy row is written from the canonical one. -/
theorem mirrors_syncLegacyTables (stored : state.subscription = some sub)
    (samePlan : plan = sub.plan)
    (sameLimit : roomLimit = sub.effectiveRoomLimit)
    (sameStatus : statusValue = "active" ↔ sub.status.WriteOk) :
    Mirrors (syncLegacyTables state plan roomLimit statusValue) := by
  intro other legacy isOther isLegacy
  rw [syncLegacyTables_subscription, stored] at isOther
  cases isOther
  cases isLegacy
  refine ⟨?_, ?_, sameStatus⟩
  · rw [samePlan]
  · rw [sameLimit]

theorem legacyStatusForV2_eq_active {status : SubscriptionStatus} :
    legacyStatusForV2 status = "active" ↔ status.WriteOk := by
  unfold legacyStatusForV2
  split_ifs with writes
  · exact ⟨fun _ => writes, fun _ => rfl⟩
  · constructor
    · intro paused
      exact absurd paused (by decide)
    · intro allowed
      exact absurd allowed writes

theorem effectiveRoomLimit_some (limit : Int) (positive : limit ≠ 0)
    (isLimit : sub.roomLimit = some limit) :
    sub.effectiveRoomLimit = limit := by
  unfold Subscription.effectiveRoomLimit orDefault
  rw [isLimit]
  exact if_neg positive

theorem Plan.roomLimit_ne_zero (plan : Plan) : plan.roomLimit ≠ 0 := by
  cases plan <;> decide

end Writes

/-! ## What the operations write -/

/-- The tables hold a subscription, and the logs are as they were. -/
structure Holds (before after : SubscriptionState) (sub : Subscription) :
    Prop where
  stored : after.subscription = some sub
  events : after.events = before.events
  adjustments : after.adjustments = before.adjustments
  hotel : before.subscriptionActive ≠ none -> after.subscriptionActive ≠ none

/-- Canonical and legacy rows are written, and an event may be added. -/
structure Written (before after : SubscriptionState) (sub : Subscription)
    (events : List SubscriptionEvent) : Prop where
  stored : after.subscription = some sub
  events : after.events = before.events ++ events
  hotel : before.subscriptionActive ≠ none -> after.subscriptionActive ≠ none
  mirrors : Mirrors after

section Operations

variable {state found : SubscriptionState} {sub written : Subscription}

theorem ensureSubscriptionSeed_holds (state : SubscriptionState)
    (plan : Plan) (status : SubscriptionStatus) :
    Holds state (ensureSubscriptionSeed state plan status).1
      (ensureSubscriptionSeed state plan status).2 := by
  unfold ensureSubscriptionSeed
  cases stored : state.subscription with
  | none =>
    exact ⟨rfl, rfl, rfl, (syncLegacyTables_hotel ·)⟩
  | some sub =>
    cases state.legacy with
    | none =>
      exact ⟨stored, rfl, rfl, (syncLegacyTables_hotel ·)⟩
    | some legacy => exact ⟨stored, rfl, rfl, id⟩

theorem ensureSubscriptionSeed_of_stored (plan : Plan)
    (status : SubscriptionStatus) (stored : state.subscription = some sub) :
    (ensureSubscriptionSeed state plan status).2 = sub := by
  unfold ensureSubscriptionSeed
  rw [stored]
  cases state.legacy with
  | none => rfl
  | some legacy => rfl

theorem upsertSubscription_holds (state : SubscriptionState) (plan : Plan)
    (status : SubscriptionStatus) :
    Holds state (upsertSubscription state plan status).1
      (upsertSubscription state plan status).2 := by
  unfold upsertSubscription
  cases state.subscription with
  | none => exact ensureSubscriptionSeed_holds state plan status
  | some sub => exact ⟨rfl, rfl, rfl, id⟩

theorem storedOrSeeded_holds (state : SubscriptionState) (plan : Plan) :
    Holds state (storedOrSeeded state plan).1 (storedOrSeeded state plan).2 := by
  unfold storedOrSeeded
  cases stored : state.subscription with
  | none => exact ensureSubscriptionSeed_holds state plan .active
  | some sub => exact ⟨stored, rfl, rfl, id⟩

theorem trialEventExists_congr (same : found.events = state.events) :
    found.trialEventExists = state.trialEventExists := by
  unfold SubscriptionState.trialEventExists
  rw [same]

theorem written_syncLegacyTables {plan : Plan} {roomLimit : Int}
    {statusValue : String} (holds : Holds state found sub)
    (samePlan : plan = written.plan)
    (sameLimit : roomLimit = written.effectiveRoomLimit)
    (sameStatus : statusValue = "active" ↔ written.status.WriteOk) :
    Written state (syncLegacyTables (found.writeSubscription written) plan roomLimit
        statusValue) written [] := by
  constructor
  · rfl
  · rw [List.append_nil]
    exact holds.events
  · exact fun hotel => syncLegacyTables_hotel (holds.hotel hotel)
  · exact mirrors_syncLegacyTables rfl samePlan sameLimit sameStatus

variable {after : SubscriptionState} {events : List SubscriptionEvent}

theorem Written.recordEvent
    (isWritten : Written state after sub events) (event : SubscriptionEvent) :
    Written state (after.recordEvent event) sub (events ++ [event]) := by
  constructor
  · exact isWritten.stored
  · show after.events ++ [event] = _
    rw [isWritten.events, List.append_assoc]
  · exact isWritten.hotel
  · exact isWritten.mirrors

theorem setRoomLimitOverride_written {roomLimit : Int} (positive : roomLimit ≠ 0) :
    ∃ sub after, after = { sub with roomLimit := some roomLimit } ∧
      (∀ old, state.subscription = some old -> sub = old) ∧
      Written state (setRoomLimitOverride state roomLimit) after [] := by
  have holds := ensureSubscriptionSeed_holds state .starter .active
  refine ⟨_, _, rfl, ?_, written_syncLegacyTables holds rfl ?_ legacyStatusForV2_eq_active⟩
  · intro old stored
    exact ensureSubscriptionSeed_of_stored .starter .active stored
  · exact (effectiveRoomLimit_some roomLimit positive rfl).symm

theorem clearRoomLimitOverride_written :
    ∃ sub after, after = { sub with roomLimit := some sub.plan.roomLimit } ∧
      (∀ old, state.subscription = some old -> sub = old) ∧
      Written state (clearRoomLimitOverride state) after [] := by
  have holds := ensureSubscriptionSeed_holds state .starter .active
  refine ⟨_, _, rfl, ?_, written_syncLegacyTables holds rfl ?_ legacyStatusForV2_eq_active⟩
  · intro old stored
    exact ensureSubscriptionSeed_of_stored .starter .active stored
  · exact (effectiveRoomLimit_some _ (Plan.roomLimit_ne_zero _) rfl).symm

theorem suspendSubscription_written : ∃ sub after, after = { sub with
        status := .suspended
        canWriteCache := false } ∧
      (∀ old, state.subscription = some old -> sub = old) ∧
      Written state (suspendSubscription state) after [.subscriptionSuspended] := by
  have paused : ("paused" : String) = "active" ↔ SubscriptionStatus.suspended.WriteOk := by
    decide
  unfold suspendSubscription
  cases stored : state.subscription with
  | none =>
    have holds := upsertSubscription_holds state .starter .suspended
    refine ⟨(upsertSubscription state .starter .suspended).2, _, rfl, ?_, ?_⟩
    · intro old isOld
      cases isOld
    · exact (written_syncLegacyTables holds rfl rfl paused).recordEvent .subscriptionSuspended
  | some sub =>
    have holds : Holds state state sub := ⟨stored, rfl, rfl, id⟩
    refine ⟨sub, _, rfl, ?_, ?_⟩
    · intro old isOld
      exact Option.some.inj isOld
    · exact (written_syncLegacyTables holds rfl rfl paused).recordEvent .subscriptionSuspended

theorem Written.afterEvent {event : SubscriptionEvent}
    (isWritten : Written (state.recordEvent event) after sub events) :
    Written state after sub (event :: events) := by
  constructor
  · exact isWritten.stored
  · rw [isWritten.events]
    exact List.append_assoc _ _ _
  · exact isWritten.hotel
  · exact isWritten.mirrors

variable {now : Int}

theorem startTrial_eq_ok {planCode : String} (started : startTrial state now planCode = .ok after) :
    state.trialEventExists = false ∧ ∃ sub, sub.status = .trialing ∧
        sub.trialEndAt = some (now + trialDuration) ∧
        Written state after sub [.trialStarted] := by
  have allowed : ("active" : String) = "active" ↔ SubscriptionStatus.trialing.WriteOk := by
    decide
  unfold startTrial at started
  split at started
  · cases started
  · next plan isPlan =>
    obtain ⟨_, -, started⟩ := bind_eq_ok.mp started
    obtain ⟨_, -, started⟩ := bind_eq_ok.mp started
    have holds := storedOrSeeded_holds state .starter
    obtain ⟨_, eligible, started⟩ := bind_eq_ok.mp started
    rw [raiseIf_eq_ok, not_not] at eligible
    rw [← pure_eq_ok.mp started]
    refine ⟨?_, _, rfl, rfl, (written_syncLegacyTables holds rfl rfl
      allowed).recordEvent .trialStarted⟩
    rw [← trialEventExists_congr holds.events]
    exact eligible.2.2.1

theorem suspend_trialEnded (stored : state.subscription = some sub) :
    Written state (suspendSubscription (state.recordEvent .trialEnded)) { sub with
        status := .suspended
        canWriteCache := false } [.trialEnded, .subscriptionSuspended] := by
  obtain ⟨old, after, rfl, isOld, isWritten⟩ :=
    @suspendSubscription_written (state.recordEvent .trialEnded)
  rw [isOld sub stored] at isWritten
  exact isWritten.afterEvent

theorem endTrial_eq_ok (ended : endTrial state = .ok after) :
    after = state ∨ ∃ sub, state.subscription = some sub ∧ sub.status = .trialing ∧
      Written state after { sub with
          status := .suspended
          canWriteCache := false } [.trialEnded, .subscriptionSuspended] := by
  unfold endTrial at ended
  split at ended
  · cases ended
  · next sub stored =>
    by_cases trialing : sub.status = .trialing
    · rw [if_neg (not_not.mpr trialing)] at ended
      rw [← Except.ok.inj ended]
      exact .inr ⟨sub, stored, trialing, suspend_trialEnded stored⟩
    · rw [if_pos trialing] at ended
      exact .inl (Except.ok.inj ended).symm

theorem upsertSubscription_plan (state : SubscriptionState) (plan : Plan)
    (status : SubscriptionStatus) :
    (upsertSubscription state plan status).2.plan = plan ∧
      (upsertSubscription state plan status).2.status = status := by
  unfold upsertSubscription ensureSubscriptionSeed
  cases state.subscription with
  | none => exact ⟨rfl, rfl⟩
  | some sub => exact ⟨rfl, rfl⟩

theorem grantComped_eq_ok {defaultKey : String -> String -> Option Int -> String}
    {request : CompedRequest}
    (granted : grantComped defaultKey state now request = .ok after) :
    after = state ∨ (after.adjustments ≠ state.adjustments ∧
      ∃ sub, sub.status = .comped ∧ Written state after sub [.compedGranted]) := by
  have allowed : ("active" : String) = "active" ↔ SubscriptionStatus.comped.WriteOk := by
    decide
  unfold grantComped at granted
  split at granted
  · cases granted
  · next plan isPlan =>
    obtain ⟨_, -, granted⟩ := bind_eq_ok.mp granted
    obtain ⟨_, -, granted⟩ := bind_eq_ok.mp granted
    simp only at granted
    split at granted
    · obtain ⟨_, -, granted⟩ := bind_eq_ok.mp granted
      exact .inl (pure_eq_ok.mp granted).symm
    · right
      have holds := upsertSubscription_holds state plan .comped
      have isUpserted := upsertSubscription_plan state plan .comped
      rw [← pure_eq_ok.mp granted]
      constructor
      · intro same
        have longer := congrArg List.length same
        simp [SubscriptionState.recordEvent, holds.adjustments] at longer
      · have isComped : (compedSubscription (upsertSubscription state plan .comped).2 now).status =
              .comped := isUpserted.2
        have samePlan : plan = (compedSubscription
            (upsertSubscription state plan .comped).2 now).plan :=
          isUpserted.1.symm
        have isActive : ("active" : String) = "active" ↔
            (compedSubscription (upsertSubscription state plan .comped).2 now).status.WriteOk := by
          rw [isComped]
          exact allowed
        refine ⟨_, isComped, rfl, ?_, ?_, ?_⟩
        · show (upsertSubscription state plan .comped).1.events ++ _ = _
          rw [holds.events]
        · intro hotel isNone
          exact holds.hotel hotel (Option.map_eq_none_iff.mp isNone)
        · exact (mirrors_syncLegacyTables rfl samePlan rfl isActive).recordEvent .compedGranted

/-- The same tables, but for the write flag of the subscription. -/
structure SameButFlag (before after : SubscriptionState) (sub : Subscription) :
    Prop where
  stored : ∃ flag, after.subscription = some { sub with canWriteCache := flag }
  legacy : after.legacy = before.legacy
  events : after.events = before.events
  hotel : after.subscriptionActive = before.subscriptionActive

theorem reportSubscription_keeps {trialAvailable dirty : Bool}
    (stored : state.subscription = some sub) :
    SameButFlag state (reportSubscription state sub trialAvailable dirty true now).1 sub := by
  unfold reportSubscription
  simp only
  split_ifs
  · exact ⟨⟨sub.canWriteCache, stored⟩, rfl, rfl, rfl⟩
  · exact ⟨⟨_, rfl⟩, rfl, rfl, rfl⟩

theorem getSubscriptionSnapshot_stored (stored : state.subscription = some sub) :
    (TrialOver sub now ∧ ∃ ended, Written state ended { sub with
              status := .suspended
              canWriteCache := false } [.trialEnded, .subscriptionSuspended] ∧
          SameButFlag ended (getSubscriptionSnapshot state true now).1 { sub with
              status := .suspended
              canWriteCache := false }) ∨
      (¬TrialOver sub now ∧ SameButFlag state (getSubscriptionSnapshot state true now).1 sub) := by
  unfold getSubscriptionSnapshot
  rw [stored]
  unfold snapshotSubscription
  simp only
  by_cases ends : TrialOver sub now
  · rw [if_pos ends]
    have ended := suspend_trialEnded stored
    exact .inl ⟨ends, _, ended, reportSubscription_keeps ended.stored⟩
  · rw [if_neg ends]
    exact .inr ⟨ends, reportSubscription_keeps stored⟩

theorem Mirrors.sameButFlag (mirrors : Mirrors state) (stored : state.subscription = some sub)
    (same : SameButFlag state after sub) : Mirrors after := by
  intro other legacy isOther isLegacy
  obtain ⟨flag, isStored⟩ := same.stored
  rw [isStored] at isOther
  rw [same.legacy] at isLegacy
  cases isOther
  exact mirrors sub legacy stored isLegacy

theorem Written.sameButFlag {middle after : SubscriptionState}
    (isWritten : Written state middle sub events)
    (same : SameButFlag middle after sub) :
    ∃ flag, Written state after { sub with canWriteCache := flag }
      events := by
  obtain ⟨flag, stored⟩ := same.stored
  refine ⟨flag, stored, ?_, ?_, ?_⟩
  · rw [same.events, isWritten.events]
  · rw [same.hotel]
    exact isWritten.hotel
  · exact isWritten.mirrors.sameButFlag isWritten.stored same

/-- An active plan, which the snapshot keeps. -/
theorem changeSubscriptionPlan_eq_ok {planCode : String}
    (changed : (changeSubscriptionPlan state true now planCode).map Prod.fst = .ok after) :
    ∃ sub, Written state after sub [.planChanged] := by
  have allowed : ("active" : String) = "active" ↔ SubscriptionStatus.active.WriteOk := by
    decide
  obtain ⟨snapshot, changed⟩ := map_fst_eq_ok.mp changed
  unfold changeSubscriptionPlan at changed
  split at changed
  · cases changed
  · next plan isPlan =>
    have holds := storedOrSeeded_holds state plan
    have sameLimit : plan.roomLimit = (paidSubscription
        (storedOrSeeded state plan).2 plan).effectiveRoomLimit :=
      (effectiveRoomLimit_some _ (Plan.roomLimit_ne_zero plan) rfl).symm
    have isWritten := (written_syncLegacyTables holds
      (show plan = (paidSubscription _ plan).plan from rfl) sameLimit
      allowed).recordEvent .planChanged
    cases changed
    rcases @getSubscriptionSnapshot_stored _ _ now isWritten.stored with ⟨ends, -⟩ | ⟨-, same⟩
    · cases ends.1
    · obtain ⟨flag, isKept⟩ := isWritten.sameButFlag same
      exact ⟨_, isKept⟩

end Operations

section Kept

variable {defaultKey : String -> String -> Option Int -> String}
  {traced : TracedState} {after : SubscriptionState} {sub : Subscription}
  {origin : StatusOrigin} {events : List SubscriptionEvent} {now : Int}

/-- The terms of a status are kept, or its trial is suspended. -/
def KeepsTerms (before after : Subscription) : Prop :=
  (after.status = before.status ∧ after.trialEndAt = before.trialEndAt) ∨
    (before.status = .trialing ∧ after.status = .suspended)

theorem StatusOrigin.Explains.keeps {state : SubscriptionState}
    (explains : origin.Explains state) (stored : after.subscription = some sub)
    (keeps : ∀ old, state.subscription = some old -> KeepsTerms old sub) :
    origin.Explains after := by
  cases origin with
  | other => trivial
  | trial endAt =>
    obtain ⟨old, isOld, status⟩ := explains
    refine ⟨sub, stored, ?_⟩
    rcases keeps old isOld with ⟨sameStatus, sameEnd⟩ | ⟨-, suspended⟩
    · rw [sameStatus, sameEnd]
      exact status
    · exact .inl suspended
  | comped validUntil =>
    obtain ⟨old, isOld, comped⟩ := explains
    refine ⟨sub, stored, ?_⟩
    rcases keeps old isOld with ⟨sameStatus, -⟩ | ⟨trialing, -⟩
    · rw [sameStatus, comped]
    · rw [comped] at trialing
      cases trialing

theorem TracedState.Consistent.written (consistent : traced.Consistent)
    (isWritten : Written traced.state after sub events)
    (trials : traced.state.events.count .trialStarted + events.count .trialStarted ≤ 1)
    (explains : origin.Explains after) :
    TracedState.Consistent { state := after, origin := origin } := by
  constructor
  · exact isWritten.hotel consistent.hotel
  · show after.events.count .trialStarted ≤ 1
    rw [isWritten.events, List.count_append]
    exact trials
  · exact isWritten.mirrors
  · exact explains

theorem TracedState.Consistent.kept (consistent : traced.Consistent)
    (isWritten : Written traced.state after sub events)
    (noTrial : events.count .trialStarted = 0)
    (keeps : ∀ old, traced.state.subscription = some old -> KeepsTerms old sub) :
    TracedState.Consistent { state := after, origin := traced.origin } := by
  apply consistent.written isWritten
  · rw [noTrial]
    exact consistent.oneTrial
  · exact consistent.explained.keeps isWritten.stored keeps

theorem count_trialStarted_eq_zero {state : SubscriptionState}
    (noTrial : state.trialEventExists = false) :
    state.events.count .trialStarted = 0 := by
  apply List.count_eq_zero.mpr
  exact of_decide_eq_false noTrial

theorem TracedState.Consistent.snapshot (consistent : traced.Consistent) (now : Int) :
    TracedState.Consistent
      { state := (getSubscriptionSnapshot traced.state true now).1
        origin := traced.origin } := by
  cases stored : traced.state.subscription with
  | none =>
    have same : (getSubscriptionSnapshot traced.state true now).1 = traced.state := by
      unfold getSubscriptionSnapshot
      rw [stored]
      rfl
    rw [same]
    exact consistent
  | some sub =>
    rcases @getSubscriptionSnapshot_stored _ _ now stored with
      ⟨ends, ended, isWritten, same⟩ | ⟨-, same⟩
    · obtain ⟨flag, isKept⟩ := isWritten.sameButFlag same
      apply consistent.kept isKept (by decide)
      intro old isOld
      rw [stored] at isOld
      cases isOld
      exact .inr ⟨ends.1, rfl⟩
    · obtain ⟨flag, isStored⟩ := same.stored
      constructor
      · show (getSubscriptionSnapshot traced.state true now).1.subscriptionActive ≠ none
        rw [same.hotel]
        exact consistent.hotel
      · show (getSubscriptionSnapshot traced.state true now).1.events.count .trialStarted ≤ 1
        rw [same.events]
        exact consistent.oneTrial
      · exact consistent.mirrors.sameButFlag stored same
      · apply consistent.explained.keeps isStored
        intro old isOld
        rw [stored] at isOld
        cases isOld
        exact .inl ⟨rfl, rfl⟩

theorem consistent_performCall {call : SubscriptionCall} (consistent : traced.Consistent)
    (positive : PositiveLimit traced (now, call))
    (performed : performCall defaultKey traced.state now call = .ok after) :
    TracedState.Consistent
      { state := after
        origin := originAfter traced after now call } := by
  cases call with
  | startTrial planCode =>
    obtain ⟨noTrial, sub, trialing, ends, isWritten⟩ := startTrial_eq_ok performed
    apply consistent.written isWritten
    · rw [count_trialStarted_eq_zero noTrial]
      decide
    · exact ⟨sub, isWritten.stored, .inr ⟨trialing, ends⟩⟩
  | endTrial =>
    rcases endTrial_eq_ok performed with rfl | ⟨sub, stored, trialing, isWritten⟩
    · exact consistent
    · apply consistent.kept isWritten (by decide)
      intro old isOld
      rw [stored] at isOld
      cases isOld
      exact .inr ⟨trialing, rfl⟩
  | suspend =>
    obtain ⟨sub, written, -, -, isWritten⟩ := @suspendSubscription_written traced.state
    rw [← Except.ok.inj performed]
    apply consistent.written isWritten
    · exact consistent.oneTrial
    · trivial
  | grantComped request =>
    rcases grantComped_eq_ok performed with rfl | ⟨isNew, sub, comped, isWritten⟩
    · simp only [originAfter]
      exact consistent
    · simp only [originAfter]
      rw [if_neg isNew]
      apply consistent.written isWritten
      · exact consistent.oneTrial
      · exact ⟨sub, isWritten.stored, comped⟩
  | changePlan planCode =>
    obtain ⟨sub, isWritten⟩ := changeSubscriptionPlan_eq_ok performed
    apply consistent.written isWritten
    · exact consistent.oneTrial
    · trivial
  | setRoomLimit roomLimit =>
    have isPositive : roomLimit ≠ 0 := by
      rintro rfl
      exact positive rfl
    obtain ⟨sub, written, rfl, isOld, isWritten⟩ :=
      @setRoomLimitOverride_written traced.state _ isPositive
    rw [← Except.ok.inj performed]
    apply consistent.kept isWritten (by decide)
    intro old stored
    rw [isOld old stored]
    exact .inl ⟨rfl, rfl⟩
  | clearRoomLimit =>
    obtain ⟨sub, written, rfl, isOld, isWritten⟩ := @clearRoomLimitOverride_written traced.state
    rw [← Except.ok.inj performed]
    apply consistent.kept isWritten (by decide)
    intro old stored
    rw [isOld old stored]
    exact .inl ⟨rfl, rfl⟩
  | snapshot =>
    rw [← Except.ok.inj performed]
    exact consistent.snapshot now

end Kept

section Reports

variable {state : SubscriptionState} {sub : Subscription} {now later : Int}

theorem startTrial_ok_iff {planCode : String} (hotel : state.subscriptionActive ≠ none)
    (known : (catalogPlan? planCode).isSome = true) :
    (∃ after, startTrial state now planCode = .ok after) ↔
      legacySubscriptionAllowsTrial state = true ∧
        TrialEligible (storedOrSeeded state .starter).1 (storedOrSeeded state .starter).2 := by
  obtain ⟨plan, isPlan⟩ := Option.isSome_iff_exists.mp known
  unfold startTrial
  rw [isPlan]
  constructor
  · rintro ⟨after, started⟩
    obtain ⟨_, -, started⟩ := bind_eq_ok.mp started
    obtain ⟨_, allowed, started⟩ := bind_eq_ok.mp started
    obtain ⟨_, eligible, -⟩ := bind_eq_ok.mp started
    rw [raiseIf_eq_ok, not_not] at eligible
    rw [raiseIf_eq_ok, Bool.not_eq_false] at allowed
    exact ⟨allowed, eligible⟩
  · rintro ⟨allowed, eligible⟩
    refine ⟨_, bind_eq_ok.mpr ⟨(), raiseIf_eq_ok.mpr hotel, bind_eq_ok.mpr
      ⟨(), ?_, bind_eq_ok.mpr ⟨(), ?_, rfl⟩⟩⟩⟩
    · rw [raiseIf_eq_ok, allowed]
      exact Bool.noConfusion
    · rw [raiseIf_eq_ok, not_not]
      exact eligible

theorem snapshot_trialAvailable (stored : state.subscription = some sub) :
    (getSubscriptionSnapshot state true now).2.trialAvailable =
      (decide (TrialEligible state sub) && legacySubscriptionAllowsTrial state) := by
  unfold getSubscriptionSnapshot
  rw [stored]
  unfold snapshotSubscription
  simp only
  split_ifs <;> rfl

theorem storedOrSeeded_of_stored {plan : Plan} (stored : state.subscription = some sub) :
    storedOrSeeded state plan = (state, sub) := by
  unfold storedOrSeeded
  rw [stored]

theorem eligible_of_missing (missing : state.subscription = none) :
    TrialEligible (storedOrSeeded state .starter).1
        (storedOrSeeded state .starter).2 ↔ state.trialEventExists = false := by
  have holds := storedOrSeeded_holds state .starter
  have isSeed : (storedOrSeeded state .starter).2 = seedSubscription .starter .active := by
    unfold storedOrSeeded ensureSubscriptionSeed
    rw [missing]
  unfold TrialEligible
  rw [isSeed, trialEventExists_congr holds.events]
  constructor
  · exact (·.2.2.1)
  · exact (⟨rfl, rfl, ·, rfl, rfl⟩)

theorem eligible_sameButFlag {after : SubscriptionState} {flag : Bool}
    (same : SameButFlag state after sub) :
    TrialEligible after { sub with canWriteCache := flag } ↔ TrialEligible state sub := by
  unfold TrialEligible
  rw [trialEventExists_congr same.events]

theorem legacyAllowsTrial_congr {after : SubscriptionState} (same : after.legacy = state.legacy) :
    legacySubscriptionAllowsTrial after = legacySubscriptionAllowsTrial state := by
  unfold legacySubscriptionAllowsTrial
  rw [same]

theorem trialAvailable_iff {planCode : String} (hotel : state.subscriptionActive ≠ none)
    (known : (catalogPlan? planCode).isSome = true) :
    (getSubscriptionSnapshot state true now).2.trialAvailable = true ↔
      ∃ after, startTrial (getSubscriptionSnapshot state true now).1 later
        planCode = .ok after := by
  cases stored : state.subscription with
  | none =>
    have isMissing : getSubscriptionSnapshot state true now =
        (state, missingSnapshot state true) := by
      unfold getSubscriptionSnapshot
      rw [stored]
      rfl
    rw [isMissing, startTrial_ok_iff hotel known, eligible_of_missing stored]
    simp only [missingSnapshot, Bool.and_eq_true, Bool.not_eq_true']
    exact and_comm
  | some sub =>
    rw [snapshot_trialAvailable stored, Bool.and_eq_true, decide_eq_true_eq]
    rcases @getSubscriptionSnapshot_stored _ _ now stored with
      ⟨ends, ended, isWritten, same⟩ | ⟨-, same⟩
    · obtain ⟨flag, isKept⟩ := isWritten.sameButFlag same
      rw [startTrial_ok_iff (isKept.hotel hotel) known, storedOrSeeded_of_stored isKept.stored]
      constructor
      · rintro ⟨eligible, -⟩
        have isActive := eligible.2.2.2.2
        rw [ends.1] at isActive
        cases isActive
      · rintro ⟨-, eligible⟩
        cases eligible.2.2.2.2
    · obtain ⟨flag, isStored⟩ := same.stored
      have sameHotel : (getSubscriptionSnapshot state true now).1.subscriptionActive ≠ none := by
        rw [same.hotel]
        exact hotel
      rw [startTrial_ok_iff sameHotel known, storedOrSeeded_of_stored isStored, eligible_sameButFlag
        same, legacyAllowsTrial_congr same.legacy]
      exact and_comm

theorem snapshot_suspended (stored : state.subscription = some sub)
    (suspended : sub.status = .suspended) :
    (getSubscriptionSnapshot state true now).2.canWrite = false := by
  have running : ¬TrialOver sub now := by
    intro ends
    cases suspended.symm.trans ends.1
  unfold getSubscriptionSnapshot
  rw [stored]
  unfold snapshotSubscription
  simp only
  rw [if_neg running]
  unfold reportSubscription computeCanWrite
  simp only [suspended]
  rfl

theorem snapshot_trialOver (stored : state.subscription = some sub) (ends : TrialOver sub now) :
    (getSubscriptionSnapshot state true now).2.canWrite = false := by
  unfold getSubscriptionSnapshot
  rw [stored]
  unfold snapshotSubscription
  simp only
  rw [if_pos ends]
  rfl

theorem snapshot_comped (stored : state.subscription = some sub) (comped : sub.status = .comped) :
    (getSubscriptionSnapshot state true now).2.canWrite = true := by
  have running : ¬TrialOver sub now := by
    intro ends
    cases comped.symm.trans ends.1
  unfold getSubscriptionSnapshot
  rw [stored]
  unfold snapshotSubscription
  simp only
  rw [if_neg running]
  unfold reportSubscription computeCanWrite
  simp only [comped]
  rfl

end Reports

/-- One trial, offered exactly when it would be accepted; a legacy row that
mirrors the canonical one; no writes after a trial, and writes for as long as
the status is comped. -/
structure TracedState.Entitled (traced : TracedState) : Prop where
  oneTrial : traced.state.events.count .trialStarted ≤ 1
  offered : ∀ now later planCode, (catalogPlan? planCode).isSome = true ->
    ((getSubscriptionSnapshot traced.state true now).2.trialAvailable = true ↔
      ∃ after, startTrial (getSubscriptionSnapshot traced.state true now).1
        later planCode = .ok after)
  mirrors : Mirrors traced.state
  trialEnds : ∀ endAt now, traced.origin = .trial endAt -> endAt ≤ now ->
    (getSubscriptionSnapshot traced.state true now).2.canWrite = false
  compedWrites : ∀ validUntil now, traced.origin = .comped validUntil ->
    (getSubscriptionSnapshot traced.state true now).2.canWrite = true

theorem TracedState.Consistent.entitled {traced : TracedState}
    (consistent : traced.Consistent) : traced.Entitled := by
  constructor
  · exact consistent.oneTrial
  · intro now later planCode known
    exact trialAvailable_iff consistent.hotel known
  · exact consistent.mirrors
  · intro endAt now isTrial ended
    have explained := consistent.explained
    rw [isTrial] at explained
    obtain ⟨sub, stored, suspended | ⟨trialing, ends⟩⟩ := explained
    · exact snapshot_suspended stored suspended
    · apply snapshot_trialOver stored
      refine ⟨trialing, ?_⟩
      rw [ends]
      exact decide_eq_true ended
  · intro validUntil now isComped
    have explained := consistent.explained
    rw [isComped] at explained
    obtain ⟨sub, stored, comped⟩ := explained
    exact snapshot_comped stored comped

/-- In every run without a room limit of zero, entitlements stay within what
was granted. -/
theorem entitlements_within_grants {defaultKey : String -> String -> Option Int -> String}
    {start finish : TracedState} (consistent : start.Consistent)
    (reached : Transition.Reaches (subscriptionStep defaultKey) PositiveLimit
      start finish) : finish.Entitled := by
  have kept : finish.Consistent := by
    apply reached.invariant consistent
    intro before event after consistent positive taken
    unfold subscriptionStep at taken
    split at taken
    · next performed =>
      cases taken
      exact consistent_performCall consistent positive performed
    · cases taken
      exact consistent
  exact kept.entitled

/-- Keys made from the data of a request. -/
def plainKey (planCode reason : String) (_ : Option Int) : String :=
  "auto-" ++ planCode ++ reason

def newHotel : TracedState where

theorem newHotel_consistent : newHotel.Consistent :=
  consistent_of_missing (by decide) rfl rfl

/-- A trial ends, the plan is changed, and a second trial is refused. -/
theorem entitlements_within_grants_trial :
    ∃ finish : TracedState, finish.state.events = [.trialStarted, .trialEnded,
          .subscriptionSuspended, .planChanged] ∧
        finish.Entitled := by
  let events : List (Int × SubscriptionCall) :=
    [(0, .snapshot), (0, .startTrial "pro"), (5, .setRoomLimit 50),
      (1209600, .snapshot), (1209700, .changePlan "starter"),
      (1209800, .startTrial "ultra")]
  have results : (Transition.run (subscriptionStep plainKey) newHotel events).map (·.state.events) =
      some [.trialStarted, .trialEnded, .subscriptionSuspended, .planChanged] := by
    decide +kernel
  have guarded : Transition.Guarded (subscriptionStep plainKey) PositiveLimit newHotel events := by
    decide +kernel
  obtain ⟨finish, ran, isEvents⟩ := Option.map_eq_some_iff.mp results
  exact ⟨finish, isEvents, entitlements_within_grants newHotel_consistent
    (Transition.reaches_of_run guarded ran)⟩

/-- A comped subscription writes after the validity of its adjustment. -/
theorem comped_writes_after_validity :
    ¬∀ (start finish : TracedState) (events : List (Int × SubscriptionCall)), start.Consistent ->
      Transition.run (subscriptionStep plainKey) start events = some finish ->
      ∀ validUntil now, finish.origin = .comped (some validUntil) -> validUntil < now ->
          (getSubscriptionSnapshot finish.state true now).2.canWrite =
            false := by
  intro claimed
  let events : List (Int × SubscriptionCall) :=
    [(0, .grantComped { reason := some "piloto", validUntil := some 100 })]
  have results : (Transition.run (subscriptionStep plainKey) newHotel
      events).map (fun finish => (finish.origin,
        (getSubscriptionSnapshot finish.state true 200).2.canWrite)) =
      some (.comped (some 100), true) := by
    decide +kernel
  obtain ⟨finish, ran, isFinish⟩ := Option.map_eq_some_iff.mp results
  obtain ⟨isComped, writes⟩ := Prod.mk.inj isFinish
  have refused := claimed newHotel finish events newHotel_consistent ran 100
    200 isComped (by decide)
  rw [writes] at refused
  cases refused

end HotelPms.Subscriptions
