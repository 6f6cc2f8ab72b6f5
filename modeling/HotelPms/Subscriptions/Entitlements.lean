import HotelPms.Foundation.Checked
import HotelPms.Foundation.Text

/-!
# Subscription entitlements

The canonical subscription of a hotel, its log of events and ledger of
adjustments, and the legacy subscription that older checks still read.  Every
operation writes the canonical row first and then the legacy one.  A trial that
is over is only suspended by the next snapshot.
-/

namespace HotelPms.Subscriptions

open Checked

inductive Plan
  | starter
  | pro
  | ultra
  deriving DecidableEq

namespace Plan

def code : Plan -> String
  | .starter => "starter"
  | .pro => "pro"
  | .ultra => "ultra"

def roomLimit : Plan -> Int
  | .starter => 15
  | .pro => 40
  | .ultra => 80

def staffLimit : Plan -> Int
  | .starter => 3
  | .pro => 8
  | .ultra => 20

def features : Plan -> List String
  | .starter => []
  | .pro => ["whatsapp.crm"]
  | .ultra => ["whatsapp.crm"]

end Plan

def catalogPlan? (code : String) : Option Plan :=
  if code = "starter" then some .starter
  else if code = "pro" then some .pro
  else if code = "ultra" then some .ultra
  else none

inductive SubscriptionStatus
  | active
  | pastDue
  | suspended
  | trialing
  | demo
  | comped
  deriving DecidableEq

def SubscriptionStatus.value : SubscriptionStatus -> String
  | .active => "active"
  | .pastDue => "past_due"
  | .suspended => "suspended"
  | .trialing => "trialing"
  | .demo => "demo"
  | .comped => "comped"

def writeOkStatuses : List String :=
  ["active", "trialing", "demo", "comped"]

def SubscriptionStatus.WriteOk (status : SubscriptionStatus) : Prop :=
  status.value ∈ writeOkStatuses
deriving Decidable

/-- Days of a trial, in seconds. -/
def trialDuration : Int := 14 * 86400

structure Subscription where
  plan : Plan
  status : SubscriptionStatus
  trialStartedAt : Option Int := none
  trialEndAt : Option Int := none
  currentPeriodEnd : Option Int := none
  graceUntil : Option Int := none
  roomLimit : Option Int
  staffLimit : Option Int
  canWriteCache : Bool := true

/-- A stored number, unless it is missing or zero. -/
def orDefault (stored : Option Int) (default : Int) : Int :=
  match stored with
  | none => default
  | some value => if value = 0 then default else value

namespace Subscription

variable (sub : Subscription)

/-- Rooms of the subscription, those of its plan by default. -/
def effectiveRoomLimit : Int := orDefault sub.roomLimit sub.plan.roomLimit

/-- The subscription on another plan. -/
def applyPlan (plan : Plan) : Subscription :=
  { sub with plan := plan, roomLimit := some plan.roomLimit, staffLimit := some plan.staffLimit }

end Subscription

/-- The legacy subscription, by the code of its plan. -/
structure HotelSubscription where
  planCode : String
  status : String
  roomLimitOverride : Option Int

inductive SubscriptionEvent
  | trialStarted
  | trialEnded
  | subscriptionSuspended
  | compedGranted
  | planChanged
  deriving DecidableEq

/-- A row of the ledger of adjustments. -/
structure SubscriptionAdjustment where
  adjustmentType : String
  planCode : String
  reason : String
  actorUserId : Option Int := none
  actorRole : Option String := none
  validFrom : Int
  validUntil : Option Int
  idempotencyKey : String
  deriving DecidableEq

/-- Tables of a hotel that subscriptions read and write. -/
structure SubscriptionState where
  subscriptionActive : Option Bool := some true
  subscription : Option Subscription := none
  legacy : Option HotelSubscription := none
  events : List SubscriptionEvent := []
  adjustments : List SubscriptionAdjustment := []

namespace SubscriptionState

variable (state : SubscriptionState)

/-- Store the canonical subscription. -/
def writeSubscription (sub : Subscription) : SubscriptionState :=
  { state with subscription := some sub }

def recordEvent (event : SubscriptionEvent) : SubscriptionState :=
  { state with events := state.events ++ [event] }

def trialEventExists : Bool := decide (.trialStarted ∈ state.events)

end SubscriptionState

def legacyStatusForV2 (status : SubscriptionStatus) : String :=
  if status.WriteOk then "active" else "paused"

variable (state : SubscriptionState) (sub : Subscription) (enforcementEnabled : Bool)
  (plan : Plan) (now : Int)

/-- Write the legacy subscription, and the flag of the hotel. -/
def syncLegacyTables (roomLimit : Int) (statusValue : String) : SubscriptionState :=
  { state with
    legacy := some
      { planCode := plan.code, status := statusValue, roomLimitOverride := some roomLimit }
    subscriptionActive := state.subscriptionActive.map fun _ =>
      decide (statusValue ∈ writeOkStatuses) }

def legacySubscriptionAllowsTrial : Bool :=
  match state.legacy with
  | none => true
  | some legacy =>
    decide (legacy.status = "active" ∧ legacy.planCode = "starter")

def seedSubscription (status : SubscriptionStatus) : Subscription where
  plan := plan
  status := status
  roomLimit := some plan.roomLimit
  staffLimit := some plan.staffLimit

/-- The stored subscription, or a new one; a missing legacy row is rebuilt. -/
def ensureSubscriptionSeed (status : SubscriptionStatus) : SubscriptionState × Subscription :=
  match state.subscription with
  | some sub =>
    match state.legacy with
    | some _ => (state, sub)
    | none =>
      (syncLegacyTables state sub.plan sub.effectiveRoomLimit (legacyStatusForV2 sub.status), sub)
  | none =>
    let sub := seedSubscription plan status
    (syncLegacyTables (state.writeSubscription sub) plan plan.roomLimit status.value, sub)

/-- The stored subscription, or a new active one. -/
def storedOrSeeded : SubscriptionState × Subscription :=
  match state.subscription with
  | none => ensureSubscriptionSeed state plan .active
  | some sub => (state, sub)

def setRoomLimitOverride (roomLimit : Int) : SubscriptionState :=
  let (seeded, sub) := ensureSubscriptionSeed state .starter .active
  syncLegacyTables (seeded.writeSubscription { sub with roomLimit := some roomLimit })
    sub.plan roomLimit (legacyStatusForV2 sub.status)

def clearRoomLimitOverride : SubscriptionState :=
  let (seeded, sub) := ensureSubscriptionSeed state .starter .active
  syncLegacyTables (seeded.writeSubscription { sub with roomLimit := some sub.plan.roomLimit })
    sub.plan sub.plan.roomLimit (legacyStatusForV2 sub.status)

/-- The subscription on a plan, in a status. -/
def upsertSubscription (status : SubscriptionStatus) : SubscriptionState × Subscription :=
  match state.subscription with
  | none => ensureSubscriptionSeed state plan status
  | some sub =>
    let applied := { sub.applyPlan plan with status := status }
    (state.writeSubscription applied, applied)

/-- A subscription that may start a trial. -/
def TrialEligible : Prop :=
  sub.trialStartedAt = none ∧ sub.trialEndAt = none ∧
    state.trialEventExists = false ∧ sub.plan = .starter ∧
    sub.status = .active
deriving Decidable

def trialSubscription : Subscription :=
  { sub.applyPlan plan with
    status := .trialing
    trialStartedAt := some now
    trialEndAt := some (now + trialDuration)
    currentPeriodEnd := some (now + trialDuration)
    graceUntil := none
    canWriteCache := true }

def startTrial (planCode : String) : Except String SubscriptionState :=
  match catalogPlan? planCode with
  | none => .error "Plan no encontrado"
  | some plan => do
    raiseIf (state.subscriptionActive = none) "Hotel no encontrado"
    raiseIf (legacySubscriptionAllowsTrial state = false)
      "La suscripción existente no es elegible para una prueba gratuita."
    let (seeded, sub) := storedOrSeeded state .starter
    raiseIf (¬TrialEligible seeded sub)
      "La prueba gratuita ya fue utilizada o la suscripción no es elegible."
    let trial := trialSubscription sub plan now
    pure ((syncLegacyTables (seeded.writeSubscription trial) plan
      trial.effectiveRoomLimit "active").recordEvent .trialStarted)

def suspendSubscription : SubscriptionState :=
  let (found, sub) :=
    match state.subscription with
    | none => upsertSubscription state .starter .suspended
    | some sub => (state, sub)
  (syncLegacyTables (found.writeSubscription
      { sub with status := .suspended, canWriteCache := false })
    sub.plan sub.effectiveRoomLimit "paused").recordEvent .subscriptionSuspended

/-- Suspend a subscription that is on trial. -/
def endTrial : Except String SubscriptionState :=
  match state.subscription with
  | none => .error "Suscripcion no encontrada"
  | some sub =>
    if sub.status ≠ .trialing then .ok state
    else .ok (suspendSubscription (state.recordEvent .trialEnded))

structure CompedRequest where
  planCode : String := "ultra"
  reason : Option String
  actorUserId : Option Int := none
  actorRole : Option String := none
  validUntil : Option Int := none
  idempotencyKey : Option String := none
  deriving DecidableEq

/-- Key of a request, made from its data unless it names one. -/
def CompedRequest.key (request : CompedRequest)
    (defaultKey : String -> String -> Option Int -> String) (reason : String) :
    String :=
  let given := Text.strip (request.idempotencyKey.getD "")
  if given = "" then defaultKey request.planCode reason request.validUntil
  else given

/-- A subscription that is given away. -/
def compedSubscription : Subscription :=
  { sub with
    canWriteCache := true
    graceUntil := none
    trialEndAt :=
      if sub.trialStartedAt.isSome = true ∧ sub.trialEndAt = none then some now
      else sub.trialEndAt }

/-- The ledger row of a comped request. -/
def compedAdjustment (request : CompedRequest) (reason key : String)
    (now : Int) : SubscriptionAdjustment where
  adjustmentType := "override"
  planCode := request.planCode
  reason := reason
  actorUserId := request.actorUserId
  actorRole := request.actorRole
  validFrom := now
  validUntil := request.validUntil
  idempotencyKey := key

/-- An adjustment made for the same request. -/
def SameAdjustment (existing : SubscriptionAdjustment)
    (request : CompedRequest) (reason : String) : Prop :=
  existing.adjustmentType = "override" ∧
    existing.planCode = request.planCode ∧ existing.reason = reason ∧
    existing.validUntil = request.validUntil
deriving Decidable

/-- Give a subscription away; a repeated request changes nothing. -/
def grantComped (defaultKey : String -> String -> Option Int -> String)
    (state : SubscriptionState) (now : Int) (request : CompedRequest) :
    Except String SubscriptionState :=
  match catalogPlan? request.planCode with
  | none => .error "Plan no encontrado"
  | some plan => do
    let reason := Text.strip (request.reason.getD "")
    raiseIf (reason = "") "El motivo del ajuste es obligatorio"
    raiseIf ((request.validUntil.any (· ≤ now)) = true) "La vigencia del ajuste debe ser futura"
    let key := request.key defaultKey reason
    match state.adjustments.find? fun row =>
        decide (row.idempotencyKey = key) with
    | some existing => do
      raiseIf (¬SameAdjustment existing request reason)
        "La clave de idempotencia ya fue usada para otro ajuste"
      pure state
    | none =>
      let (found, sub) := upsertSubscription state plan .comped
      let comped := compedSubscription sub now
      let adjusted : SubscriptionState :=
        { found.writeSubscription comped with
          adjustments := found.adjustments ++ [compedAdjustment request reason key now] }
      pure ((syncLegacyTables adjusted plan comped.effectiveRoomLimit
        "active").recordEvent .compedGranted)

/-- The subscription may write. -/
def computeCanWrite (sub : Option Subscription) (enforcementEnabled : Bool) (now : Int) : Bool :=
  if enforcementEnabled = false then true
  else
    match sub with
    | none => false
    | some sub =>
      decide (sub.status.WriteOk) || (decide (sub.status = .pastDue) &&
          sub.graceUntil.any (now ≤ ·))

structure SubscriptionSnapshot where
  plan : Plan
  status : SubscriptionStatus
  roomLimit : Int
  staffLimit : Int
  canWrite : Bool
  currentPeriodEnd : Option Int
  trialStartedAt : Option Int
  trialEndAt : Option Int
  trialAvailable : Bool
  graceUntil : Option Int
  enforcementEnabled : Bool
  dirty : Bool
  features : List String

/-- The report on a hotel without a subscription. -/
def missingSnapshot : SubscriptionSnapshot where
  plan := .starter
  status := if enforcementEnabled then .suspended else .demo
  roomLimit := Plan.roomLimit .starter
  staffLimit := Plan.staffLimit .starter
  canWrite := !enforcementEnabled
  currentPeriodEnd := none
  trialStartedAt := none
  trialEndAt := none
  trialAvailable := !state.trialEventExists && legacySubscriptionAllowsTrial state
  graceUntil := none
  enforcementEnabled := enforcementEnabled
  dirty := false
  features := Plan.features .starter

def TrialOver : Prop :=
  sub.status = .trialing ∧ (sub.trialEndAt.any (· ≤ now)) = true
deriving Decidable

def reportSubscription (trialAvailable dirty enforcementEnabled : Bool) (now : Int) :
    SubscriptionState × SubscriptionSnapshot :=
  let canWrite := computeCanWrite (some sub) enforcementEnabled now
  (if sub.canWriteCache = canWrite then state
    else state.writeSubscription { sub with canWriteCache := canWrite },
    { plan := sub.plan, status := sub.status, roomLimit := sub.effectiveRoomLimit
      staffLimit := orDefault sub.staffLimit sub.plan.staffLimit, canWrite := canWrite
      currentPeriodEnd := sub.currentPeriodEnd, trialStartedAt := sub.trialStartedAt
      trialEndAt := sub.trialEndAt, trialAvailable := trialAvailable, graceUntil := sub.graceUntil
      enforcementEnabled := enforcementEnabled
      dirty := dirty || decide (sub.canWriteCache ≠ canWrite), features := sub.plan.features })

/-- The report on a stored subscription; a trial that is over is suspended
first. -/
def snapshotSubscription (seeded enforcementEnabled : Bool) (now : Int) :
    SubscriptionState × SubscriptionSnapshot :=
  let trialAvailable := decide (TrialEligible state sub) && legacySubscriptionAllowsTrial state
  if TrialOver sub now then
    let ended := suspendSubscription (state.recordEvent .trialEnded)
    reportSubscription ended { sub with
        status := .suspended
        canWriteCache := false } trialAvailable true enforcementEnabled now
  else
    reportSubscription state sub trialAvailable seeded enforcementEnabled now

/-- The report on a hotel. -/
def getSubscriptionSnapshot : SubscriptionState × SubscriptionSnapshot :=
  match state.subscription with
  | some sub => snapshotSubscription state sub false enforcementEnabled now
  | none =>
    if enforcementEnabled then
      (state, missingSnapshot state enforcementEnabled)
    else
      let (seeded, sub) := ensureSubscriptionSeed state .starter .active
      snapshotSubscription seeded sub true enforcementEnabled now

def paidSubscription : Subscription :=
  { sub.applyPlan plan with
    status := .active
    trialStartedAt := none
    trialEndAt := none
    graceUntil := none
    canWriteCache := true }

def changeSubscriptionPlan (planCode : String) :
    Except String (SubscriptionState × SubscriptionSnapshot) :=
  match catalogPlan? planCode with
  | none => .error "Plan no encontrado"
  | some plan =>
    let (found, sub) := storedOrSeeded state plan
    let written := (syncLegacyTables (found.writeSubscription (paidSubscription sub plan)) plan
      plan.roomLimit "active").recordEvent .planChanged
    let (after, snapshot) := getSubscriptionSnapshot written enforcementEnabled now
    .ok (after, { snapshot with dirty := true })

end HotelPms.Subscriptions
