import HotelPms.Foundation.Transition
import Mathlib.Algebra.Order.Ring.Nat

/-!
# The gate before durable publishes

A thread asks for a permit before it publishes an outbox row and records how
the publish ended.  A failure starts a cooldown; after it one probe is let
through, and its success closes the cooldown unless another failure has come
between.
-/

namespace HotelPms.Events

open Transition

variable {Time : Type} [LinearOrder Time]

/-- A durable Redis attempt, optionally owning the single recovery probe. -/
structure OutboxPublishPermit where
  probeGeneration : Option Nat := none
  deriving DecidableEq

structure OutboxPublishCooldown (Time : Type) where
  cooldownUntil : Option Time := none
  generation : Nat := 0
  probeGeneration : Option Nat := none
  deriving DecidableEq

namespace OutboxPublishCooldown

variable (gate : OutboxPublishCooldown Time)

/-- A permit, unless the gate is cooling down or another probe runs. -/
def tryAcquire (now : Time) : OutboxPublishCooldown Time × Option OutboxPublishPermit :=
  match gate.cooldownUntil with
  | none => (gate, some {})
  | some cooldownUntil =>
    if now < cooldownUntil ∨ gate.probeGeneration ≠ none then (gate, none)
    else ({ gate with probeGeneration := some gate.generation },
      some { probeGeneration := some gate.generation })

/-- A successful probe closes only the cooldown it owns. -/
def recordSuccess (permit : OutboxPublishPermit) : OutboxPublishCooldown Time :=
  if permit.probeGeneration = some gate.generation ∧
      gate.probeGeneration = some gate.generation then
    { generation := gate.generation + 1 }
  else gate

/-- A failure opens or extends the cooldown. -/
def recordFailure [Add Time] (cooldownSeconds now : Time) : OutboxPublishCooldown Time where
  cooldownUntil := some (now + cooldownSeconds)
  generation := gate.generation + 1

end OutboxPublishCooldown

inductive PublishCall
  | acquire
  | success (permit : OutboxPublishPermit)
  | failure (permit : OutboxPublishPermit)
  deriving DecidableEq

/-- The gate, its clock and the permits that are out. -/
structure PublishThreads (Time : Type) where
  gate : OutboxPublishCooldown Time := {}
  clock : Time
  outstanding : List OutboxPublishPermit := []
  deriving DecidableEq

variable [Add Time]

/-- One call of any thread; a completion gives back a permit that is out. -/
def PublishThreads.call (cooldownSeconds : Time) (threads : PublishThreads Time) :
    Time × PublishCall -> Option (PublishThreads Time)
  | (now, .acquire) =>
    if threads.clock ≤ now then some
      { gate := (threads.gate.tryAcquire now).1
        clock := now
        outstanding := threads.outstanding ++ (threads.gate.tryAcquire now).2.toList }
    else none
  | (now, .success permit) =>
    if threads.clock ≤ now ∧ permit ∈ threads.outstanding then some
      { gate := threads.gate.recordSuccess permit
        clock := now
        outstanding := threads.outstanding.erase permit }
    else none
  | (now, .failure permit) =>
    if threads.clock ≤ now ∧ permit ∈ threads.outstanding then some
      { gate := threads.gate.recordFailure cooldownSeconds now
        clock := now
        outstanding := threads.outstanding.erase permit }
    else none

/-- A failed publish still keeps the gate closed, or its cooldown is over. -/
def CoolsAfter (cooldownSeconds failedAt clock : Time) (cooldownUntil : Option Time) : Prop :=
  failedAt ≤ clock ∧ (failedAt + cooldownSeconds ≤ clock ∨
    ∃ until_ ∈ cooldownUntil, failedAt + cooldownSeconds ≤ until_)

/-- What the calls so far leave behind. -/
structure CooldownInvariant (cooldownSeconds : Time) (calls : List (Time × PublishCall))
    (threads : PublishThreads Time) : Prop where
  older : ∀ generation, ⟨some generation⟩ ∈ threads.outstanding ->
    generation < threads.gate.generation ∨ threads.gate.probeGeneration = some generation
  owned : ∀ generation ∈ threads.gate.probeGeneration, generation = threads.gate.generation ∧
    ⟨some generation⟩ ∈ threads.outstanding ∧
      ∀ cooldownUntil ∈ threads.gate.cooldownUntil, cooldownUntil ≤ threads.clock
  single : ∀ generation, threads.outstanding.count ⟨some generation⟩ ≤ 1
  cooling : ∀ failedAt permit, (failedAt, .failure permit) ∈ calls ->
    CoolsAfter cooldownSeconds failedAt threads.clock threads.gate.cooldownUntil

namespace CooldownInvariant

variable {cooldownSeconds now : Time} {calls : List (Time × PublishCall)}
  {threads : PublishThreads Time} {permit : OutboxPublishPermit} {call : PublishCall}

theorem cooling_added (invariant : CooldownInvariant cooldownSeconds calls threads)
    (noFailure : ∀ permit, call ≠ .failure permit) (later : threads.clock ≤ now)
    {failedAt : Time} (failed : (failedAt, .failure permit) ∈ calls ++ [(now, call)]) :
    CoolsAfter cooldownSeconds failedAt now threads.gate.cooldownUntil := by
  rcases List.mem_added.mp failed with old | new
  · obtain ⟨before, cooling⟩ := invariant.cooling _ _ old
    exact ⟨before.trans later, cooling.imp_left (·.trans later)⟩
  · cases new
    exact absurd rfl (noFailure permit)

/-- Calls that leave the gate as it is and issue no probe. -/
theorem unchanged {outstanding : List OutboxPublishPermit}
    (invariant : CooldownInvariant cooldownSeconds calls threads)
    (noFailure : ∀ permit, call ≠ .failure permit) (later : threads.clock ≤ now)
    (fewer : ∀ generation, outstanding.count ⟨some generation⟩ ≤
      threads.outstanding.count ⟨some generation⟩)
    (kept : ∀ generation ∈ threads.gate.probeGeneration,
      ⟨some generation⟩ ∈ threads.outstanding -> ⟨some generation⟩ ∈ outstanding) :
    CooldownInvariant cooldownSeconds (calls ++ [(now, call)])
      { gate := threads.gate, clock := now, outstanding := outstanding } where
  older generation out :=
    invariant.older generation
      (List.count_pos_iff.mp ((List.count_pos_iff.mpr out).trans_le (fewer generation)))
  owned generation probe :=
    have ⟨current, out, ended⟩ := invariant.owned generation probe
    ⟨current, kept generation probe out, fun until_ set => (ended until_ set).trans later⟩
  single generation := (fewer generation).trans (invariant.single generation)
  cooling _ _ failed := invariant.cooling_added noFailure later failed

/-- A new generation leaves only older probes. -/
theorem renewed {cooldownUntil : Option Time}
    (invariant : CooldownInvariant cooldownSeconds calls threads)
    (cooling : ∀ failedAt permit, (failedAt, .failure permit) ∈ calls ++ [(now, call)] ->
      CoolsAfter cooldownSeconds failedAt now cooldownUntil) :
    CooldownInvariant cooldownSeconds (calls ++ [(now, call)])
      { gate := ⟨cooldownUntil, threads.gate.generation + 1, none⟩
        clock := now
        outstanding := threads.outstanding.erase permit } where
  older generation out := by
    rcases invariant.older generation (List.mem_of_mem_erase out) with less | probe
    · exact .inl (less.trans (Nat.lt_succ_self _))
    · exact .inl (Nat.lt_succ_of_le (invariant.owned generation probe).1.le)
  owned _ probe := by cases probe
  single generation := (List.erase_sublist.count_le _).trans (invariant.single generation)
  cooling := cooling

theorem acquire (invariant : CooldownInvariant cooldownSeconds calls threads)
    (later : threads.clock ≤ now) :
    CooldownInvariant cooldownSeconds (calls ++ [(now, .acquire)])
      { gate := (threads.gate.tryAcquire now).1
        clock := now
        outstanding := threads.outstanding ++ (threads.gate.tryAcquire now).2.toList } := by
  unfold OutboxPublishCooldown.tryAcquire
  split
  · exact invariant.unchanged (by simp) later (by simp) (by simp +contextual)
  · next cooldownUntil set =>
    split_ifs with refused
    · exact invariant.unchanged (by simp) later (by simp) (by simp)
    obtain ⟨ended, noProbe⟩ := not_or.mp refused
    have older : ∀ generation, ⟨some generation⟩ ∈ threads.outstanding ->
        generation < threads.gate.generation := fun generation out =>
      (invariant.older generation out).resolve_right fun probe => noProbe (by simp [probe])
    constructor
    · intro generation out
      rcases List.mem_added.mp out with old | new
      · exact .inl (older generation old)
      · cases new
        exact .inr rfl
    · intro generation probe
      cases probe
      refine ⟨rfl, List.mem_concat_self, fun until_ stands => ?_⟩
      cases set.symm.trans stands
      exact not_lt.mp ended
    · intro generation
      rcases eq_or_ne threads.gate.generation generation with rfl | other
      · have fresh := List.count_eq_zero.mpr fun out => lt_irrefl _ (older _ out)
        simp [fresh]
      · simpa [List.count_singleton, other] using invariant.single generation
    · exact fun _ _ failed => invariant.cooling_added (by simp) later failed

theorem success (invariant : CooldownInvariant cooldownSeconds calls threads)
    (later : threads.clock ≤ now) :
    CooldownInvariant cooldownSeconds (calls ++ [(now, .success permit)])
      { gate := threads.gate.recordSuccess permit
        clock := now
        outstanding := threads.outstanding.erase permit } := by
  unfold OutboxPublishCooldown.recordSuccess
  split_ifs with own
  · -- The probe was issued after the cooldown, so every failure's is over.
    refine invariant.renewed fun failedAt permit failed => ?_
    obtain ⟨before, ended | ⟨until_, set, pending⟩⟩ :=
      invariant.cooling_added (by simp) later failed
    · exact ⟨before, .inl ended⟩
    · have ended := (invariant.owned _ own.2).2.2 until_ set
      exact ⟨before, .inl ((pending.trans ended).trans later)⟩
  · refine invariant.unchanged (by simp) later
      (fun generation => List.erase_sublist.count_le _) fun generation probe out => ?_
    obtain ⟨rfl, -⟩ := invariant.owned generation probe
    refine (List.mem_erase_of_ne fun same => own ?_).mpr out
    cases same
    exact ⟨rfl, probe⟩

theorem failure [AddRightMono Time] (invariant : CooldownInvariant cooldownSeconds calls threads)
    (later : threads.clock ≤ now) :
    CooldownInvariant cooldownSeconds (calls ++ [(now, .failure permit)])
      { gate := threads.gate.recordFailure cooldownSeconds now
        clock := now
        outstanding := threads.outstanding.erase permit } := by
  refine invariant.renewed fun failedAt permit failed => ?_
  have before : failedAt ≤ now := by
    rcases List.mem_added.mp failed with old | new
    · exact (invariant.cooling failedAt permit old).1.trans later
    · exact (Prod.mk.inj new).1.le
  exact ⟨before, .inr ⟨_, rfl, add_le_add_left before cooldownSeconds⟩⟩

theorem step [AddRightMono Time] {call : Time × PublishCall} {after : PublishThreads Time}
    (invariant : CooldownInvariant cooldownSeconds calls threads)
    (called : threads.call cooldownSeconds call = some after) :
    CooldownInvariant cooldownSeconds (calls ++ [call]) after := by
  obtain ⟨now, _ | permit | permit⟩ := call <;>
    simp only [PublishThreads.call, Option.ite_none_right_eq_some] at called <;>
    obtain ⟨taken, made⟩ := called <;> cases made
  · exact invariant.acquire taken
  · exact invariant.success taken.1
  · exact invariant.failure taken.1

end CooldownInvariant

/-- A failed publish starts a cooldown in which no permit is given, whatever
permit it was made with.  A success closes the cooldown only with the probe
of the gate's generation. -/
theorem publish_cooldown_gate [AddRightMono Time] {cooldownSeconds clock : Time}
    {calls : List (Time × PublishCall)} {threads : PublishThreads Time}
    (ran : run (PublishThreads.call cooldownSeconds) { clock := clock } calls = some threads) :
    (∀ failedAt permit, (failedAt, .failure permit) ∈ calls ->
      ∀ now, threads.clock ≤ now -> now < failedAt + cooldownSeconds ->
        (threads.gate.tryAcquire now).2 = none) ∧
    (∀ generation, threads.outstanding.count ⟨some generation⟩ ≤ 1) ∧
    (∀ permit, permit.probeGeneration ≠ some threads.gate.generation ->
      threads.gate.recordSuccess permit = threads.gate) ∧
    (⟨some threads.gate.generation⟩ ∉ threads.outstanding ->
      ∀ now, (∀ cooldownUntil ∈ threads.gate.cooldownUntil, cooldownUntil ≤ now) ->
        (threads.gate.tryAcquire now).2 ≠ none) := by
  have invariant : CooldownInvariant cooldownSeconds calls threads :=
    run_invariant (by constructor <;> simp) CooldownInvariant.step ran
  refine ⟨fun failedAt permit failed now later early => ?_, invariant.single,
    fun permit older => if_neg fun own => older own.1, fun noProbe now ended => ?_⟩
  · obtain ⟨-, ended | ⟨until_, set, pending⟩⟩ := invariant.cooling _ _ failed
    · exact absurd (ended.trans later) early.not_ge
    · simp [OutboxPublishCooldown.tryAcquire, Option.mem_def.mp set, early.trans_le pending]
  · have unowned : threads.gate.probeGeneration = none := by
      refine Option.eq_none_iff_forall_not_mem.mpr fun generation held => ?_
      obtain ⟨rfl, out, -⟩ := invariant.owned generation held
      exact noProbe out
    unfold OutboxPublishCooldown.tryAcquire
    split
    · simp
    · next until_ set => simp [unowned, (ended until_ set).not_gt]

/-- Two publishes fail one after the other; the probe between them is still
out. -/
def staleProbeCalls : List (Nat × PublishCall) :=
  [(0, .acquire), (0, .acquire), (0, .failure {}), (5, .acquire), (6, .failure {}),
    (11, .acquire), (12, .success { probeGeneration := some 2 })]

theorem publish_cooldown_gate_stale_probe :
    ∃ threads, run (PublishThreads.call 5) { clock := 0 } staleProbeCalls = some threads ∧
      threads.outstanding = [⟨some 1⟩] ∧ (threads.gate.tryAcquire 13).2 ≠ none :=
  have ran : run (PublishThreads.call 5) { clock := 0 } staleProbeCalls = some
      { gate := { generation := 3 }, clock := 12, outstanding := [⟨some 1⟩] } := by decide
  ⟨_, ran, rfl, (publish_cooldown_gate ran).2.2.2 (by decide) 13 (by simp)⟩

/-- The failure of an old probe opens a cooldown again. -/
theorem stale_failure_opens_cooldown :
    ¬∀ (calls : List (Nat × PublishCall)) (threads after : PublishThreads Nat)
      (now generation : Nat), generation < threads.gate.generation ->
      run (PublishThreads.call 5) { clock := 0 } calls = some threads ->
      threads.call 5 (now, .failure ⟨some generation⟩) = some after ->
        after.gate.cooldownUntil = threads.gate.cooldownUntil := by
  intro never
  have same := never staleProbeCalls
    { gate := { generation := 3 }, clock := 12, outstanding := [⟨some 1⟩] }
    { gate := { cooldownUntil := some 18, generation := 4 }, clock := 13 }
    13 1 (by decide) (by decide) (by decide)
  cases same

end HotelPms.Events
