import HotelPms.Foundation.Transition
import Mathlib.Logic.Function.Basic

/-!
# Cached read models

A get of a read model finds its key in the memory of the process or in the
shared store, joins a producer that runs for it, or runs one itself.  An
invalidation drops the covered keys that both hold, but no run in flight.
-/

namespace HotelPms.Reports

open Transition

inductive PayloadTarget where
  | caller
  | localCache
  | sharedStore

/-- How far a get is.  A payload is known by the instant its producer run
started at. -/
inductive GetPhase where
  | idle
  | asked (localFallback : Bool)
  | locking
  | producing (target : PayloadTarget) (started : Nat)
  | waiting (leader started : Nat)
  | answered (payload : Nat)
  | failed

/-- Run whose payload a get will return or has returned. -/
def GetPhase.payload? : GetPhase -> Option Nat
  | .producing _ started | .waiting _ started | .answered started =>
    some started
  | .idle | .asked _ | .locking | .failed => none

structure CacheGet where
  key : String := ""
  began : Nat := 0
  phase : GetPhase := .idle

inductive InvalidationPhase where
  | idle
  | scanning (rest : List String) (found : String -> Bool)
  | finished (instant : Nat)

structure Invalidation where
  prefixes : List String := []
  began : Nat := 0
  phase : InvalidationPhase := .idle

def startsWith (key start : String) : Bool :=
  start.toList.isPrefixOf key.toList

def covers (prefixes : List String) (key : String) : Bool :=
  prefixes.any (startsWith key)

/-- Both caches, the runs in flight for the local one with their readers, and
the calls.  Every event takes one instant. -/
structure CacheState where
  clock : Nat := 1
  gets : Nat -> CacheGet := fun _ => {}
  invalidations : Nat -> Invalidation := fun _ => {}
  localCache : String -> Option Nat := fun _ => none
  inflight : String -> Option (Nat × Nat) := fun _ => none
  sharedStore : String -> Option Nat := fun _ => none

inductive CacheEvent where
  | get (reader : Nat) (key : String) (localFallback : Bool)
  | withoutStore (reader : Nat)
  | askStore (reader : Nat)
  | lookLocal (reader : Nat)
  | finish (reader : Nat) (stored : Bool)
  | fail (reader : Nat)
  | receive (reader : Nat)
  | dropLocal (key : String)
  | dropShared (key : String)
  | invalidate (call : Nat) (prefixes : List String)
  | scan (call : Nat)
  | delete (call : Nat)
  | giveUp (call : Nat)

namespace CacheState

variable (state : CacheState)

def placed (reader : Nat) (get : CacheGet) : CacheState :=
  { state with clock := state.clock + 1, gets := Function.update state.gets reader get }

def moved (reader : Nat) (phase : GetPhase) : CacheState :=
  state.placed reader { state.gets reader with phase }

/-- The inflight entry of a reader is gone once its producer has returned. -/
def released (reader : Nat) : String -> Option (Nat × Nat) := fun key =>
  (state.inflight key).filter (·.1 ≠ reader)

def lookLocal (reader : Nat) : CacheState :=
  let key := (state.gets reader).key
  match state.localCache key with
  | some payload => state.moved reader (.answered payload)
  | none =>
    match state.inflight key with
    | some run => state.moved reader (.waiting run.1 run.2)
    | none =>
      { state.moved reader (.producing .localCache state.clock) with
        inflight := Function.update state.inflight key (some (reader, state.clock)) }

def produced (reader : Nat) (target : PayloadTarget) (started : Nat) (stored : Bool) : CacheState :=
  let key := (state.gets reader).key
  let next := state.moved reader (.answered started)
  match target with
  | .caller => next
  | .localCache => { next with
      localCache := Function.update state.localCache key (some started)
      inflight := state.released reader }
  | .sharedStore =>
    if stored then { next with sharedStore := Function.update state.sharedStore key (some started) }
    else next

def invalidation (call : Nat) (phase : InvalidationPhase) : CacheState :=
  { state with
    clock := state.clock + 1
    invalidations := Function.update state.invalidations call
      { state.invalidations call with phase } }

end CacheState

/-- One step of a call.  Where a cache is disabled, absent or failing a get
goes on `withoutStore`, and an invalidation gives up. -/
def cacheStep (state : CacheState) : CacheEvent -> Option CacheState
  | .get reader key localFallback =>
    match (state.gets reader).phase with
    | .idle => some (state.placed reader
      { key, began := state.clock, phase := .asked localFallback })
    | _ => none
  | .withoutStore reader =>
    match (state.gets reader).phase with
    | .asked true => some (state.moved reader .locking)
    | .asked false =>
      some (state.moved reader (.producing .caller state.clock))
    | _ => none
  | .askStore reader =>
    match (state.gets reader).phase with
    | .asked _ => some (state.moved reader (match state.sharedStore (state.gets reader).key with
      | some payload => .answered payload
      | none => .producing .sharedStore state.clock))
    | _ => none
  | .lookLocal reader =>
    match (state.gets reader).phase with
    | .locking => some (state.lookLocal reader)
    | _ => none
  | .finish reader stored =>
    match (state.gets reader).phase with
    | .producing target started =>
      some (state.produced reader target started stored)
    | _ => none
  | .fail reader =>
    match (state.gets reader).phase with
    | .producing _ _ => some { state.moved reader .failed with inflight := state.released reader }
    | _ => none
  | .receive reader =>
    match (state.gets reader).phase with
    | .waiting leader started =>
      match (state.gets leader).phase with
      | .answered _ => some (state.moved reader (.answered started))
      | .failed => some (state.moved reader .failed)
      | _ => none
    | _ => none
  | .dropLocal key => some { state with
      clock := state.clock + 1
      localCache := Function.update state.localCache key none }
  | .dropShared key => some { state with
      clock := state.clock + 1
      sharedStore := Function.update state.sharedStore key none }
  | .invalidate call prefixes =>
    match (state.invalidations call).phase with
    | .idle => some { state with
        clock := state.clock + 1
        invalidations := Function.update state.invalidations call
          { prefixes, began := state.clock
            phase := .scanning prefixes fun _ => false }
        localCache := fun key =>
          if covers prefixes key then none else state.localCache key }
    | _ => none
  | .scan call =>
    match (state.invalidations call).phase with
    | .scanning (start :: rest) found => some (state.invalidation call
        (.scanning rest fun key => found key ||
          (startsWith key start && (state.sharedStore key).isSome)))
    | _ => none
  | .delete call =>
    match (state.invalidations call).phase with
    | .scanning [] found => some
      { state.invalidation call (.finished state.clock) with
        sharedStore := fun key =>
          if found key then none else state.sharedStore key }
    | _ => none
  | .giveUp call =>
    match (state.invalidations call).phase with
    | .scanning _ _ =>
      some (state.invalidation call (.finished state.clock))
    | _ => none

/-! ## Gets after an invalidation -/

/-- A get that started after an invalidation of its key had finished returns
the payload of a run that started no earlier than the invalidation. -/
def CacheState.ServesFresh (state : CacheState) : Prop :=
  ∀ reader call payload instant, (state.gets reader).phase = .answered payload ->
    (state.invalidations call).phase = .finished instant ->
    covers (state.invalidations call).prefixes (state.gets reader).key ->
    instant ≤ (state.gets reader).began -> (state.invalidations call).began ≤ payload

/-- An invalidation starts while no covered key is being produced for a cache,
and gives up on the shared store only if nothing older is left there. -/
def Undisturbed (state : CacheState) : CacheEvent -> Prop
  | .invalidate _ prefixes =>
    (∀ key, covers prefixes key -> state.inflight key = none) ∧
    ∀ reader target started, (state.gets reader).phase = .producing target started ->
      covers prefixes (state.gets reader).key -> target = .caller
  | .giveUp call => ∀ key payload, covers (state.invalidations call).prefixes key ->
    state.sharedStore key = some payload -> (state.invalidations call).began ≤ payload
  | _ => True

variable {state after : CacheState} {event : CacheEvent} {call : Nat}

/-- A payload that a local get of the key or a later one can find. -/
def CacheState.Holds (state : CacheState) (key : String) (payload : Nat) : Prop :=
  state.localCache key = some payload ∨ (∃ leader, state.inflight key = some (leader, payload)) ∨
    ∃ reader target, (state.gets reader).phase = .producing target payload ∧
      (state.gets reader).key = key ∧ target ≠ .caller

/-- Payloads that a get can have after a step. -/
def CacheState.Offers (state : CacheState) (reader payload : Nat) : Prop :=
  (state.gets reader).phase.payload? = some payload ∨ payload = state.clock ∨
    state.sharedStore (state.gets reader).key = some payload ∨
    state.Holds (state.gets reader).key payload

/-- Where everything in the caches and the gets comes from in one step. -/
structure Evolves (state after : CacheState) : Prop where
  clock : after.clock = state.clock + 1
  began : ∀ reader, (after.gets reader).began = (state.gets reader).began ∨
    (after.gets reader).began = state.clock
  held : ∀ key payload, after.Holds key payload -> state.Holds key payload ∨ payload = state.clock
  stored : ∀ key payload, after.sharedStore key = some payload ->
    state.sharedStore key = some payload ∨ state.Holds key payload
  served : ∀ reader payload, (after.gets reader).phase.payload? = some payload ->
      (after.gets reader).key = (state.gets reader).key ∧
      (after.gets reader).began = (state.gets reader).began ∧
      state.Offers reader payload

theorem evolves_tick : Evolves state { state with clock := state.clock + 1 } :=
  ⟨rfl, fun _ => .inl rfl, fun _ _ => .inl, fun _ _ => .inl,
    fun _ _ found => ⟨rfl, rfl, .inl found⟩⟩

theorem Evolves.written {next : CacheState} (base : Evolves state next)
    (clock : after.clock = next.clock) (gets : after.gets = next.gets)
    (cached : ∀ key payload, after.localCache key = some payload ->
      next.localCache key = some payload ∨ state.Holds key payload)
    (joined : ∀ key run, after.inflight key = some run ->
      next.inflight key = some run ∨ run.2 = state.clock)
    (stored : ∀ key payload, after.sharedStore key = some payload ->
      next.sharedStore key = some payload ∨ state.Holds key payload) :
    Evolves state after := by
  refine ⟨clock.trans base.clock, gets ▸ base.began, ?_, ?_, gets ▸ base.served⟩
  · rintro key payload (isCached | ⟨leader, isJoined⟩ | producing)
    · exact (cached key payload isCached).elim (fun old => base.held key payload (.inl old)) .inl
    · exact (joined key _ isJoined).elim
        (fun old => base.held key payload (.inr (.inl ⟨leader, old⟩))) .inr
    · exact base.held key payload (.inr (.inr (gets ▸ producing)))
  · exact fun key payload found => (stored key payload found).elim (base.stored key payload) .inr

variable {reader : Nat}

theorem evolves_placed {get : CacheGet}
    (began : get.began = (state.gets reader).began ∨ get.began = state.clock)
    (payload : ∀ payload, get.phase.payload? = some payload -> get.key = (state.gets reader).key ∧
      get.began = (state.gets reader).began ∧
      state.Offers reader payload)
    (started : ∀ target payload, get.phase = .producing target payload ->
      payload = state.clock) : Evolves state (state.placed reader get) := by
  refine ⟨rfl, ?_, ?_, fun _ _ => .inl, ?_⟩
  · intro other
    by_cases same : other = reader
    · subst same
      simpa [CacheState.placed] using began
    · simp [CacheState.placed, same]
  · rintro key run (cached | joined | ⟨other, target, producing, isKey, cache⟩)
    · exact .inl (.inl cached)
    · exact .inl (.inr (.inl joined))
    · by_cases same : other = reader
      · subst same
        simp only [CacheState.placed, Function.update_self] at producing
        exact .inr (started _ _ producing)
      · simp only [CacheState.placed, Function.update_of_ne same] at producing isKey
        exact .inl (.inr (.inr ⟨other, target, producing, isKey, cache⟩))
  · intro other run isRun
    by_cases same : other = reader
    · subst same
      simp only [CacheState.placed, Function.update_self] at isRun ⊢
      exact payload run isRun
    · simp only [CacheState.placed, Function.update_of_ne same] at isRun ⊢
      exact ⟨trivial, trivial, .inl isRun⟩

theorem evolves_moved {phase : GetPhase}
    (payload : ∀ payload, phase.payload? = some payload -> state.Offers reader payload)
    (started : ∀ target payload, phase = .producing target payload ->
      payload = state.clock) : Evolves state (state.moved reader phase) :=
  evolves_placed (.inl rfl) (fun run isRun => ⟨rfl, rfl, payload run isRun⟩) started

theorem evolves_producing (reader : Nat) (target : PayloadTarget) :
    Evolves state (state.moved reader (.producing target state.clock)) :=
  evolves_moved (fun _ isRun => .inr (.inl (Option.some.inj isRun).symm))
    fun _ _ producing => (GetPhase.producing.inj producing).2.symm

/-- A phase that neither runs a producer nor has a payload. -/
theorem evolves_quiet {phase : GetPhase} (quiet : phase.payload? = none) :
    Evolves state (state.moved reader phase) := by
  apply evolves_moved
  · intro run isRun
    rw [quiet] at isRun
    cases isRun
  · rintro target payload rfl
    cases quiet

theorem update_eq_some {ι α : Type} [DecidableEq ι] {entries : ι -> Option α}
    {written key : ι} {entry : Option α} {value : α}
    (found : Function.update entries written entry key = some value) :
    (key = written ∧ entry = some value) ∨ entries key = some value := by
  by_cases same : key = written
  · subst same
    rw [Function.update_self] at found
    exact .inl ⟨rfl, found⟩
  · rw [Function.update_of_ne same] at found
    exact .inr found

theorem evolves_lookLocal (reader : Nat) : Evolves state (state.lookLocal reader) := by
  unfold CacheState.lookLocal
  simp only
  split
  · next payload cached =>
    apply evolves_moved
    · intro run isRun
      exact .inr (.inr (.inr (.inl (cached.trans isRun))))
    · exact fun _ _ answered => nomatch answered
  · split
    · next leader joined =>
      apply evolves_moved
      · rintro run ⟨⟩
        exact .inr (.inr (.inr (.inr (.inl ⟨_, joined⟩))))
      · exact fun _ _ waiting => nomatch waiting
    · refine (evolves_producing reader .localCache).written rfl rfl
        (fun _ _ => .inl) (fun key run isRun => ?_) fun _ _ => .inl
      rcases update_eq_some isRun with ⟨-, ⟨⟩⟩ | old
      · exact .inr rfl
      · exact .inl old

theorem released_eq_some {key : String} {run : Nat × Nat}
    (kept : state.released reader key = some run) :
    state.inflight key = some run :=
  (Option.filter_eq_some_iff.mp kept).1

theorem evolves_produced {started : Nat} {target : PayloadTarget}
    (producing : (state.gets reader).phase = .producing target started)
    (stored : Bool) :
    Evolves state (state.produced reader target started stored) := by
  have base : Evolves state (state.moved reader (.answered started)) := by
    apply evolves_moved
    · rintro run ⟨⟩
      exact .inl (by rw [producing]; rfl)
    · exact fun _ _ answered => nomatch answered
  have written {cache : String -> Option Nat} (made : target ≠ .caller)
      (key : String) (payload : Nat)
      (found : Function.update cache (state.gets reader).key (some started) key = some payload) :
      cache key = some payload ∨ state.Holds key payload := by
    rcases update_eq_some found with ⟨rfl, ⟨⟩⟩ | old
    · exact .inr (.inr (.inr ⟨reader, target, producing, rfl, made⟩))
    · exact .inl old
  unfold CacheState.produced
  cases target with
  | caller => exact base
  | localCache =>
    exact base.written rfl rfl (written (by simp))
      (fun _ _ kept => .inl (released_eq_some kept)) fun _ _ => .inl
  | sharedStore =>
    simp only
    split
    · exact base.written rfl rfl (fun _ _ => .inl) (fun _ _ => .inl) (written (by simp))
    · exact base

theorem cacheStep_evolves (taken : cacheStep state event = some after) :
    Evolves state after := by
  unfold cacheStep at taken
  cases event with
  | get reader key localFallback =>
    simp only at taken
    split at taken
    · cases taken
      exact evolves_placed (.inr rfl) (fun _ asked => nomatch asked) fun _ _ asked => nomatch asked
    · cases taken
  | withoutStore reader =>
    simp only at taken
    split at taken
    · exact Option.some.inj taken ▸ evolves_quiet rfl
    · exact Option.some.inj taken ▸ evolves_producing reader .caller
    · cases taken
  | askStore reader =>
    simp only at taken
    split at taken
    · cases taken
      split
      · next payload stored =>
        exact evolves_moved (fun _ isRun => .inr (.inr (.inl (stored.trans isRun))))
          fun _ _ answered => nomatch answered
      · exact evolves_producing reader .sharedStore
    · cases taken
  | lookLocal reader =>
    simp only at taken
    split at taken
    · exact Option.some.inj taken ▸ evolves_lookLocal reader
    · cases taken
  | finish reader stored =>
    simp only at taken
    split at taken
    · next target started producing =>
      exact Option.some.inj taken ▸ evolves_produced producing stored
    · cases taken
  | fail reader =>
    simp only at taken
    split at taken
    · cases taken
      exact (evolves_quiet rfl).written rfl rfl (fun _ _ => .inl)
        (fun _ _ kept => .inl (released_eq_some kept)) fun _ _ => .inl
    · cases taken
  | receive reader =>
    simp only at taken
    split at taken
    · next leader started waiting =>
      split at taken
      · cases taken
        exact evolves_moved (fun _ isRun => .inl (by rw [waiting]; exact isRun))
          fun _ _ answered => nomatch answered
      · exact Option.some.inj taken ▸ evolves_quiet rfl
      · cases taken
    · cases taken
  | dropLocal key =>
    cases taken
    exact evolves_tick.written rfl rfl (fun _ _ found => .inl
        ((update_eq_some found).elim (nomatch ·.2) id))
      (fun _ _ => .inl) fun _ _ => .inl
  | dropShared key =>
    cases taken
    exact evolves_tick.written rfl rfl (fun _ _ => .inl) (fun _ _ => .inl) fun _ _ found => .inl
        ((update_eq_some found).elim (nomatch ·.2) id)
  | invalidate call prefixes =>
    simp only at taken
    split at taken
    · cases taken
      exact evolves_tick.written rfl rfl
        (fun _ _ found => .inl (Option.ite_none_left_eq_some.mp found).2)
        (fun _ _ => .inl) fun _ _ => .inl
    · cases taken
  | delete call =>
    simp only at taken
    split at taken
    · cases taken
      exact evolves_tick.written rfl rfl (fun _ _ => .inl) (fun _ _ => .inl)
        fun _ _ found => .inl (Option.ite_none_left_eq_some.mp found).2
    · cases taken
  | scan call | giveUp call =>
    simp only at taken
    split at taken
    · cases taken
      exact evolves_tick.written rfl rfl (fun _ _ => .inl) (fun _ _ => .inl) fun _ _ => .inl
    · cases taken

/-- Keys that an invalidation has found or has still to scan for. -/
def InvalidationPhase.Pending : InvalidationPhase -> String -> Prop
  | .scanning rest found, key => found key ∨ covers rest key
  | .idle, _ | .finished _, _ => False

/-- Nothing that the covered keys have or will get is older than a started
invalidation. -/
structure FreshFrom (state : CacheState) (invalidation : Invalidation) :
    Prop where
  past : invalidation.began < state.clock
  held : ∀ key payload, covers invalidation.prefixes key ->
    state.Holds key payload -> invalidation.began ≤ payload
  stored : ∀ key payload, covers invalidation.prefixes key ->
    state.sharedStore key = some payload ->
      invalidation.began ≤ payload ∨ invalidation.phase.Pending key
  served : ∀ reader payload instant, invalidation.phase = .finished instant ->
    covers invalidation.prefixes (state.gets reader).key ->
    instant ≤ (state.gets reader).began ->
    (state.gets reader).phase.payload? = some payload -> invalidation.began ≤ payload

theorem FreshFrom.evolves {invalidation : Invalidation}
    (fresh : FreshFrom state invalidation) (evolves : Evolves state after) :
    FreshFrom after invalidation := by
  have past := fresh.past
  refine ⟨?_, ?_, ?_, ?_⟩
  · have := evolves.clock
    omega
  · intro key payload covered found
    rcases evolves.held key payload found with old | new
    · exact fresh.held key payload covered old
    · omega
  · intro key payload covered found
    rcases evolves.stored key payload found with old | holds
    · exact fresh.stored key payload covered old
    · exact .inl (fresh.held key payload covered holds)
  · intro reader payload instant isFinished covered later found
    obtain ⟨sameKey, sameBegan, offers⟩ := evolves.served reader payload found
    rw [sameKey] at covered
    rw [sameBegan] at later
    rcases offers with old | new | stored | holds
    · exact fresh.served reader payload instant isFinished covered later old
    · omega
    · rcases fresh.stored _ payload covered stored with renewed | pending
      · exact renewed
      · rw [isFinished] at pending
        exact pending.elim
    · exact fresh.held _ payload covered holds

theorem FreshFrom.rephased {invalidation : Invalidation}
    {phase : InvalidationPhase} (fresh : FreshFrom state invalidation)
    (finished : ∀ reader instant, phase = .finished instant -> (state.gets reader).began < instant)
    (stored : ∀ key payload, covers invalidation.prefixes key ->
      state.sharedStore key = some payload -> invalidation.began ≤ payload ∨ phase.Pending key) :
    FreshFrom state { invalidation with phase } := by
  refine ⟨fresh.past, fresh.held, stored, ?_⟩
  intro reader payload instant isFinished _ later _
  exact absurd later (Nat.not_le.mpr (finished reader instant isFinished))

/-- Every get has begun, and every started invalidation is respected. -/
structure CacheSound (state : CacheState) : Prop where
  earlier : ∀ reader, (state.gets reader).began < state.clock
  fresh : ∀ call, (state.invalidations call).phase ≠ .idle ->
    FreshFrom state (state.invalidations call)

theorem CacheSound.servesFresh (sound : CacheSound state) : state.ServesFresh := by
  intro reader call payload instant answered finished covered later
  have started : (state.invalidations call).phase ≠ .idle := by
    rw [finished]
    exact (nomatch ·)
  refine (sound.fresh call started).served reader payload instant finished covered later ?_
  rw [answered]
  rfl

/-- Only the steps of an invalidation change its record. -/
theorem cacheStep_invalidations (taken : cacheStep state event = some after) (other : Nat) :
    after.invalidations other = state.invalidations other ∨
      ∃ prefixes, event = .invalidate other prefixes ∨ event = .scan other ∨
        event = .delete other ∨ event = .giveUp other := by
  have updated {call : Nat} {invalidation : Invalidation} :
      Function.update state.invalidations call invalidation other =
        state.invalidations other ∨ call = other := by
    by_cases same : other = call
    · exact .inr same.symm
    · exact .inl (Function.update_of_ne same _ _)
  unfold cacheStep CacheState.lookLocal CacheState.produced at taken
  cases event with
  | invalidate call prefixes =>
    simp only at taken
    split at taken
    · cases taken
      exact updated.imp id fun same => ⟨prefixes, .inl (by rw [same])⟩
    · cases taken
  | scan call | delete call | giveUp call =>
    simp only at taken
    split at taken
    · cases taken
      exact updated.imp id fun same => ⟨[], by simp [same]⟩
    · cases taken
  | _ =>
    simp only at taken
    repeat' split at taken
    all_goals cases taken
    all_goals exact .inl rfl

theorem CacheSound.step (sound : CacheSound state) (undisturbed : Undisturbed state event)
    (taken : cacheStep state event = some after) : CacheSound after := by
  have evolves := cacheStep_evolves taken
  have earlier : ∀ reader, (after.gets reader).began < after.clock := by
    intro reader
    have := sound.earlier reader
    have := evolves.clock
    rcases evolves.began reader with same | new
    all_goals omega
  refine ⟨earlier, fun call started => ?_⟩
  rcases cacheStep_invalidations taken call with same | ⟨prefixes, rfl | rfl | rfl | rfl⟩
  · rw [same] at started ⊢
    exact (sound.fresh call started).evolves evolves
  all_goals
    unfold cacheStep at taken
    simp only at taken
    split at taken
  · cases taken
    simp only [Function.update_self]
    refine ⟨Nat.lt_succ_self _, ?_, ?_, ?_⟩
    · rintro _ payload covered (cached | ⟨leader, joined⟩ | ⟨reader, target, producing, rfl, cache⟩)
      · exact absurd covered (Option.ite_none_left_eq_some.mp cached).1
      · rw [undisturbed.1 _ covered] at joined
        cases joined
      · exact absurd (undisturbed.2 reader target payload producing covered) cache
    · exact fun _ _ covered _ => .inr (.inr covered)
    · exact fun _ _ _ scanning => nomatch scanning
  · cases taken
  · next start rest found scanning =>
    have fresh := sound.fresh call (by rw [scanning]; exact nofun)
    cases taken
    simp only [CacheState.invalidation, Function.update_self]
    refine (fresh.evolves evolves).rephased nofun ?_
    intro key payload covered held
    have pending := fresh.stored key payload covered held
    rw [scanning] at pending
    simp only [InvalidationPhase.Pending, covers, List.any_cons, Bool.or_eq_true] at pending ⊢
    rcases pending with new | known | here | later
    · exact .inl new
    · exact .inr (.inl (.inl known))
    · refine .inr (.inl (.inr ?_))
      rw [here, Bool.true_and]
      exact Option.isSome_iff_exists.mpr ⟨payload, held⟩
    · exact .inr (.inr later)
  · cases taken
  · next found scanning =>
    have fresh := sound.fresh call (by rw [scanning]; exact nofun)
    cases taken
    simp only [CacheState.invalidation, Function.update_self]
    apply (fresh.evolves evolves).rephased
    · rintro reader instant ⟨⟩
      exact sound.earlier reader
    · intro key payload covered held
      obtain ⟨unknown, held⟩ := Option.ite_none_left_eq_some.mp held
      have pending := fresh.stored key payload covered held
      rw [scanning] at pending
      rcases pending with new | known | later
      · exact .inl new
      · exact absurd known unknown
      · cases later
  · cases taken
  · next rest found scanning =>
    have fresh := sound.fresh call (by rw [scanning]; exact nofun)
    cases taken
    simp only [CacheState.invalidation, Function.update_self]
    apply (fresh.evolves evolves).rephased
    · rintro reader instant ⟨⟩
      exact sound.earlier reader
    · exact fun key payload covered held => .inl (undisturbed key payload covered held)
  · cases taken

/-- In every run whose invalidations are undisturbed, gets after them are
fresh. -/
theorem reaches_servesFresh {guard : CacheState -> CacheEvent -> Prop}
    (undisturbed : ∀ state event, guard state event -> Undisturbed state event)
    (reached : Reaches cacheStep guard {} state) : state.ServesFresh := by
  have initial : CacheSound {} :=
    ⟨fun _ => Nat.zero_lt_one, fun _ started => absurd rfl started⟩
  have sound : CacheSound state := reached.invariant initial
    fun sound allowed taken => sound.step (undisturbed _ _ allowed) taken
  exact sound.servesFresh

/-- A get of a key in the local cache, up to its producer. -/
def localGet (reader : Nat) : List CacheEvent :=
  [.get reader "hotel:1:analytics:" true, .withoutStore reader, .lookLocal reader]

/-- An invalidation of the key, with the shared store out of reach. -/
def localInvalidation : List CacheEvent :=
  [.invalidate 0 ["hotel:1:analytics:"], .giveUp 0]

theorem reaches_servesFresh_localGet :
    ∃ state, run cacheStep {} (localInvalidation ++ localGet 0 ++ [.finish 0 true]) = some state ∧
      state.ServesFresh := by
  have ran : (run cacheStep {} (localInvalidation ++ localGet 0 ++
      [.finish 0 true])).isSome := by decide +kernel
  obtain ⟨state, isState⟩ := Option.isSome_iff_exists.mp ran
  have guarded : Guarded cacheStep Undisturbed {}
      (localInvalidation ++ localGet 0 ++ [.finish 0 true]) :=
    ⟨⟨fun _ _ => rfl, nofun⟩, nofun, trivial, trivial, trivial, trivial,
      trivial⟩
  exact ⟨state, isState, reaches_servesFresh (fun _ _ => id) (reaches_of_run guarded isState)⟩

/-- A producer that an invalidation overtakes stores its payload after it, and
a later get returns it. -/
theorem overtaken_producer_served :
    ∃ state, run cacheStep {} (localGet 0 ++ localInvalidation ++ [.finish 0 true] ++ localGet 1) =
          some state ∧ ¬state.ServesFresh := by
  refine ⟨_, rfl, ?_⟩
  intro fresh
  exact absurd (fresh 1 0 3 5 rfl rfl rfl (by decide)) (by decide)

end HotelPms.Reports
