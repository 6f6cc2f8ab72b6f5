import HotelPms.Events.Publication

/-!
# Rows end published or dead

As long as the outcome of a request's attempt is written to the pending row
that its session has read, every outcome that is written belongs to a pending
row.  So a row that was published or given up stays as it is, is not selected
again, and is given up with its eighth failing attempt.
-/

namespace HotelPms.Events

open KeySort RowStore Transition

/-- An outcome belongs to a pending row. -/
def applyDelivery (row : OutboxDelivery) (effect : DeliveryEffect) : Option OutboxDelivery :=
  if row.status = .pending then some (effect.assign row) else none

/-- What a row is like after so many failing attempts. -/
structure Tallied (row : OutboxDelivery) (failures : Nat) : Prop where
  pending : row.status = .pending -> row.publishedAt = none ∧
    row.deadLetteredAt = none ∧ row.attempts = failures ∧ failures < outboxMaxAttempts
  published : row.status = .published -> row.publishedAt ≠ none ∧
    row.deadLetteredAt = none ∧ failures < outboxMaxAttempts
  dead : row.status = .deadLetter -> row.publishedAt = none ∧
    row.deadLetteredAt ≠ none ∧ failures = outboxMaxAttempts

def failingAttempts (effects : List DeliveryEffect) : Nat :=
  effects.countP (·.outcome.isFailure)

section

variable {row : OutboxDelivery} {failures : Nat}

theorem tallied_inserted (hotelId : Int) (postgresTransport : Bool) (now : Int) :
    Tallied (insertedOutboxRow hotelId postgresTransport now) 0 := by
  unfold insertedOutboxRow
  cases postgresTransport <;> constructor <;> simp [outboxMaxAttempts]

theorem Tallied.markPublished (tallied : Tallied row failures)
    (isPending : row.status = .pending) (revision now : Int) :
    Tallied (row.markPublished revision now) failures := by
  obtain ⟨-, notDead, -, few⟩ := tallied.pending isPending
  unfold OutboxDelivery.markPublished
  constructor <;> simp [notDead, few]

theorem Tallied.markFailed (tallied : Tallied row failures)
    (isPending : row.status = .pending) (error : String)
    (now nextAttemptAt : Int) :
    Tallied (row.markFailed error now nextAttemptAt) (failures + 1) := by
  obtain ⟨unpublished, notDead, counted, few⟩ := tallied.pending isPending
  unfold OutboxDelivery.markFailed
  split_ifs with last
  · constructor <;> simp [unpublished]
    omega
  · constructor <;> simp [unpublished, notDead, counted]
    omega

theorem Tallied.assign (tallied : Tallied row failures)
    (isPending : row.status = .pending) (effect : DeliveryEffect) :
    Tallied (effect.assign row) (failures + if effect.outcome.isFailure = true then 1 else 0) := by
  cases effect with
  | record outcome now =>
    cases outcome with
    | published revision => exact tallied.markPublished isPending revision now
    | failed errorType => exact tallied.markFailed isPending errorType now now
  | publish outcome now =>
    cases outcome with
    | published revision => exact tallied.markPublished isPending revision now
    | failed errorType => exact tallied.markFailed isPending _ now _

theorem tallied_run {first : OutboxDelivery} (initial : Tallied first 0)
    {effects : List DeliveryEffect}
    (ran : run applyDelivery first effects = some row) :
    Tallied row (failingAttempts effects) := by
  refine @run_invariant _ _ _ _ _ (fun events state =>
    Tallied state (failingAttempts events)) initial ?_ _ ran
  intro events before effect after tallied applied
  unfold applyDelivery at applied
  split_ifs at applied with isPending
  cases applied
  have counted := tallied.assign isPending effect
  unfold failingAttempts at counted ⊢
  rwa [List.countP_append, List.countP_singleton]

theorem Tallied.pending_of_due (tallied : Tallied row failures)
    {hotelId now : Int} (due : row.Due hotelId now) :
    row.status = .pending := by
  obtain ⟨-, unpublished, notDead, -⟩ := due
  cases status : row.status with
  | pending => rfl
  | published => exact absurd unpublished (tallied.published status).1
  | deadLetter => exact absurd status notDead

/-- Writing every column of a row anew is the same as writing those that have
changed. -/
theorem updatedRow_self (changed : OutboxDelivery) : updatedRow row changed row = changed := by
  have same {α : Type} [DecidableEq α] (old new : α) : updatedColumn old new old = new := by
    unfold updatedColumn
    split_ifs with unchanged
    · exact unchanged.symm
    · rfl
  unfold updatedRow
  simp only [same]

end

variable {τ : Type} [DecidableEq τ]

namespace PublicationSystem

variable (system : PublicationSystem τ)

/-- The outcome of a request's attempt is written to the row that its session
has read, which is still as it was read, and pending. -/
def WritesPending (session : τ) (rowId : Int) : Prop :=
  (system.loaded session rowId).any (fun row => decide (row.status = .pending) &&
      decide (system.store.visible session rowId = some row)) = true
deriving Decidable

/-- Condition on the steps of a run. -/
def Guard : PublicationEvent τ -> Prop
  | .recordAttempt session rowId _ _ => system.WritesPending session rowId
  | _ => True

instance : ∀ event, Decidable (system.Guard event)
  | .recordAttempt session rowId _ _ =>
    inferInstanceAs (Decidable (system.WritesPending session rowId))
  | .insertRow _ _ _ _ => .isTrue trivial
  | .selectRows _ _ _ _ _ => .isTrue trivial
  | .publishRow _ _ _ => .isTrue trivial
  | .loadRow _ _ => .isTrue trivial
  | .commit _ => .isTrue trivial
  | .rollback _ => .isTrue trivial

/-- A worker holds the locks of the rows it has still to publish, and these
are pending. -/
def Held (owner : τ) (sweep : OutboxSweep) : Prop :=
  sweep.remaining.Nodup ∧ ∀ rowId ∈ sweep.remaining, system.store.locks.holder rowId = some owner ∧
      ∃ row, system.store.visible owner rowId = some row ∧ row.status = .pending

/-- The rows are what the outcomes written to pending rows lead to. -/
structure Recorded : Prop where
  serial : ∃ start, (∀ rowId row, start rowId = some row -> Tallied row 0) ∧
    Serial applyDelivery start system.store system.log system.effects
  held : ∀ owner sweep, system.sweeps owner = some sweep -> system.Held owner sweep
  distinct : system.ids.Nodup
  stored : ∀ rowId ∈ system.ids, system.store.committed rowId ≠ none

end PublicationSystem

section

variable {system after : PublicationSystem τ} {owner : τ} {rowId : Int}

omit [DecidableEq τ] in
theorem recorded_init : (PublicationSystem.init : PublicationSystem τ).Recorded where
  serial := ⟨fun _ => none, by simp, serial_initial _⟩
  held := by simp [PublicationSystem.init]
  distinct := List.nodup_nil
  stored := by simp [PublicationSystem.init]

omit [DecidableEq τ] in
theorem PublicationSystem.Recorded.tallied (recorded : system.Recorded)
    {row : OutboxDelivery} (isRow : system.store.visible owner rowId = some row) :
    ∃ failures, Tallied row failures := by
  obtain ⟨start, fresh, serial⟩ := recorded.serial
  have ran : replay applyDelivery (start rowId)
      (effectsOn rowId (system.log ++ system.effects owner)) = some row := by
    rw [effectsOn_append, replay_append, serial.committed, serial.visible, isRow]
  obtain ⟨first, isFirst, ran⟩ := Option.bind_eq_some_iff.mp ran
  exact ⟨_, tallied_run (fresh rowId first isFirst) ran⟩

omit [DecidableEq τ] in
theorem PublicationSystem.Recorded.tallied_committed
    (recorded : system.Recorded) {row : OutboxDelivery}
    (isRow : system.store.committed rowId = some row) :
    Tallied row (failingAttempts (effectsOn rowId system.log)) := by
  obtain ⟨start, fresh, serial⟩ := recorded.serial
  have ran := serial.committed rowId
  rw [isRow] at ran
  obtain ⟨first, isFirst, ran⟩ := Option.bind_eq_some_iff.mp ran
  exact tallied_run (fresh rowId first isFirst) ran

section

variable {store : RowStore Int OutboxDelivery τ} {other : τ}

theorem lockRows_visible (rows : List Int) (other : τ) (another : Int) :
    (PublicationSystem.lockRows store owner rows).visible other another =
      store.visible other another := by
  induction rows generalizing store with
  | nil => rfl
  | cons first rest ih =>
    unfold PublicationSystem.lockRows
    split_ifs
    · rw [ih, visible_lock]
    · exact ih

theorem lockRows_committed (rows : List Int) :
    (PublicationSystem.lockRows store owner rows).committed = store.committed := by
  induction rows generalizing store with
  | nil => rfl
  | cons first rest ih =>
    unfold PublicationSystem.lockRows
    split_ifs <;> exact ih

theorem lockRows_held (rows : List Int) {another : Int}
    (held : store.locks.holder another = some other) :
    (PublicationSystem.lockRows store owner rows).locks.holder another = some other := by
  induction rows generalizing store with
  | nil => exact held
  | cons first rest ih =>
    unfold PublicationSystem.lockRows
    split_ifs with available
    · exact ih (available.acquire_eq_some held)
    · exact ih held

theorem lockRows_locks {rows : List Int} (member : rowId ∈ rows)
    (available : store.locks.Available rowId owner) :
    (PublicationSystem.lockRows store owner rows).locks.holder rowId = some owner := by
  induction rows generalizing store with
  | nil => cases member
  | cons first rest ih =>
    unfold PublicationSystem.lockRows
    rcases List.mem_cons.mp member with rfl | later
    · rw [dif_pos available]
      exact lockRows_held rest LockTable.acquire_self
    · split_ifs with free
      · apply ih later
        rcases available with unlocked | own
        · by_cases same : rowId = first
          · exact .inr (same ▸ LockTable.acquire_self)
          · refine .inl ?_
            unfold RowStore.lock LockTable.acquire
            simp only [Function.update_of_ne same, unlocked]
        · exact .inr (free.acquire_eq_some own)
      · exact ih later available

theorem lockRows_serial {start : Int -> Option OutboxDelivery} {log : List (Int × DeliveryEffect)}
    {effects : τ -> List (Int × DeliveryEffect)}
    (serial : Serial applyDelivery start store log effects) (rows : List Int) :
    Serial applyDelivery start (PublicationSystem.lockRows store owner rows) log effects := by
  induction rows generalizing store with
  | nil => exact serial
  | cons first rest ih =>
    unfold PublicationSystem.lockRows
    split_ifs with available
    · exact ih (serial.lock available)
    · exact ih serial

end

theorem mem_pendingDomainEvents {hotelId batchSize now : Int}
    (selected : rowId ∈ system.pendingDomainEvents owner hotelId batchSize now) :
    rowId ∈ system.ids ∧ system.store.locks.Available rowId owner ∧
        ∃ row, system.store.visible owner rowId = some row ∧ row.Due hotelId now := by
  have kept := List.mem_of_mem_take selected
  simp only [List.mem_filter, mem_sortByKey, Bool.and_eq_true,
    decide_eq_true_eq, Option.any_eq_true_iff_get] at kept
  obtain ⟨member, ⟨isSome, due⟩, available⟩ := kept
  exact ⟨member, available, _, (Option.some_get isSome).symm, due⟩

theorem nodup_pendingDomainEvents (distinct : system.ids.Nodup) (hotelId batchSize now : Int) :
    (system.pendingDomainEvents owner hotelId batchSize now).Nodup := by
  apply List.Nodup.sublist (List.take_sublist _ _)
  apply List.Nodup.filter
  exact (sortByKey_perm id system.ids).nodup_iff.mpr distinct

/-! ### Steps -/

theorem PublicationSystem.Recorded.selectRows (recorded : system.Recorded)
    (hotelId batchSize : Int) (stopOnFailure : Bool) (now : Int) :
    (system.selectRows owner hotelId batchSize stopOnFailure now).Recorded := by
  obtain ⟨start, fresh, serial⟩ := recorded.serial
  refine ⟨⟨start, fresh, lockRows_serial serial _⟩, ?_, recorded.distinct, ?_⟩
  · intro other sweep isSweep
    unfold PublicationSystem.selectRows at isSweep
    dsimp only at isSweep
    by_cases same : other = owner
    · subst same
      rw [Function.update_self] at isSweep
      cases isSweep
      refine ⟨nodup_pendingDomainEvents recorded.distinct _ _ _, ?_⟩
      intro rowId selected
      obtain ⟨-, available, row, isRow, due⟩ := mem_pendingDomainEvents selected
      obtain ⟨failures, tallied⟩ := recorded.tallied isRow
      exact ⟨lockRows_locks selected available, row,
        (lockRows_visible _ _ _).trans isRow, tallied.pending_of_due due⟩
    · rw [Function.update_of_ne same] at isSweep
      obtain ⟨nodup, held⟩ := recorded.held other sweep isSweep
      refine ⟨nodup, fun rowId member => ?_⟩
      obtain ⟨locked, row, isRow, isPending⟩ := held rowId member
      exact ⟨lockRows_held _ locked, row, (lockRows_visible _ _ _).trans isRow, isPending⟩
  · intro rowId member
    show (PublicationSystem.lockRows _ _ _).committed rowId ≠ none
    rw [lockRows_committed]
    exact recorded.stored rowId member

variable {change : OutboxDelivery -> OutboxDelivery}

variable {effect : DeliveryEffect} {another : Int}

theorem writeRow_cases (written : system.writeRow owner rowId effect change = some after) :
    ∃ row, ∃ available : system.store.locks.Available rowId owner,
      system.store.visible owner rowId = some row ∧ after = { system with
          store := system.store.write owner rowId (change row) available
          effects := Function.update system.effects owner
            (system.effects owner ++ [(rowId, effect)]) } := by
  unfold PublicationSystem.writeRow at written
  split at written
  · next store updated =>
    cases written
    rcases updateWhere_cases _ _ _ updated with ⟨-, unchanged⟩ |
      ⟨row, result, available, isRow, isResult, isStore, -⟩
    · cases unchanged
    · cases isResult
      exact ⟨row, available, isRow, by rw [isStore]⟩
  · cases written

variable {row : OutboxDelivery}

theorem PublicationSystem.Recorded.writeRow (recorded : system.Recorded)
    (written : system.writeRow owner rowId effect change = some after)
    (isRow : system.store.visible owner rowId = some row)
    (isPending : row.status = .pending)
    (changes : change row = effect.assign row) (sweep : Option OutboxSweep)
    (isSweep : ∀ next ∈ sweep, rowId ∉ next.remaining ∧
      next.remaining.Nodup ∧ ∃ former, system.sweeps owner = some former ∧
        ∀ another ∈ next.remaining, another ∈ former.remaining) :
    ({ after with
      sweeps := Function.update system.sweeps owner sweep } : PublicationSystem τ).Recorded := by
  obtain ⟨start, fresh, serial⟩ := recorded.serial
  obtain ⟨current, available, isCurrent, rfl⟩ := writeRow_cases written
  obtain rfl : row = current :=
    Option.some.inj (isRow.symm.trans isCurrent)
  rw [changes]
  refine ⟨⟨start, fresh, serial.write available isRow ?_⟩, ?_, recorded.distinct, recorded.stored⟩
  · unfold applyDelivery
    rw [if_pos isPending]
  · intro other next isNext
    dsimp only at isNext
    by_cases same : other = owner
    · subst same
      rw [Function.update_self] at isNext
      obtain ⟨done, nodup, former, isFormer, subset⟩ := isSweep next isNext
      refine ⟨nodup, fun another member => ?_⟩
      obtain ⟨locked, held⟩ := (recorded.held other former isFormer).2 another
        (subset another member)
      refine ⟨available.acquire_eq_some locked, ?_⟩
      rwa [visible_write_of_ne available]
      rintro rfl
      exact done member
    · rw [Function.update_of_ne same] at isNext
      obtain ⟨nodup, held⟩ := recorded.held other next isNext
      refine ⟨nodup, fun another member => ?_⟩
      obtain ⟨locked, held⟩ := held another member
      exact ⟨available.acquire_eq_some locked, by rwa [visible_write_other available same]⟩

variable {store : RowStore Int OutboxDelivery τ}

/-- The rows of other workers stay held when a transaction ends. -/
theorem PublicationSystem.Recorded.finish (recorded : system.Recorded)
    {log : List (Int × DeliveryEffect)}
    (serial : ∀ {start}, Serial applyDelivery start system.store system.log
      system.effects -> Serial applyDelivery start store log
        (Function.update system.effects owner []))
    (kept : ∀ {other another}, other ≠ owner -> system.store.locks.holder another = some other ->
        store.locks.holder another = some other ∧
          store.visible other another = system.store.visible other another)
    (stored : ∀ another, system.store.committed another ≠ none -> store.committed another ≠ none) :
    (system.finish owner store log).Recorded := by
  obtain ⟨start, fresh, isSerial⟩ := recorded.serial
  refine ⟨⟨start, fresh, serial isSerial⟩, ?_, recorded.distinct,
    fun another member => stored another (recorded.stored another member)⟩
  intro other sweep isSweep
  unfold PublicationSystem.finish at isSweep ⊢
  dsimp only at isSweep
  by_cases same : other = owner
  · subst same
    rw [Function.update_self] at isSweep
    cases isSweep
  · rw [Function.update_of_ne same] at isSweep
    obtain ⟨nodup, held⟩ := recorded.held other sweep isSweep
    refine ⟨nodup, fun another member => ?_⟩
    obtain ⟨locked, row, isRow, isPending⟩ := held another member
    obtain ⟨stillLocked, sameRow⟩ := kept same locked
    exact ⟨stillLocked, row, sameRow.trans isRow, isPending⟩

theorem committed_commit_ne_none (isStored : store.committed another ≠ none) :
    (store.commit owner).committed another ≠ none := by
  intro missing
  exact isStored (Option.or_eq_none_iff.mp missing).2

theorem kept_commit {other : τ} (different : other ≠ owner)
    (locked : store.locks.holder another = some other) :
    (store.commit owner).locks.holder another = some other ∧
      (store.commit owner).visible other another = store.visible other another := by
  refine ⟨LockTable.release_eq_some locked different, ?_⟩
  have sameCommitted : (store.commit owner).committed another = store.committed another :=
    visible_eq_committed_of_locked locked different.symm
  unfold visible
  rw [sameCommitted]
  simp [RowStore.commit, Function.update_of_ne different]

theorem kept_rollback {other : τ} (different : other ≠ owner)
    (locked : store.locks.holder another = some other) :
    (store.rollback owner).locks.holder another = some other ∧
      (store.rollback owner).visible other another = store.visible other another := by
  refine ⟨LockTable.release_eq_some locked different, ?_⟩
  simp [visible, RowStore.rollback, Function.update_of_ne different]

theorem PublicationSystem.Recorded.step (recorded : system.Recorded)
    {event : PublicationEvent τ} (guarded : system.Guard event)
    (taken : system.step event = some after) : after.Recorded := by
  obtain ⟨start, fresh, serial⟩ := recorded.serial
  cases event with
  | insertRow newId hotelId postgresTransport now =>
    unfold PublicationSystem.step at taken
    dsimp only at taken
    split_ifs at taken with new
    obtain ⟨absent, free⟩ := new
    cases taken
    refine ⟨⟨_, ?_, serial.insert absent free⟩, ?_, ?_, ?_⟩
    · intro another row isRow
      by_cases same : another = newId
      · subst same
        rw [Function.update_self] at isRow
        cases isRow
        exact tallied_inserted _ _ _
      · rw [Function.update_of_ne same] at isRow
        exact fresh another row isRow
    · intro other sweep isSweep
      obtain ⟨nodup, held⟩ := recorded.held other sweep isSweep
      refine ⟨nodup, fun another member => ?_⟩
      obtain ⟨locked, row, isRow, isPending⟩ := held another member
      refine ⟨locked, row, ?_, isPending⟩
      have different : another ≠ newId := by
        rintro rfl
        rw [free] at locked
        cases locked
      unfold visible at isRow ⊢
      rw [← isRow]
      simp only [RowStore.insert, Function.update_of_ne different]
    · exact List.nodup_cons.mpr ⟨(recorded.stored newId · absent), recorded.distinct⟩
    · intro another member
      show Function.update system.store.committed newId _ another ≠ none
      by_cases same : another = newId
      · rw [same, Function.update_self]
        exact Option.some_ne_none _
      · rw [Function.update_of_ne same]
        exact recorded.stored another ((List.mem_cons.mp member).resolve_left same)
  | selectRows worker hotelId batchSize stopOnFailure now =>
    unfold PublicationSystem.step at taken
    dsimp only at taken
    split_ifs at taken
    cases taken
    exact recorded.selectRows hotelId batchSize stopOnFailure now
  | publishRow worker outcome now =>
    unfold PublicationSystem.step at taken
    dsimp only at taken
    cases isSweep : system.sweeps worker with
    | none =>
      rw [isSweep] at taken
      cases taken
    | some sweep =>
      rw [isSweep] at taken
      dsimp only at taken
      cases listed : sweep.remaining with
      | nil =>
        rw [listed] at taken
        cases taken
      | cons first rest =>
        rw [listed] at taken
        dsimp only at taken
        obtain ⟨nodup, held⟩ := recorded.held worker sweep isSweep
        obtain ⟨-, row, isRow, isPending⟩ := held first (by simp [listed])
        unfold PublicationSystem.publishRow at taken
        rw [isRow, Option.bind_some] at taken
        obtain ⟨written, isWritten, rfl⟩ := Option.map_eq_some_iff.mp taken
        refine recorded.writeRow isWritten isRow isPending rfl _ ?_
        intro next isNext
        cases isNext
        rw [listed, List.nodup_cons] at nodup
        unfold OutboxSweep.next
        split_ifs
        · exact ⟨List.not_mem_nil, List.nodup_nil, sweep, isSweep,
            fun _ member => absurd member List.not_mem_nil⟩
        · rw [listed]
          exact ⟨nodup.1, nodup.2, sweep, isSweep, fun _ member =>
            listed ▸ List.mem_cons_of_mem _ member⟩
  | loadRow session rowId =>
    unfold PublicationSystem.step at taken
    dsimp only at taken
    split_ifs at taken
    cases taken
    exact ⟨recorded.serial, recorded.held, recorded.distinct, recorded.stored⟩
  | recordAttempt session rowId outcome now =>
    unfold PublicationSystem.step at taken
    dsimp only at taken
    split_ifs at taken with idle
    obtain ⟨row, isLoaded, taken⟩ := Option.bind_eq_some_iff.mp taken
    obtain ⟨written, isWritten, rfl⟩ := Option.map_eq_some_iff.mp taken
    have unchanged : system.WritesPending session rowId := guarded
    unfold PublicationSystem.WritesPending at unchanged
    rw [isLoaded, Option.any_some, Bool.and_eq_true, decide_eq_true_eq,
      decide_eq_true_eq] at unchanged
    obtain ⟨isPending, isRow⟩ := unchanged
    have kept := recorded.writeRow isWritten isRow isPending (updatedRow_self _) none (by simp)
    have sameSweeps : Function.update system.sweeps session none = written.sweeps := by
      obtain ⟨_, _, _, rfl⟩ := writeRow_cases isWritten
      rw [← idle, Function.update_eq_self]
    rw [sameSweeps] at kept
    exact ⟨kept.serial, kept.held, kept.distinct, kept.stored⟩
  | commit owner =>
    unfold PublicationSystem.step at taken
    dsimp only at taken
    split_ifs at taken
    cases taken
    exact recorded.finish (·.commit) kept_commit fun _ => committed_commit_ne_none
  | rollback owner =>
    cases taken
    exact recorded.finish (·.rollback) kept_rollback fun _ => id

omit [DecidableEq τ] in
theorem PublicationSystem.Recorded.visible_of_final (recorded : system.Recorded)
    (isRow : system.store.committed rowId = some row)
    (final : row.status ≠ .pending) :
    system.store.visible owner rowId = some row := by
  obtain ⟨start, -, serial⟩ := recorded.serial
  apply serial.visible_of_final isRow
  intro effect
  exact if_neg final

theorem writeRow_committed (written : system.writeRow owner rowId effect change = some after) :
    after.store.committed = system.store.committed := by
  obtain ⟨_, _, _, rfl⟩ := writeRow_cases written
  rfl

theorem PublicationSystem.Recorded.step_of_final (recorded : system.Recorded)
    (isRow : system.store.committed rowId = some row)
    (final : row.status ≠ .pending) {event : PublicationEvent τ}
    (taken : system.step event = some after) :
    after.store.committed rowId = some row := by
  cases event with
  | insertRow newId hotelId postgresTransport now =>
    unfold PublicationSystem.step at taken
    dsimp only at taken
    split_ifs at taken with new
    cases taken
    have different : rowId ≠ newId := by
      rintro rfl
      rw [new.1] at isRow
      cases isRow
    show Function.update system.store.committed newId _ rowId = some row
    rw [Function.update_of_ne different, isRow]
  | selectRows worker hotelId batchSize stopOnFailure now =>
    unfold PublicationSystem.step at taken
    dsimp only at taken
    split_ifs at taken
    cases taken
    show (PublicationSystem.lockRows _ _ _).committed rowId = some row
    rw [lockRows_committed, isRow]
  | publishRow worker outcome now =>
    unfold PublicationSystem.step at taken
    dsimp only at taken
    split at taken
    · cases taken
    · split at taken
      · cases taken
      · obtain ⟨_, -, taken⟩ := Option.bind_eq_some_iff.mp taken
        obtain ⟨written, isWritten, rfl⟩ := Option.map_eq_some_iff.mp taken
        exact (congrFun (writeRow_committed isWritten) rowId).trans isRow
  | loadRow session another =>
    unfold PublicationSystem.step at taken
    dsimp only at taken
    split_ifs at taken
    cases taken
    exact isRow
  | recordAttempt session another outcome now =>
    unfold PublicationSystem.step at taken
    dsimp only at taken
    split_ifs at taken
    obtain ⟨_, -, taken⟩ := Option.bind_eq_some_iff.mp taken
    obtain ⟨written, isWritten, rfl⟩ := Option.map_eq_some_iff.mp taken
    exact (congrFun (writeRow_committed isWritten) rowId).trans isRow
  | commit owner =>
    unfold PublicationSystem.step at taken
    dsimp only at taken
    split_ifs at taken
    cases taken
    exact recorded.visible_of_final isRow final
  | rollback owner =>
    cases taken
    exact isRow

theorem PublicationSystem.Recorded.not_selected (recorded : system.Recorded)
    (isRow : system.store.committed rowId = some row)
    (final : row.status ≠ .pending) (hotelId batchSize now : Int) :
    rowId ∉ system.pendingDomainEvents owner hotelId batchSize now := by
  intro selected
  obtain ⟨-, -, other, isOther, due⟩ := mem_pendingDomainEvents selected
  obtain rfl : row = other := Option.some.inj
    ((recorded.visible_of_final isRow final).symm.trans isOther)
  exact final ((recorded.tallied_committed isRow).pending_of_due due)

end

/-- A row is published, or given up after eight failing attempts, or pending
with fewer of them and due from some time on; never two of these. -/
structure RowSettled (row : OutboxDelivery) (failures : Nat) : Prop where
  published : row.status = .published -> row.publishedAt ≠ none ∧ row.deadLetteredAt = none
  dead : row.status = .deadLetter -> row.publishedAt = none ∧ row.deadLetteredAt ≠ none
  pending : row.status = .pending -> row.publishedAt = none ∧ row.deadLetteredAt = none ∧
      ∃ time, ∀ now, time ≤ now -> row.Due row.hotelId now
  attempts : failures ≤ outboxMaxAttempts ∧
    (failures = outboxMaxAttempts ↔ row.status = .deadLetter)

theorem Tallied.settled {row : OutboxDelivery} {failures : Nat}
    (tallied : Tallied row failures) : RowSettled row failures where
  published := fun status => ⟨(tallied.published status).1, (tallied.published status).2.1⟩
  dead := fun status => ⟨(tallied.dead status).1, (tallied.dead status).2.1⟩
  pending := by
    intro status
    obtain ⟨unpublished, notDead, -, -⟩ := tallied.pending status
    refine ⟨unpublished, notDead, row.nextAttemptAt.getD 0, ?_⟩
    intro now later
    refine ⟨rfl, unpublished, by simp [status], ?_⟩
    intro nextAttemptAt isNext
    rw [isNext] at later
    exact later
  attempts := by
    cases status : row.status with
    | pending =>
      have few := (tallied.pending status).2.2.2
      simp
      omega
    | published =>
      have few := (tallied.published status).2.2
      simp
      omega
    | deadLetter => simp [(tallied.dead status).2.2]

/-- The row stays as it is in a state, and is selected by no worker. -/
def StaysFinal (after : PublicationSystem τ) (rowId : Int) (row : OutboxDelivery) : Prop :=
  after.store.committed rowId = some row ∧ ∀ worker hotelId batchSize now,
      rowId ∉ after.pendingDomainEvents worker hotelId batchSize now

theorem recorded_of_reaches {system : PublicationSystem τ}
    (reached : Reaches PublicationSystem.step PublicationSystem.Guard .init
      system) : system.Recorded :=
  reached.invariant recorded_init fun recorded guarded taken => recorded.step guarded taken

/-- While every outcome of a request is written to the pending row that its
session has read, rows end published or given up, and stay so. -/
theorem publication_settles (system : PublicationSystem τ)
    (reached : Reaches PublicationSystem.step PublicationSystem.Guard .init
      system) (rowId : Int) (row : OutboxDelivery)
    (isRow : system.store.committed rowId = some row) :
    RowSettled row (failingAttempts (effectsOn rowId system.log)) ∧
      (row.status ≠ .pending -> ∀ after,
        Reaches PublicationSystem.step PublicationSystem.Guard system after ->
          StaysFinal after rowId row) := by
  have recorded := recorded_of_reaches reached
  refine ⟨(recorded.tallied_committed isRow).settled, ?_⟩
  intro final after further
  have kept : (fun state : PublicationSystem τ =>
      state.Recorded ∧ state.store.committed rowId = some row) after := by
    apply further.invariant ⟨recorded, isRow⟩
    intro before event next ⟨recorded, isRow⟩ guarded taken
    exact ⟨recorded.step guarded taken, recorded.step_of_final isRow final taken⟩
  exact ⟨kept.2, fun _ hotelId batchSize now =>
    kept.1.not_selected kept.2 final hotelId batchSize now⟩

/-- A worker publishes the first row after the request's attempt has failed,
but before that is recorded. -/
def sweptRow : List (PublicationEvent Bool) :=
  [.insertRow 1 1 false 0, .selectRows true 1 100 true 5,
    .publishRow true (.published 7) 6, .commit true]

/-- The request records its attempt. -/
def lateRecord : List (PublicationEvent Bool) :=
  [.loadRow false 1, .recordAttempt false 1 (.failed realtimeEventsUnavailable) 8, .commit false]

/-- The row that the worker has published. -/
def sweptDelivery : OutboxDelivery where
  hotelId := 1
  status := .published
  attempts := 1
  revision := 7
  publishedAt := some 6

/-- A published row that a late failure was written to is pending, and never
due again. -/
theorem late_failure_reopens_row : ∃ published reopened : PublicationSystem Bool,
      run PublicationSystem.step .init sweptRow = some published ∧
        published.store.committed 1 = some sweptDelivery ∧
        run PublicationSystem.step published lateRecord = some reopened ∧
        ∃ row, reopened.store.committed 1 = some row ∧ row.status = .pending ∧ row.attempts = 2 ∧
          ∀ now, ¬ row.Due row.hotelId now := by
  have before : (run PublicationSystem.step .init sweptRow).map
      (·.store.committed 1) = some (some sweptDelivery) := by
    decide +kernel
  have results : ((run PublicationSystem.step .init sweptRow).bind
      (run PublicationSystem.step · lateRecord)).map (·.store.committed 1) =
      some (some { sweptDelivery with
        status := .pending
        attempts := 2
        nextAttemptAt := some 8
        lastError := some realtimeEventsUnavailable }) := by
    decide +kernel
  obtain ⟨published, ran, isPublished⟩ := Option.map_eq_some_iff.mp before
  rw [ran, Option.bind_some] at results
  obtain ⟨reopened, further, isReopened⟩ := Option.map_eq_some_iff.mp results
  refine ⟨published, reopened, ran, isPublished, further, _, isReopened, rfl, rfl, ?_⟩
  rintro now ⟨-, unpublished, -⟩
  cases unpublished

/-- A request records its failing attempt before a worker selects the row. -/
def recordedRow : List (PublicationEvent Bool) :=
  [.insertRow 1 1 false 0, .loadRow false 1,
    .recordAttempt false 1 (.failed realtimeEventsUnavailable) 2,
    .commit false, .selectRows true 1 100 true 5,
    .publishRow true (.published 7) 6, .commit true]

/-- The row is published with its second attempt and stays so. -/
theorem publication_settles_recordedRow :
    ∃ system : PublicationSystem Bool, run PublicationSystem.step .init recordedRow = some system ∧
        RowSettled { sweptDelivery with attempts := 2 } (failingAttempts (effectsOn 1 system.log)) ∧
        ∀ after, Reaches PublicationSystem.step PublicationSystem.Guard system
          after -> StaysFinal after 1 { sweptDelivery with attempts := 2 } := by
  have results : (run PublicationSystem.step .init recordedRow).map (·.store.committed 1) =
        some (some { sweptDelivery with attempts := 2 }) := by
    decide +kernel
  have guarded : Guarded PublicationSystem.step PublicationSystem.Guard
      .init recordedRow := by decide +kernel
  obtain ⟨system, ran, isRow⟩ := Option.map_eq_some_iff.mp results
  obtain ⟨settled, stays⟩ := publication_settles system (reaches_of_run guarded ran) 1 _ isRow
  exact ⟨system, ran, settled, stays (by decide)⟩

end HotelPms.Events
