import HotelPms.Foundation.RowLocks
import HotelPms.Foundation.Transition

/-!
# Rows written by transactions

A store keeps the committed version of each row and the versions that open
transactions have written, each under its row lock.  A transaction reads its
own version of a row before the committed one.  A conditional update tests the
row it reads: when the test fails it changes nothing, otherwise it needs the
lock, and a transaction that has waited tests again.

Under such updates each committed row is what the committed effects on it
lead to, one after the other in the order of the commits.
-/

/-- Committed rows, and the rows that open transactions have written. -/
structure RowStore (Key Row Owner : Type*) where
  committed : Key -> Option Row
  pending : Owner -> Key -> Option Row
  locks : LockTable Key Owner
  /-- A transaction holds the lock of every row it has written. -/
  locked : ∀ {owner key}, pending owner key ≠ none -> locks.holder key = some owner

namespace RowStore

variable {Key Row Owner ε : Type*} (store : RowStore Key Row Owner)
    (owner other : Owner) (key : Key)

theorem locked_initial {writer : Owner} {written : Key} (isWritten : (none : Option Row) ≠ none) :
    (LockTable.empty : LockTable Key Owner).holder written = some writer :=
  absurd rfl isWritten

/-- No transaction is open. -/
def initial (rows : Key -> Option Row) : RowStore Key Row Owner where
  committed := rows
  pending := fun _ _ => none
  locks := .empty
  locked := locked_initial

/-- The version of a row that a transaction reads. -/
def visible : Option Row :=
  (store.pending owner key).or (store.committed key)

theorem visible_of_unwritten (unwritten : store.pending owner key = none) :
    store.visible owner key = store.committed key := by
  unfold visible
  rw [unwritten]
  rfl

section Operations

variable [DecidableEq Key] [DecidableEq Owner]

variable {written : Key}

theorem locked_write {row : Row} (available : store.locks.Available key owner) {writer : Owner}
    (isWritten : Function.update store.pending owner
      (Function.update (store.pending owner) key (some row)) writer written ≠ none) :
    (store.locks.acquire key owner).holder written = some writer := by
  by_cases sameOwner : writer = owner
  · subst sameOwner
    rw [Function.update_self] at isWritten
    by_cases sameKey : written = key
    · subst sameKey
      exact LockTable.acquire_self
    · rw [Function.update_of_ne sameKey] at isWritten
      exact available.acquire_eq_some (store.locked isWritten)
  · rw [Function.update_of_ne sameOwner] at isWritten
    exact available.acquire_eq_some (store.locked isWritten)

/-- Write a row under its lock. -/
def write (row : Row) (available : store.locks.Available key owner) : RowStore Key Row Owner where
  committed := store.committed
  pending := Function.update store.pending owner
    (Function.update (store.pending owner) key (some row))
  locks := store.locks.acquire key owner
  locked := store.locked_write owner key available

omit [DecidableEq Key] in
theorem locked_release (writer : Owner)
    (isWritten : Function.update store.pending owner (fun _ => none) writer written ≠ none) :
    (store.locks.release owner).holder written = some writer := by
  by_cases sameOwner : writer = owner
  · subst sameOwner
    rw [Function.update_self] at isWritten
    exact absurd rfl isWritten
  · rw [Function.update_of_ne sameOwner] at isWritten
    exact LockTable.release_eq_some (store.locked isWritten) sameOwner

omit [DecidableEq Owner] in
theorem locked_lock (available : store.locks.Available key owner) {writer : Owner}
    (isWritten : store.pending writer written ≠ none) :
    (store.locks.acquire key owner).holder written = some writer :=
  available.acquire_eq_some (store.locked isWritten)

/-- Lock a row without writing it. -/
def lock (available : store.locks.Available key owner) : RowStore Key Row Owner where
  committed := store.committed
  pending := store.pending
  locks := store.locks.acquire key owner
  locked := store.locked_lock owner key available

/-- A transaction has inserted a row and committed it. -/
def insert (row : Row) : RowStore Key Row Owner where
  committed := Function.update store.committed key (some row)
  pending := store.pending
  locks := store.locks
  locked := store.locked

/-- The rows a transaction has written become the committed ones. -/
def commit : RowStore Key Row Owner where
  committed := store.visible owner
  pending := Function.update store.pending owner fun _ => none
  locks := store.locks.release owner
  locked := store.locked_release owner _

/-- The rows a transaction has written are given up. -/
def rollback : RowStore Key Row Owner where
  committed := store.committed
  pending := Function.update store.pending owner fun _ => none
  locks := store.locks.release owner
  locked := store.locked_release owner _

/-- Change a row where a test accepts it, and tell whether it was changed.
Without its lock the transaction waits. -/
def updateWhere (change : Row -> Option Row) : Option (RowStore Key Row Owner × Bool) :=
  match (store.visible owner key).bind change with
  | none => some (store, false)
  | some row =>
    if available : store.locks.Available key owner then
      some (store.write owner key row available, true)
    else none

theorem updateWhere_cases {change : Row -> Option Row}
    {after : RowStore Key Row Owner} {changed : Bool}
    (updated : store.updateWhere owner key change = some (after, changed)) :
    (after = store ∧ changed = false) ∨ ∃ row result, ∃ available : store.locks.Available key owner,
        store.visible owner key = some row ∧ change row = some result ∧
          after = store.write owner key result available ∧ changed = true := by
  unfold updateWhere at updated
  cases tested : (store.visible owner key).bind change with
  | none =>
    rw [tested] at updated
    cases updated
    exact .inl ⟨rfl, rfl⟩
  | some result =>
    rw [tested] at updated
    split_ifs at updated with available
    cases updated
    obtain ⟨row, isRow, isResult⟩ := Option.bind_eq_some_iff.mp tested
    exact .inr ⟨row, result, available, isRow, isResult, rfl, rfl⟩

variable {store owner other key}

section

variable (available : store.locks.Available key owner)
include available

variable {row : Row} {another : Key}

theorem visible_write_self :
    (store.write owner key row available).visible owner key = some row := by
  unfold visible write
  simp only [Function.update_self, Option.some_or]

theorem visible_write_of_ne (different : another ≠ key) :
    (store.write owner key row available).visible owner another = store.visible owner another := by
  unfold visible write
  simp only [Function.update_self, Function.update_of_ne different]

theorem visible_write_other (different : other ≠ owner) :
    (store.write owner key row available).visible other another = store.visible other another := by
  unfold visible write
  simp only [Function.update_of_ne different]

omit [DecidableEq Owner] in
@[simp] theorem visible_lock :
    (store.lock owner key available).visible other another = store.visible other another := rfl

omit available in
omit [DecidableEq Key] [DecidableEq Owner] in
theorem pending_eq_none_of_locked (held : store.locks.holder key = some owner)
    (different : other ≠ owner) : store.pending other key = none := by
  by_contra written
  have heldOther := store.locked written
  rw [held] at heldOther
  exact different (Option.some.inj heldOther).symm

omit available in
omit [DecidableEq Key] [DecidableEq Owner] in
theorem visible_eq_committed_of_locked
    (held : store.locks.holder key = some owner) (different : other ≠ owner) :
    store.visible other key = store.committed key :=
  store.visible_of_unwritten other key (pending_eq_none_of_locked held different)

theorem write_pending (written : store.pending owner key = some row) :
    store.write owner key row available = store := by
  have held : store.locks.holder key = some owner :=
    store.locked (by rw [written]; exact Option.some_ne_none row)
  have samePending : Function.update store.pending owner
      (Function.update (store.pending owner) key (some row)) = store.pending := by
    rw [← written, Function.update_eq_self, Function.update_eq_self]
  have sameLocks : store.locks.acquire key owner = store.locks := by
    unfold LockTable.acquire
    rw [← held, Function.update_eq_self]
  unfold write
  congr 1

end

omit [DecidableEq Key] [DecidableEq Owner] in
theorem pending_eq_none_of_ne {row : Row} (written : store.pending owner key = some row)
    (different : other ≠ owner) : store.pending other key = none := by
  by_contra alsoWritten
  have held : store.locks.holder key = some owner :=
    store.locked (by rw [written]; exact Option.some_ne_none row)
  have heldOther := store.locked alsoWritten
  rw [held] at heldOther
  exact different (Option.some.inj heldOther).symm

end Operations

/-! ## Serial effects -/

section Serial

variable [DecidableEq Key]

def effectsOn (effects : List (Key × ε)) : List ε :=
  (effects.filter (·.1 = key)).map Prod.snd

@[simp] theorem effectsOn_nil : effectsOn key ([] : List (Key × ε)) = [] :=
  rfl

@[simp] theorem effectsOn_append (first second : List (Key × ε)) :
    effectsOn key (first ++ second) = effectsOn key first ++ effectsOn key second := by
  unfold effectsOn
  rw [List.filter_append, List.map_append]

theorem effectsOn_singleton_self (effect : ε) : effectsOn key [(key, effect)] = [effect] := by
  simp [effectsOn]

theorem effectsOn_singleton_of_ne {another : Key} (effect : ε)
    (different : another ≠ key) : effectsOn key [(another, effect)] = [] := by
  simp [effectsOn, different]

theorem mem_effectsOn {effects : List (Key × ε)} {effect : ε} :
    effect ∈ effectsOn key effects ↔ (key, effect) ∈ effects := by
  unfold effectsOn
  simp only [List.mem_map, List.mem_filter, decide_eq_true_eq]
  constructor
  · rintro ⟨⟨_, _⟩, ⟨member, rfl⟩, rfl⟩
    exact member
  · intro member
    exact ⟨_, ⟨member, rfl⟩, rfl⟩

/-- A row after some effects, in order. -/
def replay (apply : Row -> ε -> Option Row) (row : Option Row) (effects : List ε) : Option Row :=
  row.bind (Transition.run apply · effects)

variable {apply : Row -> ε -> Option Row}

@[simp] theorem replay_nil (row : Option Row) : replay apply row [] = row := by
  cases row <;> rfl

theorem replay_append (row : Option Row) (first second : List ε) :
    replay apply row (first ++ second) = replay apply (replay apply row first) second := by
  cases row with
  | none => rfl
  | some row => exact Transition.run_append apply row first second

theorem replay_singleton {row result : Row} {effect : ε}
    (applied : apply row effect = some result) :
    replay apply (some row) [effect] = some result := by
  unfold replay
  rw [Option.bind_some, Transition.run_singleton]
  exact applied

/-- The committed rows are what the committed effects lead to, and the rows
that a transaction reads are what its own effects lead to from them. -/
structure Serial (apply : Row -> ε -> Option Row) (start : Key -> Option Row)
    (store : RowStore Key Row Owner) (log : List (Key × ε))
    (effects : Owner -> List (Key × ε)) : Prop where
  committed : ∀ key, replay apply (start key) (effectsOn key log) = store.committed key
  visible : ∀ owner key, replay apply (store.committed key) (effectsOn key (effects owner)) =
      store.visible owner key
  unwritten : ∀ owner key, store.pending owner key = none -> effectsOn key (effects owner) = []
  absent : ∀ key, store.committed key = none -> effectsOn key log = []

theorem serial_initial (rows : Key -> Option Row) :
    Serial apply rows (initial rows : RowStore Key Row Owner) [] (fun _ => []) where
  committed := fun _ => replay_nil _
  visible := fun _ _ => replay_nil _
  unwritten := fun _ _ _ => rfl
  absent := fun _ _ => rfl

variable {start : Key -> Option Row} {store : RowStore Key Row Owner} {log : List (Key × ε)}
    {effects : Owner -> List (Key × ε)} {owner : Owner} {key : Key}

section

variable (serial : Serial apply start store log effects)
include serial

/-- A lock without a write changes no row. -/
theorem Serial.lock (available : store.locks.Available key owner) :
    Serial apply start (store.lock owner key available) log effects where
  committed := serial.committed
  visible := serial.visible
  unwritten := serial.unwritten
  absent := serial.absent

theorem Serial.path (changed : effectsOn key log ≠ []) :
    ∃ first last, start key = some first ∧ store.committed key = some last ∧
      Transition.run apply first (effectsOn key log) = some last := by
  have ran := serial.committed key
  cases isLast : store.committed key with
  | none => exact absurd (serial.absent key isLast) changed
  | some last =>
    rw [isLast] at ran
    obtain ⟨first, isFirst, path⟩ := Option.bind_eq_some_iff.mp ran
    exact ⟨first, last, isFirst, rfl, path⟩

theorem Serial.openPath (changed : effectsOn key (effects owner) ≠ []) :
    ∃ first last, store.committed key = some first ∧ store.visible owner key = some last ∧
      store.pending owner key ≠ none ∧
      Transition.run apply first (effectsOn key (effects owner)) = some last := by
  have written : store.pending owner key ≠ none := fun unwritten =>
    changed (serial.unwritten owner key unwritten)
  have ran := serial.visible owner key
  cases isLast : store.visible owner key with
  | none => exact absurd (Option.or_eq_none_iff.mp isLast).1 written
  | some last =>
    rw [isLast] at ran
    obtain ⟨first, isFirst, path⟩ := Option.bind_eq_some_iff.mp ran
    exact ⟨first, last, isFirst, rfl, written, path⟩

theorem Serial.onwards {later : RowStore Key Row Owner} {more : List (Key × ε)}
    {laterEffects : Owner -> List (Key × ε)}
    (serialLater : Serial apply start later (log ++ more) laterEffects)
    {row : Row} (isRow : store.committed key = some row) :
    ∃ result, later.committed key = some result ∧
      Transition.run apply row (effectsOn key more) = some result := by
  have ran := serialLater.committed key
  rw [effectsOn_append, replay_append, serial.committed, isRow] at ran
  cases isResult : later.committed key with
  | none =>
    -- effects on a row leave the row
    have nothing := serialLater.absent key isResult
    rw [effectsOn_append, List.append_eq_nil_iff] at nothing
    rw [nothing.2, replay_nil, isResult] at ran
    cases ran
  | some result =>
    rw [isResult] at ran
    exact ⟨result, rfl, ran⟩

theorem Serial.visible_of_final {row : Row} (isRow : store.committed key = some row)
    (final : ∀ effect, apply row effect = none) :
    store.visible owner key = some row := by
  have ran := serial.visible owner key
  cases more : effectsOn key (effects owner) with
  | nil =>
    rw [more, replay_nil] at ran
    rw [← ran, isRow]
  | cons effect rest =>
    rw [more, isRow] at ran
    unfold replay at ran
    rw [Option.bind_some, Transition.run, List.foldlM_cons, final effect] at ran
    have nothing := (Option.or_eq_none_iff.mp ran.symm).2
    rw [isRow] at nothing
    cases nothing

theorem Serial.insert {row : Row} (absent : store.committed key = none)
    (free : store.locks.holder key = none) :
    Serial apply (Function.update start key (some row)) (store.insert key row) log effects := by
  have unwritten (owner : Owner) : store.pending owner key = none := by
    by_contra written
    rw [store.locked written] at free
    cases free
  refine ⟨fun another => ?_, fun owner another => ?_, serial.unwritten, fun another missing => ?_⟩
  · unfold RowStore.insert
    by_cases same : another = key
    · subst same
      rw [serial.absent another absent, replay_nil]
      simp only [Function.update_self]
    · simp only [Function.update_of_ne same, serial.committed]
  · unfold RowStore.visible RowStore.insert
    by_cases same : another = key
    · subst same
      rw [serial.unwritten owner another (unwritten owner), replay_nil, unwritten owner]
      simp only [Function.update_self, Option.none_or]
    · simp only [Function.update_of_ne same]
      exact serial.visible owner another
  · have missing : Function.update store.committed key (some row) another =
        none := missing
    by_cases same : another = key
    · subst same
      rw [Function.update_self] at missing
      cases missing
    · rw [Function.update_of_ne same] at missing
      exact serial.absent another missing

variable [DecidableEq Owner]

theorem Serial.write {row result : Row} {effect : ε} (available : store.locks.Available key owner)
    (isRow : store.visible owner key = some row)
    (applied : apply row effect = some result) :
    Serial apply start (store.write owner key result available) log
      (Function.update effects owner (effects owner ++ [(key, effect)])) := by
  refine ⟨serial.committed, fun reader another => ?_,
    fun writer another unwritten => ?_, serial.absent⟩
  · show replay apply (store.committed another) _ = _
    by_cases sameOwner : reader = owner
    · subst sameOwner
      rw [Function.update_self, effectsOn_append, replay_append, serial.visible]
      by_cases sameKey : another = key
      · subst sameKey
        rw [effectsOn_singleton_self, visible_write_self, isRow, replay_singleton applied]
      · rw [effectsOn_singleton_of_ne _ _ (Ne.symm sameKey), replay_nil,
          visible_write_of_ne available sameKey]
    · rw [Function.update_of_ne sameOwner, serial.visible, visible_write_other available sameOwner]
  · by_cases sameOwner : writer = owner
    · subst sameOwner
      have unwrittenThere : Function.update (store.pending writer) key
          (some result) another = none := by
        simpa [RowStore.write] using unwritten
      by_cases sameKey : another = key
      · subst sameKey
        rw [Function.update_self] at unwrittenThere
        cases unwrittenThere
      · rw [Function.update_of_ne sameKey] at unwrittenThere
        rw [Function.update_self, effectsOn_append, serial.unwritten writer another unwrittenThere,
          effectsOn_singleton_of_ne _ _ (Ne.symm sameKey)]
        rfl
    · have unwrittenThere : store.pending writer another = none := by
        simpa [RowStore.write, Function.update_of_ne sameOwner] using unwritten
      rw [Function.update_of_ne sameOwner]
      exact serial.unwritten writer another unwrittenThere

theorem Serial.commit : Serial apply start (store.commit owner) (log ++ effects owner)
      (Function.update effects owner []) := by
  refine ⟨fun another => ?_, fun reader another => ?_,
    fun writer another unwritten => ?_, fun another absent => ?_⟩
  · rw [effectsOn_append, replay_append, serial.committed]
    exact serial.visible owner another
  · by_cases sameOwner : reader = owner
    · subst sameOwner
      have cleared : (store.commit reader).pending reader another = none := by
        simp [RowStore.commit]
      rw [Function.update_self, effectsOn_nil, replay_nil, visible_of_unwritten _ _ _ cleared]
    · rw [Function.update_of_ne sameOwner]
      have samePending : (store.commit owner).pending reader another =
          store.pending reader another := by
        simp [RowStore.commit, Function.update_of_ne sameOwner]
      cases written : store.pending reader another with
      | none =>
        rw [serial.unwritten reader another written, replay_nil,
          visible_of_unwritten _ _ _ (samePending.trans written)]
      | some row =>
        -- the committed version of a row that another one has written is
        -- not changed
        have unwritten : store.pending owner another = none :=
          pending_eq_none_of_ne written (Ne.symm sameOwner)
        have same : (store.commit owner).committed another = store.committed another :=
          store.visible_of_unwritten owner another unwritten
        unfold RowStore.visible
        rw [same, samePending, serial.visible]
        rfl
  · by_cases sameOwner : writer = owner
    · subst sameOwner
      rw [Function.update_self]
      rfl
    · rw [Function.update_of_ne sameOwner]
      refine serial.unwritten writer another ?_
      simpa [RowStore.commit, Function.update_of_ne sameOwner] using unwritten
  · obtain ⟨unwritten, missing⟩ := Option.or_eq_none_iff.mp absent
    rw [effectsOn_append, serial.absent another missing, serial.unwritten owner another unwritten]
    rfl

theorem Serial.rollback :
    Serial apply start (store.rollback owner) log (Function.update effects owner []) := by
  refine ⟨serial.committed, fun reader another => ?_,
    fun writer another unwritten => ?_, serial.absent⟩
  · by_cases sameOwner : reader = owner
    · subst sameOwner
      have cleared : (store.rollback reader).pending reader another =
          none := by
        simp [RowStore.rollback]
      rw [Function.update_self, effectsOn_nil, replay_nil, visible_of_unwritten _ _ _ cleared]
    · unfold RowStore.visible RowStore.rollback
      simp only [Function.update_of_ne sameOwner]
      exact serial.visible reader another
  · by_cases sameOwner : writer = owner
    · subst sameOwner
      rw [Function.update_self]
      rfl
    · rw [Function.update_of_ne sameOwner]
      refine serial.unwritten writer another ?_
      simpa [RowStore.rollback, Function.update_of_ne sameOwner] using unwritten

end

end Serial

end RowStore
