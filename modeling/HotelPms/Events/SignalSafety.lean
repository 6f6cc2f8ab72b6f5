import HotelPms.Events.Signals
import Mathlib.Data.List.Nodup

/-!
# Signals of committed work

A call counts as long as no savepoint around it was rolled back.  When every
rollback of a savepoint drops exactly the signals that were queued inside it,
the queue holds the signals of the calls that count, each once.  A savepoint
that was released into the one that is rolled back leaves its signals behind,
because they carry its own identity; and a savepoint that was given the
identity of an earlier one takes signals along that were queued before it.
-/

namespace HotelPms.Events

open Transition

/-- No savepoint around the call was rolled back. -/
def Counts (rolledBack : List Nat) (enclosing : List Nat) : Prop :=
  ∀ number ∈ enclosing, number ∉ rolledBack

namespace SignalSession

variable (session : SignalSession)

/-- Some call of the signal counts. -/
def Surviving (signal : Signal) : Prop :=
  ∃ enclosing, (signal, enclosing) ∈ session.points ∧ Counts session.rolledBack enclosing

def Queued (signal : Signal) : Prop :=
  ∃ queued ∈ session.pending, queued.signal = signal

/-- The queue holds the signals of the calls that count. -/
def Matches : Prop :=
  ∀ signal, session.Queued signal ↔ session.Surviving signal

/-- The signals with the identity of the innermost savepoint are those that
were queued inside it. -/
def DropsOwn : Prop :=
  ∀ savepoint ∈ session.nested.head?, ∀ queued ∈ session.pending,
    queued.transactionId = savepoint.transactionId ↔ savepoint.number ∈ queued.enclosing
deriving Decidable

/-- Condition on the steps of a run. -/
def Guard : SessionEvent -> Prop
  | .rollbackNested => session.DropsOwn
  | _ => True

instance : ∀ event, Decidable (session.Guard event)
  | .rollbackNested => inferInstanceAs (Decidable session.DropsOwn)
  | .queue _ => .isTrue trivial
  | .beginNested _ => .isTrue trivial
  | .release => .isTrue trivial
  | .commit _ _ _ => .isTrue trivial
  | .rollback _ => .isTrue trivial

/-- Every queued signal is that of a call that counts.  For every call that
counts its signal is queued, and was queued in no open savepoint that does not
enclose the call. -/
structure Tracked : Prop where
  distinct : (session.pending.map QueuedDomainChange.signal).Nodup
  counted : ∀ queued ∈ session.pending, (queued.signal, queued.enclosing) ∈ session.points ∧
      Counts session.rolledBack queued.enclosing
  queued : ∀ signal enclosing, (signal, enclosing) ∈ session.points ->
    Counts session.rolledBack enclosing -> ∃ queued ∈ session.pending, queued.signal = signal ∧
        ∀ number ∈ session.enclosing, number ∈ queued.enclosing -> number ∈ enclosing
  numbered : ∀ number ∈ session.enclosing, number < session.savepoints ∧ number ∉ session.rolledBack
  known : ∀ queued ∈ session.pending, ∀ number ∈ queued.enclosing, number < session.savepoints
  past : ∀ number ∈ session.rolledBack, number < session.savepoints
  openNodup : session.enclosing.Nodup

end SignalSession

section

variable {session after : SignalSession}

open SignalSession

theorem SignalSession.Tracked.matches (tracked : session.Tracked) : session.Matches := by
  intro signal
  constructor
  · rintro ⟨queued, member, rfl⟩
    exact ⟨queued.enclosing, tracked.counted queued member⟩
  · rintro ⟨enclosing, isPoint, counts⟩
    obtain ⟨queued, member, same, -⟩ := tracked.queued signal enclosing isPoint counts
    exact ⟨queued, member, same⟩

theorem tracked_init (rootId : Int) : (SignalSession.init rootId).Tracked := by
  constructor <;> simp [SignalSession.init, enclosing]

theorem SignalSession.Tracked.queueDomainChange (tracked : session.Tracked)
    (change : DomainChange) : (session.queueDomainChange change).Tracked := by
  obtain ⟨distinct, counted, queued, numbered, known, past, openNodup⟩ := tracked
  have here : Counts session.rolledBack session.enclosing :=
    fun number member => (numbered number member).2
  unfold SignalSession.queueDomainChange
  split_ifs with again
  · obtain ⟨former, formerIn, same⟩ := List.any_eq_true.mp again
    rw [decide_eq_true_eq] at same
    refine ⟨distinct, ?_, ?_, numbered, known, past, openNodup⟩
    · intro other otherIn
      exact ⟨List.mem_append_left _ (counted other otherIn).1, (counted other otherIn).2⟩
    · intro signal enclosing isPoint counts
      rcases List.mem_added.mp isPoint with old | new
      · exact queued signal enclosing old counts
      · cases new
        exact ⟨former, formerIn, same, fun number isOpen _ => isOpen⟩
  · have fresh : ∀ former ∈ session.pending, former.signal ≠ change.signal := by
      simpa using again
    refine ⟨?_, ?_, ?_, numbered, ?_, past, openNodup⟩
    · rw [List.map_append, List.map_singleton, List.nodup_append]
      refine ⟨distinct, by simp, ?_⟩
      intro signal isOld other isNew
      obtain ⟨former, formerIn, rfl⟩ := List.mem_map.mp isOld
      rw [List.mem_singleton.mp isNew]
      exact fresh former formerIn
    · intro other otherIn
      rcases List.mem_added.mp otherIn with old | rfl
      · exact ⟨List.mem_append_left _ (counted other old).1, (counted other old).2⟩
      · exact ⟨List.mem_concat_self, here⟩
    · intro signal enclosing isPoint counts
      rcases List.mem_added.mp isPoint with old | new
      · obtain ⟨former, formerIn, rest⟩ := queued signal enclosing old counts
        exact ⟨former, List.mem_append_left _ formerIn, rest⟩
      · cases new
        exact ⟨_, List.mem_concat_self, rfl, fun number isOpen _ => isOpen⟩
    · intro other otherIn
      rcases List.mem_added.mp otherIn with old | rfl
      · exact known other old
      · exact fun number member => (numbered number member).1

/-- A new savepoint encloses nothing yet. -/
theorem SignalSession.Tracked.beginNested (tracked : session.Tracked) (id : Int) : ({ session with
      nested := ⟨session.savepoints, id⟩ :: session.nested
      savepoints := session.savepoints + 1 } : SignalSession).Tracked := by
  obtain ⟨distinct, counted, queued, numbered, known, past, openNodup⟩ := tracked
  refine ⟨distinct, counted, ?_, ?_, ?_, ?_, ?_⟩
  · intro signal around isPoint counts
    obtain ⟨former, formerIn, same, within⟩ := queued signal around isPoint counts
    refine ⟨former, formerIn, same, fun number isOpen isAround => ?_⟩
    rcases List.mem_cons.mp isOpen with rfl | old
    · exact absurd (known former formerIn _ isAround) (lt_irrefl _)
    · exact within number old isAround
  · intro number isOpen
    rcases List.mem_cons.mp isOpen with rfl | old
    · exact ⟨Nat.lt_succ_self _, fun rolled => lt_irrefl _ (past _ rolled)⟩
    · exact ⟨(numbered number old).1.trans (Nat.lt_succ_self _), (numbered number old).2⟩
  · intro former formerIn number isAround
    exact (known former formerIn number isAround).trans (Nat.lt_succ_self _)
  · intro number rolled
    exact (past number rolled).trans (Nat.lt_succ_self _)
  · exact List.nodup_cons.mpr ⟨fun isOpen => lt_irrefl _ (numbered _ isOpen).1, openNodup⟩

/-- The calls of a savepoint that is released count as before. -/
theorem SignalSession.Tracked.close (tracked : session.Tracked) : session.close.Tracked := by
  obtain ⟨distinct, counted, queued, numbered, known, past, openNodup⟩ := tracked
  have older : ∀ number ∈ session.close.enclosing, number ∈ session.enclosing := by
    intro number isOpen
    unfold SignalSession.enclosing SignalSession.close at isOpen
    rw [List.map_drop] at isOpen
    exact List.mem_of_mem_drop isOpen
  refine ⟨distinct, counted, ?_, fun number isOpen =>
    numbered number (older number isOpen), known, past, ?_⟩
  · intro signal around isPoint counts
    obtain ⟨former, formerIn, same, within⟩ := queued signal around isPoint counts
    exact ⟨former, formerIn, same, fun number isOpen isAround =>
      within number (older number isOpen) isAround⟩
  · unfold SignalSession.enclosing SignalSession.close
    rw [List.map_drop]
    exact openNodup.sublist (List.drop_sublist _ _)

/-- The session after the innermost savepoint is rolled back. -/
def afterNestedRollback (session : SignalSession) (savepoint : Savepoint) :
    SignalSession :=
  { session with
    nested := session.nested.drop 1
    pending := session.pending.filter (·.transactionId ≠ savepoint.transactionId)
    rolledBack := savepoint.number :: session.rolledBack }

theorem step_rollbackNested {savepoint : Savepoint} {rest : List Savepoint}
    (isOpen : session.nested = savepoint :: rest) :
    session.step .rollbackNested = some (afterNestedRollback session savepoint) := by
  unfold SignalSession.step SignalSession.afterRollback
  simp [isOpen, SignalSession.close, SignalSession.afterSoftRollback,
    SignalSession.discardQueuedDomainChanges, afterNestedRollback]

theorem counts_cons {number : Nat} {rolledBack enclosing : List Nat} :
    Counts (number :: rolledBack) enclosing ↔ number ∉ enclosing ∧ Counts rolledBack enclosing := by
  unfold Counts
  simp only [List.mem_cons, not_or]
  constructor
  · intro counts
    exact ⟨fun member => (counts number member).1 rfl, fun other member => (counts other member).2⟩
  · rintro ⟨outside, counts⟩ other member
    refine ⟨?_, counts other member⟩
    rintro rfl
    exact outside member

section

variable {savepoint : Savepoint} {rest : List Savepoint}

theorem SignalSession.Tracked.rollbackNested (tracked : session.Tracked)
    (isOpen : session.nested = savepoint :: rest) (own : session.DropsOwn) :
    (afterNestedRollback session savepoint).Tracked := by
  obtain ⟨distinct, counted, queued, numbered, known, past, openNodup⟩ := tracked
  have opened : session.enclosing = savepoint.number :: rest.map Savepoint.number := by
    unfold SignalSession.enclosing
    rw [isOpen, List.map_cons]
  have left : (afterNestedRollback session savepoint).enclosing = rest.map Savepoint.number := by
    unfold SignalSession.enclosing afterNestedRollback
    rw [isOpen, List.drop_one, List.tail_cons]
  have outside : ∀ former ∈ (afterNestedRollback session savepoint).pending,
      former ∈ session.pending ∧ savepoint.number ∉ former.enclosing := by
    intro former member
    obtain ⟨formerIn, other⟩ := List.mem_filter.mp member
    rw [decide_eq_true_eq] at other
    exact ⟨formerIn, fun inside => other
      ((own savepoint (by simp [isOpen]) former formerIn).mpr inside)⟩
  rw [opened] at openNodup
  obtain ⟨innermost, restNodup⟩ := List.nodup_cons.mp openNodup
  refine ⟨?_, ?_, ?_, ?_, ?_, ?_, ?_⟩
  · exact distinct.sublist (List.filter_sublist.map _)
  · intro former member
    obtain ⟨formerIn, notInside⟩ := outside former member
    obtain ⟨isPoint, counts⟩ := counted former formerIn
    exact ⟨isPoint, counts_cons.mpr ⟨notInside, counts⟩⟩
  · intro signal around isPoint counts
    obtain ⟨notInside, counts⟩ := counts_cons.mp counts
    obtain ⟨former, formerIn, same, within⟩ := queued signal around isPoint counts
    refine ⟨former, ?_, same, fun number stillOpen isAround => ?_⟩
    · -- it was queued outside, since the call was made outside
      refine List.mem_filter.mpr ⟨formerIn, ?_⟩
      rw [decide_eq_true_eq]
      intro sameId
      have inside := (own savepoint (by simp [isOpen]) former formerIn).mp sameId
      exact notInside (within _ (by simp [opened]) inside)
    · rw [left] at stillOpen
      exact within number (opened ▸ List.mem_cons_of_mem _ stillOpen) isAround
  · intro number stillOpen
    rw [left] at stillOpen
    obtain ⟨small, notRolled⟩ := numbered number (opened ▸ List.mem_cons_of_mem _ stillOpen)
    refine ⟨small, fun rolled => ?_⟩
    rcases List.mem_cons.mp rolled with rfl | old
    · exact innermost stillOpen
    · exact notRolled old
  · intro former member
    exact known former (outside former member).1
  · intro number rolled
    rcases List.mem_cons.mp rolled with rfl | old
    · exact (numbered _ (by simp [opened])).1
    · exact past number old
  · rw [left]
    exact restNodup

theorem SignalSession.Tracked.dropsOwn_of_matches (tracked : session.Tracked)
    (isOpen : session.nested = savepoint :: rest)
    (holds : (afterNestedRollback session savepoint).Matches) :
    session.DropsOwn := by
  intro innermost isInnermost former formerIn
  rw [isOpen] at isInnermost
  cases isInnermost
  obtain ⟨isPoint, counts⟩ := tracked.counted former formerIn
  constructor
  · intro sameId
    by_contra notInside
    obtain ⟨other, otherIn, same⟩ := (holds former.signal).mpr
      ⟨former.enclosing, isPoint, counts_cons.mpr ⟨notInside, counts⟩⟩
    obtain ⟨otherIn, otherId⟩ := List.mem_filter.mp otherIn
    rw [List.inj_on_of_nodup_map tracked.distinct otherIn formerIn same,
      decide_eq_true_eq] at otherId
    exact otherId sameId
  · intro inside
    by_contra otherId
    obtain ⟨around, isPoint, counts⟩ := (holds former.signal).mp
      ⟨former, List.mem_filter.mpr ⟨formerIn, decide_eq_true otherId⟩, rfl⟩
    obtain ⟨notInside, counts⟩ := counts_cons.mp counts
    obtain ⟨other, otherIn, same, within⟩ := tracked.queued former.signal around isPoint counts
    rw [List.inj_on_of_nodup_map tracked.distinct otherIn formerIn same] at within
    refine notInside (within _ ?_ inside)
    unfold SignalSession.enclosing
    rw [isOpen]
    exact List.mem_cons_self

end

theorem tracked_of_empty (noSavepoint : session.nested = [])
    (empty : session.pending = []) (noPoint : session.points = [])
    (past : ∀ number ∈ session.rolledBack, number < session.savepoints) :
    session.Tracked := by
  constructor <;> simp_all [enclosing]

theorem SignalSession.Tracked.step (tracked : session.Tracked)
    {event : SessionEvent} (guarded : session.Guard event)
    (taken : session.step event = some after) : after.Tracked := by
  cases event with
  | queue change =>
    unfold SignalSession.step at taken
    dsimp only at taken
    split_ifs at taken
    cases taken
    exact tracked.queueDomainChange change
  | beginNested id =>
    unfold SignalSession.step at taken
    dsimp only at taken
    split_ifs at taken
    cases taken
    exact tracked.beginNested id
  | release =>
    unfold SignalSession.step at taken
    split_ifs at taken with none
    cases taken
    unfold afterCommit
    rw [if_neg none]
    exact tracked.close
  | rollbackNested =>
    cases isOpen : session.nested with
    | nil =>
      unfold SignalSession.step at taken
      rw [isOpen] at taken
      cases taken
    | cons savepoint rest =>
      rw [step_rollbackNested isOpen] at taken
      cases taken
      exact tracked.rollbackNested isOpen guarded
  | commit postgresTransport answer nextRootId =>
    unfold SignalSession.step at taken
    split_ifs at taken with none
    cases taken
    unfold afterCommit
    rw [if_pos none]
    exact tracked_of_empty none rfl rfl tracked.past
  | rollback nextRootId =>
    unfold SignalSession.step at taken
    split_ifs at taken with none
    cases taken
    unfold SignalSession.afterRollback
    rw [if_pos none]
    exact tracked_of_empty none rfl rfl tracked.past

end

theorem tracked_of_reaches {rootId : Int} {session : SignalSession}
    (reached : Reaches SignalSession.step SignalSession.Guard
      (SignalSession.init rootId) session) : session.Tracked :=
  reached.invariant (tracked_init rootId) fun tracked guarded taken => tracked.step guarded taken

/-- The transport accepts everything. -/
def AcceptsAll (answer : QueuedDomainChange -> TransportAnswer) : Prop :=
  ∀ queued, answer queued = ⟨true, true⟩

theorem publishLoop_of_acceptsAll {answer : QueuedDomainChange -> TransportAnswer}
    (accepts : AcceptsAll answer) (pending : List QueuedDomainChange) :
    publishLoop answer false pending = pending.map QueuedDomainChange.signal := by
  induction pending with
  | nil => rfl
  | cons queued rest ih =>
    unfold publishLoop
    simp [accepts queued, ih]

/-- A commit publishes each signal of the committed calls once, and nothing
else. -/
def PublishesCounted (session after : SignalSession) : Prop :=
  ∃ signals, after.published = session.published ++ signals ∧
    signals.Nodup ∧ ∀ signal, signal ∈ signals ↔ session.Surviving signal

/-- While every rollback of a savepoint drops exactly the signals that were
queued inside it, a commit publishes the signals of the committed calls, and
a rollback of the root none; either leaves nothing queued.  A rollback of a
savepoint that does not meet the condition leaves a wrong queue. -/
theorem signals_published (rootId : Int) (session : SignalSession)
    (reached : Reaches SignalSession.step SignalSession.Guard (SignalSession.init rootId) session) :
    (∀ answer nextRootId after, AcceptsAll answer ->
      session.step (.commit false answer nextRootId) = some after ->
        PublishesCounted session after ∧ after.pending = []) ∧
    (∀ nextRootId after, session.step (.rollback nextRootId) = some after ->
      after.published = session.published ∧ after.pending = []) ∧
    ∀ after, session.step .rollbackNested = some after ->
      (after.Matches ↔ session.Guard .rollbackNested) := by
  have tracked := tracked_of_reaches reached
  refine ⟨?_, ?_, ?_⟩
  · intro answer nextRootId after accepts taken
    unfold SignalSession.step at taken
    split_ifs at taken with none
    cases taken
    unfold SignalSession.afterCommit
    rw [if_pos none]
    refine ⟨⟨session.pending.map QueuedDomainChange.signal, ?_, tracked.distinct, ?_⟩, rfl⟩
    · unfold SignalSession.publishQueuedDomainChanges
      rw [publishLoop_of_acceptsAll accepts]
      rfl
    · intro signal
      rw [← tracked.matches signal, List.mem_map]
      rfl
  · intro nextRootId after taken
    unfold SignalSession.step at taken
    split_ifs at taken with none
    cases taken
    unfold SignalSession.afterRollback
    rw [if_pos none]
    exact ⟨rfl, rfl⟩
  · intro after taken
    cases isOpen : session.nested with
    | nil =>
      unfold SignalSession.step at taken
      rw [isOpen] at taken
      cases taken
    | cons savepoint rest =>
      rw [step_rollbackNested isOpen] at taken
      cases taken
      exact ⟨tracked.dropsOwn_of_matches isOpen, fun own =>
        (tracked.rollbackNested isOpen own).matches⟩

def paymentChange : DomainChange where
  hotelId := 1
  domain := "payments"
  eventType := "payment.created"

def roomChange : DomainChange where
  hotelId := 1
  domain := "rooms"
  eventType := "room.updated"

/-- A transport that accepts everything. -/
def acceptsAll : QueuedDomainChange -> TransportAnswer :=
  fun _ => ⟨true, true⟩

def releasedThenRolledBack : List SessionEvent :=
  [.beginNested 11, .beginNested 12, .queue paymentChange, .release, .rollbackNested]

/-- The change is published although it was rolled back. -/
theorem rolledBack_signal_published : ∃ session after : SignalSession,
      run SignalSession.step (.init 10) releasedThenRolledBack = some session ∧
        session.step (.commit false acceptsAll 20) = some after ∧
        after.published = [paymentChange.signal] ∧
        ¬ session.Surviving paymentChange.signal := by
  have results : (run SignalSession.step (.init 10) releasedThenRolledBack).map (fun session =>
        (session.points, session.rolledBack,
          (session.step (.commit false acceptsAll 20)).map SignalSession.published)) =
      some ([(paymentChange.signal, [1, 0])], [0], some [paymentChange.signal]) := by
    decide +kernel
  obtain ⟨session, ran, isSession⟩ := Option.map_eq_some_iff.mp results
  simp only [Prod.mk.injEq] at isSession
  obtain ⟨isPoints, isRolledBack, committed⟩ := isSession
  obtain ⟨after, taken, isPublished⟩ := Option.map_eq_some_iff.mp committed
  refine ⟨session, after, ran, taken, isPublished, ?_⟩
  rintro ⟨enclosing, isPoint, counts⟩
  rw [isPoints] at isPoint
  cases List.mem_singleton.mp isPoint
  rw [isRolledBack] at counts
  exact counts 0 (by simp) (by simp)

def rolledBackInside : List SessionEvent :=
  [.beginNested 11, .queue paymentChange, .beginNested 12, .queue roomChange,
    .queue paymentChange, .rollbackNested, .release]

/-- Only the other change is published. -/
theorem signals_published_rolledBackInside : ∃ session after : SignalSession,
      run SignalSession.step (.init 10) rolledBackInside = some session ∧
        session.step (.commit false acceptsAll 20) = some after ∧
        PublishesCounted session after ∧
        after.published = [paymentChange.signal] := by
  have results : (run SignalSession.step (.init 10) rolledBackInside).map
      (fun session => (session.step (.commit false acceptsAll 20)).map
        SignalSession.published) = some (some [paymentChange.signal]) := by
    decide +kernel
  have guarded : Guarded SignalSession.step SignalSession.Guard (.init 10)
      rolledBackInside := by decide +kernel
  obtain ⟨session, ran, committed⟩ := Option.map_eq_some_iff.mp results
  obtain ⟨after, taken, isPublished⟩ := Option.map_eq_some_iff.mp committed
  exact ⟨session, after, ran, taken, ((signals_published 10 session
    (reaches_of_run guarded ran)).1 acceptsAll 20 after (fun _ => rfl) taken).1, isPublished⟩

end HotelPms.Events
