import HotelPms.Events.Outbox
import HotelPms.Foundation.Checked
import HotelPms.Foundation.OrderedLog
import HotelPms.Foundation.Transition
import Mathlib.Data.List.Dedup
import Mathlib.Data.String.Basic

/-!
# Recovery of missed changes

A client asks which domains have changed after a cursor, and goes on from the
latest cursor of the answer.  Rows are numbered when they are inserted and
become visible when their transaction commits, so that a row can appear below
a cursor that was answered before.  An answer reads the bounds of the outbox
first and its rows afterwards.
-/

namespace HotelPms.Events

open Checked KeySort OrderedLog Transition

def recoveryMaxRows : Nat := 500

structure RecoveryAnswer where
  latestCursor : Int
  domains : List String
  resetRequired : Bool
  hasMore : Bool
  deriving DecidableEq

/-- Changed domains after a cursor.  The bounds are read from `before`, and
the rows, in a second query, from `visible`. -/
def getDomainEventRecovery (before visible : List OutboxRow)
    (afterCursor : Option Int) : Except String RecoveryAnswer := do
  raiseIf (∃ cursor ∈ afterCursor, cursor < 0) "after_cursor must be non-negative"
  let cursors := before.map OutboxRow.cursor
  let cursor := afterCursor.getD 0
  let boundedRows :=
    batch OutboxRow.cursor (recoveryMaxRows + 1) visible cursor
  let hasMore := decide (recoveryMaxRows < boundedRows.length)
  let rows := boundedRows.take recoveryMaxRows
  let domains := (rows.map OutboxRow.domain).filter (· ≠ "")
  let oldest := cursors.min?
  pure
    { latestCursor := max cursor (cursors.max?.getD 0)
      domains := sortByKey id domains.dedup
      resetRequired :=
        decide (cursor = 0) ||
          decide (0 < cursor ∧ ∃ first ∈ oldest, cursor < first) || hasMore
      hasMore := hasMore }

/-- An answer names the domain of a row, or asks for a full read. -/
def RecoveryAnswer.Tells (answer : RecoveryAnswer) (row : OutboxRow) : Prop :=
  row.domain ∈ answer.domains ∨ answer.resetRequired = true

section

variable {before visible : List OutboxRow} {afterCursor : Option Int} {answer : RecoveryAnswer}

theorem getDomainEventRecovery_isOk (before visible : List OutboxRow)
    (nonneg : ∀ cursor ∈ afterCursor, 0 ≤ cursor) :
    ∃ answer, getDomainEventRecovery before visible afterCursor = .ok answer := by
  refine ⟨_, bind_eq_ok.mpr ⟨(), raiseIf_eq_ok.mpr ?_, rfl⟩⟩
  rintro ⟨cursor, isCursor, negative⟩
  exact absurd (nonneg cursor isCursor) (not_le.mpr negative)

theorem latestCursor_le (answered : getDomainEventRecovery before visible afterCursor =
      .ok answer) : afterCursor.getD 0 ≤ answer.latestCursor := by
  unfold getDomainEventRecovery at answered
  simp only [bind_eq_ok, pure_eq_ok] at answered
  obtain ⟨_, -, rfl⟩ := answered
  exact le_max_left _ _

theorem tells_of_above {row : OutboxRow}
    (answered : getDomainEventRecovery before visible afterCursor = .ok answer)
    (member : row ∈ visible) (named : row.domain ≠ "")
    (above : ∀ cursor ∈ afterCursor, cursor < row.cursor) :
    answer.Tells row := by
  unfold getDomainEventRecovery at answered
  simp only [bind_eq_ok, pure_eq_ok] at answered
  obtain ⟨_, -, rfl⟩ := answered
  have aboveCursor : afterCursor.getD 0 < row.cursor := by
    cases given : afterCursor with
    | none => exact row.cursor_pos
    | some cursor => exact above cursor given
  by_cases more : recoveryMaxRows < (batch OutboxRow.cursor
      (recoveryMaxRows + 1) visible (afterCursor.getD 0)).length
  · right
    simp [more]
  · left
    rw [mem_sortByKey, List.mem_dedup, List.mem_filter]
    refine ⟨List.mem_map_of_mem ?_, by simpa using named⟩
    exact mem_take_batch (not_lt.mp more) member aboveCursor

end

/-- A visible row, its transaction in the order in which transactions start,
and the number of answers that were given before it was committed. -/
structure CommittedRow where
  row : OutboxRow
  started : Nat
  answersBefore : Nat
  deriving DecidableEq

/-- An answer, with the transactions that were open when it was asked for. -/
structure RecoveryCall where
  answer : RecoveryAnswer
  opened : List Nat
  deriving DecidableEq

/-- A call between its two queries. -/
structure PendingCall where
  before : List OutboxRow
  opened : List Nat

structure RecoverySystem where
  hotelId : Int
  nextId : Int := 1
  nextTransaction : Nat := 0
  opened : List (Nat × List OutboxRow) := []
  committed : List CommittedRow := []
  calls : List RecoveryCall := []
  calling : Option PendingCall := none

inductive RecoveryEvent
  | begin
  | insertRow (transaction : Nat) (row : OutboxRow)
  | commit (transaction : Nat)
  | rollback (transaction : Nat)
  | callStarts
  | callAnswers

namespace RecoverySystem

variable (s : RecoverySystem)

def visible : List OutboxRow := s.committed.map CommittedRow.row

/-- Latest cursor of the last answer, with which the client goes on. -/
def clientCursor : Option Int :=
  s.calls.getLast?.map (·.answer.latestCursor)

/-- A row that `queueDomainChange` inserts under the next number. -/
def Inserts (row : OutboxRow) : Prop :=
  s.nextId ≤ row.id ∧ row.hotelId = s.hotelId ∧ row.streamCursor = none ∧
    row.domain ∈ supportedDomains
deriving Decidable

/-- Rows that a transaction has inserted. -/
def rowsOf (transaction : Nat) : List OutboxRow :=
  (s.opened.lookup transaction).getD []

/-- The rows of a transaction become visible. -/
def commitRows (transaction : Nat) : List CommittedRow :=
  (s.rowsOf transaction).map fun row =>
    { row := row, started := transaction, answersBefore := s.calls.length }

/-- The transaction is not open any more. -/
def close (transaction : Nat) : List (Nat × List OutboxRow) :=
  s.opened.filter (·.1 ≠ transaction)

def isOpen (transaction : Nat) : Bool :=
  s.opened.any (·.1 = transaction)

def step : RecoveryEvent -> Option RecoverySystem
  | .begin => some { s with
      opened := s.opened ++ [(s.nextTransaction, [])]
      nextTransaction := s.nextTransaction + 1 }
  | .insertRow transaction row =>
    if s.isOpen transaction = true ∧ s.Inserts row then some { s with
      opened := s.opened.map fun entry =>
        if entry.1 = transaction then (entry.1, entry.2 ++ [row]) else entry
      nextId := row.id + 1 }
    else none
  | .commit transaction =>
    if s.isOpen transaction = true then some { s with
      committed := s.committed ++ s.commitRows transaction
      opened := s.close transaction }
    else none
  | .rollback transaction =>
    if s.isOpen transaction = true then some { s with opened := s.close transaction }
    else none
  | .callStarts =>
    if s.calling.isSome = true then none
    else some { s with
      calling := some { before := s.visible, opened := s.opened.map Prod.fst } }
  | .callAnswers =>
    match s.calling with
    | none => none
    | some pending =>
      match getDomainEventRecovery pending.before s.visible s.clientCursor with
      | .error _ => some { s with calling := none }
      | .ok answer => some { s with
          calls := s.calls ++ [{ answer := answer, opened := pending.opened }]
          calling := none }

/-- No transaction and no call yet. -/
def init (hotelId : Int) : RecoverySystem where
  hotelId := hotelId

/-- Every row that was committed before an answer, once each transaction that
started before its own had ended, has been told since it was committed. -/
def MissesNothing : Prop :=
  ∀ committed ∈ s.committed, ∀ index call, s.calls[index]? = some call →
    committed.answersBefore ≤ index →
    (∀ transaction ∈ call.opened, committed.started ≤ transaction) →
      ∃ earlier telling, s.calls[earlier]? = some telling ∧
        committed.answersBefore ≤ earlier ∧ earlier ≤ index ∧
        telling.answer.Tells committed.row

/-- Rows become visible above the latest cursor that was answered. -/
def CommitsAbove : RecoveryEvent -> Prop
  | .commit transaction => ∀ row ∈ s.rowsOf transaction,
      ∀ cursor ∈ s.clientCursor, cursor < row.cursor
  | _ => True

instance decidableCommitsAbove : ∀ event, Decidable (s.CommitsAbove event)
  | .begin => .isTrue trivial
  | .insertRow _ _ => .isTrue trivial
  | .commit transaction => inferInstanceAs (Decidable (∀ row ∈ s.rowsOf transaction,
        ∀ cursor ∈ s.clientCursor, cursor < row.cursor))
  | .rollback _ => .isTrue trivial
  | .callStarts => .isTrue trivial
  | .callAnswers => .isTrue trivial

end RecoverySystem

/-! ## What is missed and what is not -/

/-- Committed rows are told by the first answer after them; those since the
last answer lie above its cursor. -/
structure RecoveryInvariant (s : RecoverySystem) : Prop where
  named : ∀ committed ∈ s.committed, committed.row.domain ≠ ""
  inserted : ∀ entry ∈ s.opened, ∀ row ∈ entry.2, row.domain ≠ ""
  told : ∀ committed ∈ s.committed, ∀ call, s.calls[committed.answersBefore]? = some call →
      call.answer.Tells committed.row
  ahead : ∀ committed ∈ s.committed, committed.answersBefore = s.calls.length →
      ∀ cursor ∈ s.clientCursor, cursor < committed.row.cursor
  counted : ∀ committed ∈ s.committed, committed.answersBefore ≤ s.calls.length
  nonneg : ∀ call ∈ s.calls, 0 ≤ call.answer.latestCursor

section

variable {s after : RecoverySystem}

theorem RecoveryInvariant.initial (hotelId : Int) :
    RecoveryInvariant (RecoverySystem.init hotelId) := by
  constructor <;> simp [RecoverySystem.init]

section

variable (invariant : RecoveryInvariant s)
include invariant

theorem clientCursor_nonneg : ∀ cursor ∈ s.clientCursor, 0 ≤ cursor := by
  intro cursor isCursor
  obtain ⟨call, isLast, rfl⟩ := Option.map_eq_some_iff.mp isCursor
  exact invariant.nonneg call (List.mem_of_getLast? isLast)

omit invariant in
theorem mem_rowsOf {transaction : Nat} {row : OutboxRow} (member : row ∈ s.rowsOf transaction) :
    ∃ entry ∈ s.opened, row ∈ entry.2 := by
  unfold RecoverySystem.rowsOf at member
  cases found : s.opened.lookup transaction with
  | none =>
    rw [found] at member
    cases member
  | some rows =>
    rw [found] at member
    obtain ⟨before, later, split, -⟩ := List.lookup_eq_some_iff.mp found
    exact ⟨(transaction, rows), by simp [split], member⟩

theorem callAnswers_answers {pending : PendingCall} (calling : s.calling = some pending) :
    ∃ answer, getDomainEventRecovery pending.before s.visible s.clientCursor = .ok answer ∧
      s.step .callAnswers = some { s with
        calls := s.calls ++ [{ answer := answer, opened := pending.opened }]
        calling := none } := by
  obtain ⟨answer, answered⟩ := getDomainEventRecovery_isOk pending.before
    s.visible (clientCursor_nonneg invariant)
  refine ⟨answer, answered, ?_⟩
  simp only [RecoverySystem.step, calling, answered]

theorem RecoveryInvariant.insertRow
    {transaction : Nat} {row : OutboxRow} (inserts : s.Inserts row) :
    RecoveryInvariant { s with
      opened := s.opened.map fun entry =>
        if entry.1 = transaction then (entry.1, entry.2 ++ [row]) else entry
      nextId := row.id + 1 } where
  named := invariant.named
  inserted := by
    intro entry entryIn other otherIn
    obtain ⟨old, oldIn, rfl⟩ := List.mem_map.mp entryIn
    split_ifs at otherIn
    · rcases List.mem_added.mp otherIn with known | rfl
      · exact invariant.inserted old oldIn other known
      · intro unnamed
        have supported := inserts.2.2.2
        rw [unnamed] at supported
        simp [supportedDomains] at supported
    · exact invariant.inserted old oldIn other otherIn
  told := invariant.told
  ahead := invariant.ahead
  counted := invariant.counted
  nonneg := invariant.nonneg

theorem RecoveryInvariant.commit
    {transaction : Nat} (above : s.CommitsAbove (.commit transaction)) :
    RecoveryInvariant { s with
      committed := s.committed ++ s.commitRows transaction
      opened := s.close transaction } := by
  have isNew {committed : CommittedRow} (member : committed ∈ s.commitRows transaction) :
      committed.row ∈ s.rowsOf transaction ∧ committed.answersBefore = s.calls.length := by
    obtain ⟨row, rowIn, rfl⟩ := List.mem_map.mp member
    exact ⟨rowIn, rfl⟩
  refine ⟨?_, ?_, ?_, ?_, ?_, invariant.nonneg⟩
  · intro committed member
    rcases List.mem_append.mp member with old | new
    · exact invariant.named committed old
    · obtain ⟨entry, entryIn, rowIn⟩ := mem_rowsOf (isNew new).1
      exact invariant.inserted entry entryIn _ rowIn
  · intro entry entryIn
    exact invariant.inserted entry (List.mem_of_mem_filter entryIn)
  · intro committed member call isCall
    rcases List.mem_append.mp member with old | new
    · exact invariant.told committed old call isCall
    · rw [(isNew new).2] at isCall
      simp at isCall
  · intro committed member isLast
    rcases List.mem_append.mp member with old | new
    · exact invariant.ahead committed old isLast
    · exact above committed.row (isNew new).1
  · intro committed member
    rcases List.mem_append.mp member with old | new
    · exact invariant.counted committed old
    · exact (isNew new).2.le

/-- An answer tells the rows that were committed since the last one. -/
theorem RecoveryInvariant.answer {pending : PendingCall} {answer : RecoveryAnswer}
    (answered : getDomainEventRecovery pending.before s.visible s.clientCursor = .ok answer) :
    RecoveryInvariant { s with
      calls := s.calls ++ [{ answer := answer, opened := pending.opened }]
      calling := none } := by
  refine ⟨invariant.named, invariant.inserted, ?_, ?_, ?_, ?_⟩
  · intro committed member call isCall
    rcases (invariant.counted committed member).lt_or_eq with earlier | isLast
    · rw [List.getElem?_append_left earlier] at isCall
      exact invariant.told committed member call isCall
    · rw [isLast, List.getElem?_concat_length] at isCall
      cases isCall
      exact tells_of_above answered (List.mem_map_of_mem member) (invariant.named committed member)
        (invariant.ahead committed member isLast)
  · intro committed member isLast
    have := invariant.counted committed member
    rw [List.length_append, List.length_singleton] at isLast
    omega
  · intro committed member
    rw [List.length_append]
    exact (invariant.counted committed member).trans (Nat.le_add_right _ _)
  · intro call member
    rcases List.mem_added.mp member with old | rfl
    · exact invariant.nonneg call old
    · have forward := latestCursor_le answered
      have nonneg : 0 ≤ s.clientCursor.getD 0 := by
        cases given : s.clientCursor with
        | none => exact le_rfl
        | some cursor => exact clientCursor_nonneg invariant cursor given
      exact nonneg.trans forward

theorem RecoveryInvariant.step {event : RecoveryEvent} (above : s.CommitsAbove event)
    (taken : s.step event = some after) : RecoveryInvariant after := by
  cases event with
  | begin =>
    cases taken
    refine ⟨invariant.named, ?_, invariant.told, invariant.ahead,
      invariant.counted, invariant.nonneg⟩
    intro entry entryIn row rowIn
    rcases List.mem_added.mp entryIn with old | rfl
    · exact invariant.inserted entry old row rowIn
    · cases rowIn
  | insertRow transaction row =>
    simp only [RecoverySystem.step] at taken
    split_ifs at taken with inserts
    cases taken
    exact invariant.insertRow inserts.2
  | commit transaction =>
    simp only [RecoverySystem.step] at taken
    split_ifs at taken
    cases taken
    exact invariant.commit above
  | rollback transaction =>
    simp only [RecoverySystem.step] at taken
    split_ifs at taken
    cases taken
    refine ⟨invariant.named, ?_, invariant.told, invariant.ahead,
      invariant.counted, invariant.nonneg⟩
    intro entry entryIn
    exact invariant.inserted entry (List.mem_of_mem_filter entryIn)
  | callStarts =>
    simp only [RecoverySystem.step] at taken
    split_ifs at taken
    cases taken
    exact ⟨invariant.named, invariant.inserted, invariant.told,
      invariant.ahead, invariant.counted, invariant.nonneg⟩
  | callAnswers =>
    cases calling : s.calling with
    | none => simp [RecoverySystem.step, calling] at taken
    | some pending =>
      obtain ⟨answer, answered, stepped⟩ := callAnswers_answers invariant calling
      rw [stepped] at taken
      cases taken
      exact invariant.answer answered

end

/-- As long as rows become visible above the latest answered cursor, the
client is told of every committed row by its first answer after the commit. -/
theorem recovery_missesNothing {hotelId : Int}
    (reached : Reaches RecoverySystem.step RecoverySystem.CommitsAbove
      (RecoverySystem.init hotelId) s) : s.MissesNothing := by
  have invariant : RecoveryInvariant s :=
    reached.invariant (.initial hotelId) fun holds above taken => holds.step above taken
  intro committed member index call isCall beforeCall _
  have inCalls : index < s.calls.length :=
    (List.getElem?_eq_some_iff.mp isCall).1
  obtain ⟨telling, isTelling⟩ : ∃ telling, s.calls[committed.answersBefore]? = some telling :=
    ⟨_, List.getElem?_eq_getElem (by omega)⟩
  exact ⟨committed.answersBefore, telling, isTelling, le_rfl, beforeCall,
    invariant.told committed member telling isTelling⟩

end

/-- A change of the payments is inserted first, and one of the rooms is
committed and answered before it. -/
def overtakenInsert : List RecoveryEvent :=
  [.begin, .insertRow 0 paymentRow, .begin, .insertRow 1 roomRow, .commit 1,
    .callStarts, .callAnswers]

/-- Rows and calls of a run. -/
def RecoverySystem.history (s : RecoverySystem) : List CommittedRow × List RecoveryCall :=
  (s.committed, s.calls)

def firstAnswer (latestCursor : Int) (domains : List String) : RecoveryAnswer where
  latestCursor := latestCursor
  domains := domains
  resetRequired := true
  hasMore := false

/-- Two changes that are committed in the order of their insertion. -/
def insertsInOrder : List RecoveryEvent :=
  [.begin, .insertRow 0 paymentRow, .commit 0, .callStarts, .callAnswers,
    .begin, .insertRow 1 roomRow, .commit 1, .callStarts, .callAnswers]

/-- Rows that are committed in their order are told. -/
theorem recovery_missesNothing_inOrder :
    ∃ s, run RecoverySystem.step (RecoverySystem.init 1) insertsInOrder = some s ∧
      s.history = ([⟨paymentRow, 0, 0⟩, ⟨roomRow, 1, 1⟩],
        [⟨firstAnswer 1 ["payments"], []⟩, ⟨⟨2, ["rooms"], false, false⟩, []⟩]) ∧
      s.MissesNothing := by
  have results : (run RecoverySystem.step (RecoverySystem.init 1)
      insertsInOrder).map RecoverySystem.history =
      some ([⟨paymentRow, 0, 0⟩, ⟨roomRow, 1, 1⟩],
        [⟨firstAnswer 1 ["payments"], []⟩, ⟨⟨2, ["rooms"], false, false⟩, []⟩]) := by
    decide +kernel
  have guarded : Guarded RecoverySystem.step RecoverySystem.CommitsAbove
      (RecoverySystem.init 1) insertsInOrder := by
    decide +kernel
  obtain ⟨s, ran, isHistory⟩ := Option.map_eq_some_iff.mp results
  exact ⟨s, ran, isHistory, recovery_missesNothing (reaches_of_run guarded ran)⟩

/-- A row that commits after a later one was answered is not told by the next
call, although no transaction is open any more. -/
theorem recovery_misses_late_row :
    ¬∀ hotelId events s, run RecoverySystem.step (RecoverySystem.init hotelId) events = some s →
        s.MissesNothing := by
  intro always
  have results : (run RecoverySystem.step (RecoverySystem.init 1)
      (overtakenInsert ++ [.commit 0, .callStarts, .callAnswers])).map RecoverySystem.history =
      some ([⟨roomRow, 1, 0⟩, ⟨paymentRow, 0, 1⟩],
        [⟨firstAnswer 2 ["rooms"], [0]⟩, ⟨⟨2, [], false, false⟩, []⟩]) := by
    decide +kernel
  obtain ⟨s, ran, isHistory⟩ := Option.map_eq_some_iff.mp results
  obtain ⟨isCommitted, isCalls⟩ := Prod.mk.inj isHistory
  obtain ⟨earlier, telling, isTelling, since, within, tells⟩ := always 1 _ s ran ⟨paymentRow, 0, 1⟩
    (by simp [isCommitted]) 1 ⟨⟨2, [], false, false⟩, []⟩ (by simp [isCalls]) le_rfl (by simp)
  obtain rfl : earlier = 1 := le_antisymm within since
  rw [isCalls] at isTelling
  cases isTelling
  simp [RecoveryAnswer.Tells] at tells

end HotelPms.Events
