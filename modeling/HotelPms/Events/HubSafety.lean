import HotelPms.Events.Hub

/-!
# The hub passes no row

As long as every row that is published is the next one of the outbox above the
cursor of the hub, each stream is told of every row between its own cursor and
the one of the hub.  The poll task always publishes so; a notification does so
when it is about the next row, and the batch that is read when the listener
comes back when nothing has been left out before it.
-/

namespace HotelPms.Events

open OrderedLog Transition

/-- Some frame that was queued names the domain of the row. -/
def Subscriber.Names (subscriber : Subscriber) (domain : String) : Prop :=
  ∃ frame ∈ subscriber.queued, frame.domain = domain

section

variable {hotelId hubCursor : Int} {subscriber : Subscriber} {frame : Frame} {domain : String}

@[simp] theorem queueFrame_streamCursor :
    (subscriber.queueFrame hotelId hubCursor frame).streamCursor = subscriber.streamCursor := by
  unfold Subscriber.queueFrame
  split_ifs <;> rfl

theorem Subscriber.Names.queueFrame (named : subscriber.Names domain) :
    (subscriber.queueFrame hotelId hubCursor frame).Names domain := by
  obtain ⟨old, oldIn, same⟩ := named
  refine ⟨old, ?_, same⟩
  unfold Subscriber.queueFrame
  by_cases full : streamQueueSize ≤ subscriber.queue.length
  · rw [if_pos full]
    exact List.mem_append_left _ oldIn
  · rw [if_neg full]
    exact List.mem_append_left _ oldIn

theorem names_queueFrame (supported : frame.domain ∈ supportedDomains) :
    (subscriber.queueFrame hotelId hubCursor frame).Names frame.domain := by
  unfold Subscriber.queueFrame
  by_cases full : streamQueueSize ≤ subscriber.queue.length
  · rw [if_pos full]
    obtain ⟨recovery, listed, same, -⟩ := mem_recoveryFrames hotelId
      (if frame.cursor = 0 then hubCursor else frame.cursor) supported
    exact ⟨recovery, List.mem_append_right _ listed, same⟩
  · rw [if_neg full]
    exact ⟨frame, List.mem_concat_self, rfl⟩

theorem Subscriber.Names.foldl (named : subscriber.Names domain) (frames : List Frame) :
    (frames.foldl (fun state next =>
      state.queueFrame hotelId hubCursor next) subscriber).Names domain := by
  induction frames generalizing subscriber with
  | nil => exact named
  | cons first frames ih =>
    exact ih named.queueFrame

theorem names_foldl {frames : List Frame} (member : frame ∈ frames)
    (supported : frame.domain ∈ supportedDomains) :
    (frames.foldl (fun state next =>
      state.queueFrame hotelId hubCursor next) subscriber).Names frame.domain := by
  induction frames generalizing subscriber with
  | nil => cases member
  | cons first frames ih =>
    rcases List.mem_cons.mp member with rfl | later
    · exact (names_queueFrame supported).foldl frames
    · exact ih later

theorem foldl_streamCursor (frames : List Frame) : (frames.foldl (fun state next =>
      state.queueFrame hotelId hubCursor next) subscriber).streamCursor =
        subscriber.streamCursor := by
  induction frames generalizing subscriber with
  | nil => rfl
  | cons first frames ih =>
    rw [List.foldl_cons, ih, queueFrame_streamCursor]

end

/-! ## What a hub has published -/

/-- The rows between the floor and the cursor of a hub are remembered, in
order; the cursor is that of a row unless nothing was published. -/
structure Remembered (visible : List OutboxRow) (floor cursor : Int)
    (history : List Frame) : Prop where
  known : ∀ row ∈ visible, floor < row.cursor -> row.cursor ≤ cursor ->
    ∃ frame ∈ history, outboxSsePayload row = some frame
  ofRows : ∀ frame ∈ history, ∃ row ∈ visible, outboxSsePayload row = some frame
  ordered : Increasing Frame.cursor history
  within : ∀ frame ∈ history, floor < frame.cursor ∧ frame.cursor ≤ cursor
  floorLe : floor ≤ cursor
  origin : cursor = floor ∨ ∃ row ∈ visible, row.cursor = cursor

/-- Every stream was told of the rows between its cursor and the hub's. -/
structure Published (visible : List OutboxRow) (hub : Hub) : Prop where
  memory : Remembered visible hub.historyFloor hub.cursor hub.history
  named : ∀ row ∈ visible, row.cursor ≤ hub.cursor ->
    ∀ subscriber ∈ hub.subscribers, subscriber.streamCursor < row.cursor ->
      subscriber.Names row.frameDomain
  fresh : hub.cursor = hub.historyFloor -> ∀ subscriber ∈ hub.subscribers,
    subscriber.streamCursor < hub.historyFloor ->
      ∀ domain ∈ supportedDomains, subscriber.Names domain

structure WellFormed (visible : List OutboxRow) : Prop where
  increasing : Increasing OutboxRow.cursor visible
  valid : ∀ row ∈ visible, ∃ frame, outboxSsePayload row = some frame

section

variable {visible : List OutboxRow} {hub : Hub} {row : OutboxRow}

@[simp] theorem publishRow_hotelId (hub : Hub) (row : OutboxRow) :
    (hub.publishRow row).hotelId = hub.hotelId := by
  unfold Hub.publishRow
  split_ifs
  · rfl
  · cases outboxSsePayload row with
    | none => rfl
    | some frame =>
      unfold Hub.remember
      dsimp only
      split_ifs <;> rfl

theorem publishRow_skips (passed : row.cursor ≤ hub.cursor) :
    hub.publishRow row = hub := if_pos passed

variable {frame : Frame}

theorem publishRow_eq (above : hub.cursor < row.cursor)
    (isFrame : outboxSsePayload row = some frame) :
    hub.publishRow row = (({ hub with cursor := row.cursor } : Hub).remember frame).queueAll
        frame := by
  unfold Hub.publishRow
  rw [if_neg (not_le.mpr above)]
  simp only [isFrame]

@[simp] theorem remember_cursor (hub : Hub) (frame : Frame) :
    (hub.remember frame).cursor = hub.cursor := by
  unfold Hub.remember
  split_ifs <;> rfl

@[simp] theorem remember_subscribers (hub : Hub) (frame : Frame) :
    (hub.remember frame).subscribers = hub.subscribers := by
  unfold Hub.remember
  split_ifs <;> rfl

theorem publishRow_moves (hub : Hub) (row : OutboxRow) (above : hub.cursor < row.cursor) :
    (hub.publishRow row).cursor = row.cursor := by
  unfold Hub.publishRow
  rw [if_neg (not_le.mpr above)]
  cases outboxSsePayload row with
  | none => rfl
  | some frame => exact remember_cursor _ _

theorem publishRow_subscribers_eq_nil :
    (hub.publishRow row).subscribers = [] ↔ hub.subscribers = [] := by
  unfold Hub.publishRow
  split_ifs
  · rfl
  · cases outboxSsePayload row with
    | none => rfl
    | some frame => simp [Hub.queueAll]

theorem mem_remember_self (hub : Hub) (frame : Frame) : frame ∈ (hub.remember frame).history := by
  unfold Hub.remember
  split_ifs <;> simp

theorem remember_cases (hub : Hub) (frame : Frame)
    (positive : ∀ old ∈ hub.history, 0 < old.cursor) :
    ((hub.remember frame).historyFloor = hub.historyFloor ∧
        (hub.remember frame).history = hub.history ++ [frame]) ∨
      ∃ oldest rest, hub.history = oldest :: rest ∧
        (hub.remember frame).historyFloor = oldest.cursor ∧
        (hub.remember frame).history = rest ++ [frame] := by
  unfold Hub.remember
  by_cases full : hub.history.length = streamHistorySize
  · rw [if_pos full]
    cases listed : hub.history with
    | nil =>
      rw [listed] at full
      cases full
    | cons oldest rest =>
      refine .inr ⟨oldest, rest, rfl, ?_, rfl⟩
      exact if_neg (positive oldest (by simp [listed])).ne'
  · rw [if_neg full]
    exact .inl ⟨rfl, rfl⟩

theorem queueAll_eq (hub : Hub) (frame : Frame) : (hub.queueAll frame).history = hub.history ∧
      (hub.queueAll frame).historyFloor = hub.historyFloor ∧
      (hub.queueAll frame).cursor = hub.cursor := ⟨rfl, rfl, rfl⟩

section

variable (wellFormed : WellFormed visible)
include wellFormed

theorem eq_or_le_of_next (member : row ∈ visible) {cursor : Int}
    (next : ∀ other ∈ visible, cursor < other.cursor -> row.cursor ≤ other.cursor)
    {other : OutboxRow} (otherIn : other ∈ visible)
    (within : other.cursor ≤ row.cursor) :
    other = row ∨ other.cursor ≤ cursor := by
  by_cases old : other.cursor ≤ cursor
  · exact .inr old
  · have later := next other otherIn (not_le.mp old)
    exact .inl (wellFormed.increasing.eq_of_key otherIn member (le_antisymm within later))

theorem Remembered.append {floor cursor oldFloor : Int} {history kept : List Frame}
    (memory : Remembered visible oldFloor cursor history) (member : row ∈ visible)
    (above : cursor < row.cursor)
    (next : ∀ other ∈ visible, cursor < other.cursor -> row.cursor ≤ other.cursor)
    (isFrame : outboxSsePayload row = some frame)
    (sublist : kept.Sublist history)
    (keeps : ∀ old ∈ history, floor < old.cursor ↔ old ∈ kept)
    (floors : oldFloor ≤ floor ∧ floor ≤ cursor) :
    Remembered visible floor row.cursor (kept ++ [frame]) where
  known := by
    intro other otherIn aboveFloor within
    rcases eq_or_le_of_next wellFormed member next otherIn within with rfl | old
    · exact ⟨frame, by simp, isFrame⟩
    · obtain ⟨oldFrame, oldIn, isOld⟩ := memory.known other otherIn (by omega) old
      have sameCursor := (outboxSsePayload_eq_some isOld).1
      exact ⟨oldFrame, List.mem_append_left _
        ((keeps oldFrame oldIn).mp (sameCursor ▸ aboveFloor)), isOld⟩
  ofRows := by
    intro other otherIn
    rcases List.mem_added.mp otherIn with old | rfl
    · exact memory.ofRows other (sublist.subset old)
    · exact ⟨row, member, isFrame⟩
  ordered := by
    apply Increasing.append (memory.ordered.sublist sublist)
    intro other otherIn
    have := (memory.within other (sublist.subset otherIn)).2
    have := (outboxSsePayload_eq_some isFrame).1
    omega
  within := by
    intro other otherIn
    rcases List.mem_added.mp otherIn with old | rfl
    · have known := sublist.subset old
      have := (keeps other known).mpr old
      have := (memory.within other known).2
      omega
    · have := (outboxSsePayload_eq_some isFrame).1
      omega
  floorLe := by omega
  origin := .inr ⟨row, member, rfl⟩

theorem Remembered.publishRow
    (memory : Remembered visible hub.historyFloor hub.cursor hub.history) (member : row ∈ visible)
    (above : hub.cursor < row.cursor)
    (next : ∀ other ∈ visible, hub.cursor < other.cursor -> row.cursor ≤ other.cursor)
    (isFrame : outboxSsePayload row = some frame) {after : Hub}
    (isAfter : after = ({ hub with cursor := row.cursor } : Hub).remember frame) :
    Remembered visible after.historyFloor row.cursor after.history := by
  have positive : ∀ old ∈ hub.history, 0 < old.cursor := by
    intro old oldIn
    obtain ⟨other, -, isOld⟩ := memory.ofRows old oldIn
    rw [(outboxSsePayload_eq_some isOld).1]
    exact other.cursor_pos
  rcases remember_cases { hub with cursor := row.cursor } frame positive with
    ⟨sameFloor, isHistory⟩ | ⟨oldest, rest, listed, newFloor, isHistory⟩
  · rw [← isAfter] at sameFloor isHistory
    rw [sameFloor, isHistory]
    refine memory.append wellFormed member above next isFrame
      (List.Sublist.refl _) ?_ ⟨le_rfl, memory.floorLe⟩
    intro old oldIn
    exact ⟨fun _ => oldIn, fun _ => (memory.within old oldIn).1⟩
  · rw [← isAfter] at newFloor isHistory
    have listed : hub.history = oldest :: rest := listed
    have ordered := memory.ordered
    rw [listed] at ordered
    have later := (List.pairwise_cons.mp ordered).1
    rw [newFloor, isHistory]
    refine memory.append wellFormed member above next isFrame
      (listed ▸ List.sublist_cons_self oldest rest) ?_ ?_
    · intro old oldIn
      rw [listed] at oldIn
      constructor
      · intro aboveOldest
        rcases List.mem_cons.mp oldIn with rfl | inRest
        · exact absurd aboveOldest (lt_irrefl _)
        · exact inRest
      · exact later old
    · have := memory.within oldest (by simp [listed])
      omega

theorem Published.publishRow (published : Published visible hub) (member : row ∈ visible)
    (above : hub.cursor < row.cursor)
    (next : ∀ other ∈ visible, hub.cursor < other.cursor -> row.cursor ≤ other.cursor) :
    Published visible (hub.publishRow row) := by
  obtain ⟨frame, isFrame⟩ := wellFormed.valid row member
  have memory := published.memory.publishRow wellFormed member above next isFrame rfl
  rw [publishRow_eq above isFrame]
  obtain ⟨sameHistory, sameFloor, sameCursor⟩ := queueAll_eq
    (({ hub with cursor := row.cursor } : Hub).remember frame) frame
  rw [remember_cursor] at sameCursor
  refine ⟨?_, ?_, ?_⟩
  · rw [sameHistory, sameFloor, sameCursor]
    exact memory
  · intro other otherIn within subscriber subscribed behind
    rw [sameCursor] at within
    obtain ⟨old, oldIn, rfl⟩ := List.mem_map.mp subscribed
    rw [remember_subscribers] at oldIn
    rw [queueFrame_streamCursor] at behind
    rcases eq_or_le_of_next wellFormed member next otherIn within with rfl | earlier
    · rw [← (outboxSsePayload_eq_some isFrame).2.1]
      apply names_queueFrame
      rw [(outboxSsePayload_eq_some isFrame).2.1]
      exact frameDomain_supported isFrame
    · exact (published.named other otherIn earlier old oldIn behind).queueFrame
  · intro same
    have newest := memory.within frame (mem_remember_self _ _)
    rw [sameCursor, sameFloor] at same
    dsimp only at same
    omega

theorem Published.publishRows (published : Published visible hub) {rows : List OutboxRow}
    (known : ∀ row ∈ rows, row ∈ visible)
    (increasing : Increasing OutboxRow.cursor rows)
    (gapless : Gapless OutboxRow.cursor visible hub.cursor rows) :
    Published visible (hub.publishRows rows) :=
  foldl_of_gapless OutboxRow.cursor Hub.publishRow Hub.cursor (Published visible)
    (fun _ _ passed => publishRow_skips passed)
    publishRow_moves
    (fun _ _ holds member above next => holds.publishRow wellFormed member above next)
    published known increasing gapless

end

theorem le_publishRows (hub : Hub) (rows : List OutboxRow) :
    hub.cursor ≤ (hub.publishRows rows).cursor :=
  le_foldl OutboxRow.cursor Hub.publishRow Hub.cursor (fun _ _ passed => publishRow_skips passed)
    publishRow_moves hub rows

theorem publishRows_subscribers_eq_nil (hub : Hub) (rows : List OutboxRow) :
    (hub.publishRows rows).subscribers = [] ↔ hub.subscribers = [] := by
  unfold Hub.publishRows
  induction rows generalizing hub with
  | nil => rfl
  | cons row rows ih =>
    rw [List.foldl_cons, ih, publishRow_subscribers_eq_nil]

theorem Published.commitRow (published : Published visible hub)
    (isFrame : outboxSsePayload row = some frame)
    (later : ∀ other ∈ visible, other.cursor < row.cursor) :
    Published (visible ++ [row]) hub := by
  have passed : row.cursor ≤ hub.cursor -> hub.cursor = hub.historyFloor := by
    intro within
    rcases published.memory.origin with same | ⟨other, otherIn, same⟩
    · exact same
    · have := later other otherIn
      omega
  refine ⟨⟨?_, ?_, published.memory.ordered, published.memory.within,
    published.memory.floorLe, ?_⟩, ?_, published.fresh⟩
  · intro other otherIn above within
    rcases List.mem_added.mp otherIn with old | rfl
    · exact published.memory.known other old above within
    · omega
  · intro frame frameIn
    obtain ⟨other, otherIn, isFrame⟩ := published.memory.ofRows frame frameIn
    exact ⟨other, List.mem_append_left _ otherIn, isFrame⟩
  · apply published.memory.origin.imp_right
    rintro ⟨other, otherIn, same⟩
    exact ⟨other, List.mem_append_left _ otherIn, same⟩
  · intro other otherIn within subscriber subscribed behind
    rcases List.mem_added.mp otherIn with old | new
    · exact published.named other old within subscriber subscribed behind
    · rw [new] at within behind ⊢
      have same := passed within
      exact published.fresh same subscriber subscribed (by omega)
        row.frameDomain (frameDomain_supported isFrame)

/-- What the streams were told, when the streams that are left are some of
those before, and nothing they were told is forgotten. -/
theorem Published.subscribers (published : Published visible hub) (after : Hub)
    (sameCursor : after.cursor = hub.cursor)
    (sameFloor : after.historyFloor = hub.historyFloor)
    (sameHistory : after.history = hub.history)
    (kept : ∀ subscriber ∈ after.subscribers, ∃ old ∈ hub.subscribers,
      old.streamCursor = subscriber.streamCursor ∧ old.queued = subscriber.queued) :
    Published visible after := by
  have names {old subscriber : Subscriber} {domain : String}
      (same : old.queued = subscriber.queued) (named : old.Names domain) :
      subscriber.Names domain := by
    unfold Subscriber.Names at named ⊢
    rwa [same] at named
  refine ⟨?_, ?_, ?_⟩
  · rw [sameCursor, sameFloor, sameHistory]
    exact published.memory
  · intro row member within subscriber subscribed behind
    obtain ⟨old, oldIn, sameStream, sameQueued⟩ := kept subscriber subscribed
    exact names sameQueued (published.named row member (sameCursor ▸ within)
      old oldIn (sameStream ▸ behind))
  · intro start subscriber subscribed behind domain supported
    obtain ⟨old, oldIn, sameStream, sameQueued⟩ := kept subscriber subscribed
    rw [sameFloor] at behind
    rw [sameCursor, sameFloor] at start
    exact names sameQueued (published.fresh start old oldIn (sameStream ▸ behind) domain supported)

theorem published_subscribeFirst (visible : List OutboxRow) (hub : Hub)
    (key : Nat) (afterCursor : Option Int) (latest : Int) :
    Published visible (hub.subscribeFirst key afterCursor latest) := by
  have alone {subscriber : Subscriber}
      (subscribed : subscriber ∈ (hub.subscribeFirst key afterCursor latest).subscribers) :
      subscriber.streamCursor = (hub.subscribeFirst key afterCursor latest).cursor := by
    obtain rfl := List.mem_singleton.mp subscribed
    rfl
  have sameFloor : (hub.subscribeFirst key afterCursor latest).historyFloor =
        (hub.subscribeFirst key afterCursor latest).cursor := rfl
  refine ⟨⟨?_, ?_, List.Pairwise.nil, ?_, le_rfl, .inl rfl⟩, ?_, ?_⟩
  · omega
  · intro frame frameIn
    cases frameIn
  · intro frame frameIn
    cases frameIn
  · intro row _ within subscriber subscribed behind
    have := alone subscribed
    omega
  · intro _ subscriber subscribed behind
    have := alone subscribed
    omega

theorem names_replayOrReset (published : Published visible hub)
    {subscriber : Subscriber} {afterCursor : Int}
    {row : OutboxRow} (member : row ∈ visible)
    (isFrame : outboxSsePayload row = some frame)
    (behind : afterCursor < row.cursor) (within : row.cursor ≤ hub.cursor) :
    (hub.replayOrReset subscriber afterCursor).Names row.frameDomain := by
  have supported := frameDomain_supported isFrame
  unfold Hub.replayOrReset Hub.replayFrames
  split_ifs with remembered
  · obtain ⟨kept, keptIn, isKept⟩ := published.memory.known row member (by omega) within
    obtain ⟨sameCursor, sameDomain, -⟩ := outboxSsePayload_eq_some isKept
    rw [← sameDomain] at supported ⊢
    apply names_foldl _ supported
    rw [List.mem_filter, decide_eq_true_eq, sameCursor]
    exact ⟨keptIn, behind⟩
  · obtain ⟨recovery, listed, same, -⟩ := mem_recoveryFrames hub.hotelId hub.cursor supported
    rw [← same] at supported ⊢
    exact names_foldl listed supported

theorem names_reset {subscriber : Subscriber} {afterCursor : Int}
    (forgotten : afterCursor < hub.historyFloor) {domain : String}
    (supported : domain ∈ supportedDomains) :
    (hub.replayOrReset subscriber afterCursor).Names domain := by
  unfold Hub.replayOrReset Hub.replayFrames
  rw [if_neg (not_le.mpr forgotten)]
  obtain ⟨recovery, listed, same, -⟩ := mem_recoveryFrames hub.hotelId hub.cursor supported
  rw [← same] at supported ⊢
  exact names_foldl listed supported

theorem Published.subscribeFurther (published : Published visible hub)
    (wellFormed : WellFormed visible) (key : Nat) (afterCursor : Option Int) :
    Published visible (hub.subscribeFurther key afterCursor) := by
  refine ⟨published.memory, ?_, ?_⟩
  · intro row member within subscriber subscribed behind
    rcases List.mem_added.mp subscribed with old | rfl
    · exact published.named row member within subscriber old behind
    · obtain ⟨frame, isFrame⟩ := wellFormed.valid row member
      have within : row.cursor ≤ hub.cursor := within
      split_ifs at behind ⊢ with late
      · unfold Hub.replayOrReset at behind
        rw [foldl_streamCursor] at behind
        exact names_replayOrReset published member isFrame behind within
      · have behind : hub.streamCursor afterCursor < row.cursor := behind
        omega
  · intro start subscriber subscribed behind domain supported
    rcases List.mem_added.mp subscribed with old | rfl
    · exact published.fresh start subscriber old behind domain supported
    · have start : hub.cursor = hub.historyFloor := start
      split_ifs at behind ⊢ with late
      · exact names_reset (start ▸ late) supported
      · have behind : hub.streamCursor afterCursor < hub.historyFloor := behind
        omega

end

end HotelPms.Events
