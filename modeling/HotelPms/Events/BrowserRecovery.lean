import HotelPms.Events.Browser
import HotelPms.Events.HubSafety

/-!
# What a tab learns when it comes back

A tab that subscribes behind the hub gets the remembered frames, or one
recovery frame for each domain.  It drops all but the first of several frames
with one cursor, so that of a recovery only the first domain is refreshed, and
that is all it learns of the frames a full queue has lost.
-/

namespace HotelPms.Events

open OrderedLog

/-- Frames that are still queued behind the last recovery, out of so many. -/
def keptAfterOverflow (count : Nat) : Nat :=
  if count ≤ 256 then count else (count - 257) % 243

/-- The frame in whose place the last recovery stands, and those behind it. -/
def overflowTail (frames : List Frame) : List Frame :=
  frames.drop (frames.length - (keptAfterOverflow frames.length + 1))

variable (hotelId : Int) (rows : List OutboxRow)

/-- A recovery in the place of the first of the frames. -/
def recoveredTail : List Frame -> List Frame
  | [] => []
  | frame :: rest => recoveryFrames hotelId frame.cursor ++ rest

def queuedFrames (frames : List Frame) : List Frame :=
  if frames.length ≤ 256 then frames
  else recoveredTail hotelId (overflowTail frames)

variable {frames : List Frame}

theorem queuedFrames_few {hotelId : Int}
    (few : frames.length ≤ 256) : queuedFrames hotelId frames = frames :=
  if_pos few

theorem queuedFrames_many {hotelId : Int} (many : 256 < frames.length) :
    queuedFrames hotelId frames = recoveredTail hotelId (overflowTail frames) :=
  if_neg (not_le.mpr many)

@[simp] theorem length_recoveryFrames (hotelId cursor : Int) :
    (recoveryFrames hotelId cursor).length = 14 := by
  rfl

theorem length_overflowTail (many : 256 < frames.length) :
    (overflowTail frames).length = keptAfterOverflow frames.length + 1 := by
  unfold overflowTail keptAfterOverflow
  rw [List.length_drop, if_neg (by omega)]
  omega

theorem exists_overflowTail (many : 256 < frames.length) :
    ∃ first rest, overflowTail frames = first :: rest ∧
      rest.length = keptAfterOverflow frames.length := by
  have length := length_overflowTail many
  cases tail : overflowTail frames with
  | nil =>
    rw [tail] at length
    cases length
  | cons first rest =>
    rw [tail, List.length_cons] at length
    exact ⟨first, rest, rfl, by omega⟩

/-- One more frame behind the last recovery, or a new recovery. -/
theorem overflowTail_concat (frame : Frame) (many : 256 ≤ frames.length) :
    overflowTail (frames ++ [frame]) =
      if frames.length = 256 ∨ keptAfterOverflow frames.length = 242 then
        [frame] else overflowTail frames ++ [frame] := by
  unfold overflowTail
  rw [List.length_append, List.length_singleton]
  split_ifs with again
  · have none : keptAfterOverflow (frames.length + 1) = 0 := by
      unfold keptAfterOverflow at again ⊢
      split_ifs at again ⊢ <;> omega
    rw [none, show frames.length + 1 - (0 + 1) = frames.length by omega, List.drop_left]
  · have more : keptAfterOverflow (frames.length + 1) = keptAfterOverflow frames.length + 1 := by
      unfold keptAfterOverflow at again ⊢
      split_ifs at again ⊢ <;> omega
    rw [more, List.drop_append_of_le_length (by omega)]
    congr 2
    omega

section

variable {hotelId hubCursor : Int} {frame : Frame}

theorem queue_queueFrame (subscriber : Subscriber) (numbered : frame.cursor ≠ 0) :
    (subscriber.queueFrame hotelId hubCursor frame).queue =
      if 256 ≤ subscriber.queue.length then recoveryFrames hotelId frame.cursor
      else subscriber.queue ++ [frame] := by
  unfold Subscriber.queueFrame streamQueueSize
  split_ifs <;> rfl

theorem queue_foldl {frames : List Frame} {subscriber : Subscriber} (empty : subscriber.queue = [])
    (numbered : ∀ frame ∈ frames, frame.cursor ≠ 0) :
    (frames.foldl (fun state next =>
      state.queueFrame hotelId hubCursor next) subscriber).queue = queuedFrames hotelId frames := by
  induction frames using List.reverseRecOn with
  | nil => exact empty
  | append_singleton frames frame ih =>
    have earlier := ih fun other member => numbered other (List.mem_append_left _ member)
    rw [List.foldl_append, List.foldl_cons, List.foldl_nil,
      queue_queueFrame _ (numbered frame (by simp)), earlier]
    rcases lt_trichotomy frames.length 256 with few | exact256 | many
    · rw [queuedFrames_few few.le, queuedFrames_few (by simp; omega), if_neg (by omega)]
    · rw [queuedFrames_few exact256.le, queuedFrames_many (by simp [exact256]), if_pos exact256.ge,
        overflowTail_concat frame exact256.ge, if_pos (.inl exact256)]
      exact (List.append_nil _).symm
    · obtain ⟨first, rest, tail, length⟩ := exists_overflowTail many
      rw [queuedFrames_many many, queuedFrames_many (by simp; omega),
        overflowTail_concat frame many.le, tail]
      have length : (recoveredTail hotelId (first :: rest)).length =
          14 + keptAfterOverflow frames.length := by
        unfold recoveredTail
        rw [List.length_append, length_recoveryFrames, length]
      by_cases full : keptAfterOverflow frames.length = 242
      · rw [if_pos (by omega), if_pos (.inr full)]
        exact (List.append_nil _).symm
      · have bound : keptAfterOverflow frames.length < 243 := by
          unfold keptAfterOverflow
          split_ifs <;> omega
        rw [if_neg (by omega), if_neg (by omega)]
        exact List.append_assoc _ _ _

end

/-! ## Frames a tab takes in -/

/-- Domains of frames that the tab does not handle itself. -/
def OriginMemory.admits (hotelId : Int) : OriginMemory -> List Frame -> List String
  | _, [] => []
  | memory, frame :: rest =>
    let answer := memory.shouldRefreshForDomainOrigin hotelId frame.domain frame.originKey
    if answer.2 = true then frame.domain :: admits hotelId answer.1 rest
    else admits hotelId answer.1 rest

theorem OriginMemory.admits_cons (hotelId : Int) (memory : OriginMemory)
    (frame : Frame) (rest : List Frame) :
    memory.admits hotelId (frame :: rest) =
      if (memory.shouldRefreshForDomainOrigin hotelId frame.domain frame.originKey).2 = true then
        frame.domain :: (memory.shouldRefreshForDomainOrigin hotelId
          frame.domain frame.originKey).1.admits hotelId rest
      else (memory.shouldRefreshForDomainOrigin hotelId frame.domain
        frame.originKey).1.admits hotelId rest := rfl

/-- A frame of the tab's hotel about a domain it refreshes, with a number that
it represents. -/
structure Understood (tab : Tab) (frame : Frame) : Prop where
  sameHotel : frame.hotelId = tab.hotelId
  known : frame.domain ∈ queryDomains
  safe : isSafeInteger frame.cursor = true
  nonneg : 0 ≤ frame.cursor

/-- The frames are of different events, none of which the tab knows. -/
structure Unseen (tab : Tab) (frames : List Frame) : Prop where
  distinct : (frames.filterMap Tab.eventId?).Nodup
  unknown : ∀ frame ∈ frames, ∀ eventId ∈ Tab.eventId? frame, eventId ∉ tab.seenEventIds

section

variable {tab : Tab} {frame : Frame} {frames : List Frame}

@[simp] theorem rememberEvent_fields (tab : Tab) (frame : Frame) :
    (tab.rememberEvent frame).hotelId = tab.hotelId ∧
      (tab.rememberEvent frame).storedCursor = tab.storedCursor ∧
      (tab.rememberEvent frame).memory = tab.memory ∧
      (tab.rememberEvent frame).scheduled = tab.scheduled := by
  unfold Tab.rememberEvent
  cases Tab.eventId? frame <;> exact ⟨rfl, rfl, rfl, rfl⟩

theorem mem_seen_rememberEvent {eventId : String}
    (seen : eventId ∈ (tab.rememberEvent frame).seenEventIds) :
    eventId ∈ tab.seenEventIds ∨ eventId ∈ Tab.eventId? frame := by
  unfold Tab.rememberEvent at seen
  cases isEvent : Tab.eventId? frame with
  | none =>
    rw [isEvent] at seen
    exact .inl seen
  | some other =>
    rw [isEvent] at seen
    simp only at seen
    have known : eventId ∈ tab.seenEventIds ++ [other] := by
      split_ifs at seen
      · exact List.mem_of_mem_drop seen
      · exact seen
    rcases List.mem_added.mp known with old | rfl
    · exact .inl old
    · exact .inr rfl

theorem knowsEvent_eq_false (unknown : ∀ eventId ∈ Tab.eventId? frame, eventId ∉ tab.seenEventIds) :
    tab.knowsEvent frame = false := by
  unfold Tab.knowsEvent
  cases isEvent : Tab.eventId? frame with
  | none => rfl
  | some eventId => simpa using unknown eventId isEvent

theorem onEvent_above (understood : Understood tab frame)
    (unknown : ∀ eventId ∈ Tab.eventId? frame, eventId ∉ tab.seenEventIds)
    (above : tab.storedCursor < frame.cursor) :
    tab.onEvent frame = ({ tab.rememberEvent frame with storedCursor := frame.cursor } :
        Tab).scheduleRefresh frame := by
  obtain ⟨sameHotel, known, safe, nonneg⟩ := understood
  obtain ⟨-, sameCursor, -, -⟩ := rememberEvent_fields tab frame
  unfold Tab.onEvent
  rw [if_neg (by simp [sameHotel, known]), if_neg (by simp [knowsEvent_eq_false unknown])]
  rw [if_neg (by simp [above])]
  unfold Tab.writeCursor
  rw [sameCursor, if_neg]
  rintro (unsafe' | negative | stale)
  · rw [safe] at unsafe'
    cases unsafe'
  · omega
  · omega

theorem onEvent_dropped (noEvent : frame.eventId = none) (safe : isSafeInteger frame.cursor = true)
    (below : frame.cursor ≤ tab.storedCursor) : tab.onEvent frame = tab := by
  unfold Tab.onEvent Tab.rememberEvent Tab.eventId?
  simp [noEvent, safe, below]

theorem runEventStream_cons (tab : Tab) (frame : Frame) (frames : List Frame) :
    tab.runEventStream (frame :: frames) = (tab.onEvent frame).runEventStream frames := rfl

theorem runEventStream_append (tab : Tab) (first second : List Frame) :
    tab.runEventStream (first ++ second) = (tab.runEventStream first).runEventStream second :=
  List.foldl_append ..

theorem Unseen.tail (unseen : Unseen tab (frame :: frames)) {after : Tab}
    (seen : after.seenEventIds = (tab.rememberEvent frame).seenEventIds) :
    Unseen after frames where
  distinct := by
    have distinct := unseen.distinct
    cases isEvent : Tab.eventId? frame with
    | none =>
      rwa [List.filterMap_cons_none isEvent] at distinct
    | some eventId =>
      rw [List.filterMap_cons_some isEvent] at distinct
      exact (List.nodup_cons.mp distinct).2
  unknown := by
    intro other member eventId isEvent known
    rw [seen] at known
    rcases mem_seen_rememberEvent known with old | same
    · exact unseen.unknown other (List.mem_cons_of_mem _ member) eventId isEvent old
    · have distinct := unseen.distinct
      rw [List.filterMap_cons_some same] at distinct
      exact (List.nodup_cons.mp distinct).1 (List.mem_filterMap.mpr ⟨other, member, isEvent⟩)

theorem runEventStream_increasing (understood : ∀ frame ∈ frames, Understood tab frame)
    (unseen : Unseen tab frames) (increasing : Increasing Frame.cursor frames)
    (above : ∀ frame ∈ frames, tab.storedCursor < frame.cursor) :
    (tab.runEventStream frames).scheduled = tab.scheduled ++ tab.memory.admits tab.hotelId frames ∧
      (tab.runEventStream frames).storedCursor =
        (frames.getLast?.map Frame.cursor).getD tab.storedCursor := by
  induction frames generalizing tab with
  | nil => exact ⟨(List.append_nil _).symm, rfl⟩
  | cons frame frames ih =>
    obtain ⟨later, increasing⟩ := List.pairwise_cons.mp increasing
    have first := onEvent_above (understood frame List.mem_cons_self)
      (unseen.unknown frame List.mem_cons_self)
      (above frame List.mem_cons_self)
    obtain ⟨sameHotel, -, sameMemory, sameScheduled⟩ := rememberEvent_fields tab frame
    rw [runEventStream_cons, first]
    obtain ⟨scheduled, stored⟩ := @ih
      (({ tab.rememberEvent frame with storedCursor := frame.cursor } : Tab).scheduleRefresh frame)
      (fun other member =>
        have before := understood other (List.mem_cons_of_mem _ member)
        ⟨before.sameHotel.trans sameHotel.symm, before.known, before.safe, before.nonneg⟩)
      (unseen.tail rfl) increasing later
    refine ⟨?_, ?_⟩
    · rw [scheduled, OriginMemory.admits_cons]
      unfold Tab.scheduleRefresh
      dsimp only
      rw [sameHotel, sameMemory, sameScheduled]
      split_ifs
      · rw [List.append_assoc]
        rfl
      · rfl
    · rw [stored]
      cases frames with
      | nil => rfl
      | cons other rest => rfl

theorem runEventStream_recovery {cursor : Int}
    (safe : isSafeInteger cursor = true) (nonneg : 0 ≤ cursor)
    (above : tab.storedCursor < cursor) :
    tab.runEventStream (recoveryFrames tab.hotelId cursor) = { tab with
        storedCursor := cursor
        scheduled := tab.scheduled ++ ["analytics"] } := by
  have dropped {after : Tab} (frames : List Frame) (stored : after.storedCursor = cursor)
      (ofRecovery : ∀ frame ∈ frames, frame.eventId = none ∧
        frame.cursor = cursor) : after.runEventStream frames = after := by
    induction frames with
    | nil => rfl
    | cons frame frames ih =>
      obtain ⟨noEvent, same⟩ := ofRecovery frame List.mem_cons_self
      rw [runEventStream_cons, onEvent_dropped noEvent (same ▸ safe) (by omega)]
      exact ih (List.forall_mem_cons.mp ofRecovery).2
  unfold recoveryFrames supportedDomains
  rw [List.map_cons, runEventStream_cons, onEvent_above ⟨rfl, by simp [queryDomains], safe, nonneg⟩
    (by simp [Tab.eventId?]) above]
  apply dropped _ rfl
  intro frame member
  obtain ⟨domain, -, rfl⟩ := List.mem_map.mp member
  exact ⟨rfl, rfl⟩

end

/-! ## A tab that comes back -/

/-- Rows of a hotel as they are stored: well formed, in order, each of its own
event. -/
structure HotelRows (hotelId : Int) (rows : List OutboxRow) : Prop where
  wellFormed : WellFormed rows
  ofHotel : ∀ row ∈ rows, row.hotelId = hotelId
  distinct : (rows.map OutboxRow.eventId).Nodup

/-- A hub that some stream opened after a cursor, once it has published its
rows. -/
def publishedHub (start : Int) (rows : List OutboxRow) : Hub :=
  (({ hotelId := hotelId } : Hub).subscribeFirst 0 (some start) 0).publishRows rows

/-- Queue of a further stream that subscribes after a cursor. -/
def Hub.resumedQueue (hub : Hub) (cursor : Int) : List Frame :=
  match (hub.subscribeFurther 1 (some cursor)).subscribers.getLast? with
  | some subscriber => subscriber.queue
  | none => []

/-- The events a tab knows are not above its stored cursor. -/
def KnowsBelow (tab : Tab) : Prop :=
  ∀ row ∈ rows, row.eventId ∈ tab.seenEventIds -> row.cursor ≤ tab.storedCursor

/-- A tab of the hotel that stands at a cursor and has nothing to refresh. -/
structure Resumes (tab : Tab) (hotelId cursor : Int)
    (rows : List OutboxRow) : Prop where
  ofHotel : tab.hotelId = hotelId
  stored : tab.storedCursor = cursor
  idle : tab.scheduled = []
  knows : KnowsBelow rows tab

def IsLastAbove (cursor : Int) (last : OutboxRow) : Prop :=
  last ∈ rows ∧ cursor < last.cursor ∧ ∀ row ∈ rows, row.cursor ≤ last.cursor

/-- Every domain of a row above the cursor is passed to the scheduler, and the
stored cursor ends at the last row's. -/
def RecoversAll (cursor : Int) (after : Tab) : Prop :=
  (∀ row ∈ rows, cursor < row.cursor -> row.frameDomain ∈ after.scheduled) ∧
    ∀ last, IsLastAbove rows cursor last -> after.storedCursor = last.cursor

/-- Frames of which the tab learns: the remembered ones above its cursor; when
more than 256 of them overflow the queue, or all are forgotten, the first
recovery frame instead, and what was queued behind it. -/
def deliveredFrames (hub : Hub) (cursor : Int) : List Frame :=
  if cursor < hub.historyFloor then
    (recoveryFrames hub.hotelId hub.cursor).take 1
  else
    let frames := hub.replayFrames cursor
    if frames.length ≤ 256 then frames
    else
      match overflowTail frames with
      | [] => []
      | frame :: rest =>
        (recoveryFrames hub.hotelId frame.cursor).take 1 ++ rest

/-- Every domain of a row above the cursor is that of a delivered frame that
the tab does not handle itself, and the hub stands at the last row. -/
def DeliversAll (hub : Hub) (cursor : Int) (tab : Tab) : Prop :=
  (∀ row ∈ rows, cursor < row.cursor ->
    row.frameDomain ∈ tab.memory.admits hub.hotelId (deliveredFrames hub cursor)) ∧
    ∀ last, IsLastAbove rows cursor last -> hub.cursor = last.cursor

theorem resumedQueue_eq (hub : Hub) (cursor : Int) :
    hub.resumedQueue cursor = if cursor < hub.cursor then
        (hub.replayOrReset { key := 1, streamCursor := cursor } cursor).queue
      else [] := by
  unfold Hub.resumedQueue Hub.subscribeFurther Hub.streamCursor
  rw [Option.getD_some, List.getLast?_append, List.getLast?_singleton]
  split_ifs <;> rfl

section

variable {hotelId start cursor : Int} {rows : List OutboxRow} {tab : Tab}

theorem publishRows_hotelId (hub : Hub) (rows : List OutboxRow) :
    (hub.publishRows rows).hotelId = hub.hotelId := by
  unfold Hub.publishRows
  induction rows generalizing hub with
  | nil => rfl
  | cons row rows ih =>
    rw [List.foldl_cons, ih, publishRow_hotelId]

theorem publishedHub_hotelId (hotelId start : Int) (rows : List OutboxRow) :
    (publishedHub hotelId start rows).hotelId = hotelId :=
  publishRows_hotelId _ rows

theorem publishedHub_published (stored : HotelRows hotelId rows) :
    Published rows (publishedHub hotelId start rows) := by
  apply (published_subscribeFirst rows _ 0 (some start) 0).publishRows
    stored.wellFormed (fun _ member => member) stored.wellFormed.increasing
  intro row member _ _
  exact member

variable {row last : OutboxRow} {frame : Frame} {hub : Hub}

theorem le_publishedHub (member : row ∈ rows) :
    row.cursor ≤ (publishedHub hotelId start rows).cursor :=
  le_foldl_of_mem OutboxRow.cursor Hub.publishRow Hub.cursor
    (fun _ _ passed => publishRow_skips passed)
    publishRow_moves _ member

theorem exists_isLastAbove (stored : HotelRows hotelId rows)
    (member : row ∈ rows) (above : cursor < row.cursor) :
    ∃ last, IsLastAbove rows cursor last := by
  have nonempty : rows ≠ [] := List.ne_nil_of_mem member
  have split := List.dropLast_append_getLast nonempty
  have increasing := stored.wellFormed.increasing
  have isLast : ∀ other ∈ rows, other.cursor ≤ (rows.getLast nonempty).cursor := by
    intro other otherIn
    rw [← split] at increasing otherIn
    rcases List.mem_added.mp otherIn with earlier | last
    · exact ((List.pairwise_append.mp increasing).2.2 other earlier _
        (List.mem_singleton_self _)).le
    · rw [last]
  have := isLast row member
  exact ⟨_, List.getLast_mem nonempty, by omega, isLast⟩

theorem isSafeInteger_of_isId {number : Int} (isId : IsId number) :
    isSafeInteger number = true := by
  unfold IsId at isId
  unfold isSafeInteger
  rw [decide_eq_true_eq]
  omega

theorem supported_subset_queryDomains : ∀ domain ∈ supportedDomains, domain ∈ queryDomains := by
  simp [supportedDomains, queryDomains]

theorem understood_of_row (stored : HotelRows hotelId rows) (ofHotel : tab.hotelId = hotelId)
    (member : row ∈ rows) (isFrame : outboxSsePayload row = some frame) :
    Understood tab frame := by
  obtain ⟨sameCursor, sameDomain, sameHotel, -⟩ := outboxSsePayload_eq_some isFrame
  refine ⟨?_, ?_, ?_, ?_⟩
  · rw [sameHotel, ofHotel, stored.ofHotel row member]
  · rw [sameDomain]
    exact supported_subset_queryDomains _ (frameDomain_supported isFrame)
  · rw [sameCursor]
    exact isSafeInteger_of_isId row.cursor_isId
  · rw [sameCursor]
    exact row.cursor_pos.le

/-- Frames of the rows of a hotel. -/
def OfRows (rows : List OutboxRow) (frames : List Frame) : Prop :=
  ∀ frame ∈ frames, ∃ row ∈ rows, outboxSsePayload row = some frame

theorem eventId_of_row (isFrame : outboxSsePayload row = some frame) {eventId : String}
    (isEvent : eventId ∈ Tab.eventId? frame) : eventId = row.eventId := by
  obtain ⟨-, -, -, sameEvent⟩ := outboxSsePayload_eq_some isFrame
  unfold Tab.eventId? at isEvent
  rw [sameEvent] at isEvent
  simpa [eq_comm] using (Option.mem_filter_iff.mp isEvent).1

theorem runEventStream_unsafe {frames : List Frame}
    (tooLarge : ∀ frame ∈ frames, isSafeInteger frame.cursor = false) :
    (tab.runEventStream frames).storedCursor = tab.storedCursor := by
  induction frames generalizing tab with
  | nil => rfl
  | cons frame frames ih =>
    rw [runEventStream_cons, ih (List.forall_mem_cons.mp tooLarge).2]
    have large := tooLarge frame List.mem_cons_self
    obtain ⟨-, sameStored, -, -⟩ := rememberEvent_fields tab frame
    unfold Tab.onEvent Tab.writeCursor
    simp only [large, Bool.false_eq_true, false_and, if_false, true_or, if_true]
    split_ifs <;> first | rfl | exact sameStored

theorem runEventStream_beyond (published : Published rows hub)
    (isLast : IsLastAbove rows cursor last)
    (reached : last.cursor ≤ hub.cursor)
    (tooLarge : isSafeInteger hub.cursor = false) :
    (tab.runEventStream (hub.resumedQueue cursor)).storedCursor = tab.storedCursor := by
  have above := isLast.2.1
  have positive := last.cursor_pos
  have isFloor : hub.cursor = hub.historyFloor := by
    rcases published.memory.origin with isFloor | ⟨row, -, isRow⟩
    · exact isFloor
    · have safe := isSafeInteger_of_isId row.cursor_isId
      rw [isRow, tooLarge] at safe
      cases safe
  have reset : hub.replayFrames cursor = recoveryFrames hub.hotelId hub.cursor := if_neg (by omega)
  have ofRecovery : ∀ frame ∈ recoveryFrames hub.hotelId hub.cursor, frame.cursor = hub.cursor := by
    intro frame member
    obtain ⟨domain, -, rfl⟩ := List.mem_map.mp member
    rfl
  rw [resumedQueue_eq, if_pos (by omega)]
  unfold Hub.replayOrReset
  rw [reset, queue_foldl rfl, queuedFrames_few (by simp)]
  · apply runEventStream_unsafe
    intro frame member
    rw [ofRecovery frame member, tooLarge]
  · intro frame member
    rw [ofRecovery frame member]
    omega

theorem replayed (published : Published rows hub) (isLast : IsLastAbove rows cursor last)
    (within : hub.historyFloor ≤ cursor) (reached : last.cursor ≤ hub.cursor) :
    OfRows rows (hub.replayFrames cursor) ∧ Increasing Frame.cursor (hub.replayFrames cursor) ∧
      (∀ frame ∈ hub.replayFrames cursor, cursor < frame.cursor) ∧
      (hub.replayFrames cursor).getLast?.map Frame.cursor = some last.cursor := by
  obtain ⟨member, above, greatest⟩ := isLast
  unfold Hub.replayFrames
  rw [if_pos within]
  have ordered := published.memory.ordered.filter (cursor < ·.cursor)
  refine ⟨?_, ordered, ?_, ?_⟩
  · intro frame frameIn
    exact published.memory.ofRows frame (List.mem_of_mem_filter frameIn)
  · intro frame frameIn
    simpa using List.of_mem_filter frameIn
  · obtain ⟨frame, frameIn, isFrame⟩ := published.memory.known last member (by omega) reached
    have sameCursor := (outboxSsePayload_eq_some isFrame).1
    have kept : frame ∈ hub.history.filter fun other =>
        decide (cursor < other.cursor) := by
      simp [frameIn, sameCursor, above]
    obtain ⟨before, final, listed⟩ :=
      (List.eq_nil_or_concat' (hub.history.filter fun other =>
        cursor < other.cursor)).resolve_left (List.ne_nil_of_mem kept)
    rw [listed] at kept ordered ⊢
    have finalIn : final ∈ hub.history := List.mem_of_mem_filter
      (listed ▸ List.mem_append_right before (List.mem_singleton_self final))
    obtain ⟨row, rowIn, isFinal⟩ := published.memory.ofRows final finalIn
    have upper : final.cursor ≤ last.cursor := by
      rw [(outboxSsePayload_eq_some isFinal).1]
      exact greatest row rowIn
    rw [List.getLast?_concat, Option.map_some, Option.some_inj]
    rcases List.mem_added.mp kept with earlier | same
    · have lower := (List.pairwise_append.mp ordered).2.2 frame earlier final
        (List.mem_singleton_self _)
      omega
    · rw [← same, sameCursor]

theorem unseen_of_rows (stored : HotelRows hotelId rows)
    (resumes : Resumes tab hotelId cursor rows) {frames : List Frame}
    (ofRows : OfRows rows frames) (increasing : Increasing Frame.cursor frames)
    (above : ∀ frame ∈ frames, cursor < frame.cursor) : Unseen tab frames where
  distinct := by
    rw [List.Nodup, List.pairwise_filterMap]
    refine increasing.imp_of_mem ?_
    intro first second firstIn secondIn before eventId isFirst other isSecond same
    obtain ⟨row, rowIn, isRow⟩ := ofRows first firstIn
    obtain ⟨next, nextIn, isNext⟩ := ofRows second secondIn
    have sameRow : row = next :=
      List.inj_on_of_nodup_map stored.distinct rowIn nextIn
        ((eventId_of_row isRow isFirst).symm.trans (same.trans (eventId_of_row isNext isSecond)))
    rw [(outboxSsePayload_eq_some isRow).1, (outboxSsePayload_eq_some isNext).1, sameRow] at before
    exact lt_irrefl _ before
  unknown := by
    intro frame frameIn eventId isEvent seen
    obtain ⟨row, rowIn, isFrame⟩ := ofRows frame frameIn
    have sameCursor := (outboxSsePayload_eq_some isFrame).1
    have same := eventId_of_row isFrame isEvent
    have below := resumes.knows row rowIn (same ▸ seen)
    have := above frame frameIn
    have := resumes.stored
    omega

theorem runEventStream_resumed (stored : HotelRows hotelId rows)
    (resumes : Resumes tab hotelId cursor rows)
    (isLast : IsLastAbove rows cursor last)
    (published : Published rows hub) (ofHotel : hub.hotelId = hotelId)
    (reached : last.cursor ≤ hub.cursor)
    (safe : isSafeInteger hub.cursor = true) :
    (tab.runEventStream (hub.resumedQueue cursor)).scheduled =
        tab.memory.admits hotelId (deliveredFrames hub cursor) ∧
      (tab.runEventStream (hub.resumedQueue cursor)).storedCursor = hub.cursor := by
  have above := isLast.2.1
  have positive := last.cursor_pos
  have sameHotel : tab.hotelId = hub.hotelId :=
    resumes.ofHotel.trans ofHotel.symm
  rw [resumedQueue_eq, if_pos (by omega)]
  unfold Hub.replayOrReset deliveredFrames
  by_cases behind : cursor < hub.historyFloor
  · -- Everything is forgotten: only the first recovery frame counts.
    have reset : hub.replayFrames cursor =
        recoveryFrames hub.hotelId hub.cursor := if_neg (not_le.mpr behind)
    rw [reset, queue_foldl rfl, queuedFrames_few (by simp), if_pos behind,
      ← sameHotel, runEventStream_recovery safe (by omega) (by rw [resumes.stored]; omega)]
    · rw [resumes.idle, ← resumes.ofHotel]
      exact ⟨rfl, rfl⟩
    · intro frame frameIn
      obtain ⟨domain, -, rfl⟩ := List.mem_map.mp frameIn
      dsimp only
      omega
  · obtain ⟨ofRows, increasing, frameAbove, final⟩ :=
      replayed published isLast (not_lt.mp behind) reached
    have sameCursor : hub.cursor = last.cursor := by
      rcases published.memory.origin with isFloor | ⟨row, rowIn, isRow⟩
      · omega
      · have := isLast.2.2 row rowIn
        omega
    have understood (after : Tab) (same : after.hotelId = tab.hotelId) :
        ∀ frame ∈ hub.replayFrames cursor, Understood after frame := by
      intro frame frameIn
      obtain ⟨row, rowIn, isFrame⟩ := ofRows frame frameIn
      exact understood_of_row stored (same.trans resumes.ofHotel) rowIn isFrame
    have unseen := unseen_of_rows stored resumes ofRows increasing frameAbove
    rw [queue_foldl rfl, if_neg behind]
    · by_cases few : (hub.replayFrames cursor).length ≤ 256
      · rw [queuedFrames_few few, if_pos few]
        obtain ⟨scheduled, moved⟩ := runEventStream_increasing (understood tab rfl) unseen
          increasing (by rwa [resumes.stored])
        rw [scheduled, moved, resumes.idle, resumes.ofHotel, final, sameCursor]
        exact ⟨rfl, rfl⟩
      · -- The queue overflowed: the last recovery, and what came behind it.
        obtain ⟨first, rest, tail, -⟩ := exists_overflowTail (not_le.mp few)
        have kept : (first :: rest).Sublist (hub.replayFrames cursor) := by
          rw [← tail]
          exact List.drop_sublist _ _
        have firstIn := kept.subset List.mem_cons_self
        have firstUnderstood := understood tab rfl first firstIn
        obtain ⟨later, restIncreasing⟩ := List.pairwise_cons.mp (increasing.sublist kept)
        rw [queuedFrames_many (not_le.mp few), if_neg few, tail]
        unfold recoveredTail
        rw [runEventStream_append, ← sameHotel, runEventStream_recovery firstUnderstood.safe
          firstUnderstood.nonneg (by rw [resumes.stored]; exact frameAbove first firstIn)]
        obtain ⟨scheduled, moved⟩ := @runEventStream_increasing { tab with
            storedCursor := first.cursor
            scheduled := tab.scheduled ++ ["analytics"] } rest
          (fun frame frameIn => understood _ (by rfl) frame
            (kept.subset (List.mem_cons_of_mem _ frameIn)))
          ⟨unseen.distinct.sublist (((List.sublist_cons_self _ _).trans kept).filterMap _),
            fun frame frameIn => unseen.unknown frame
              (kept.subset (List.mem_cons_of_mem _ frameIn))⟩
          restIncreasing later
        rw [scheduled, moved, resumes.idle, resumes.ofHotel]
        refine ⟨rfl, ?_⟩
        have suffixed : (first :: rest).getLast? = (hub.replayFrames cursor).getLast? := by
          rw [← tail]
          unfold overflowTail
          rw [List.getLast?_drop, if_neg]
          omega
        rw [← suffixed, List.getLast?_cons, Option.map_some, Option.some_inj, ← sameCursor] at final
        rw [← final]
        cases rest.getLast? <;> rfl
    · intro frame frameIn
      obtain ⟨row, rowIn, isFrame⟩ := ofRows frame frameIn
      rw [(outboxSsePayload_eq_some isFrame).1]
      exact row.cursor_pos.ne'

/-- A tab that comes back schedules every domain it has missed, and ends at
the last row, exactly when each of them is that of a frame it is delivered:
of a recovery that is the first frame only. -/
theorem recoversAll_iff (hotelId start cursor : Int) (rows : List OutboxRow)
    (tab : Tab) (stored : HotelRows hotelId rows)
    (resumes : Resumes tab hotelId cursor rows) :
    RecoversAll rows cursor (tab.runEventStream
        ((publishedHub hotelId start rows).resumedQueue cursor)) ↔
      DeliversAll rows (publishedHub hotelId start rows) cursor tab := by
  have published : Published rows (publishedHub hotelId start rows) :=
    publishedHub_published stored
  have ofHotel := publishedHub_hotelId hotelId start rows
  unfold RecoversAll DeliversAll
  rw [ofHotel]
  by_cases missed : ∃ row ∈ rows, cursor < row.cursor
  · obtain ⟨row, member, above⟩ := missed
    obtain ⟨last, isLast⟩ := exists_isLastAbove stored member above
    have reached : last.cursor ≤ (publishedHub hotelId start rows).cursor :=
      le_publishedHub isLast.1
    by_cases safe : isSafeInteger (publishedHub hotelId start rows).cursor = true
    · obtain ⟨scheduled, moved⟩ := runEventStream_resumed stored resumes isLast
        published ofHotel reached safe
      rw [scheduled, moved]
    · -- The tab cannot represent the cursor of the hub and stays behind.
      have tooLarge : isSafeInteger (publishedHub hotelId start rows).cursor = false := by
        simpa using safe
      have lastSafe := isSafeInteger_of_isId last.cursor_isId
      refine iff_of_false ?_ ?_
      · rintro ⟨-, ends⟩
        have ends := ends last isLast
        rw [runEventStream_beyond published isLast reached tooLarge, resumes.stored] at ends
        exact isLast.2.1.ne ends
      · rintro ⟨-, ends⟩
        rw [ends last isLast] at safe
        exact safe lastSafe
  · refine iff_of_true ⟨?_, ?_⟩ ⟨?_, ?_⟩
    · intro row member above
      exact absurd ⟨row, member, above⟩ missed
    · intro last isLast
      exact absurd ⟨last, isLast.1, isLast.2.1⟩ missed
    · intro row member above
      exact absurd ⟨row, member, above⟩ missed
    · intro last isLast
      exact absurd ⟨last, isLast.1, isLast.2.1⟩ missed

end

def newTab : Tab where
  hotelId := 1
  storedCursor := 0

theorem twoRows_stored : HotelRows 1 [paymentRow, roomRow] where
  wellFormed :=
    { increasing := by
        simp [OrderedLog.Increasing, paymentRow, roomRow, OutboxRow.cursor]
      valid := by
        intro row member
        apply Option.isSome_iff_exists.mp
        revert row
        decide +kernel }
  ofHotel := by simp [paymentRow, roomRow]
  distinct := by simp [paymentRow, roomRow]

theorem newTab_resumes : Resumes newTab 1 0 [paymentRow, roomRow] where
  ofHotel := rfl
  stored := rfl
  idle := rfl
  knows := by simp [KnowsBelow, newTab]

/-- From a hub that remembers both rows the tab schedules both domains. -/
theorem recoversAll_iff_twoRows : RecoversAll [paymentRow, roomRow] 0 (newTab.runEventStream
        ((publishedHub 1 0 [paymentRow, roomRow]).resumedQueue 0)) ∧
      DeliversAll [paymentRow, roomRow] (publishedHub 1 0 [paymentRow, roomRow]) 0 newTab := by
  have recovers : RecoversAll [paymentRow, roomRow] 0 (newTab.runEventStream
      ((publishedHub 1 0 [paymentRow, roomRow]).resumedQueue 0)) := by
    have scheduled : (newTab.runEventStream ((publishedHub 1 0
        [paymentRow, roomRow]).resumedQueue 0)).scheduled =
          ["payments", "rooms"] := by decide +kernel
    have moved : (newTab.runEventStream ((publishedHub 1 0
        [paymentRow, roomRow]).resumedQueue 0)).storedCursor = 2 := by
      decide +kernel
    refine ⟨?_, ?_⟩
    · decide +kernel
    · rintro last ⟨member, -, greatest⟩
      rw [moved]
      rcases List.mem_pair.mp member with rfl | rfl
      · exact absurd (greatest roomRow (by simp)) (by decide)
      · rfl
  exact ⟨recovers, (recoversAll_iff 1 0 0 [paymentRow, roomRow] newTab
    twoRows_stored newTab_resumes).mp recovers⟩

/-- A hub that started behind the second row has the tab read only the first
domain of the recovery again. -/
theorem reset_refreshes_first_domain :
    HotelRows 1 [paymentRow, roomRow] ∧ Resumes newTab 1 0 [paymentRow, roomRow] ∧
      ((publishedHub 1 2 [paymentRow, roomRow]).resumedQueue 0).map
        Frame.domain = supportedDomains ∧
      (newTab.runEventStream ((publishedHub 1 2
        [paymentRow, roomRow]).resumedQueue 0)).scheduled = ["analytics"] ∧
      ¬ RecoversAll [paymentRow, roomRow] 0 (newTab.runEventStream
        ((publishedHub 1 2 [paymentRow, roomRow]).resumedQueue 0)) := by
  have scheduled : (newTab.runEventStream ((publishedHub 1 2
      [paymentRow, roomRow]).resumedQueue 0)).scheduled = ["analytics"] := by
    decide +kernel
  refine ⟨twoRows_stored, newTab_resumes, by decide +kernel, scheduled, ?_⟩
  rintro ⟨all, -⟩
  have payments := all paymentRow (by simp) (by decide)
  exact absurd payments (by decide +kernel)

end HotelPms.Events
