import HotelPms.Events.HubSafety

/-!
# Runs of the event stream hub

An invariant of the hub, its tasks and the outbox is kept by every event; a
notification and the batch that is read when the listener comes back keep it
when they publish the next rows of the outbox.  Without that a row can be
passed and is never delivered.
-/

namespace HotelPms.Events

open OrderedLog Transition

/-- Rows that a reader found, in their order. -/
def Found (visible rows : List OutboxRow) : Prop :=
  (∀ row ∈ rows, row ∈ visible) ∧ Increasing OutboxRow.cursor rows

/-- The poll task reads from a cursor that the hub has not gone below, and
misses no row. -/
def PollSafe (visible : List OutboxRow) (hubCursor : Int) : Reader -> Prop
  | .waiting => True
  | .reading cursor => cursor ≤ hubCursor
  | .holding cursor rows =>
    cursor ≤ hubCursor ∧ Found visible rows ∧ Gapless OutboxRow.cursor visible cursor rows

/-- What a catch-up has read was found in the outbox. -/
def CatchUpSafe (visible : List OutboxRow) : Reader -> Prop
  | .holding _ rows => Found visible rows
  | _ => True

structure HubInvariant (s : HubSystem) : Prop where
  wellFormed : WellFormed s.visible
  published : Published s.visible s.hub
  polled : ∀ reader ∈ s.poll, s.hub.subscribers ≠ [] ∧ PollSafe s.visible s.hub.cursor reader
  catchUps : ∀ reader ∈ s.catchUps, CatchUpSafe s.visible reader
  holder : s.subscribing = true -> s.hub.subscribers ≠ []

/-- A stream was told of the domain of a row, or was asked to recover. -/
def Subscriber.Informed (subscriber : Subscriber) (row : OutboxRow) : Prop :=
  ∃ frame ∈ subscriber.queued, frame.domain = row.frameDomain ∨ frame.eventType = recoveryRequired

/-- Whenever the cursor of the hub is at least that of a visible row, every
stream that asked for rows from before it was told. -/
def HubSystem.LosesNothing (s : HubSystem) : Prop :=
  ∀ row ∈ s.visible, row.cursor ≤ s.hub.cursor -> ∀ subscriber ∈ s.hub.subscribers,
      subscriber.streamCursor < row.cursor -> subscriber.Informed row

/-- Notifications and catch-ups publish the next rows of the outbox: no
visible row lies between the cursor of the hub and the last published row
without being published too. -/
def HubSystem.PublishesNext (s : HubSystem) : HubEvent -> Prop
  | .publishNotification row =>
    s.hub.subscribers ≠ [] -> Gapless OutboxRow.cursor s.visible s.hub.cursor [row]
  | .catchUpPublishes index =>
    s.hub.listenerAvailable = true -> s.hub.subscribers ≠ [] ->
      ∀ cursor rows, s.catchUps[index]? = some (.holding cursor rows) ->
        Gapless OutboxRow.cursor s.visible s.hub.cursor rows
  | _ => True

section

variable {s : HubSystem}

theorem HubInvariant.initial (hotelId : Int) : HubInvariant (HubSystem.init hotelId) where
  wellFormed := ⟨List.Pairwise.nil, by simp [HubSystem.init]⟩
  published := by
    refine ⟨⟨?_, ?_, List.Pairwise.nil, ?_, le_rfl, .inl rfl⟩, ?_, ?_⟩ <;>
      simp [HubSystem.init]
  polled := by simp [HubSystem.init]
  catchUps := by simp [HubSystem.init]
  holder := by simp [HubSystem.init]

theorem HubInvariant.losesNothing (invariant : HubInvariant s) : s.LosesNothing := by
  intro row member within subscriber subscribed behind
  obtain ⟨frame, queued, same⟩ := invariant.published.named row member within
    subscriber subscribed behind
  exact ⟨frame, queued, .inl same⟩

theorem found_batch (wellFormed : WellFormed s.visible) (cursor : Int) :
    Found s.visible (s.readPostgresEventBatch cursor) :=
  ⟨fun _ member => (mem_log_of_mem_batch member).1, batch_increasing wellFormed.increasing _⟩

theorem gapless_batch (wellFormed : WellFormed s.visible) (cursor : Int) :
    Gapless OutboxRow.cursor s.visible cursor (s.readPostgresEventBatch cursor) :=
  batch_gapless wellFormed.increasing _

theorem PollSafe.forward {visible : List OutboxRow} {cursor further : Int}
    {reader : Reader} (safe : PollSafe visible cursor reader)
    (forward : cursor ≤ further) : PollSafe visible further reader := by
  cases reader with
  | waiting => trivial
  | reading start => exact le_trans safe forward
  | holding start rows => exact ⟨safe.1.trans forward, safe.2⟩

theorem startPoll_safe (polled : ∀ reader ∈ s.poll, PollSafe s.visible s.hub.cursor reader) :
    ∀ reader ∈ s.startPoll.poll, PollSafe s.visible s.hub.cursor reader := by
  intro reader isReader
  cases isReader
  cases started : s.poll with
  | none => trivial
  | some other => exact polled other started

section

variable (invariant : HubInvariant s)
include invariant

variable {rows : List OutboxRow} {cursor : Int}

theorem HubInvariant.publish (found : Found s.visible rows)
    (gapless : Gapless OutboxRow.cursor s.visible s.hub.cursor rows) :
    HubInvariant { s with hub := s.hub.publishRows rows } where
  wellFormed := invariant.wellFormed
  published := invariant.published.publishRows invariant.wellFormed found.1 found.2 gapless
  polled := by
    intro reader isReader
    obtain ⟨subscribed, safe⟩ := invariant.polled reader isReader
    refine ⟨?_, safe.forward (le_publishRows _ _)⟩
    rw [ne_eq, publishRows_subscribers_eq_nil]
    exact subscribed
  catchUps := invariant.catchUps
  holder := by
    intro holds
    rw [ne_eq, publishRows_subscribers_eq_nil]
    exact invariant.holder holds

theorem HubInvariant.startPoll
    (subscribed : s.hub.subscribers ≠ []) : HubInvariant s.startPoll where
  wellFormed := invariant.wellFormed
  published := invariant.published
  polled := fun reader isReader => ⟨subscribed,
    startPoll_safe (fun other isOther => (invariant.polled other isOther).2) reader isReader⟩
  catchUps := invariant.catchUps
  holder := invariant.holder

theorem HubInvariant.withPoll (poll : Option Reader)
    (polled : ∀ reader ∈ poll, s.hub.subscribers ≠ [] ∧ PollSafe s.visible s.hub.cursor reader) :
    HubInvariant { s with poll := poll } where
  wellFormed := invariant.wellFormed
  published := invariant.published
  polled := polled
  catchUps := invariant.catchUps
  holder := invariant.holder

theorem HubInvariant.withCatchUps {catchUps : List Reader}
    (safe : ∀ reader ∈ catchUps, CatchUpSafe s.visible reader) :
    HubInvariant { s with catchUps := catchUps } where
  wellFormed := invariant.wellFormed
  published := invariant.published
  polled := invariant.polled
  catchUps := safe
  holder := invariant.holder

theorem HubInvariant.withListener (available : Bool) : HubInvariant
      { s with hub := { s.hub with listenerAvailable := available } } where
  wellFormed := invariant.wellFormed
  published := invariant.published.subscribers _ rfl rfl rfl
    fun subscriber member => ⟨subscriber, member, rfl, rfl⟩
  polled := invariant.polled
  catchUps := invariant.catchUps
  holder := invariant.holder

/-! ## Events one by one -/

theorem HubInvariant.commitRow {row : OutboxRow} (commits : s.Commits row) :
    HubInvariant { s with visible := s.visible ++ [row] } := by
  obtain ⟨-, isSome, later⟩ := commits
  obtain ⟨frame, isFrame⟩ := Option.isSome_iff_exists.mp isSome
  have found {rows : List OutboxRow} (before : Found s.visible rows) :
      Found (s.visible ++ [row]) rows :=
    ⟨fun other member => List.mem_append_left _ (before.1 other member), before.2⟩
  refine ⟨⟨invariant.wellFormed.increasing.append later, ?_⟩,
    invariant.published.commitRow isFrame later, ?_, ?_, invariant.holder⟩
  · intro other otherIn
    rcases List.mem_added.mp otherIn with old | new
    · exact invariant.wellFormed.valid other old
    · exact ⟨frame, new ▸ isFrame⟩
  · intro reader isReader
    obtain ⟨subscribed, safe⟩ := invariant.polled reader isReader
    refine ⟨subscribed, ?_⟩
    cases reader with
    | waiting => trivial
    | reading cursor => exact safe
    | holding cursor rows =>
      exact ⟨safe.1, found safe.2.1, safe.2.2.append safe.2.1.1 later⟩
  · intro reader isReader
    have safe := invariant.catchUps reader isReader
    cases reader with
    | waiting => trivial
    | reading cursor => trivial
    | holding cursor rows => exact found safe

theorem HubInvariant.subscribe (key : Nat) (afterCursor : Option Int) (listenerAvailable : Bool) :
    HubInvariant (s.subscribe key afterCursor listenerAvailable) := by
  unfold HubSystem.subscribe
  split_ifs with first available
  · refine ⟨invariant.wellFormed, published_subscribeFirst _ _ _ _ _, ?_,
      invariant.catchUps, fun _ => List.cons_ne_nil _ _⟩
    intro reader isReader
    exact absurd first (invariant.polled reader isReader).1
  all_goals
    have further : HubInvariant { s with
        hub := ({ s.hub with listenerAvailable := listenerAvailable } :
          Hub).subscribeFurther key afterCursor } :=
      ⟨invariant.wellFormed, (invariant.withListener listenerAvailable).published.subscribeFurther
          invariant.wellFormed key afterCursor,
        fun reader isReader => ⟨by simp [Hub.subscribeFurther],
          (invariant.polled reader isReader).2⟩,
        invariant.catchUps, fun _ => by simp [Hub.subscribeFurther]⟩
  · exact further
  · exact further.startPoll (by simp [Hub.subscribeFurther])

theorem HubInvariant.subscribed (holds : s.subscribing = true) (readFails : Bool) :
    HubInvariant (s.subscribed readFails) := by
  have streams := invariant.holder holds
  have after : HubInvariant { s with
      hub := s.hub.publishRows (if readFails = true then []
        else s.readPostgresEventBatch s.hub.cursor)
      subscribing := false } := by
    have published : HubInvariant { s with
        hub := s.hub.publishRows (if readFails = true then []
          else s.readPostgresEventBatch s.hub.cursor) } := by
      apply invariant.publish
      · split_ifs
        · exact ⟨by simp, List.Pairwise.nil⟩
        · exact found_batch invariant.wellFormed _
      · split_ifs
        · rintro row - - ⟨last, member, -⟩
          cases member
        · exact gapless_batch invariant.wellFormed _
    exact ⟨published.wellFormed, published.published, published.polled, published.catchUps, nofun⟩
  unfold HubSystem.subscribed
  by_cases available : s.hub.listenerAvailable = true
  · rw [if_pos available]
    exact after
  · rw [if_neg available]
    apply after.startPoll
    rw [ne_eq, publishRows_subscribers_eq_nil]
    exact streams

theorem HubInvariant.unsubscribe (free : s.subscribing = false) (key : Nat) :
    HubInvariant (s.unsubscribe key) := by
  refine ⟨invariant.wellFormed, ?_, ?_, invariant.catchUps, ?_⟩
  · refine invariant.published.subscribers (s.hub.drop key) rfl rfl rfl ?_
    intro subscriber subscribed
    exact ⟨subscriber, List.mem_of_mem_filter subscribed, rfl, rfl⟩
  · intro reader isReader
    unfold HubSystem.unsubscribe at isReader
    dsimp only at isReader
    split_ifs at isReader with last
    · cases isReader
    · exact ⟨last, (invariant.polled reader isReader).2⟩
  · intro holds
    have holds : s.subscribing = true := holds
    rw [free] at holds
    cases holds

theorem HubInvariant.getFrame (key : Nat) : HubInvariant { s with hub := s.hub.take key } := by
  refine ⟨invariant.wellFormed, ?_, ?_, invariant.catchUps, ?_⟩
  · refine invariant.published.subscribers (s.hub.take key) rfl rfl rfl ?_
    intro subscriber subscribed
    obtain ⟨old, oldIn, rfl⟩ := List.mem_map.mp subscribed
    refine ⟨old, oldIn, ?_⟩
    split_ifs <;> exact ⟨rfl, rfl⟩
  · intro reader isReader
    have safe := invariant.polled reader isReader
    refine ⟨?_, safe.2⟩
    simpa [Hub.take] using safe.1
  · intro holds
    simpa [Hub.take] using invariant.holder holds

theorem HubInvariant.publishNotification {row : OutboxRow} (isVisible : row ∈ s.visible)
    (next : s.PublishesNext (.publishNotification row)) :
    HubInvariant (s.publishNotification row) := by
  unfold HubSystem.publishNotification
  split_ifs with empty
  · exact invariant
  · apply invariant.publish _ (next empty)
    refine ⟨?_, List.pairwise_singleton _ _⟩
    intro other member
    exact List.mem_singleton.mp member ▸ isVisible

theorem HubInvariant.setListenerAvailable
    (available : Bool) : HubInvariant (s.setListenerAvailable available) := by
  have changed := invariant.withListener available
  unfold HubSystem.setListenerAvailable
  split_ifs with same isAvailable empty empty
  · exact invariant
  · exact changed.withPoll none nofun
  · apply (changed.withPoll none nofun).withCatchUps
    intro reader isReader
    rcases List.mem_added.mp isReader with old | rfl
    · exact invariant.catchUps reader old
    · trivial
  · exact changed
  · exact changed.startPoll empty

theorem HubInvariant.subscribeFails (available : Bool) : HubInvariant
      { s with hub := { s.hub with listenerAvailable := available } } :=
  invariant.withListener available

theorem HubInvariant.pollWakes : HubInvariant s.pollWakes := by
  apply invariant.withPoll
  intro reader isReader
  split_ifs at isReader with needed
  · cases isReader
    exact ⟨needed.1, le_rfl⟩
  · cases isReader

theorem HubInvariant.pollReads (isReading : s.poll = some (.reading cursor)) (fails : Bool) :
    HubInvariant { s with poll := some (if fails = true then .waiting
      else .holding cursor (s.readPostgresEventBatch cursor)) } := by
  apply invariant.withPoll
  intro reader isReader
  obtain ⟨subscribed, behind⟩ := invariant.polled _ isReading
  refine ⟨subscribed, ?_⟩
  cases isReader
  split_ifs
  · trivial
  · exact ⟨behind, found_batch invariant.wellFormed cursor,
      gapless_batch invariant.wellFormed cursor⟩

theorem HubInvariant.pollPublishes (isHolding : s.poll = some (.holding cursor rows)) :
    HubInvariant (s.pollPublishes rows) := by
  obtain ⟨subscribed, behind, found, gapless⟩ := invariant.polled _ isHolding
  unfold HubSystem.pollPublishes
  rw [if_neg subscribed]
  apply (invariant.publish found (gapless.mono behind)).withPoll
  intro reader isReader
  cases isReader
  refine ⟨?_, trivial⟩
  rw [ne_eq, publishRows_subscribers_eq_nil]
  exact subscribed

theorem HubInvariant.catchUpStarts (index : Nat) (cursor : Int) : HubInvariant { s with
      catchUps := s.catchUps.set index (.reading cursor) } := by
  apply invariant.withCatchUps
  intro reader isReader
  rcases List.mem_or_eq_of_mem_set isReader with old | rfl
  · exact invariant.catchUps reader old
  · trivial

theorem HubInvariant.catchUpReads (index : Nat) (cursor : Int) (fails : Bool) :
    HubInvariant { s with
      catchUps := if fails = true then s.catchUps.eraseIdx index
        else s.catchUps.set index (.holding cursor (s.readPostgresEventBatch cursor)) } := by
  apply invariant.withCatchUps
  intro reader isReader
  split_ifs at isReader
  · exact invariant.catchUps reader (List.mem_of_mem_eraseIdx isReader)
  · rcases List.mem_or_eq_of_mem_set isReader with old | rfl
    · exact invariant.catchUps reader old
    · exact found_batch invariant.wellFormed cursor

theorem HubInvariant.catchUpPublishes {index : Nat}
    (isHolding : s.catchUps[index]? = some (.holding cursor rows))
    (next : s.PublishesNext (.catchUpPublishes index)) :
    HubInvariant (s.catchUpPublishes index rows) := by
  have found : Found s.visible rows :=
    invariant.catchUps _ (List.mem_of_getElem? isHolding)
  have published : HubInvariant { s with
      hub := if s.hub.listenerAvailable = true ∧ s.hub.subscribers ≠ [] then
        s.hub.publishRows rows else s.hub } := by
    split_ifs with needed
    · exact invariant.publish found (next needed.1 needed.2 cursor rows isHolding)
    · exact invariant
  apply published.withCatchUps
  intro reader isReader
  exact invariant.catchUps reader (List.mem_of_mem_eraseIdx isReader)

theorem HubInvariant.step {after : HubSystem} {event : HubEvent} (next : s.PublishesNext event)
    (taken : s.step event = some after) : HubInvariant after := by
  cases event with
  | commitRow row =>
    simp only [HubSystem.step] at taken
    split_ifs at taken with commits
    cases taken
    exact invariant.commitRow commits
  | subscribe key afterCursor listenerAvailable =>
    simp only [HubSystem.step] at taken
    split_ifs at taken
    cases taken
    exact invariant.subscribe key afterCursor listenerAvailable
  | subscribed readFails =>
    simp only [HubSystem.step] at taken
    split_ifs at taken with holds
    cases taken
    exact invariant.subscribed holds readFails
  | subscribeFails listenerAvailable =>
    simp only [HubSystem.step] at taken
    split_ifs at taken
    cases taken
    exact invariant.subscribeFails listenerAvailable
  | getFrame key =>
    cases taken
    exact invariant.getFrame key
  | unsubscribe key =>
    simp only [HubSystem.step] at taken
    split_ifs at taken with holds
    cases taken
    exact invariant.unsubscribe (Bool.not_eq_true _ ▸ holds) key
  | publishNotification row =>
    simp only [HubSystem.step] at taken
    split_ifs at taken with blocked
    cases taken
    exact invariant.publishNotification (not_not.mp (not_or.mp blocked).2) next
  | setListenerAvailable available =>
    simp only [HubSystem.step] at taken
    split_ifs at taken
    cases taken
    exact invariant.setListenerAvailable available
  | pollWakes =>
    simp only [HubSystem.step] at taken
    split at taken
    · cases taken
      exact invariant.pollWakes
    · cases taken
  | pollReads fails =>
    simp only [HubSystem.step] at taken
    split at taken
    · next cursor isReading =>
      cases taken
      exact invariant.pollReads isReading fails
    · cases taken
  | pollPublishes =>
    simp only [HubSystem.step] at taken
    split at taken
    · next cursor rows isHolding =>
      split_ifs at taken
      cases taken
      exact invariant.pollPublishes isHolding
    · cases taken
  | catchUpStarts index =>
    simp only [HubSystem.step] at taken
    split at taken
    · cases taken
      exact invariant.catchUpStarts index s.hub.cursor
    · cases taken
  | catchUpReads index fails =>
    simp only [HubSystem.step] at taken
    split at taken
    · next cursor isReading =>
      cases taken
      exact invariant.catchUpReads index cursor fails
    · cases taken
  | catchUpPublishes index =>
    simp only [HubSystem.step] at taken
    split at taken
    · next cursor rows isHolding =>
      split_ifs at taken
      cases taken
      exact invariant.catchUpPublishes isHolding next
    · cases taken

end

theorem hubInvariant_of_reaches {hotelId : Int}
    (reached : Reaches HubSystem.step HubSystem.PublishesNext
      (HubSystem.init hotelId) s) : HubInvariant s := by
  induction reached with
  | refl => exact .initial hotelId
  | next _ guarded taken ih =>
    exact ih.step guarded taken

/-- As long as notifications and catch-ups publish the next rows of the
outbox, every stream is told of each visible row between its cursor and the
one of the hub. -/
theorem hub_losesNothing {hotelId : Int} (reached : Reaches HubSystem.step HubSystem.PublishesNext
      (HubSystem.init hotelId) s) : s.LosesNothing :=
  (hubInvariant_of_reaches reached).losesNothing

end

def openedStream : List HubEvent :=
  [.subscribe 7 (some 0) false, .subscribed false, .commitRow paymentRow]

/-- Visible cursors, the cursor of the hub, and the domains that each stream
was told of, with its cursor. -/
structure HubSummary where
  visible : List Int
  cursor : Int
  told : List (Int × List (String × String))
  deriving DecidableEq

def HubSystem.summary (s : HubSystem) : HubSummary where
  visible := s.visible.map OutboxRow.cursor
  cursor := s.hub.cursor
  told := s.hub.subscribers.map fun subscriber =>
    (subscriber.streamCursor, subscriber.queued.map fun frame => (frame.domain, frame.eventType))

/-- The stream is told of a row by the poll task. -/
theorem hub_losesNothing_poll : ∃ s, run HubSystem.step (HubSystem.init 1)
        (openedStream ++ [.pollWakes, .pollReads false, .pollPublishes]) = some s ∧
      s.summary = ⟨[1], 1, [(0, [("payments", "payment.created")])]⟩ ∧
      s.LosesNothing := by
  have results : (run HubSystem.step (HubSystem.init 1)
      (openedStream ++ [.pollWakes, .pollReads false, .pollPublishes])).map
        HubSystem.summary = some ⟨[1], 1, [(0, [("payments", "payment.created")])]⟩ := by
    decide +kernel
  obtain ⟨s, ran, summary⟩ := Option.map_eq_some_iff.mp results
  refine ⟨s, ran, summary, hub_losesNothing (reaches_of_run ?_ ran)⟩
  apply guarded_of_mem
  simp [openedStream, HubSystem.PublishesNext]

/-- When the listener comes back, a notification overtakes the batch that was
read before it, and the stream is not told of the row in between. -/
theorem hub_passes_row : ¬∀ hotelId events s,
      run HubSystem.step (HubSystem.init hotelId) events = some s -> s.LosesNothing := by
  intro always
  have results : (run HubSystem.step (HubSystem.init 1) (openedStream ++
      [.setListenerAvailable true, .catchUpStarts 0, .catchUpReads 0 false,
        .commitRow roomRow, .publishNotification roomRow,
        .catchUpPublishes 0])).map (fun s => (s.visible, s.summary)) =
      some ([paymentRow, roomRow], ⟨[1, 2], 2, [(0, [("rooms", "room.updated")])]⟩) := by
    decide +kernel
  obtain ⟨s, ran, summary⟩ := Option.map_eq_some_iff.mp results
  obtain ⟨isVisible, summary⟩ := Prod.mk.inj summary
  have isCursor : s.hub.cursor = 2 := congrArg HubSummary.cursor summary
  have isTold := congrArg HubSummary.told summary
  obtain ⟨subscriber, subscribers, isTold⟩ := List.map_eq_singleton_iff.mp isTold
  obtain ⟨streamCursor, told⟩ := Prod.mk.inj isTold
  obtain ⟨frame, queued, isFrame⟩ := List.map_eq_singleton_iff.mp told
  obtain ⟨isDomain, isType⟩ := Prod.mk.inj isFrame
  have cursor : paymentRow.cursor = 1 := rfl
  obtain ⟨other, otherIn, informed⟩ := always 1 _ s ran paymentRow (by simp [isVisible]) (by omega)
    subscriber (by simp [subscribers]) (by omega)
  have domain : paymentRow.frameDomain = "payments" := by decide +kernel
  rw [queued, List.mem_singleton] at otherIn
  rw [otherIn, isDomain, isType, domain] at informed
  simp [recoveryRequired] at informed

end HotelPms.Events
