import HotelPms.Stock.NeverNegative

/-!
# Confirmed counts become the balance once

A confirmation adjusts the ledger to every line of its session, whose items
have not moved since they were counted, and never adjusts it again.
-/

namespace HotelPms.Stock

open Checked Inventory Table Transition

/-- The columns of a line that an adjustment leaves alone. -/
def StockCountLine.countKey (line : StockCountLine) : Int × Int × Int × Option Int × Int :=
  (line.id, line.sessionId, line.itemId, line.locationId, line.countedQuantity)

namespace StockState

variable (state : StockState) (sessionId : Int)

def HasStatus (status : StockCountStatus) : Prop :=
  ∃ session, state.countSessions sessionId = some session ∧ session.status = status

end StockState

/-- What a call does to the sessions and their lines. -/
inductive CountsChange (state : StockState) :
    StockEnvironment × StockCall -> StockState -> Prop
  | kept {event : StockEnvironment × StockCall} {after : StockState}
      (lines : after.countLines = state.countLines)
      (sessions : after.countSessions = state.countSessions)
      (nextLineId : after.nextLineId = state.nextLineId)
      (nextSessionId : after.nextSessionId = state.nextSessionId) :
      CountsChange state event after
  | created {event : StockEnvironment × StockCall}
      {session : StockCountSession}
      (isNext : session.id = state.nextSessionId) :
      CountsChange state event { state.storeSession session with
        nextSessionId := state.nextSessionId + 1 }
  | recorded {env : StockEnvironment} {sessionId itemId : Int}
      {locationId : Option Int} {countedQuantity : ℚ}
      {countedByUserId : Int} {after : StockState} {line : StockCountLine}
      (isRecorded : recordStockCount env state sessionId itemId locationId
        countedQuantity countedByUserId = .ok (after, line)) :
      CountsChange state (env, .recordStockCount sessionId itemId locationId
        countedQuantity countedByUserId) after
  | confirmed {event : StockEnvironment × StockCall}
      {env : StockEnvironment} {sessionId : Int} {after : StockState}
      (confirms : ConfirmsCounts env state sessionId after) :
      CountsChange state event after
  | cancelled {event : StockEnvironment × StockCall}
      {session : StockCountSession}
      (opened : state.HasStatus session.id .opened)
      (isCancelled : session.status = .cancelled) :
      CountsChange state event (state.storeSession session)

section

variable {env : StockEnvironment} {uuid5 : UuidFunction} {state after : StockState}

theorem registerMovement_change {request : MovementRequest} {movement : StockMovement}
    (registered : registerMovement env state request = .ok (after, movement))
    (event : StockEnvironment × StockCall) :
    (∃ added, Extends state after added) ∧ CountsChange state event after := by
  rcases registerMovement_eq_ok registered with ⟨-, -, rfl⟩ | ⟨-, movementType, -, -, adds⟩
  · exact ⟨⟨[], Extends.refl after⟩, .kept rfl rfl rfl rfl⟩
  · obtain ⟨lines, sessions, nextLineId, nextSessionId⟩ := adds.frame
    exact ⟨⟨_, adds.extends⟩, .kept lines sessions nextLineId nextSessionId⟩

theorem Extends.of_same (movements : after.movements = state.movements)
    (items : after.items = state.items) : Extends state after [] where
  movements := by rw [movements, List.append_nil]
  items := by
    rw [items]
    simp

theorem RecordsCount.extends {sessionId itemId : Int} {locationId : Option Int}
    {line : StockCountLine}
    (records : RecordsCount state sessionId itemId locationId after line) :
    Extends state after [] := by
  obtain ⟨session, -, -, ⟨-, -, rfl⟩ | ⟨earlier, -, -, -, -, -, rfl⟩⟩ := records.stored
  · exact Extends.of_same rfl rfl
  · exact Extends.of_same rfl rfl

theorem performCall_change {call : StockCall}
    (performed : performCall uuid5 env state call = .ok after) :
    (∃ added, Extends state after added) ∧ CountsChange state (env, call) after := by
  cases call with
  | registerMovement request =>
    obtain ⟨movement, registered⟩ := map_fst_eq_ok.mp performed
    exact registerMovement_change registered _
  | registerOpeningCount =>
    obtain ⟨movement, registered⟩ := map_fst_eq_ok.mp performed
    rcases registerOpeningCount_eq_ok registered with rfl | ⟨request, -, registered⟩
    · exact ⟨⟨[], Extends.refl after⟩, .kept rfl rfl rfl rfl⟩
    · exact registerMovement_change registered _
  | transferStock =>
    obtain ⟨⟨outbound, inbound⟩, transferred⟩ := map_fst_eq_ok.mp performed
    rcases transferStock_eq_ok transferred with rfl | ⟨middle, text, reference, out, into⟩
    · exact ⟨⟨[], Extends.refl after⟩, .kept rfl rfl rfl rfl⟩
    · obtain ⟨outLines, outSessions, outLineId, outSessionId⟩ := out.frame
      obtain ⟨lines, sessions, lineId, sessionId⟩ := into.frame
      exact ⟨⟨_, out.extends.trans into.extends⟩,
        .kept (lines.trans outLines) (sessions.trans outSessions)
          (lineId.trans outLineId) (sessionId.trans outSessionId)⟩
  | createStockCountSession =>
    obtain ⟨session, created⟩ := map_fst_eq_ok.mp performed
    obtain ⟨isNext, -, rfl⟩ := createStockCountSession_eq_ok created
    exact ⟨⟨[], Extends.of_same rfl rfl⟩, .created isNext⟩
  | recordStockCount =>
    obtain ⟨line, isRecorded⟩ := map_fst_eq_ok.mp performed
    exact ⟨⟨[], (recordStockCount_eq_ok isRecorded).extends⟩, .recorded isRecorded⟩
  | confirmStockCountSession =>
    obtain ⟨stored, isConfirmed⟩ := map_fst_eq_ok.mp performed
    rcases confirmStockCountSession_eq_ok isConfirmed with ⟨rfl, -⟩ | confirms
    · exact ⟨⟨[], Extends.refl after⟩, .kept rfl rfl rfl rfl⟩
    · refine ⟨?_, .confirmed confirms⟩
      obtain ⟨middle, session, adjusts, -, -, rfl⟩ := confirms.adjusted
      obtain ⟨added, extended⟩ := adjusts.extended
      exact ⟨added, extended.movements, extended.items⟩
  | cancelStockCountSession =>
    obtain ⟨stored, isCancelled⟩ := map_fst_eq_ok.mp performed
    obtain ⟨opened, sameId, status, rfl⟩ := cancelStockCountSession_eq_ok isCancelled
    exact ⟨⟨[], Extends.of_same rfl rfl⟩, .cancelled (sameId ▸ opened) status⟩

theorem stockStep_change {event : StockEnvironment × StockCall}
    (taken : stockStep uuid5 state event = some after) :
    (∃ added, Extends state after added) ∧ CountsChange state event after := by
  unfold stockStep at taken
  split at taken
  · next performed =>
    cases taken
    exact performCall_change performed
  · cases taken
    exact ⟨⟨[], Extends.refl state⟩, .kept rfl rfl rfl rfl⟩

theorem run_extends {events : List (StockEnvironment × StockCall)}
    (ran : run (stockStep uuid5) state events = some after) :
    ∃ added, Extends state after added := by
  induction events generalizing state with
  | nil =>
    obtain rfl : state = after := by simpa [run] using ran
    exact ⟨[], Extends.refl state⟩
  | cons event events ih =>
    have split := run_append (stockStep uuid5) state [event] events
    rw [List.singleton_append, ran, run_singleton] at split
    obtain ⟨middle, first, rest⟩ := Option.bind_eq_some_iff.mp split.symm
    obtain ⟨earlier, extended⟩ := (stockStep_change first).1
    obtain ⟨later, extendedOn⟩ := ih rest
    exact ⟨earlier ++ later, extended.trans extendedOn⟩

end

section

variable {env : StockEnvironment} {balances : List ((Int × Option Int) × Int)}
  {rows lines current : List StockCountLine}

theorem countKey_adjustedLines (distinct : (rows.map StockCountLine.id).Nodup)
    (members : ∀ line ∈ lines, line ∈ rows)
    (same : current.map StockCountLine.countKey = rows.map StockCountLine.countKey) :
    (lines.foldl (fun rows line => replace StockCountLine.id
        (adjustedLine env balances line) rows) current).map
          StockCountLine.countKey = rows.map StockCountLine.countKey := by
  induction lines generalizing current with
  | nil => exact same
  | cons line lines ih =>
    apply ih (List.forall_mem_cons.mp members).2
    rw [map_replace, same]
    intro old oldIn sameId
    have known : old.countKey ∈ rows.map StockCountLine.countKey :=
      same ▸ List.mem_map_of_mem oldIn
    obtain ⟨row, rowIn, rowKey⟩ := List.mem_map.mp known
    have rowId : row.id = line.id :=
      (congrArg Prod.fst rowKey).trans sameId
    have isLine : row = line :=
      eq_of_key distinct rowIn (members line List.mem_cons_self) rowId
    rw [← rowKey, isLine]
    rfl

theorem mem_adjustedLines {other : StockCountLine} (member : other ∈ lines.foldl (fun rows line =>
      replace StockCountLine.id (adjustedLine env balances line) rows) current) :
    other ∈ current ∨ ∃ line ∈ lines, other = adjustedLine env balances line := by
  induction lines generalizing current with
  | nil => exact .inl member
  | cons line lines ih =>
    rcases ih member with here | ⟨adjusted, isIn, same⟩
    · rcases mem_replace here with same | ⟨isIn, -⟩
      · exact .inr ⟨line, List.mem_cons_self, same⟩
      · exact .inl isIn
    · exact .inr ⟨adjusted, List.mem_cons_of_mem _ isIn, same⟩

end

/-! ## The invariant -/

/-- Lines and sessions have their own ids, and a session counts an item once
hotel-wide or once for each location. -/
structure CountsInvariant (state : StockState) : Prop where
  lineIds : Numbered StockCountLine.id state.nextLineId state.countLines
  lineSessions : ∀ line ∈ state.countLines, line.sessionId < state.nextSessionId
  sessionIds : ∀ sessionId session, state.countSessions sessionId = some session ->
      sessionId < state.nextSessionId
  unmixed : ∀ line ∈ state.countLines, ∀ other ∈ state.countLines,
    line.sessionId = other.sessionId -> line.itemId = other.itemId -> line.id = other.id ∨
        (line.locationId ≠ none ∧ other.locationId ≠ none ∧ line.locationId ≠ other.locationId)

section

variable {env : StockEnvironment} {uuid5 : UuidFunction} {state after : StockState}

theorem CountsInvariant.of_noCounts (noLines : state.countLines = [])
    (noSessions : state.countSessions = fun _ => none) :
    CountsInvariant state where
  lineIds := by
    rw [noLines]
    exact .nil _ _
  lineSessions := by simp [noLines]
  sessionIds := by simp [noSessions]
  unmixed := by simp [noLines]

/-- The invariant reads the columns that adjustments leave alone. -/
theorem CountsInvariant.of_countKey (invariant : CountsInvariant state)
    (keys : after.countLines.map StockCountLine.countKey =
      state.countLines.map StockCountLine.countKey)
    (nextLineId : after.nextLineId = state.nextLineId)
    (nextSessionId : state.nextSessionId ≤ after.nextSessionId)
    (sessionIds : ∀ sessionId session, after.countSessions sessionId = some session ->
        sessionId < after.nextSessionId) : CountsInvariant after := by
  have earlier {line : StockCountLine} (member : line ∈ after.countLines) :
      ∃ old ∈ state.countLines, old.countKey = line.countKey := by
    have known := List.mem_map_of_mem (f := StockCountLine.countKey) member
    rw [keys] at known
    exact List.mem_map.mp known
  have ids : after.countLines.map StockCountLine.id = state.countLines.map StockCountLine.id := by
    have mapped := congrArg (List.map Prod.fst) keys
    rwa [List.map_map, List.map_map] at mapped
  constructor
  · constructor
    · rw [ids]
      exact invariant.lineIds.distinct
    · intro line member
      obtain ⟨old, oldIn, same⟩ := earlier member
      rw [nextLineId, ← show old.id = line.id from congrArg Prod.fst same]
      exact invariant.lineIds.below old oldIn
  · intro line member
    obtain ⟨old, oldIn, same⟩ := earlier member
    simp only [StockCountLine.countKey, Prod.mk.injEq] at same
    rw [← same.2.1]
    exact (invariant.lineSessions old oldIn).trans_le nextSessionId
  · exact sessionIds
  · intro line member other otherIn
    obtain ⟨old, oldIn, same⟩ := earlier member
    obtain ⟨oldOther, oldOtherIn, sameOther⟩ := earlier otherIn
    simp only [StockCountLine.countKey, Prod.mk.injEq] at same sameOther
    rw [← same.1, ← same.2.1, ← same.2.2.1, ← same.2.2.2.1, ← sameOther.1,
      ← sameOther.2.1, ← sameOther.2.2.1, ← sameOther.2.2.2.1]
    exact invariant.unmixed old oldIn oldOther oldOtherIn

theorem CountsInvariant.storeSession_below (invariant : CountsInvariant state)
    {stored : StockCountSession} {status : StockCountStatus}
    (known : state.HasStatus stored.id status) :
    ∀ sessionId session, (state.storeSession stored).countSessions sessionId = some session ->
        sessionId < state.nextSessionId := by
  intro sessionId session found
  unfold StockState.storeSession at found
  simp only [Function.update_apply] at found
  split_ifs at found with same
  · obtain ⟨earlier, isEarlier, -⟩ := known
    rw [same]
    exact invariant.sessionIds _ _ isEarlier
  · exact invariant.sessionIds _ _ found

variable {line : StockCountLine}

theorem CountsInvariant.recorded (invariant : CountsInvariant state)
    {sessionId itemId : Int} {locationId : Option Int}
    (records : RecordsCount state sessionId itemId locationId after line) :
    CountsInvariant after := by
  obtain ⟨session, sessionIs, -, stored⟩ := records.stored
  have opened : state.HasStatus session.id .opened :=
    sessionIs ▸ records.opened
  have sessionBelow : line.sessionId < state.nextSessionId := by
    obtain ⟨earlier, isEarlier, -⟩ := records.opened
    rw [records.session]
    exact invariant.sessionIds _ _ isEarlier
  have inCounts {other : StockCountLine} (otherIn : other ∈ state.countLines)
      (sameSession : other.sessionId = line.sessionId) :
      other ∈ state.counts sessionId :=
    List.mem_filter.mpr ⟨otherIn, decide_eq_true (sameSession.trans records.session)⟩
  rcases stored with ⟨absent, isNext, rfl⟩ |
    ⟨earlier, earlierIn, ofSession, ofItem, ofLocation, sameId, rfl⟩
  · -- the new line's location differs from those of its item in the session
    have apart {other : StockCountLine} (otherIn : other ∈ state.countLines)
        (sameSession : other.sessionId = line.sessionId)
        (sameItem : other.itemId = line.itemId) :
        line.locationId ≠ none ∧ other.locationId ≠ none ∧ line.locationId ≠ other.locationId := by
      have differs := absent other (records.session ▸ inCounts otherIn sameSession) sameItem
      have alike := records.unmixed other (inCounts otherIn sameSession)
        (sameItem.trans records.item)
      rw [← records.location] at alike
      refine ⟨?_, ?_, Ne.symm differs⟩
      · intro nowhere
        exact differs ((alike.mpr nowhere).trans nowhere.symm)
      · intro nowhere
        exact differs (nowhere.trans (alike.mp nowhere).symm)
    constructor
    · exact invariant.lineIds.append isNext
    · intro other member
      rcases List.mem_added.mp member with old | rfl
      · exact invariant.lineSessions other old
      · exact sessionBelow
    · exact invariant.storeSession_below opened
    · intro first firstIn second secondIn sameSession sameItem
      rcases List.mem_added.mp firstIn with oldFirst | rfl
      · rcases List.mem_added.mp secondIn with oldSecond | rfl
        · exact invariant.unmixed first oldFirst second oldSecond sameSession sameItem
        · obtain ⟨here, there, differs⟩ := apart oldFirst sameSession sameItem
          exact .inr ⟨there, here, differs.symm⟩
      · rcases List.mem_added.mp secondIn with oldSecond | rfl
        · exact .inr (apart oldSecond sameSession.symm sameItem.symm)
        · exact .inl rfl
  · -- a recount has the columns of the line it replaces
    have replaced {other : StockCountLine}
        (member : other ∈ replace StockCountLine.id line state.countLines) :
        ∃ old ∈ state.countLines, old.id = other.id ∧
          old.sessionId = other.sessionId ∧ old.itemId = other.itemId ∧
            old.locationId = other.locationId := by
      rcases mem_replace member with rfl | ⟨old, -⟩
      · exact ⟨earlier, earlierIn, sameId, ofSession, ofItem, ofLocation⟩
      · exact ⟨other, old, rfl, rfl, rfl, rfl⟩
    constructor
    · apply invariant.lineIds.replace
      rw [← sameId]
      exact invariant.lineIds.below earlier earlierIn
    · intro other member
      obtain ⟨old, oldIn, -, same, -⟩ := replaced member
      rw [← same]
      exact invariant.lineSessions old oldIn
    · exact invariant.storeSession_below opened
    · intro first firstIn second secondIn sameSession sameItem
      obtain ⟨oldFirst, oldFirstIn, firstId, firstSession, firstItem,
        firstLocation⟩ := replaced firstIn
      obtain ⟨oldSecond, oldSecondIn, secondId, secondSession, secondItem,
        secondLocation⟩ := replaced secondIn
      rw [← firstId, ← secondId, ← firstLocation, ← secondLocation]
      apply invariant.unmixed oldFirst oldFirstIn oldSecond oldSecondIn
      · rw [firstSession, secondSession, sameSession]
      · rw [firstItem, secondItem, sameItem]

variable {sessionId : Int}

theorem ConfirmsCounts.countKeys (confirms : ConfirmsCounts env state sessionId after)
    (invariant : CountsInvariant state) :
    after.countLines.map StockCountLine.countKey =
      state.countLines.map StockCountLine.countKey := by
  obtain ⟨middle, session, adjusts, -, -, rfl⟩ := confirms.adjusted
  show middle.countLines.map _ = _
  rw [adjusts.lines]
  exact countKey_adjustedLines invariant.lineIds.distinct
    (fun line member => (List.mem_filter.mp member).1) rfl

variable {event : StockEnvironment × StockCall}

theorem CountsInvariant.change (invariant : CountsInvariant state)
    (changed : CountsChange state event after) : CountsInvariant after := by
  cases changed with
  | kept lines sessions nextLineId nextSessionId =>
    apply invariant.of_countKey (by rw [lines]) nextLineId nextSessionId.ge
    rw [sessions, nextSessionId]
    exact invariant.sessionIds
  | created isNext =>
    refine invariant.of_countKey ?_ ?_ ?_ ?_
    · rfl
    · rfl
    · exact Int.le_add_one le_rfl
    · intro sessionId found isFound
      show sessionId < state.nextSessionId + 1
      unfold StockState.storeSession at isFound
      simp only [Function.update_apply] at isFound
      split_ifs at isFound with same
      · omega
      · have := invariant.sessionIds _ _ isFound
        omega
  | recorded isRecorded =>
    exact invariant.recorded (recordStockCount_eq_ok isRecorded)
  | confirmed confirms =>
    have keys := confirms.countKeys invariant
    have opened := confirms.opened
    obtain ⟨middle, session, adjusts, isId, -, rfl⟩ := confirms.adjusted
    apply invariant.of_countKey keys adjusts.nextLineId adjusts.nextSessionId.ge
    intro other found isFound
    show other < middle.nextSessionId
    rw [adjusts.nextSessionId]
    apply invariant.storeSession_below (isId ▸ opened) other found
    rw [← isFound]
    unfold StockState.storeSession
    rw [adjusts.sessions]
  | cancelled opened =>
    refine invariant.of_countKey ?_ ?_ ?_ (invariant.storeSession_below opened)
    · rfl
    · rfl
    · exact le_rfl

theorem CountsChange.staysConfirmed (changed : CountsChange state event after)
    (invariant : CountsInvariant state)
    (confirmed : state.HasStatus sessionId .confirmed) :
    after.HasStatus sessionId .confirmed := by
  obtain ⟨session, isSession, status⟩ := confirmed
  have other {stored : StockCountSession} (opened : state.HasStatus stored.id .opened) :
      Function.update state.countSessions stored.id (some stored) sessionId = some session := by
    rw [Function.update_apply, if_neg, isSession]
    rintro rfl
    obtain ⟨found, isFound, isOpen⟩ := opened
    rw [isSession] at isFound
    cases isFound
    rw [status] at isOpen
    cases isOpen
  refine ⟨session, ?_, status⟩
  cases changed with
  | kept _ sessions _ _ =>
    rw [sessions]
    exact isSession
  | created isNext =>
    show Function.update state.countSessions _ _ sessionId = _
    rw [Function.update_apply, if_neg, isSession]
    rw [isNext]
    exact (invariant.sessionIds _ _ isSession).ne
  | recorded isRecorded =>
    have records := recordStockCount_eq_ok isRecorded
    obtain ⟨stored, isId, -, ⟨-, -, rfl⟩ | ⟨_, -, -, -, -, -, rfl⟩⟩ := records.stored
    · exact other (isId ▸ records.opened)
    · exact other (isId ▸ records.opened)
  | confirmed confirms =>
    obtain ⟨middle, stored, adjusts, isId, -, rfl⟩ := confirms.adjusted
    show Function.update middle.countSessions _ _ sessionId = _
    rw [adjusts.sessions]
    exact other (isId ▸ confirms.opened)
  | cancelled opened => exact other opened

theorem sum_differences_of_line (invariant : CountsInvariant state)
    (member : line ∈ state.counts sessionId) :
    ((state.counts sessionId).map fun other =>
        (differenceEntry balances other).effect line.itemId line.locationId).sum =
      line.countedQuantity - currentOf balances line := by
  have distinct : (state.counts sessionId).Nodup :=
    (List.Nodup.of_map _ invariant.lineIds.distinct).filter _
  have apart : ∀ other, other ≠ line -> other ∈ state.counts sessionId ->
      (differenceEntry balances other).effect line.itemId line.locationId =
        0 := by
    intro other differs otherIn
    unfold StockState.counts at member otherIn
    simp only [List.mem_filter, decide_eq_true_eq] at member otherIn
    apply if_neg
    rintro ⟨sameItem, here⟩
    rcases invariant.unmixed other otherIn.1 line member.1 (otherIn.2.trans member.2.symm) sameItem
        with sameId | ⟨-, located, elsewhere⟩
    · exact differs (eq_of_key invariant.lineIds.distinct otherIn.1 member.1 sameId)
    · rcases here with nowhere | same
      · exact located nowhere
      · exact elsewhere same
  rw [List.sum_map_eq_nsmul_single line _ apart,
    List.count_eq_one_of_mem distinct member, one_nsmul]
  exact effect_self

theorem not_stale_iff :
    ¬state.Stale line ↔ ∃ item, state.items line.itemId = some item ∧ item.deletedAt = none ∧
        item.movementVersion = line.movementVersion := by
  unfold StockState.Stale
  cases state.items line.itemId with
  | none => simp
  | some item => simp

theorem ConfirmsCounts.currentStock (confirms : ConfirmsCounts env state sessionId after)
    (invariant : CountsInvariant state)
    (member : line ∈ after.counts sessionId) :
    after.currentStock line.itemId line.locationId = .ok line.countedQuantity := by
  unfold StockState.counts at member
  rw [List.mem_filter, decide_eq_true_eq] at member
  have known := List.mem_map_of_mem (f := StockCountLine.countKey) member.1
  rw [confirms.countKeys invariant] at known
  obtain ⟨old, oldIn, same⟩ := List.mem_map.mp known
  simp only [StockCountLine.countKey, Prod.mk.injEq] at same
  obtain ⟨-, ofSession, ofItem, ofLocation, counted⟩ := same
  have inCounts : old ∈ state.counts sessionId :=
    List.mem_filter.mpr ⟨oldIn, decide_eq_true (ofSession.trans member.2)⟩
  obtain ⟨item, isItem, live, -⟩ := not_stale_iff.mp (confirms.fresh old inCounts)
  obtain ⟨middle, session, adjusts, -, -, rfl⟩ := confirms.adjusted
  obtain ⟨added, extended⟩ := adjusts.extended
  rw [← ofItem, ← ofLocation, ← counted]
  have isBalance : balance middle.ledger old.itemId old.locationId = old.countedQuantity := by
    rw [adjusts.moves, sum_differences_of_line invariant inCounts,
      currentOf_balancesByLocation inCounts]
    omega
  have isItemAfter := extended.items old.itemId
  rw [isItem, Option.map_some] at isItemAfter
  have found : (middle.storeSession session).getItem old.itemId = .ok _ :=
    getItem_of_live isItemAfter live
  unfold StockState.currentStock
  rw [found]
  exact congrArg Except.ok isBalance

/-- The count that wrote a line left the state `counted` behind. -/
def CountedIn (uuid5 : UuidFunction) (start : StockState)
    (events : List (StockEnvironment × StockCall)) (finish : StockState)
    (line : StockCountLine) (counted : StockState) : Prop :=
  ∃ earlier later env countedQuantity countedByUserId counting, events = earlier ++
        (env, .recordStockCount line.sessionId line.itemId line.locationId
          countedQuantity countedByUserId) :: later ∧
      run (stockStep uuid5) start earlier = some counting ∧
      recordStockCount env counting line.sessionId line.itemId
          line.locationId countedQuantity countedByUserId =
        .ok (counted, line) ∧
      run (stockStep uuid5) counted later = some finish

variable {events : List (StockEnvironment × StockCall)}

variable {start : StockState}

theorem CountedIn.concat {counted : StockState}
    (before : CountedIn uuid5 start events state line counted)
    (taken : stockStep uuid5 state event = some after) :
    CountedIn uuid5 start (events ++ [event]) after line counted := by
  obtain ⟨earlier, later, env, countedQuantity, countedByUserId, counting,
    rfl, ranEarlier, recorded, ranLater⟩ := before
  refine ⟨earlier, later ++ [event], env, countedQuantity, countedByUserId,
    counting, ?_, ranEarlier, recorded, ?_⟩
  · rw [List.append_assoc, List.cons_append]
  · rw [run_append, ranLater, Option.bind_some, run_singleton]
    exact taken

/-- Every line of an open session was counted in the run. -/
structure Traced
    (uuid5 : UuidFunction)
    (start : StockState)
    (events : List (StockEnvironment × StockCall))
    (state : StockState) : Prop where
  invariant : CountsInvariant state
  ran : run (stockStep uuid5) start events = some state
  counted : ∀ line ∈ state.countLines, state.HasStatus line.sessionId .opened ->
      ∃ counted, CountedIn uuid5 start events state line counted

theorem Traced.old (traced : Traced uuid5 start events state)
    (taken : stockStep uuid5 state event = some after)
    (member : line ∈ state.countLines)
    (opened : state.HasStatus line.sessionId .opened) :
    ∃ counted, CountedIn uuid5 start (events ++ [event]) after line
      counted := by
  obtain ⟨counted, before⟩ := traced.counted line member opened
  exact ⟨counted, before.concat taken⟩

theorem hasStatus_of_storeSession {stored : StockCountSession} {status : StockCountStatus}
    (found : (state.storeSession stored).HasStatus sessionId status)
    (known : sessionId = stored.id -> stored.status = status -> state.HasStatus sessionId status) :
    state.HasStatus sessionId status := by
  obtain ⟨session, isSession, isStatus⟩ := found
  unfold StockState.storeSession at isSession
  simp only [Function.update_apply] at isSession
  split_ifs at isSession with same
  · cases isSession
    exact known same isStatus
  · exact ⟨session, isSession, isStatus⟩

theorem Traced.next (traced : Traced uuid5 start events state)
    (taken : stockStep uuid5 state event = some after) :
    Traced uuid5 start (events ++ [event]) after := by
  have changed := (stockStep_change taken).2
  have ran : run (stockStep uuid5) start (events ++ [event]) = some after := by
    rw [run_append, traced.ran, Option.bind_some, run_singleton]
    exact taken
  refine ⟨traced.invariant.change changed, ran, ?_⟩
  intro line member opened
  cases changed with
  | kept lines sessions _ _ =>
    apply traced.old taken (lines ▸ member)
    obtain ⟨session, isSession, isOpen⟩ := opened
    exact ⟨session, sessions ▸ isSession, isOpen⟩
  | created isNext =>
    apply traced.old taken member
    apply hasStatus_of_storeSession opened
    intro same _
    have below := traced.invariant.lineSessions line member
    rw [same, isNext] at below
    exact absurd below (lt_irrefl _)
  | @recorded env sessionId itemId locationId countedQuantity countedByUserId
      _ written isRecorded =>
      have records := recordStockCount_eq_ok isRecorded
      obtain ⟨session, isId, -, stored⟩ := records.stored
      have old (oldIn : line ∈ state.countLines)
          (isOpen : (state.storeSession session).HasStatus line.sessionId .opened) :
          ∃ counted, CountedIn uuid5 start
            (events ++ [(env, .recordStockCount sessionId itemId locationId
              countedQuantity countedByUserId)]) after line counted := by
        apply traced.old taken oldIn
        apply hasStatus_of_storeSession isOpen
        intro same _
        rw [same, isId]
        exact records.opened
      have new (same : line = written) : ∃ counted, CountedIn uuid5 start
            (events ++ [(env, .recordStockCount sessionId itemId locationId
              countedQuantity countedByUserId)]) after line counted := by
        subst same
        refine ⟨after, events, [], env, countedQuantity, countedByUserId,
          state, ?_, traced.ran, ?_, rfl⟩
        · rw [records.session, records.item, records.location]
        · rw [records.session, records.item, records.location]
          exact isRecorded
      rcases stored with ⟨-, -, rfl⟩ | ⟨earlier, -, -, -, -, -, rfl⟩
      · rcases List.mem_added.mp member with oldIn | isNew
        · exact old oldIn opened
        · exact new isNew
      · rcases mem_replace member with isNew | ⟨oldIn, -⟩
        · exact new isNew
        · exact old oldIn opened
  | confirmed confirms =>
    obtain ⟨middle, session, adjusts, isId, isConfirmed, rfl⟩ := confirms.adjusted
    have closed : line.sessionId ≠ session.id := by
      intro same
      obtain ⟨found, isFound, isOpen⟩ := opened
      rw [same] at isFound
      unfold StockState.storeSession at isFound
      simp only [Function.update_self] at isFound
      cases isFound
      rw [isConfirmed] at isOpen
      cases isOpen
    have oldIn : line ∈ state.countLines := by
      have there : line ∈ middle.countLines := member
      rw [adjusts.lines] at there
      rcases mem_adjustedLines there with here | ⟨other, otherIn, rfl⟩
      · exact here
      · unfold StockState.counts at otherIn
        simp only [List.mem_filter, decide_eq_true_eq] at otherIn
        exact absurd (otherIn.2.trans isId.symm) closed
    apply traced.old taken oldIn
    obtain ⟨found, isFound, isOpen⟩ :=
      hasStatus_of_storeSession opened fun same _ => absurd same closed
    exact ⟨found, adjusts.sessions ▸ isFound, isOpen⟩
  | cancelled wasOpen isCancelled =>
    apply traced.old taken member
    apply hasStatus_of_storeSession opened
    intro _ isOpen
    rw [isCancelled] at isOpen
    cases isOpen

theorem run_traced (noLines : start.countLines = [])
    (noSessions : start.countSessions = fun _ => none)
    (ran : run (stockStep uuid5) start events = some state) :
    Traced uuid5 start events state := by
  apply run_invariant _ (fun traced taken => traced.next taken) ran
  refine ⟨.of_noCounts noLines noSessions, rfl, ?_⟩
  intro line member
  rw [noLines] at member
  cases member

theorem CountedIn.unmoved {counted : StockState}
    (before : CountedIn uuid5 start events state line counted)
    (fresh : ¬state.Stale line) :
    (state.movements.filter (·.itemId = line.itemId)) = counted.movements.filter fun movement =>
        decide (movement.itemId = line.itemId) := by
  obtain ⟨earlier, later, env, countedQuantity, countedByUserId, counting, -,
    -, recorded, ranLater⟩ := before
  have records := recordStockCount_eq_ok recorded
  obtain ⟨item, isItem, version⟩ := records.version
  have itemCounted := records.extends.items line.itemId
  rw [isItem, Option.map_some, List.countP_nil] at itemCounted
  obtain ⟨added, extended⟩ := run_extends ranLater
  have itemNow := extended.items line.itemId
  rw [itemCounted, Option.map_some] at itemNow
  obtain ⟨found, isFound, -, versionNow⟩ := not_stale_iff.mp fresh
  rw [isFound] at itemNow
  cases itemNow
  simp only at versionNow
  have none : (added.countP fun movement =>
      movement.itemId = line.itemId) = 0 := by
    omega
  rw [extended.movements, List.filter_append, List.append_right_eq_self, List.filter_eq_nil_iff]
  exact List.countP_eq_zero.mp none

theorem run_staysConfirmed (invariant : CountsInvariant state)
    (confirmed : state.HasStatus sessionId .confirmed)
    (ran : run (stockStep uuid5) state events = some after) :
    after.HasStatus sessionId .confirmed := by
  induction events generalizing state with
  | nil =>
    obtain rfl : state = after := by simpa [run] using ran
    exact confirmed
  | cons event events ih =>
    have split := run_append (stockStep uuid5) state [event] events
    rw [List.singleton_append, ran, run_singleton] at split
    obtain ⟨middle, first, rest⟩ := Option.bind_eq_some_iff.mp split.symm
    have changed := (stockStep_change first).2
    exact ih (invariant.change changed) (changed.staysConfirmed invariant confirmed) rest

/-- In every run from a hotel without counts, a session that is confirmed
makes its counted quantities the current stock; each of its lines was counted
after the last movement of its item; and confirming it again, at any later
time, changes nothing. -/
theorem run_confirmed_counts {start before : StockState}
    {events : List (StockEnvironment × StockCall)}
    {sessionId confirmedByUserId : Int} {reason : String}
    {session : StockCountSession} (noLines : start.countLines = [])
    (noSessions : start.countSessions = fun _ => none)
    (ran : run (stockStep uuid5) start events = some before)
    (wasOpen : before.HasStatus sessionId .opened)
    (confirmed : confirmStockCountSession env before sessionId
      confirmedByUserId reason = .ok (after, session)) :
    after.HasStatus sessionId .confirmed ∧ (∀ line ∈ after.counts sessionId,
        after.currentStock line.itemId line.locationId = .ok line.countedQuantity) ∧
      (∀ line ∈ before.counts sessionId, ∃ counted,
        CountedIn uuid5 start events before line counted ∧ (before.movements.filter fun movement =>
              movement.itemId = line.itemId) =
            counted.movements.filter (·.itemId = line.itemId)) ∧
      ∀ later again, run (stockStep uuid5) after later = some again -> ∀ laterEnv userId text result,
          confirmStockCountSession laterEnv again sessionId userId text =
              .ok result -> result.1 = again := by
  have traced := run_traced noLines noSessions ran
  have invariant := traced.invariant
  obtain ⟨opened, isOpened, openStatus⟩ := wasOpen
  rcases confirmStockCountSession_eq_ok confirmed with ⟨-, other, isOther, already⟩ | confirms
  · rw [isOpened] at isOther
    cases isOther
    rw [openStatus] at already
    cases already
  · have isConfirmed : after.HasStatus sessionId .confirmed := by
      obtain ⟨middle, stored, -, rfl, status, rfl⟩ := confirms.adjusted
      exact ⟨stored, Function.update_self _ _ _, status⟩
    have changed : CountsChange before
        (env, .confirmStockCountSession sessionId confirmedByUserId reason)
        after := .confirmed confirms
    refine ⟨isConfirmed, fun line member => confirms.currentStock invariant member, ?_, ?_⟩
    · intro line member
      have inLines := List.mem_filter.mp member
      have ofSession := of_decide_eq_true inLines.2
      obtain ⟨counted, isCounted⟩ := traced.counted line inLines.1
        (ofSession ▸ ⟨opened, isOpened, openStatus⟩)
      exact ⟨counted, isCounted, isCounted.unmoved (confirms.fresh line member)⟩
    · intro later again ranLater laterEnv userId text result repeated
      obtain ⟨found, isFound, status⟩ := run_staysConfirmed
        (invariant.change changed) isConfirmed ranLater
      rcases confirmStockCountSession_eq_ok repeated with ⟨same, -⟩ | confirmsAgain
      · exact same
      · obtain ⟨other, isOther, isOpen⟩ := confirmsAgain.opened
        rw [isFound] at isOther
        cases isOther
        rw [status] at isOpen
        cases isOpen

end

/-- Ten units at location 1 are counted as eight, and three units are found at
location 2. -/
def twoLocationCount : List (StockEnvironment × StockCall) :=
  [unitsCall .inbound (some 1) 10, (quietEnvironment, .createStockCountSession 1 "inventario"),
    (quietEnvironment, .recordStockCount 1 1 (some 1) 8 1),
    (quietEnvironment, .recordStockCount 1 1 (some 2) 3 1)]

/-- Both locations are adjusted to their counts. -/
theorem run_confirmed_counts_twoLocationCount :
    ∃ before after session, run (stockStep id) emptyHotel twoLocationCount = some before ∧
        confirmStockCountSession quietEnvironment before 1 2 "cierre" = .ok (after, session) ∧
        (after.counts 1).map StockCountLine.countedQuantity = [800, 300] ∧
        (∀ line ∈ after.counts 1,
          after.currentStock line.itemId line.locationId = .ok line.countedQuantity) ∧
        after.currentStock 1 none = .ok 1100 := by
  have outcome : (run (stockStep id) emptyHotel twoLocationCount).map
      (fun before => (decide (before.IsOpen 1),
        (confirmStockCountSession quietEnvironment before 1 2 "cierre").map
          fun result => ((result.1.counts 1).map StockCountLine.countedQuantity,
            result.1.currentStock 1 none))) =
        some (true, .ok ([800, 300], .ok 1100)) := by
    decide +kernel
  obtain ⟨before, ran, both⟩ := Option.map_eq_some_iff.mp outcome
  obtain ⟨isOpen, result⟩ := Prod.mk.inj both
  have opened := StockState.isOpen_iff.mp (of_decide_eq_true isOpen)
  cases confirmed : confirmStockCountSession quietEnvironment before 1 2 "cierre" with
  | error error =>
    rw [confirmed] at result
    cases result
  | ok pair =>
    obtain ⟨after, session⟩ := pair
    rw [confirmed] at result
    simp only [Except.map, Except.ok.injEq, Prod.mk.injEq] at result
    obtain ⟨-, current, -⟩ := run_confirmed_counts rfl rfl ran opened confirmed
    exact ⟨before, after, session, ran, confirmed, result.1, current, result.2⟩

end HotelPms.Stock
