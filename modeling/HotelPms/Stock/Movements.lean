import HotelPms.Stock.Counts

/-!
# What the stock operations write

A movement that is registered is appended to the ledger and counted in the
version of its item.  A confirmed session appends, for each of its lines, the
difference that line was found to have.
-/

namespace HotelPms.Stock

open Checked Inventory

theorem ofValue_value (movementType : MovementType) :
    MovementType.ofValue movementType.value = some movementType := by
  cases movementType <;> decide

/-- The later ledger has the earlier one's movements and some more, and the
version of each item counts those added. -/
structure Extends
    (before after : StockState) (added : List StockMovement) : Prop where
  movements : after.movements = before.movements ++ added
  items : ∀ itemId, after.items itemId = (before.items itemId).map fun item =>
      { item with
        movementVersion := item.movementVersion +
          (added.countP fun movement => decide (movement.itemId = itemId) : Nat) }

theorem Extends.refl (state : StockState) : Extends state state [] where
  movements := (List.append_nil _).symm
  items := by
    simp

theorem Extends.trans {before middle after : StockState} {first last : List StockMovement}
    (earlier : Extends before middle first)
    (later : Extends middle after last) :
    Extends before after (first ++ last) where
  movements := by
    rw [later.movements, earlier.movements, List.append_assoc]
  items := by
    intro itemId
    rw [later.items, earlier.items, Option.map_map]
    congr 1
    funext item
    simp only [Function.comp_apply, List.countP_append, Nat.cast_add, add_assoc]

section

variable {env : StockEnvironment} {state after : StockState}
  {request : MovementRequest} {movementType : MovementType}
  {movement : StockMovement}

theorem getItem_eq_ok {itemId : Int} {item : StockItem} (found : state.getItem itemId = .ok item) :
    state.items itemId = some item ∧ item.deletedAt = none := by
  unfold StockState.getItem at found
  split at found
  · next stored isStored =>
    simp only [bind_eq_ok, raiseIf_eq_ok, not_not, pure_eq_ok] at found
    obtain ⟨_, live, rfl⟩ := found
    exact ⟨isStored, live⟩
  · cases found

theorem getItem_of_live {itemId : Int} {item : StockItem}
    (isStored : state.items itemId = some item)
    (live : item.deletedAt = none) : state.getItem itemId = .ok item := by
  unfold StockState.getItem
  rw [isStored]
  simp only [raiseIf, live, ne_eq, not_true_eq_false, if_false]
  rfl

/-- What is known of a movement once it is registered. -/
structure Adds
    (env : StockEnvironment) (state : StockState) (request : MovementRequest)
    (movementType : MovementType) (after : StockState) : Prop where
  item : ∃ item, state.items request.itemId = some item ∧
    after = state.record item (movementOf env state request movementType)
  positive : 0 < hundredths request.quantity
  exactly : (hundredths request.quantity : ℚ) = request.quantity * 100
  covered : movementType.IsOutbound -> hundredths request.quantity ≤
      balance state.ledger request.itemId request.locationId

theorem addMovement_eq_ok
    (added : addMovement env state request movementType = .ok (after, movement)) :
    movement = movementOf env state request movementType ∧
      Adds env state request movementType after := by
  unfold addMovement checkMovementQuantity at added
  simp only [bind_eq_ok, raiseIf_eq_ok, pure_eq_ok, not_and, not_lt, not_le] at added
  obtain ⟨_, ⟨_, positive, _, -, precise⟩, _, -, item, isItem, _, covered, _,
    -, _, -, result⟩ := added
  cases result
  have exactly := not_not.mp precise
  refine ⟨rfl, ⟨item, (getItem_eq_ok isItem).1, rfl⟩, ?_, exactly, covered⟩
  have scaled : (0 : ℚ) < (hundredths request.quantity : ℚ) := by
    linarith
  exact_mod_cast scaled

theorem registerMovement_eq_ok
    (registered : registerMovement env state request = .ok (after, movement)) :
    (state.movementByKey request.idempotencyKey = some movement ∧
        SameOperation movement request ∧ after = state) ∨
      (state.movementByKey request.idempotencyKey = none ∧ ∃ movementType,
          MovementType.ofValue request.movementType = some movementType ∧
            movement = movementOf env state request movementType ∧
            Adds env state request movementType after) := by
  unfold registerMovement at registered
  split at registered
  · next existing found =>
    simp only [bind_eq_ok, raiseIf_eq_ok, not_not, pure_eq_ok] at registered
    obtain ⟨_, same, result⟩ := registered
    cases result
    exact .inl ⟨found, same, rfl⟩
  · next unused =>
    split at registered
    · cases registered
    · next movementType isType =>
      obtain ⟨isMovement, adds⟩ := addMovement_eq_ok registered
      exact .inr ⟨unused, movementType, isType, isMovement, adds⟩

theorem registerMovement_keyless (keyless : request.idempotencyKey = none)
    (isType : request.movementType = movementType.value)
    (registered : registerMovement env state request = .ok (after, movement)) :
    movement = movementOf env state request movementType ∧
      Adds env state request movementType after := by
  rcases registerMovement_eq_ok registered with
    ⟨found, -, -⟩ | ⟨-, other, isOther, isMovement, adds⟩
  · rw [keyless] at found
    cases found
  · rw [isType, ofValue_value] at isOther
    cases isOther
    exact ⟨isMovement, adds⟩

def requestEntry (request : MovementRequest) (movementType : MovementType) : Entry Int Int where
  item := request.itemId
  place := request.locationId
  amount :=
    if movementType.IsOutbound then -hundredths request.quantity
    else hundredths request.quantity

theorem Adds.ledger (adds : Adds env state request movementType after) :
    after.ledger = state.ledger ++ [requestEntry request movementType] := by
  obtain ⟨item, -, rfl⟩ := adds.item
  unfold StockState.ledger StockState.record
  rw [List.map_append]
  rfl

theorem Adds.extends (adds : Adds env state request movementType after) :
    Extends state after [movementOf env state request movementType] := by
  obtain ⟨item, isItem, rfl⟩ := adds.item
  refine ⟨rfl, ?_⟩
  intro itemId
  show Function.update state.items request.itemId _ itemId = _
  have countOne : ([movementOf env state request movementType].countP (·.itemId = itemId)) =
        if request.itemId = itemId then 1 else 0 := by
    simp [movementOf, List.countP_cons]
  rw [countOne, Function.update_apply]
  by_cases same : itemId = request.itemId
  · subst same
    rw [if_pos rfl, if_pos rfl, isItem]
    rfl
  · rw [if_neg same, if_neg (Ne.symm same)]
    simp

theorem Adds.frame (adds : Adds env state request movementType after) :
    after.countLines = state.countLines ∧ after.countSessions = state.countSessions ∧
      after.nextLineId = state.nextLineId ∧
      after.nextSessionId = state.nextSessionId := by
  obtain ⟨item, -, rfl⟩ := adds.item
  exact ⟨rfl, rfl, rfl, rfl⟩

end

section

variable {env : StockEnvironment} {uuid5 : UuidFunction}
  {state after : StockState} {itemId : Int} {quantity : ℚ} {reason key : String}
  {createdByUserId : Option Int}

theorem registerOpeningCount_eq_ok {locationId : Int} {movement : StockMovement}
    (registered : registerOpeningCount env state uuid5 itemId locationId
      quantity reason createdByUserId key = .ok (after, movement)) :
    after = state ∨ ∃ request, request.movementType = MovementType.inbound.value ∧
        registerMovement env state request = .ok (after, movement) := by
  unfold registerOpeningCount at registered
  simp only [bind_eq_ok] at registered
  obtain ⟨_, -, _, -, _, -, registered⟩ := registered
  split at registered
  · simp only [bind_eq_ok, pure_eq_ok] at registered
    obtain ⟨_, -, result⟩ := registered
    exact .inl (Prod.mk.inj result).1.symm
  · simp only [bind_eq_ok] at registered
    obtain ⟨_, -, _, -, registered⟩ := registered
    exact .inr ⟨_, rfl, registered⟩

theorem transferStock_eq_ok {sourceLocationId destinationLocationId : Int}
    {outbound inbound : StockMovement}
    (transferred : transferStock env state uuid5 itemId sourceLocationId
      destinationLocationId quantity reason createdByUserId key = .ok (after, outbound, inbound)) :
    after = state ∨ ∃ middle text reference, Adds env state
          (transferRequest itemId sourceLocationId .outbound quantity text
            createdByUserId reference) .outbound middle ∧
        Adds env middle (transferRequest itemId destinationLocationId .inbound quantity text
            createdByUserId reference) .inbound after := by
  unfold transferStock at transferred
  simp only [bind_eq_ok] at transferred
  obtain ⟨_, -, _, -, _, -, _, -, transferred⟩ := transferred
  split_ifs at transferred with made
  · simp only [bind_eq_ok, pure_eq_ok] at transferred
    obtain ⟨_, -, result⟩ := transferred
    exact .inl (Prod.mk.inj result).1.symm
  · simp only [bind_eq_ok] at transferred
    obtain ⟨_, -, _, -, ⟨middle, first⟩, out, ⟨last, second⟩, into, result⟩ := transferred
    cases result
    exact .inr ⟨middle, _, _, (registerMovement_keyless rfl rfl out).2,
      (registerMovement_keyless rfl rfl into).2⟩

end

/-- The difference a line was found to have. -/
def differenceEntry (balances : List ((Int × Option Int) × Int)) (line : StockCountLine) :
    Entry Int Int where
  item := line.itemId
  place := line.locationId
  amount := line.countedQuantity - currentOf balances line

/-- A line with its adjustment written in. -/
def adjustedLine (env : StockEnvironment) (balances : List ((Int × Option Int) × Int))
    (line : StockCountLine) : StockCountLine :=
  { line with
    appliedAdjustment :=
      some (line.countedQuantity - currentOf balances line)
    adjustedAt := some env.now }

section

variable {env : StockEnvironment} {balances : List ((Int × Option Int) × Int)}
  {sessionId confirmedByUserId : Int} {reason : String}
  {state after : StockState} {line : StockCountLine}

variable {lines : List StockCountLine}

theorem currentOf_balancesByLocation (member : line ∈ lines) :
    currentOf (balancesByLocation state lines) line =
      balance state.ledger line.itemId line.locationId := by
  have own : balance (state.ledger.filter (·.item ∈ lines.map StockCountLine.itemId))
      line.itemId line.locationId = balance state.ledger line.itemId line.locationId := by
    unfold balance
    rw [List.filter_filter]
    congr 2
    apply List.filter_congr
    intro entry _
    by_cases same : entry.item = line.itemId
    · simp [same, List.mem_map_of_mem member]
    · simp [Entry.CountsIn, same]
  rw [← own]
  unfold currentOf
  cases line.locationId with
  | none => exact sum_groupedBalances
  | some locationId => exact getD_lookup_groupedBalances locationId

/-- The stored quantity of an adjustment is the size of its difference. -/
theorem hundredths_div (amount : Int) : hundredths ((amount : ℚ) / 100) = amount := by
  unfold hundredths
  rw [div_mul_cancel₀ _ (by norm_num)]
  exact Int.floor_intCast amount

/-- What adjusting one line does: the ledger moves by its difference, and
nothing else of the counts changes than the line. -/
structure AdjustsLine
    (env : StockEnvironment)
    (balances : List ((Int × Option Int) × Int))
    (state : StockState) (line : StockCountLine) (after : StockState) :
    Prop where
  extended : ∃ added, Extends state after added
  moves : ∀ itemId locationId, balance after.ledger itemId locationId =
      balance state.ledger itemId locationId +
        (differenceEntry balances line).effect itemId locationId
  covered : PlacesCovered state.ledger -> PlacesCovered after.ledger
  lines : after.countLines = Table.replace StockCountLine.id
    (adjustedLine env balances line) state.countLines
  sessions : after.countSessions = state.countSessions
  nextLineId : after.nextLineId = state.nextLineId
  nextSessionId : after.nextSessionId = state.nextSessionId

theorem Adds.placesCovered {request : MovementRequest} {movementType : MovementType}
    (adds : Adds env state request movementType after)
    (covered : PlacesCovered state.ledger) : PlacesCovered after.ledger := by
  rw [adds.ledger]
  apply covered.concat
  intro located
  unfold requestEntry
  have positive := adds.positive
  split_ifs with outbound
  · have enough := adds.covered outbound
    simp only
    omega
  · obtain ⟨locationId, here⟩ := Option.ne_none_iff_exists'.mp located
    have before := covered request.itemId locationId
    rw [← here] at before
    exact add_nonneg before positive.le

theorem adjustment_adds {delta : Int} {movement : StockMovement} (differs : delta ≠ 0)
    (registered : registerMovement env state
      (adjustmentRequest line delta sessionId confirmedByUserId reason) = .ok (after, movement)) :
    ∃ movementType, Adds env state (adjustmentRequest line delta sessionId confirmedByUserId reason)
          movementType after ∧
        requestEntry (adjustmentRequest line delta sessionId confirmedByUserId reason)
            movementType = ⟨line.itemId, line.locationId, delta⟩ := by
  have stored : hundredths ((|delta| : ℚ) / 100) = |delta| := by
    rw [← Int.cast_abs]
    exact hundredths_div |delta|
  by_cases more : 0 < delta
  · refine ⟨.adjustment, (registerMovement_keyless rfl (if_pos more) registered).2, ?_⟩
    simp only [requestEntry, adjustmentRequest, stored, abs_of_pos more]
    rfl
  · have less : delta < 0 := by omega
    refine ⟨.adjustmentOut, (registerMovement_keyless rfl (if_neg more) registered).2, ?_⟩
    simp only [requestEntry, adjustmentRequest, stored, abs_of_neg less, neg_neg]
    rfl

theorem adjustLine_eq_ok (adjusted : adjustLine env balances sessionId confirmedByUserId reason
      state line = .ok after) :
    AdjustsLine env balances state line after := by
  unfold adjustLine at adjusted
  simp only [bind_eq_ok, pure_eq_ok] at adjusted
  obtain ⟨moved, made, rfl⟩ := adjusted
  unfold adjustBalance at made
  by_cases same : line.countedQuantity - currentOf balances line = 0
  · rw [if_pos same] at made
    cases made
    have nothing (itemId : Int) (locationId : Option Int) :
        (differenceEntry balances line).effect itemId locationId = 0 := by
      unfold Entry.effect differenceEntry
      rw [same, ite_self]
    exact
      { extended := ⟨[], (Extends.refl state).movements,
          (Extends.refl state).items⟩
        moves := fun itemId locationId => by
          rw [nothing, add_zero]
          rfl
        covered := id
        lines := rfl
        sessions := rfl
        nextLineId := rfl
        nextSessionId := rfl }
  · rw [if_neg same] at made
    obtain ⟨movement, registered⟩ := map_fst_eq_ok.mp made
    obtain ⟨movementType, adds, entry⟩ := adjustment_adds same registered
    obtain ⟨lines, sessions, nextLineId, nextSessionId⟩ := adds.frame
    have isLedger : moved.ledger = state.ledger ++ [differenceEntry balances line] := by
      rw [adds.ledger, entry]
      rfl
    exact
      { extended := ⟨_, adds.extends.movements, adds.extends.items⟩
        moves := fun itemId locationId => by
          show balance moved.ledger itemId locationId = _
          rw [isLedger, balance_concat]
        covered := adds.placesCovered
        lines := congrArg _ lines
        sessions := sessions
        nextLineId := nextLineId
        nextSessionId := nextSessionId }

/-- What adjusting the lines of a session does: the ledger moves by the sum of
their differences. -/
structure AdjustsLines
    (env : StockEnvironment)
    (balances : List ((Int × Option Int) × Int))
    (state : StockState) (lines : List StockCountLine) (after : StockState) :
    Prop where
  extended : ∃ added, Extends state after added
  moves : ∀ itemId locationId, balance after.ledger itemId locationId =
      balance state.ledger itemId locationId +
        (lines.map fun line => (differenceEntry balances line).effect itemId locationId).sum
  covered : PlacesCovered state.ledger -> PlacesCovered after.ledger
  lines : after.countLines = lines.foldl (fun rows line => Table.replace StockCountLine.id
      (adjustedLine env balances line) rows) state.countLines
  sessions : after.countSessions = state.countSessions
  nextLineId : after.nextLineId = state.nextLineId
  nextSessionId : after.nextSessionId = state.nextSessionId

theorem adjustLines_eq_ok (adjusted : lines.foldlM
      (adjustLine env balances sessionId confirmedByUserId reason) state = .ok after) :
    AdjustsLines env balances state lines after := by
  induction lines generalizing state with
  | nil =>
    obtain rfl := pure_eq_ok.mp adjusted
    exact
      { extended := ⟨[], Extends.refl state⟩
        moves := fun itemId locationId => (add_zero _).symm
        covered := id
        lines := rfl
        sessions := rfl
        nextLineId := rfl
        nextSessionId := rfl }
  | cons line lines ih =>
    rw [List.foldlM_cons, bind_eq_ok] at adjusted
    obtain ⟨middle, first, rest⟩ := adjusted
    have here := adjustLine_eq_ok first
    have onwards := ih rest
    obtain ⟨earlier, extended⟩ := here.extended
    obtain ⟨later, extendedOn⟩ := onwards.extended
    exact
      { extended := ⟨earlier ++ later, extended.trans extendedOn⟩
        moves := fun itemId locationId => by
          rw [onwards.moves, here.moves, List.map_cons, List.sum_cons, add_assoc]
        covered := fun covered => onwards.covered (here.covered covered)
        lines := by
          rw [onwards.lines, here.lines]
          rfl
        sessions := onwards.sessions.trans here.sessions
        nextLineId := onwards.nextLineId.trans here.nextLineId
        nextSessionId := onwards.nextSessionId.trans here.nextSessionId }

/-- What confirming an open session does. -/
structure ConfirmsCounts
    (env : StockEnvironment) (state : StockState) (sessionId : Int)
    (after : StockState) : Prop where
  opened : ∃ session, state.countSessions sessionId = some session ∧
    session.status = .opened
  fresh : ∀ line ∈ state.counts sessionId, ¬state.Stale line
  adjusted : ∃ middle session,
    AdjustsLines env (balancesByLocation state (state.counts sessionId)) state
        (state.counts sessionId) middle ∧
      session.id = sessionId ∧ session.status = .confirmed ∧
      after = middle.storeSession session

theorem stockCountStaleItems_eq_nil :
    stockCountStaleItems state lines = [] ↔ ∀ line ∈ lines, ¬state.Stale line := by
  unfold stockCountStaleItems
  rw [List.map_eq_nil_iff, List.filter_eq_nil_iff]
  simp only [decide_eq_true_eq]

theorem confirmStockCountSession_eq_ok {stored : StockCountSession}
    (confirmed : confirmStockCountSession env state sessionId
      confirmedByUserId reason = .ok (after, stored)) :
    (after = state ∧ ∃ session, state.countSessions sessionId = some session ∧
          session.status = .confirmed) ∨
      ConfirmsCounts env state sessionId after := by
  unfold confirmStockCountSession at confirmed
  rw [bind_eq_ok] at confirmed
  obtain ⟨text, -, confirmed⟩ := confirmed
  unfold confirmOnce at confirmed
  split at confirmed
  · cases confirmed
  · next session isSession =>
    split_ifs at confirmed with already
    · exact .inl ⟨(Prod.mk.inj (pure_eq_ok.mp confirmed)).1.symm, session, isSession, already⟩
    · unfold applyStockCounts at confirmed
      simp only [bind_eq_ok, raiseIf_eq_ok, not_not, pure_eq_ok] at confirmed
      obtain ⟨_, opened, _, -, _, current, _, -, _, -, middle, adjusted, result⟩ := confirmed
      cases result
      exact .inr
        { opened := ⟨session, isSession, opened⟩
          fresh := stockCountStaleItems_eq_nil.mp current
          adjusted := ⟨middle, _, adjustLines_eq_ok adjusted, rfl, rfl,
            rfl⟩ }

theorem createStockCountSession_eq_ok {createdByUserId : Int} {session : StockCountSession}
    (created : createStockCountSession env state createdByUserId reason = .ok (after, session)) :
    session.id = state.nextSessionId ∧ session.status = .opened ∧
      after = { state.storeSession session with
        nextSessionId := state.nextSessionId + 1 } := by
  unfold createStockCountSession at created
  simp only [bind_eq_ok, pure_eq_ok] at created
  obtain ⟨_, -, result⟩ := created
  cases result
  exact ⟨rfl, rfl, rfl⟩

theorem getOpenStockCountSession_eq_ok {session : StockCountSession}
    (found : getOpenStockCountSession state sessionId = .ok session) :
    state.countSessions sessionId = some session ∧ session.status = .opened := by
  unfold getOpenStockCountSession at found
  split at found
  · next stored isStored =>
    simp only [bind_eq_ok, raiseIf_eq_ok, not_not, pure_eq_ok] at found
    obtain ⟨_, opened, rfl⟩ := found
    exact ⟨isStored, opened⟩
  · cases found

theorem cancelStockCountSession_eq_ok {cancelledByUserId : Int} {stored : StockCountSession}
    (cancelled : cancelStockCountSession env state sessionId
      cancelledByUserId reason = .ok (after, stored)) :
    (∃ session, state.countSessions sessionId = some session ∧ session.status = .opened) ∧
      stored.id = sessionId ∧ stored.status = .cancelled ∧
      after = state.storeSession stored := by
  unfold cancelStockCountSession at cancelled
  simp only [bind_eq_ok, pure_eq_ok] at cancelled
  obtain ⟨_, -, session, found, result⟩ := cancelled
  cases result
  exact ⟨⟨session, getOpenStockCountSession_eq_ok found⟩, rfl, rfl, rfl⟩

/-- Where a count is written: over the line of its item and location, or after
the other lines when there is none. -/
def StoresLine (state : StockState) (session : StockCountSession)
    (line : StockCountLine) (after : StockState) : Prop :=
  ((∀ other ∈ state.counts line.sessionId, other.itemId = line.itemId ->
        other.locationId ≠ line.locationId) ∧
      line.id = state.nextLineId ∧
      after = { state.storeSession session with
        countLines := state.countLines ++ [line]
        nextLineId := state.nextLineId + 1 }) ∨
    ∃ earlier ∈ state.countLines,
      earlier.sessionId = line.sessionId ∧ earlier.itemId = line.itemId ∧
        earlier.locationId = line.locationId ∧ earlier.id = line.id ∧
        after = { state.storeSession session with
          countLines :=
            Table.replace StockCountLine.id line state.countLines }

structure RecordsCount
    (state : StockState) (sessionId itemId : Int) (locationId : Option Int)
    (after : StockState) (line : StockCountLine) : Prop where
  session : line.sessionId = sessionId
  item : line.itemId = itemId
  location : line.locationId = locationId
  nonneg : 0 ≤ line.countedQuantity
  opened : ∃ session, state.countSessions sessionId = some session ∧
    session.status = .opened
  version : ∃ item, state.items itemId = some item ∧ item.movementVersion = line.movementVersion
  unmixed : ∀ other ∈ state.counts sessionId, other.itemId = itemId ->
    (other.locationId = none ↔ locationId = none)
  stored : ∃ session, session.id = sessionId ∧ session.status = .opened ∧
    StoresLine state session line after

theorem normalizeStockCountQuantity_eq_ok {countedQuantity : ℚ} {quantity : Int}
    (normalized : normalizeStockCountQuantity countedQuantity = .ok quantity) : 0 ≤ quantity := by
  unfold normalizeStockCountQuantity at normalized
  simp only [bind_eq_ok, raiseIf_eq_ok, not_lt, pure_eq_ok] at normalized
  obtain ⟨_, nonneg, _, -, _, -, rfl⟩ := normalized
  apply Int.floor_nonneg.mpr
  linarith

theorem recordStockCount_eq_ok {itemId countedByUserId : Int} {locationId : Option Int}
    {countedQuantity : ℚ}
    (recorded : recordStockCount env state sessionId itemId locationId
      countedQuantity countedByUserId = .ok (after, line)) :
    RecordsCount state sessionId itemId locationId after line := by
  unfold recordStockCount at recorded
  simp only [bind_eq_ok, raiseIf_eq_ok, pure_eq_ok] at recorded
  obtain ⟨quantity, isQuantity, session, isSession, _, -, item, isItem, _, -,
    _, areUnmixed, system, -, _, -, _, -, result⟩ := recorded
  have nonneg := normalizeStockCountQuantity_eq_ok isQuantity
  have opened := getOpenStockCountSession_eq_ok isSession
  have version := (getItem_eq_ok isItem).1
  have unmixed : ∀ other ∈ state.counts sessionId, other.itemId = itemId ->
      (other.locationId = none ↔ locationId = none) := by
    unfold checkUnmixed at areUnmixed
    simp only [raiseIf_eq_ok, not_exists, not_and, not_not] at areUnmixed
    intro other member ofItem
    exact areUnmixed other (List.mem_filter.mpr ⟨member, decide_eq_true ofItem⟩)
  let counted : StockCountSession :=
    { session with id := sessionId, counterUserId := some countedByUserId }
  unfold StockState.storeLine at result
  split at result
  · next none =>
    cases result
    refine ⟨rfl, rfl, rfl, nonneg, ⟨session, opened⟩, ⟨item, version, rfl⟩,
      unmixed, counted, rfl, opened.2, .inl ⟨?_, rfl, rfl⟩⟩
    intro other member ofItem
    have absent := List.find?_eq_none.mp none other
      (List.mem_filter.mpr ⟨member, decide_eq_true ofItem⟩)
    rwa [decide_eq_true_eq] at absent
  · next earlier found =>
    cases result
    have sameLocation := List.find?_some found
    have member := List.mem_of_find?_eq_some found
    rw [decide_eq_true_eq] at sameLocation
    unfold StockState.counts at member
    simp only [List.mem_filter, decide_eq_true_eq] at member
    exact ⟨rfl, rfl, rfl, nonneg, ⟨session, opened⟩, ⟨item, version, rfl⟩,
      unmixed, counted, rfl, opened.2, .inr ⟨earlier, member.1.1,
        member.1.2, member.2, sameLocation, rfl, rfl⟩⟩

end

end HotelPms.Stock
