import HotelPms.Stays.RoomReverts

/-!
# What a revert restores

The moves of a group stand between two states of the hotel.  Taking back the
last of them leaves the state between which the others stand, as long as its
original room is open and no earlier move of the group has gone into it.  A
revert of any group writes a room only where it is free, so that it never
double books one.
-/

namespace HotelPms.Stays

open Hotel HalfOpen Checked Booking

/-- A row differs from another in its room at most, as far as a revert
reads. -/
structure SameStay (before after : Reservation) : Prop where
  id : after.id = before.id
  stay : after.stay = before.stay
  status : after.status = before.status
  deletedAt : after.deletedAt = before.deletedAt
  numAdults : after.numAdults = before.numAdults
  numChildren : after.numChildren = before.numChildren

theorem SameStay.refl (reservation : Reservation) : SameStay reservation reservation :=
  ⟨rfl, rfl, rfl, rfl, rfl, rfl⟩

theorem SameStay.active_iff {before after : Reservation}
    (same : SameStay before after) : after.Active ↔ before.Active := by
  unfold Reservation.Active
  rw [same.status, same.deletedAt]

theorem SameStay.guestCount {before after : Reservation}
    (same : SameStay before after) (surroundings : Surroundings) :
    reservationActualGuestCount surroundings after =
      reservationActualGuestCount surroundings before := by
  unfold reservationActualGuestCount
  rw [same.numAdults, same.numChildren, same.id]

theorem SameStay.movedReservation {before after : Reservation}
    (same : SameStay before after) (room : Room) :
    SameStay before (movedReservation after room) :=
  ⟨same.id, same.stay, same.status, same.deletedAt, same.numAdults, same.numChildren⟩

/-- The reservations of a state are those of an earlier one, in the rooms some
moves have given them. -/
structure MovedBy (before after : HotelState) (events : List RoomMoveEvent) :
    Prop where
  present : ∀ id old, before.reservation? id = some old -> ∃ row, after.reservation? id = some row
  rows : ∀ id row, after.reservation? id = some row ->
    ∃ old, before.reservation? id = some old ∧ SameStay old row ∧
      row.roomId = (roomGiven events id).or old.roomId

/-- Each reservation is moved once, from the room it was in. -/
structure MovesFrom (before : HotelState) (events : List RoomMoveEvent) :
    Prop where
  distinct : (events.map RoomMoveEvent.reservationId).Nodup
  sources : ∀ event ∈ events, ∃ old, before.reservation? event.reservationId = some old ∧
      old.roomId = event.fromRoomId

section Lookups

variable {events : List RoomMoveEvent} {event : RoomMoveEvent} {id : Int}

theorem roomGiven_eq_some {roomId : Int} (moved : roomGiven events id = some roomId) :
    ∃ event ∈ events, event.reservationId = id ∧ event.toRoomId = roomId := by
  obtain ⟨event, found, toRoom⟩ := Option.map_eq_some_iff.mp moved
  have sameId := List.find?_some found
  rw [decide_eq_true_iff] at sameId
  exact ⟨event, List.mem_of_find?_eq_some found, sameId, toRoom⟩

theorem roomGiven_eq_none (absent : id ∉ events.map RoomMoveEvent.reservationId) :
    roomGiven events id = none := by
  unfold roomGiven
  rw [List.find?_eq_none.mpr, Option.map_none]
  intro event member same
  rw [decide_eq_true_iff] at same
  exact absent (same ▸ List.mem_map_of_mem member)

theorem roomGiven_append (fresh : event.reservationId ∉ events.map RoomMoveEvent.reservationId) :
    roomGiven (events ++ [event]) id =
      if id = event.reservationId then some event.toRoomId
      else roomGiven events id := by
  have unmoved := roomGiven_eq_none fresh
  unfold roomGiven at unmoved ⊢
  rw [List.find?_append]
  by_cases same : id = event.reservationId
  · subst same
    rw [Option.map_eq_none_iff.mp unmoved]
    simp
  · rw [if_neg same]
    have other : ([event].find? (·.reservationId = id)) =
        none :=
      List.find?_eq_none.mpr fun _ member equal => by
        rw [List.mem_singleton.mp member, decide_eq_true_iff] at equal
        exact same equal.symm
    rw [other, Option.or_none]

theorem MovesFrom.last {before : HotelState} (moves : MovesFrom before (events ++ [event])) :
    MovesFrom before events ∧ event.reservationId ∉ events.map RoomMoveEvent.reservationId := by
  have distinct := moves.distinct
  rw [List.map_append, List.nodup_append] at distinct
  obtain ⟨distinct, -, apart⟩ := distinct
  refine ⟨⟨distinct, fun other member =>
    moves.sources other (List.mem_append_left _ member)⟩, fun member => ?_⟩
  exact apart _ member _ (List.mem_singleton.mpr rfl) rfl

end Lookups

/-! ## Taking back one move -/

/-- The original room of a move can take its reservation back. -/
structure Undoable (before after : HotelState) (surroundings : Surroundings)
    (event : RoomMoveEvent) (reservation : Reservation) (room : Room)
    (category : RoomCategory) : Prop where
  found : before.reservation? event.reservationId = some reservation
  active : reservation.Active
  status : reservation.status ∉ unrevertedStatuses
  source : event.fromRoomId = some room.id
  roomFound : after.room? room.id = some room
  reservable : roomReservable room = true
  categoryFound : after.category? room.categoryId = some category
  occupancy : validateReservationOccupancy category
    (reservationActualGuestCount surroundings reservation) 0 = .ok ()
  unblocked : roomHasActiveBlock after room.id reservation.stay = false

/-- An earlier move of a group does not go, over overlapping nights, into the
room that a later one has left. -/
def KeepsClear (before : HotelState) (earlier later : RoomMoveEvent) : Prop :=
  some earlier.toRoomId = later.fromRoomId ->
    ∀ first second, before.reservation? earlier.reservationId = some first ->
      before.reservation? later.reservationId = some second -> ¬Overlap first.stay second.stay

section Step

variable {before after : HotelState} {surroundings : Surroundings}
  {earlier : List RoomMoveEvent} {event : RoomMoveEvent}
  {reservation row : Reservation} {room : Room} {category : RoomCategory}

variable {current : HotelState}

theorem no_other_in_original_room (safe : before.NoDoubleBooking)
    (moved : MovedBy before current (earlier ++ [event]))
    (moves : MovesFrom before (earlier ++ [event]))
    (clear : ∀ first ∈ earlier, KeepsClear before first event)
    (undoable : Undoable before after surroundings event reservation room category)
    {other : Reservation} (member : other ∈ current.reservations)
    (active : other.Active) (inRoom : other.roomId = some room.id)
    (different : other.id ≠ reservation.id) :
    ¬Overlap other.stay reservation.stay := by
  obtain ⟨earlierMoves, fresh⟩ := moves.last
  have ownId := (HotelState.reservation?_eq_some undoable.found).2
  obtain ⟨old, stored, same, placed⟩ := moved.rows other.id other
    (current.reservation?_eq_some_of_mem member)
  rw [roomGiven_append fresh, if_neg fun equal =>
    different (equal.trans ownId.symm), inRoom] at placed
  rw [same.stay]
  cases moved : roomGiven earlier other.id with
  | some roomId =>
    obtain ⟨first, firstIn, firstId, toRoom⟩ := roomGiven_eq_some moved
    rw [moved, Option.some_or] at placed
    obtain rfl : room.id = roomId := Option.some.inj placed
    refine clear first firstIn ?_ old reservation ?_ undoable.found
    · rw [toRoom, undoable.source]
    · rw [firstId]
      exact stored
  | none =>
    rw [moved, Option.none_or] at placed
    obtain ⟨source, sourceFound, sourceRoom⟩ := moves.sources event (List.mem_concat_self)
    rw [undoable.found] at sourceFound
    cases sourceFound
    rw [undoable.source] at sourceRoom
    obtain ⟨oldIn, oldId⟩ := HotelState.reservation?_eq_some stored
    obtain ⟨reservationIn, -⟩ := HotelState.reservation?_eq_some undoable.found
    refine safe old ⟨oldIn, same.active_iff.mp active⟩ reservation
      ⟨reservationIn, undoable.active⟩ ?_ room.id placed.symm sourceRoom
    rintro rfl
    exact different oldId.symm

theorem revertConflict?_eq_none (safe : before.NoDoubleBooking)
    (moved : MovedBy before current (earlier ++ [event]))
    (moves : MovesFrom before (earlier ++ [event]))
    (clear : ∀ first ∈ earlier, KeepsClear before first event)
    (sameRooms : current.rooms = after.rooms)
    (sameBlocks : current.blocks = after.blocks)
    (sameCategories : current.categories = after.categories)
    (undoable : Undoable before after surroundings event reservation room category)
    (rowIn : row ∈ current.reservations) (same : SameStay reservation row)
    (atTarget : row.roomId = some event.toRoomId)
    (elsewhere : row.roomId ≠ some room.id) :
    revertConflict? current surroundings event row room = none := by
  have noOther : ∀ other ∈ current.reservations, other.Active ->
      other.roomId = some room.id -> ¬Overlap other.stay row.stay := by
    intro other member active inRoom
    rw [same.stay]
    by_cases own : other.id = reservation.id
    · have isRow := current.reservation_eq_of_id_eq member rowIn (own.trans same.id.symm)
      exact absurd (isRow ▸ inRoom) elsewhere
    · exact no_other_in_original_room safe moved moves clear undoable member active inRoom own
  have roomFound : current.room? room.id = some room := by
    unfold HotelState.room?
    rw [sameRooms]
    exact undoable.roomFound
  have categoryFound : current.category? room.categoryId = some category := by
    unfold HotelState.category?
    rw [sameCategories]
    exact undoable.categoryFound
  have unblocked : roomHasActiveBlock current room.id row.stay = false := by
    unfold roomHasActiveBlock
    rw [sameBlocks, same.stay]
    exact undoable.unblocked
  have noConflicts : activeReservationConflicts current room.id row.stay row.id = [] := by
    refine List.filter_eq_nil_iff.mpr fun other member conflict => ?_
    rw [decide_eq_true_iff] at conflict
    exact noOther other member conflict.1 conflict.2.1 conflict.2.2.1
  have available : checkRoomAvailability current room.id row.stay (some row.id) = .ok true := by
    refine checkRoomAvailability_of_open row.datesOrdered roomFound undoable.reservable unblocked ?_
    refine List.filter_eq_nil_iff.mpr fun other member conflict => ?_
    rw [decide_eq_true_iff] at conflict
    exact noOther other member conflict.1 conflict.2.1 conflict.2.2.1
  have usable : ¬(room.isActive = false ∨ room.deletedAt ≠ none ∨
      room.status = .maintenance ∨ room.status = .blocked) := by
    have reservable := undoable.reservable
    unfold roomReservable at reservable
    simp only [Bool.and_eq_true, Option.isNone_iff_eq_none, decide_eq_true_eq] at reservable
    obtain ⟨⟨present, isActive⟩, status⟩ := reservable
    rintro (inactive | deleted | maintenance | blocked)
    · exact absurd (isActive.symm.trans inactive) (by decide)
    · exact deleted present
    · rw [maintenance] at status
      exact absurd status (by decide)
    · rw [blocked] at status
      exact absurd status (by decide)
  unfold revertConflict?
  rw [same.status, if_neg undoable.status, if_neg (not_not_intro atTarget), categoryFound]
  dsimp only
  rw [if_neg usable, same.guestCount, if_neg (not_not_intro undoable.occupancy), if_neg]
  rintro (some | refused)
  · exact some noConflicts
  · exact refused available

theorem MovedBy.taken_back (moved : MovedBy before current (earlier ++ [event]))
    (moves : MovesFrom before (earlier ++ [event]))
    (rowFound : current.reservation? event.reservationId = some row)
    (source : event.fromRoomId = some room.id) :
    MovedBy before (current.replaceReservation (movedReservation row room)) earlier := by
  obtain ⟨-, fresh⟩ := moves.last
  have rowId := (HotelState.reservation?_eq_some rowFound).2
  have stored : current.reservation? row.id = some row := by
    rw [rowId]
    exact rowFound
  have rows := HotelState.reservation?_overwritten (movedReservation row room) stored rfl
  constructor
  · intro id old found
    rw [rows]
    split_ifs
    · exact ⟨_, rfl⟩
    · exact moved.present id old found
  · intro id written found
    rw [rows] at found
    split_ifs at found with own
    · cases found
      rw [own, rowId] at *
      obtain ⟨old, oldFound, same, -⟩ := moved.rows _ row rowFound
      obtain ⟨source', sourceFound, sourceRoom⟩ := moves.sources event (List.mem_concat_self)
      rw [oldFound] at sourceFound
      cases sourceFound
      refine ⟨old, oldFound, same.movedReservation room, ?_⟩
      rw [roomGiven_eq_none fresh, Option.none_or, sourceRoom, source]
      rfl
    · obtain ⟨old, oldFound, same, placed⟩ := moved.rows id written found
      rw [roomGiven_append fresh, if_neg fun equal => own (equal.trans rowId.symm)] at placed
      exact ⟨old, oldFound, same, placed⟩

/-- The moves but the last stand between the states if the last one has gone
nowhere. -/
theorem MovedBy.in_place (moved : MovedBy before current (earlier ++ [event]))
    (moves : MovesFrom before (earlier ++ [event]))
    (source : event.fromRoomId = some event.toRoomId) :
    MovedBy before current earlier := by
  obtain ⟨-, fresh⟩ := moves.last
  refine ⟨moved.present, fun id written found => ?_⟩
  obtain ⟨old, oldFound, same, placed⟩ := moved.rows id written found
  refine ⟨old, oldFound, same, ?_⟩
  rw [roomGiven_append fresh] at placed
  split_ifs at placed with own
  · subst own
    obtain ⟨source', sourceFound, sourceRoom⟩ := moves.sources event (List.mem_concat_self)
    rw [oldFound] at sourceFound
    cases sourceFound
    rw [roomGiven_eq_none fresh, placed, Option.none_or, sourceRoom, source]
    rfl
  · exact placed

/-- A revert that has taken back the moves after some of a group: these stand
between the states, and nothing else has changed. -/
structure RevertedTo (before after : HotelState)
    (events : List RoomMoveEvent) (progress : RevertProgress) : Prop where
  moved : MovedBy before progress.state events
  rooms : progress.state.rooms = after.rooms
  blocks : progress.state.blocks = after.blocks
  categories : progress.state.categories = after.categories
  conflicts : progress.conflicts = []

/-- One round takes back the last move. -/
theorem revertEvent_eq_ok {progress : RevertProgress} (safe : before.NoDoubleBooking)
    (reverted : RevertedTo before after (earlier ++ [event]) progress)
    (moves : MovesFrom before (earlier ++ [event]))
    (clear : ∀ first ∈ earlier, KeepsClear before first event)
    (undoable : Undoable before after surroundings event reservation room category) :
    ∃ next, revertEvent surroundings progress event = .ok next ∧
      RevertedTo before after earlier next := by
  obtain ⟨moved, sameRooms, sameBlocks, sameCategories, none⟩ := reverted
  obtain ⟨-, fresh⟩ := moves.last
  obtain ⟨row, rowFound⟩ := moved.present _ _ undoable.found
  obtain ⟨old, oldFound, same, placed⟩ := moved.rows _ row rowFound
  rw [undoable.found] at oldFound
  cases oldFound
  rw [roomGiven_append fresh, if_pos rfl, Option.some_or] at placed
  have roomFound : progress.state.room? room.id = some room := by
    unfold HotelState.room?
    rw [sameRooms]
    exact undoable.roomFound
  have taken : revertEvent surroundings progress event =
      .ok (revertMove surroundings progress event row room) := by
    unfold revertEvent
    rw [undoable.source]
    dsimp only
    rw [rowFound]
    rw [roomFound]
  refine ⟨_, taken, ?_⟩
  unfold revertMove
  by_cases inPlace : row.roomId = some room.id
  · rw [if_pos inPlace]
    refine ⟨moved.in_place moves ?_, sameRooms, sameBlocks, sameCategories, none⟩
    rw [undoable.source, ← inPlace, placed]
  · rw [if_neg inPlace, revertConflict?_eq_none safe moved moves clear sameRooms sameBlocks
      sameCategories undoable (HotelState.reservation?_eq_some rowFound).1 same placed inPlace]
    exact ⟨moved.taken_back moves rowFound undoable.source, sameRooms,
      sameBlocks, sameCategories, none⟩

end Step

/-! ## Taking back a group -/

section Group

variable {before after : HotelState} {surroundings : Surroundings}

/-- The moves of a group can be taken back in turn. -/
structure GroupUndoable (before after : HotelState)
    (surroundings : Surroundings) (events : List RoomMoveEvent) : Prop where
  undoable : ∀ event ∈ events, ∃ reservation room category,
    Undoable before after surroundings event reservation room category
  clear : events.Pairwise (KeepsClear before)

theorem foldlM_revertEvent_eq_ok (safe : before.NoDoubleBooking)
    {events : List RoomMoveEvent} {progress : RevertProgress}
    (reverted : RevertedTo before after events progress)
    (moves : MovesFrom before events)
    (undoable : GroupUndoable before after surroundings events) :
    ∃ final, events.reverse.foldlM (revertEvent surroundings) progress = .ok final ∧
        RevertedTo before after [] final := by
  induction events using List.reverseRecOn generalizing progress with
  | nil => exact ⟨progress, rfl, reverted⟩
  | append_singleton earlier event ih =>
    obtain ⟨reservation, room, category, last⟩ := undoable.undoable event (List.mem_concat_self)
    obtain ⟨clearEarlier, -, clearLast⟩ := List.pairwise_append.mp undoable.clear
    obtain ⟨next, taken, revertedNext⟩ := revertEvent_eq_ok safe reverted
      moves (fun first member => clearLast first member event (List.mem_singleton.mpr rfl)) last
    obtain ⟨final, rest, revertedAll⟩ := ih revertedNext moves.last.1 ⟨fun other member =>
      undoable.undoable other (List.mem_append_left _ member), clearEarlier⟩
    refine ⟨final, ?_, revertedAll⟩
    rw [List.reverse_append, List.reverse_singleton, List.singleton_append, List.foldlM_cons, taken]
    exact rest

/-- A group is the one a grouped move or an applied allocation has made
between two states. -/
inductive Produces (before after : HotelState) (group : MovementGroup) : Prop
  | moved {surroundings : Surroundings} {reservation : Reservation}
      {toRoom : Room} {groupId : Int}
      (member : reservation ∈ before.reservations)
      (made : createMovementGroup before surroundings reservation toRoom
        groupId = .ok (after, group)) :
      Produces before after group
  | applied {result : AllocationResult} {approvals : List Int}
      {groupId : Int}
      (made : applyAllocationResult before result approvals groupId = .ok (after, some group)) :
      Produces before after group

variable {state : HotelState} {group : MovementGroup}

theorem reservation?_assignRooms {chosen : Int -> Option Int} {id : Int}
    {old : Reservation} (found : state.reservation? id = some old) :
    (state.assignRooms chosen).reservation? id = some (old.inRoom ((chosen id).or old.roomId)) := by
  obtain ⟨member, rfl⟩ := HotelState.reservation?_eq_some found
  exact HotelState.reservation?_eq_some_of_mem _ (HotelState.mem_assignRooms.mpr ⟨old, member, rfl⟩)

theorem candidateMoves_movesFrom (result : AllocationResult) :
    MovesFrom before (candidateMoves before result) := by
  have ofAssignment : ∀ {assignment : Int × Int} {event : RoomMoveEvent},
      candidateMove before assignment = some event -> event.reservationId = assignment.1 ∧ ∃ old,
          before.reservation? event.reservationId = some old ∧ old.roomId = event.fromRoomId := by
    intro assignment event moves
    obtain ⟨reservation, selected, rfl⟩ := Option.map_eq_some_iff.mp moves
    obtain ⟨active, -⟩ := Option.filter_eq_some_iff.mp selected
    obtain ⟨found, -⟩ := Option.filter_eq_some_iff.mp active
    have sameId := (HotelState.reservation?_eq_some found).2
    refine ⟨sameId, reservation, ?_, rfl⟩
    rw [← sameId] at found
    exact found
  constructor
  · refine List.pairwise_map.mpr ?_
    refine List.Pairwise.filterMap (candidateMove before) ?_ (List.pairwise_map.mp result.distinct)
    intro assignment other different event moves otherEvent otherMoves same
    rw [(ofAssignment moves).1, (ofAssignment otherMoves).1] at same
    exact different same
  · intro event member
    obtain ⟨assignment, -, moves⟩ := List.mem_filterMap.mp member
    exact (ofAssignment moves).2

/-- The moves of a group stand between the state it was made in and the one it
has left. -/
theorem Produces.movedBy (produced : Produces before after group) :
    MovesFrom before group.events ∧ MovedBy before after group.events ∧
      group.events ≠ [] ∧ group.isReverted = false := by
  cases produced with
  | @moved surroundings reservation toRoom groupId member made =>
    obtain ⟨moved, written, made⟩ := bind_eq_ok.mp made
    obtain ⟨rfl, rfl⟩ := Prod.mk.inj (pure_eq_ok.mp made)
    have stored := before.reservation?_eq_some_of_mem member
    have rows : ∀ id, moved.reservation? id =
        if id = reservation.id then
          some (movedReservation reservation toRoom)
        else before.reservation? id := by
      intro id
      unfold HotelState.reservation?
      rw [(createGroupedRoomMove_eq_ok written).1]
      exact HotelState.reservation?_overwritten (movedReservation reservation toRoom) stored rfl id
    refine ⟨⟨List.nodup_singleton _, fun event isEvent => ?_⟩, ⟨?_, ?_⟩, List.cons_ne_nil _ _, rfl⟩
    · rw [List.mem_singleton.mp isEvent]
      exact ⟨reservation, stored, rfl⟩
    · intro id old found
      rw [rows]
      split_ifs
      · exact ⟨_, rfl⟩
      · exact ⟨old, found⟩
    · intro id row found
      rw [rows] at found
      split_ifs at found with own
      · cases found
        subst own
        refine ⟨reservation, stored, (SameStay.refl reservation).movedReservation toRoom, ?_⟩
        simp [roomGiven]
      · refine ⟨row, found, .refl row, ?_⟩
        rw [roomGiven_eq_none, Option.none_or]
        simpa using own
  | @applied result approvals groupId made =>
    obtain ⟨_, -, made⟩ := bind_eq_ok.mp made
    obtain ⟨_, -, made⟩ := bind_eq_ok.mp made
    obtain ⟨_, -, made⟩ := bind_eq_ok.mp made
    obtain ⟨rfl, isGroup⟩ := Prod.mk.inj (pure_eq_ok.mp made)
    split_ifs at isGroup with noMoves
    cases isGroup
    refine ⟨candidateMoves_movesFrom result, ⟨?_, ?_⟩, noMoves, rfl⟩
    · exact fun id old found => ⟨_, reservation?_assignRooms found⟩
    · intro id row found
      cases old : before.reservation? id with
      | none =>
        obtain ⟨rowIn, rowId⟩ := HotelState.reservation?_eq_some found
        obtain ⟨original, originalIn, isRow⟩ := HotelState.mem_assignRooms.mp rowIn
        have sameId : original.id = id := by
          rw [← rowId, isRow]
          rfl
        have stored := before.reservation?_eq_some_of_mem originalIn
        rw [sameId, old] at stored
        cases stored
      | some original =>
        rw [reservation?_assignRooms old] at found
        cases found
        exact ⟨original, rfl, ⟨rfl, rfl, rfl, rfl, rfl, rfl⟩, rfl⟩

/-- A group that is reverted to the state before it. -/
structure Restored (before : HotelState) (group : MovementGroup)
    (outcome : RevertProgress × MovementGroup) : Prop where
  noConflicts : outcome.1.conflicts = []
  isReverted : outcome.2.isReverted = true
  restored : ∀ event ∈ group.events, ∃ old row, before.reservation? event.reservationId = some old ∧
      outcome.1.state.reservation? event.reservationId = some row ∧
      row.roomId = old.roomId

theorem revertGroup_restores {canManageCompanyReservations : Bool}
    (safe : before.NoDoubleBooking) (produced : Produces before after group)
    (permitted : canManageCompanyReservations = true ∨
      ¬groupHasCompanyReservations after group.events)
    (undoable : GroupUndoable before after surroundings group.events) :
    ∃ outcome, revertGroup after surroundings group canManageCompanyReservations = .ok outcome ∧
      Restored before group outcome := by
  obtain ⟨moves, moved, someMoves, notReverted⟩ := produced.movedBy
  have start : RevertedTo before after group.events { state := after } :=
    ⟨moved, rfl, rfl, rfl, rfl⟩
  obtain ⟨final, folded, reverted⟩ := foldlM_revertEvent_eq_ok safe start moves undoable
  have linked : ¬∃ event ∈ group.events, after.reservation? event.reservationId = none := by
    rintro ⟨event, member, absent⟩
    obtain ⟨old, found, -⟩ := moves.sources event member
    obtain ⟨row, present⟩ := moved.present _ old found
    rw [absent] at present
    cases present
  have allowed : ¬(canManageCompanyReservations = false ∧
      groupHasCompanyReservations after group.events) := by
    rintro ⟨cannot, company⟩
    rcases permitted with can | noCompany
    · exact absurd (can.symm.trans cannot) (by decide)
    · exact noCompany company
  have performed : revertGroup after surroundings group
      canManageCompanyReservations = .ok (final, { group with
        isReverted := decide (final.conflicts = []) }) := by
    unfold revertGroup
    rw [folded]
    unfold raiseIf
    rw [notReverted, if_neg (by decide), if_neg someMoves, if_neg linked, if_neg allowed]
    rfl
  refine ⟨_, performed, reverted.conflicts,
    decide_eq_true reverted.conflicts, fun event member => ?_⟩
  obtain ⟨old, found, -⟩ := moves.sources event member
  obtain ⟨row, present⟩ := reverted.moved.present _ old found
  obtain ⟨original, isOriginal, -, placed⟩ := reverted.moved.rows _ row present
  rw [found] at isOriginal
  cases isOriginal
  exact ⟨old, row, found, present, placed⟩

theorem available_of_revertConflict?_eq_none {event : RoomMoveEvent} {reservation : Reservation}
    {room : Room}
    (unobjected : revertConflict? state surroundings event reservation room = none) :
    checkRoomAvailability state room.id reservation.stay (some reservation.id) = .ok true := by
  unfold revertConflict? at unobjected
  split at unobjected
  · cases unobjected
  split at unobjected
  · cases unobjected
  split at unobjected
  · cases unobjected
  split at unobjected
  · cases unobjected
  split at unobjected
  · cases unobjected
  split at unobjected
  · cases unobjected
  next accepted =>
    by_contra refused
    exact accepted (.inr refused)

theorem revertEvent_noDoubleBooking {progress next : RevertProgress} {event : RoomMoveEvent}
    (safe : progress.state.NoDoubleBooking)
    (taken : revertEvent surroundings progress event = .ok next) :
    next.state.NoDoubleBooking := by
  unfold revertEvent at taken
  split at taken
  · cases taken
  split at taken
  · cases taken
  split at taken
  · cases taken
  next reservation found room roomFound =>
    cases taken
    unfold revertMove
    split
    · exact safe
    split
    · exact safe
    next unobjected =>
      refine safe.replaceReservation fun roomId held active => ?_
      cases held
      have available := available_of_revertConflict?_eq_none unobjected
      exact checkRoomAvailability_eq_ok available

theorem revertGroup_noDoubleBooking {canManageCompanyReservations : Bool}
    {outcome : RevertProgress × MovementGroup} (safe : state.NoDoubleBooking)
    (reverted : revertGroup state surroundings group canManageCompanyReservations = .ok outcome) :
    outcome.1.state.NoDoubleBooking := by
  obtain ⟨_, -, reverted⟩ := bind_eq_ok.mp reverted
  obtain ⟨_, -, reverted⟩ := bind_eq_ok.mp reverted
  obtain ⟨_, -, reverted⟩ := bind_eq_ok.mp reverted
  obtain ⟨_, -, reverted⟩ := bind_eq_ok.mp reverted
  obtain ⟨progress, folded, reverted⟩ := bind_eq_ok.mp reverted
  cases reverted
  exact foldlM_invariant (·.state.NoDoubleBooking) safe
    (fun _ safe taken => revertEvent_noDoubleBooking safe taken) folded

end Group

section Example

/-- A stay of two nights in a room. -/
def stayIn (id roomId : Int) : Reservation where
  id := id
  roomId := some roomId
  categoryId := 1
  checkInDate := 20
  checkOutDate := 22
  datesOrdered := by decide

/-- Three rooms, and stays of the same nights in the first two. -/
def chainHotel : HotelState where
  reservations := [stayIn 1 1, stayIn 2 2]
  distinctReservations := by decide
  rooms := [{ id := 1, categoryId := 1 }, { id := 2, categoryId := 1 },
    { id := 3, categoryId := 1 }]
  distinctRooms := by decide
  categories := [{ id := 1, maxOccupancy := 2 }]

/-- The second stay goes to the free room, and the first into its place. -/
def chain : AllocationResult where
  assignments := [(2, 3), (1, 2)]
  distinct := by decide

def chainGroup : MovementGroup where
  id := 1
  events := [ { reservationId := 2, fromRoomId := some 2, toRoomId := 3 },
    { reservationId := 1, fromRoomId := some 1, toRoomId := 2 }]

def chainMoved : HotelState :=
  chainHotel.assignRooms (roomGiven chainGroup.events)

theorem chainHotel_noDoubleBooking : chainHotel.NoDoubleBooking := by
  rintro first ⟨firstIn, -⟩ second ⟨secondIn, -⟩ different held inFirst inSecond
  have isFirst : first = stayIn 1 1 ∨ first = stayIn 2 2 := by
    simpa [chainHotel] using firstIn
  have isSecond : second = stayIn 1 1 ∨ second = stayIn 2 2 := by
    simpa [chainHotel] using secondIn
  rcases isFirst with rfl | rfl <;> rcases isSecond with rfl | rfl <;> simp_all [stayIn]

theorem chain_produces : Produces chainHotel chainMoved chainGroup := by
  have made : applyAllocationResult chainHotel chain [] 1 = .ok (chainMoved, some chainGroup) := rfl
  exact .applied made

/-- Both moves of the chain can be taken back, the first stay's first. -/
theorem chain_groupUndoable : GroupUndoable chainHotel chainMoved {} chainGroup.events where
  undoable := by
    intro event member
    have isEvent : event = ⟨2, some 2, 3⟩ ∨ event = ⟨1, some 1, 2⟩ := by
      simpa [chainGroup] using member
    rcases isEvent with rfl | rfl
    · exact ⟨stayIn 2 2, { id := 2, categoryId := 1 },
        { id := 1, maxOccupancy := 2 }, by decide, by decide, by decide, rfl,
        by decide, by decide, by decide, by decide, by decide⟩
    · exact ⟨stayIn 1 1, { id := 1, categoryId := 1 },
        { id := 1, maxOccupancy := 2 }, by decide, by decide, by decide, rfl,
        by decide, by decide, by decide, by decide, by decide⟩
  clear := by
    refine List.Pairwise.cons ?_ (List.pairwise_singleton _ _)
    intro later member sameRoom
    rw [List.mem_singleton.mp member] at sameRoom
    cases sameRoom

/-- The two stays change rooms. -/
def exchange : AllocationResult where
  assignments := [(1, 2), (2, 1)]
  distinct := by decide

def exchangeGroup : MovementGroup where
  id := 1
  events := [ { reservationId := 1, fromRoomId := some 1, toRoomId := 2 },
    { reservationId := 2, fromRoomId := some 2, toRoomId := 1 }]

def exchangeMoved : HotelState :=
  chainHotel.assignRooms (roomGiven exchangeGroup.events)

end Example

end HotelPms.Stays
