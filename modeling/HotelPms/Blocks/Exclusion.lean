import HotelPms.Allocation.AcceptanceSafety
import HotelPms.Blocks.RoomBlocks

/-!
# Blocks and stays exclude each other

The unresolved blocks of a room never overlap one another, nor the active
stays assigned to the room.  Each block operation restores this: what a check
has found empty is what the written block could meet.  The queries cut an
indefinite block at the last day of the calendar, and read windows half-open;
a block that starts on that very day is therefore missed.
-/

namespace HotelPms.Blocks

open Hotel HalfOpen Checked Allocation

/-- No unresolved block of the reservation's room overlaps its stay. -/
def ClearOfBlocks (rows : List RoomBlockRow) (reservation : Reservation) : Prop :=
  ∀ row ∈ rows, row.Unresolved -> reservation.roomId = some row.roomId ->
    ¬Overlap row.window (stayWindow reservation)

/-- Every active stay is clear of the blocks. -/
def StaysClear (rows : List RoomBlockRow) (reservations : List Reservation) : Prop :=
  ∀ reservation ∈ reservations, reservation.Active -> ClearOfBlocks rows reservation

def unresolvedBlocks (rows : List RoomBlockRow) : Set RoomBlockRow :=
  {row | row ∈ rows ∧ row.Unresolved}

/-- Blocks of one room do not overlap, and no active stay overlaps a block of
its room. -/
structure Excluding (blocked : BlockedHotel) : Prop where
  blocks : Exclusive (fun row : RoomBlockRow => some row.roomId)
    RoomBlockRow.window (unresolvedBlocks blocked.blockRows)
  stays : StaysClear blocked.blockRows blocked.tables.reservations

/-- The dates of a hotel lie in the calendar. -/
structure InCalendar (blocked : BlockedHotel) : Prop where
  blocks : ∀ row ∈ blocked.blockRows, row.startsAt ≤ dateMax
  stays : ∀ reservation ∈ blocked.tables.reservations, reservation.checkOutDate ≤ dateMax

def HasLastDayBlock (blocked : BlockedHotel) (roomId : Int) : Prop :=
  ∃ row ∈ blocked.blockRows, row.roomId = roomId ∧ row.Unresolved ∧ row.startsAt = dateMax
deriving Decidable

/-- An indefinite block does not join a block of the last day. -/
def SeesEveryBlock (blocked : BlockedHotel) (data : RoomBlockCreate) : Prop :=
  data.endsAt = none -> ¬HasLastDayBlock blocked data.roomId
deriving Decidable

section Stays

variable {rows : List RoomBlockRow} {reservation : Reservation}

theorem stay_datesOrdered (reservation : Reservation) :
    ∀ last, some reservation.checkOutDate = some last -> reservation.checkInDate < last := by
  intro last same
  cases same
  exact reservation.datesOrdered

theorem ClearOfBlocks.of_roomId_eq_none (noRoom : reservation.roomId = none) :
    ClearOfBlocks rows reservation := by
  intro row _ _ assigned
  rw [noRoom] at assigned
  cases assigned

theorem ClearOfBlocks.congr {other : Reservation} (clear : ClearOfBlocks rows reservation)
    (sameRoom : other.roomId = reservation.roomId)
    (sameStay : other.stay = reservation.stay) : ClearOfBlocks rows other := by
  obtain ⟨sameStart, sameEnd⟩ := Prod.mk.inj sameStay
  intro row member unresolved assigned
  unfold stayWindow
  rw [sameStart, sameEnd]
  exact clear row member unresolved (sameRoom ▸ assigned)

theorem ClearOfBlocks.of_roomHasActiveBlock {blocked : BlockedHotel} {roomId : Int}
    (assigned : reservation.roomId = some roomId)
    (unblocked : Booking.roomHasActiveBlock blocked.hotel roomId reservation.stay = false) :
    ClearOfBlocks blocked.blockRows reservation := by
  intro row member unresolved inRoom
  rw [assigned] at inRoom
  exact BlockedHotel.roomHasActiveBlock_eq_false.mp unblocked row member
    (Option.some.inj inRoom).symm unresolved

theorem StaysClear.replaceReservation {state : HotelState}
    (clear : StaysClear rows state.reservations)
    (written : reservation.Active -> ClearOfBlocks rows reservation) :
    StaysClear rows (state.replaceReservation reservation).reservations := by
  intro other member active
  rcases HotelState.mem_replaceReservation member with rfl | ⟨old, -⟩
  · exact written active
  · exact clear other old active

theorem StaysClear.addReservation {state : HotelState}
    {fresh : reservation.id ∉ state.reservations.map Reservation.id}
    (clear : StaysClear rows state.reservations)
    (added : ClearOfBlocks rows reservation) :
    StaysClear rows (state.addReservation reservation fresh).reservations := by
  intro other member active
  rcases List.mem_cons.mp member with rfl | old
  · exact added
  · exact clear other old active

end Stays

theorem Excluding.withTables {blocked : BlockedHotel} {tables : HotelState}
    (excluding : Excluding blocked)
    (clear : StaysClear blocked.blockRows tables.reservations) :
    Excluding (blocked.withTables tables) :=
  ⟨excluding.blocks, clear⟩

section Create

variable {blocked after : BlockedHotel} {data : RoomBlockCreate}

theorem overlappingReservationsForBlock_eq_nil {roomId startsAt : Int} {endsAt : Option Int}
    (noneFound : blocked.overlappingReservationIdsForBlock roomId startsAt endsAt = []) :
    ∀ reservation ∈ blocked.tables.reservations, reservation.Active ->
      reservation.roomId = some roomId ->
        ¬Overlap reservation.stay (startsAt, endsAt.getD dateMax) := by
  intro reservation member active assigned overlap
  have listed : reservation.id ∈ blocked.overlappingReservationIdsForBlock roomId startsAt endsAt :=
    (KeySort.mem_sortByKey _ _).mpr (List.mem_map_of_mem
      (List.mem_filter.mpr ⟨member, decide_eq_true ⟨active, assigned, overlap⟩⟩))
  rw [noneFound] at listed
  cases listed

theorem raiseForConflicts_eq_ok {conflicts protectedIds : List Int}
    (passed : BlockedHotel.raiseForConflicts conflicts protectedIds = .ok ()) : conflicts = [] := by
  obtain ⟨-, -, noConflict⟩ := bind_eq_ok.mp passed
  rwa [raiseIf_eq_ok, not_not] at noConflict

theorem conflictEnd_of_validateRange (valid : data.validateRange = .ok ()) :
    data.conflictEnd = data.endsAt := by
  unfold RoomBlockCreate.validateRange at valid
  simp only [bind_eq_ok, raiseIf_eq_ok] at valid
  obtain ⟨-, -, -, -, consistent⟩ := valid
  unfold RoomBlockCreate.conflictEnd
  split_ifs with indefinite
  · by_contra hasEnd
    exact consistent ⟨indefinite, (hasEnd ·.symm)⟩
  · rfl

/-- What a creation has checked, and the block it writes. -/
theorem createBlock_eq_ok (created : blocked.createBlock data = .ok after) :
    blocked.overlappingReservationIdsForBlock data.roomId data.startsAt data.endsAt = [] ∧
      Booking.roomHasActiveBlock blocked.hotel data.roomId data.queryWindow = false ∧
      ∃ block : RoomBlock, after = blocked.insertBlock block ∧
        block.roomId = data.roomId ∧ block.startsAt = data.startsAt ∧
        block.endsAt = data.endsAt ∧ block.resolvedAt = none := by
  unfold BlockedHotel.createBlock BlockedHotel.createLockedBlock at created
  simp only [bind_eq_ok] at created
  obtain ⟨_, valid, _, -, _, -, _, -, _, noStay, _, noBlock, written⟩ := created
  have noConflict := raiseForConflicts_eq_ok noStay
  rw [conflictEnd_of_validateRange valid] at noConflict
  unfold BlockedHotel.checkNoActiveBlock at noBlock
  rw [raiseIf_eq_ok, Bool.not_eq_true] at noBlock
  unfold BlockedHotel.writeBlock at written
  split_ifs at written with ordered
  exact ⟨noConflict, noBlock, _, (Except.ok.inj written).symm, rfl, rfl, rfl, rfl⟩

theorem not_overlap_of_queryWindow {row block : RoomBlockRow}
    (startsAt : block.startsAt = data.startsAt)
    (endsAt : block.endsAt = data.endsAt)
    (clear : ¬Overlap row.window (openEnded data.startsAt (some (data.endsAt.getD dateMax))))
    (inCalendar : row.startsAt ≤ dateMax)
    (notLast : data.endsAt = none -> row.startsAt ≠ dateMax) :
    ¬Overlap row.window block.window := by
  intro overlap
  apply clear
  unfold RoomBlockRow.window at overlap ⊢
  rw [overlap_openEnded] at overlap ⊢
  rw [startsAt, endsAt] at overlap
  refine ⟨?_, overlap.2⟩
  rintro last same
  cases same
  cases hasEnd : data.endsAt with
  | none => exact lt_of_le_of_ne inCalendar (notLast hasEnd)
  | some finish => exact overlap.1 finish hasEnd

theorem not_overlap_stay_of_queryWindow {reservation : Reservation} {block : RoomBlockRow}
    (startsAt : block.startsAt = data.startsAt)
    (endsAt : block.endsAt = data.endsAt)
    (inCalendar : reservation.checkOutDate ≤ dateMax)
    (clear : ¬Overlap reservation.stay (data.startsAt, data.endsAt.getD dateMax)) :
    ¬Overlap block.window (stayWindow reservation) := by
  intro overlap
  apply clear
  unfold RoomBlockRow.window stayWindow at overlap
  rw [overlap_openEnded, startsAt, endsAt] at overlap
  refine ⟨?_, overlap.1 _ rfl⟩
  cases hasEnd : data.endsAt with
  | none => exact reservation.datesOrdered.trans_le inCalendar
  | some finish => exact overlap.2 finish hasEnd

theorem Excluding.insertBlock {block : RoomBlock}
    (excluding : Excluding blocked) (inCalendar : InCalendar blocked)
    (seesEvery : SeesEveryBlock blocked data)
    (room : block.roomId = data.roomId)
    (startsAt : block.startsAt = data.startsAt)
    (endsAt : block.endsAt = data.endsAt)
    (noStay : ∀ reservation ∈ blocked.tables.reservations,
      reservation.Active -> reservation.roomId = some data.roomId ->
        ¬Overlap reservation.stay (data.startsAt, data.endsAt.getD dateMax))
    (noBlock : ∀ row ∈ blocked.blockRows, row.roomId = data.roomId ->
      row.Unresolved -> ¬Overlap row.window
        (openEnded data.startsAt (some (data.endsAt.getD dateMax)))) :
    Excluding (blocked.insertBlock block) := by
  constructor
  · refine Exclusive.of_changed {({ block with id := blocked.nextBlockId } : RoomBlockRow)}
      excluding.blocks ?_ (fun _ _ _ _ => id) (fun _ _ _ _ => id) ?_
    · rintro row ⟨member, inForce⟩ unchanged
      rcases BlockedHotel.mem_insertBlock.mp member with old | rfl
      · exact ⟨old, inForce⟩
      · exact absurd rfl unchanged
    · rintro row - rfl other ⟨member, inForce⟩ different held itemHolds otherHolds overlap
      rcases BlockedHotel.mem_insertBlock.mp member with old | rfl
      · have sameRoom : other.roomId = data.roomId := by
          rw [← room]
          exact Option.some.inj (otherHolds.trans itemHolds.symm)
        refine not_overlap_of_queryWindow startsAt endsAt (noBlock other old sameRoom inForce)
          (inCalendar.blocks other old) ?_ overlap.symm
        intro indefinite last
        exact seesEvery indefinite ⟨other, old, sameRoom, inForce, last⟩
      · exact different rfl
  · intro reservation member active row rowIn inForce assigned
    rcases BlockedHotel.mem_insertBlock.mp rowIn with old | rfl
    · exact excluding.stays reservation member active row old inForce assigned
    · refine not_overlap_stay_of_queryWindow startsAt endsAt
        (inCalendar.stays reservation member) ?_
      exact noStay reservation member active (assigned.trans (congrArg some room))

theorem Excluding.createBlock (excluding : Excluding blocked)
    (inCalendar : InCalendar blocked) (seesEvery : SeesEveryBlock blocked data)
    (created : blocked.createBlock data = .ok after) : Excluding after := by
  obtain ⟨noStay, noBlock, block, rfl, room, startsAt, endsAt, -⟩ := createBlock_eq_ok created
  exact excluding.insertBlock inCalendar seesEvery room startsAt endsAt
    (overlappingReservationsForBlock_eq_nil noStay)
    (BlockedHotel.roomHasActiveBlock_eq_false.mp noBlock)

/-- Off the condition an accepted creation leaves two blocks that overlap. -/
theorem not_excluding_createBlock (startsAt : data.startsAt ≤ dateMax)
    (missed : ¬SeesEveryBlock blocked data)
    (created : blocked.createBlock data = .ok after) : ¬Excluding after := by
  intro excluding
  unfold SeesEveryBlock at missed
  push Not at missed
  obtain ⟨indefinite, row, member, sameRoom, unresolved, last⟩ := missed
  obtain ⟨-, -, block, rfl, room, start, finish, inForce⟩ := createBlock_eq_ok created
  have numbered := blocked.numbered.below row member
  have different : row ≠ { block with id := blocked.nextBlockId } := by
    intro same
    rw [same] at numbered
    exact lt_irrefl _ numbered
  refine excluding.blocks row ⟨BlockedHotel.mem_insertBlock.mpr (.inl member), unresolved⟩ _
    ⟨BlockedHotel.mem_insertBlock.mpr (.inr rfl), inForce⟩ different _ rfl
    (congrArg some (room.trans sameRoom.symm)) ?_
  unfold RoomBlockRow.window
  rw [overlap_openEnded]
  constructor
  · intro ends hasEnd
    rw [finish, indefinite] at hasEnd
    cases hasEnd
  · intro ends hasEnd
    have ordered := row.datesOrdered ends hasEnd
    show block.startsAt < ends
    omega

end Create

section Plan

variable {fingerprint : ReservationStatePayload -> String}
  {blocked moved after : BlockedHotel} {stored : StoredRun}
  {userId : Option Int}

theorem StaysClear.acceptAllocationRun
    {final : HotelState} {accepted : AllocationRun} {allowRoomBlockPlan : Bool}
    (clear : StaysClear blocked.blockRows blocked.tables.reservations)
    (acceptance : acceptAllocationRun fingerprint blocked.hotel stored.run ∅
      userId allowRoomBlockPlan = .ok (final, accepted)) :
    StaysClear blocked.blockRows final.reservations := by
  obtain ⟨-, ⟨rfl, -⟩ | ⟨-, proposals⟩⟩ := acceptAllocationRun_eq_ok acceptance
  · exact clear
  · obtain ⟨moves, moved⟩ := acceptProposals_eq_ok proposals
    intro reservation member active
    rw [moved.reservations] at member
    obtain ⟨original, originalIn, rfl⟩ := HotelState.mem_assignRooms.mp member
    cases target : movedRoom moves original.id with
    | none =>
      exact (clear original originalIn active).congr (by simp) (Reservation.inRoom_stay _ _)
    | some roomId =>
      obtain ⟨reservation, found, -, -, checked⟩ := moved.exists_of_movedRoom target
      obtain ⟨-, reservationIn, sameId, -⟩ := planReservation?_eq_some found
      obtain rfl := blocked.hotel.reservation_eq_of_id_eq reservationIn originalIn sameId
      have unblocked := (checkMove_eq_ok found checked).2.2
      intro row rowIn inForce assigned overlap
      have sameRoom : roomId = row.roomId := by simpa using assigned
      exact unblocked row.toRoomBlock (List.mem_map_of_mem rowIn)
        sameRoom.symm ⟨inForce, BlockedHotel.meets_iff.mpr overlap⟩

section

variable (acceptance : blocked.acceptPlan fingerprint stored userId = .ok moved)
include acceptance

theorem acceptPlan_eq_ok :
    ∃ final accepted, acceptAllocationRun fingerprint blocked.hotel stored.run ∅ userId true =
        .ok (final, accepted) ∧
      moved.tables = final ∧ moved.blockRows = blocked.blockRows := by
  unfold BlockedHotel.acceptPlan at acceptance
  cases outcome : acceptAllocationRun fingerprint blocked.hotel stored.run ∅ userId true with
  | error reason =>
    rw [outcome] at acceptance
    cases acceptance
  | ok result =>
    rw [outcome] at acceptance
    cases acceptance
    exact ⟨result.1, result.2, rfl, rfl, rfl⟩

theorem Excluding.acceptPlan (excluding : Excluding blocked) : Excluding moved := by
  obtain ⟨final, accepted, outcome, tables, rows⟩ := acceptPlan_eq_ok acceptance
  constructor
  · rw [rows]
    exact excluding.blocks
  · rw [rows, tables]
    exact excluding.stays.acceptAllocationRun outcome

theorem exists_of_mem_acceptPlan {reservation : Reservation}
    (member : reservation ∈ moved.tables.reservations) :
    ∃ original ∈ blocked.tables.reservations, original.stay = reservation.stay := by
  obtain ⟨final, accepted, outcome, rfl, -⟩ := acceptPlan_eq_ok acceptance
  obtain ⟨-, ⟨same, -⟩ | ⟨-, proposals⟩⟩ := acceptAllocationRun_eq_ok outcome
  · rw [same] at member
    exact ⟨reservation, member, rfl⟩
  · obtain ⟨moves, written⟩ := acceptProposals_eq_ok proposals
    rw [written.reservations] at member
    obtain ⟨original, originalIn, rfl⟩ := HotelState.mem_assignRooms.mp member
    exact ⟨original, originalIn, rfl⟩

theorem InCalendar.acceptPlan (inCalendar : InCalendar blocked) : InCalendar moved := by
  obtain ⟨-, -, -, -, rows⟩ := acceptPlan_eq_ok acceptance
  constructor
  · rw [rows]
    exact inCalendar.blocks
  · intro reservation member
    obtain ⟨original, originalIn, sameStay⟩ := exists_of_mem_acceptPlan acceptance member
    have ends : original.checkOutDate = reservation.checkOutDate :=
      congrArg Prod.snd sameStay
    rw [← ends]
    exact inCalendar.stays original originalIn

end

theorem createBlockWithAllocationPlan_eq_ok {data : RoomBlockCreate} {allocationRunId : Option Int}
    (created : blocked.createBlockWithAllocationPlan fingerprint data userId
      allocationRunId = .ok after) :
    blocked.createBlock data = .ok after ∨
      ∃ stored moved, blocked.acceptPlan fingerprint stored userId =
        .ok moved ∧ moved.createBlock data = .ok after := by
  obtain ⟨-, -, created⟩ := bind_eq_ok.mp created
  obtain ⟨conflicts, -, created⟩ := bind_eq_ok.mp created
  cases allocationRunId with
  | none =>
    obtain ⟨-, -, created⟩ := bind_eq_ok.mp created
    exact .inl created
  | some runId =>
    obtain ⟨stored, -, created⟩ := bind_eq_ok.mp created
    obtain ⟨moved, acceptance, created⟩ := bind_eq_ok.mp created
    exact .inr ⟨stored, moved, acceptance, created⟩

theorem Excluding.createBlockWithAllocationPlan
    {data : RoomBlockCreate} {allocationRunId : Option Int}
    (excluding : Excluding blocked) (inCalendar : InCalendar blocked)
    (seesEvery : SeesEveryBlock blocked data)
    (created : blocked.createBlockWithAllocationPlan fingerprint data userId
      allocationRunId = .ok after) : Excluding after := by
  rcases createBlockWithAllocationPlan_eq_ok created with direct |
    ⟨stored, moved, acceptance, afterPlan⟩
  · exact excluding.createBlock inCalendar seesEvery direct
  · obtain ⟨-, -, -, -, rows⟩ := acceptPlan_eq_ok acceptance
    refine (excluding.acceptPlan acceptance).createBlock
      (inCalendar.acceptPlan acceptance) ?_ afterPlan
    unfold SeesEveryBlock HasLastDayBlock at seesEvery ⊢
    rw [rows]
    exact seesEvery

end Plan

/-! ## Extending and resolving a block -/

section Change

variable {fingerprint : ReservationStatePayload -> String}
  {blocked cleared after : BlockedHotel} {row : RoomBlockRow}

theorem Excluding.resolve {now : Int} (excluding : Excluding blocked) :
    Excluding (blocked.replaceBlock { row with resolvedAt := some now }) := by
  have kept : ∀ other ∈ (blocked.replaceBlock { row with resolvedAt := some now }).blockRows,
      other.Unresolved -> other ∈ blocked.blockRows := by
    intro other member inForce
    rcases Table.mem_replace member with rfl | ⟨old, -⟩
    · cases inForce
    · exact old
  constructor
  · exact excluding.blocks.subset fun other member => ⟨kept other member.1 member.2, member.2⟩
  · intro reservation member active other otherIn inForce
    exact excluding.stays reservation member active other (kept other otherIn inForce) inForce

theorem Excluding.resolveBlock {blockId now : Int} {pendingMaintenance : Bool}
    (excluding : Excluding blocked)
    (resolved : blocked.resolveBlock blockId now pendingMaintenance =
      .ok after) : Excluding after := by
  unfold BlockedHotel.resolveBlock at resolved
  split at resolved
  · cases resolved
  · split_ifs at resolved
    · split at resolved
      · cases resolved
      · obtain ⟨-, -, written⟩ := bind_eq_ok.mp resolved
        rw [← pure_eq_ok.mp written]
        exact excluding.resolve
    · rw [← Except.ok.inj resolved]
      exact excluding

/-- The block is at its new end, and nothing was in the added window. -/
structure ClearedExtension
    (blocked : BlockedHotel) (row : RoomBlockRow)
    (previousEndsAt endsAt : Int) : Prop where
  stored : row ∈ blocked.blockRows
  unresolved : row.Unresolved
  oldEnd : row.endsAt = some previousEndsAt
  later : previousEndsAt < endsAt
  noBlock : ∀ other ∈ blocked.blockRows, other.roomId = row.roomId ->
    other.id ≠ row.id -> other.Unresolved ->
      ¬Overlap other.window (openEnded previousEndsAt (some endsAt))
  noStay : ∀ reservation ∈ blocked.tables.reservations,
    reservation.Active -> reservation.roomId = some row.roomId ->
      ¬Overlap reservation.stay (previousEndsAt, endsAt)

theorem Excluding.writeEnd {previousEndsAt endsAt : Int} (excluding : Excluding blocked)
    (extension : ClearedExtension blocked row previousEndsAt endsAt)
    (written : blocked.writeEnd row endsAt = .ok after) : Excluding after := by
  have oldWindow : row.window = (openEnded row.startsAt (some previousEndsAt)) := by
    unfold RoomBlockRow.window
    rw [extension.oldEnd]
  have stored : row ∈ unresolvedBlocks blocked.blockRows :=
    ⟨extension.stored, extension.unresolved⟩
  unfold BlockedHotel.writeEnd at written
  split_ifs at written with ordered
  cases written
  -- what overlaps the grown block overlapped it before, or the added days
  have grown : ∀ (start : Int) (finish : Option Int), (∀ last, finish = some last -> start < last) ->
      Overlap (openEnded row.startsAt (some endsAt)) (openEnded start finish) ->
      Overlap row.window (openEnded start finish) ∨
        Overlap (openEnded previousEndsAt (some endsAt)) (openEnded start finish) := by
    intro start finish ordered overlap
    rw [oldWindow]
    exact overlap.of_grown_openEnded ordered
  constructor
  · refine Exclusive.of_changed {({ row with
          endsAt := some endsAt
          datesOrdered := fun _ same => Option.some.inj same ▸ ordered } :
        RoomBlockRow)}
      excluding.blocks ?_ (fun _ _ _ _ => id) (fun _ _ _ _ => id) ?_
    · rintro item ⟨member, inForce⟩ unchanged
      rcases Table.mem_replace member with same | ⟨old, -⟩
      · exact absurd same unchanged
      · exact ⟨old, inForce⟩
    · rintro item - rfl other ⟨member, inForce⟩ different held itemHolds otherHolds overlap
      rcases Table.mem_replace member with same | ⟨old, otherId⟩
      · exact different same.symm
      · have sameRoom : other.roomId = row.roomId :=
          Option.some.inj (otherHolds.trans itemHolds.symm)
        rcases grown _ _ other.datesOrdered overlap with before | added
        · refine excluding.blocks row stored other ⟨old, inForce⟩ ?_ _ rfl
            (congrArg some sameRoom) before
          rintro rfl
          exact otherId rfl
        · exact extension.noBlock other old sameRoom otherId inForce added.symm
  · intro reservation member active item itemIn inForce assigned overlap
    rcases Table.mem_replace itemIn with rfl | ⟨old, -⟩
    · rcases grown _ _ (stay_datesOrdered reservation) overlap with before | added
      · exact excluding.stays reservation member active row stored.1 stored.2 assigned before
      · refine extension.noStay reservation member active assigned ?_
        rw [overlap_openEnded] at added
        exact ⟨added.2 endsAt rfl, added.1 _ rfl⟩
    · exact excluding.stays reservation member active item old inForce assigned overlap

theorem previousEnd_eq_ok {endsAt previousEndsAt : Int}
    (previous : BlockedHotel.previousEnd row endsAt = .ok previousEndsAt) :
    row.endsAt = some previousEndsAt ∧ row.Unresolved ∧ previousEndsAt < endsAt := by
  unfold BlockedHotel.previousEnd at previous
  split at previous
  · cases previous
  · next hasEnd =>
    obtain ⟨_, inForce, previous⟩ := bind_eq_ok.mp previous
    obtain ⟨_, later, same⟩ := bind_eq_ok.mp previous
    rw [raiseIf_eq_ok, not_not] at inForce
    rw [raiseIf_eq_ok, not_le] at later
    rw [← pure_eq_ok.mp same]
    exact ⟨hasEnd, inForce, later⟩

theorem otherBlocks_eq_nil {start finish : Int}
    (noneFound : blocked.otherBlocks row (start, finish) = []) :
    ∀ other ∈ blocked.blockRows, other.roomId = row.roomId -> other.id ≠ row.id -> other.Unresolved ->
        ¬Overlap other.window (openEnded start (some finish)) := by
  intro other member sameRoom otherId inForce overlap
  have listed : other ∈ blocked.otherBlocks row (start, finish) :=
    List.mem_filter.mpr ⟨member, decide_eq_true
      ⟨sameRoom, otherId, inForce, BlockedHotel.meets_iff.mpr overlap⟩⟩
  rw [noneFound] at listed
  cases listed

theorem extendBlockWithAllocationPlan_eq_ok
    {blockId endsAt : Int} {allocationRunId userId : Option Int}
    (extended : blocked.extendBlockWithAllocationPlan fingerprint blockId
      endsAt allocationRunId userId = .ok after) :
    ∃ row previousEndsAt cleared, ClearedExtension cleared row previousEndsAt endsAt ∧
      (cleared = blocked ∨ ∃ stored, blocked.acceptPlan fingerprint stored userId = .ok cleared) ∧
      cleared.writeEnd row endsAt = .ok after := by
  obtain ⟨row, locked, extended⟩ := bind_eq_ok.mp extended
  obtain ⟨previousEndsAt, previous, extended⟩ := bind_eq_ok.mp extended
  obtain ⟨_, checked, extended⟩ := bind_eq_ok.mp extended
  obtain ⟨cleared, clearing, written⟩ := bind_eq_ok.mp extended
  have stored : row ∈ blocked.blockRows := by
    unfold BlockedHotel.lockRoomThenBlock at locked
    split at locked
    · cases locked
    · next found =>
      obtain ⟨-, -, same⟩ := bind_eq_ok.mp locked
      rw [← pure_eq_ok.mp same]
      exact (BlockedHotel.blockRow?_eq_some found).1
  have oldEnd := previousEnd_eq_ok previous
  have noBlock : ∀ other ∈ blocked.blockRows, other.roomId = row.roomId ->
      other.id ≠ row.id -> other.Unresolved ->
        ¬Overlap other.window (openEnded previousEndsAt (some endsAt)) := by
    obtain ⟨_, none, -⟩ := bind_eq_ok.mp checked
    rw [raiseIf_eq_ok, not_not] at none
    exact otherBlocks_eq_nil (List.map_eq_nil_iff.mp none)
  cases allocationRunId with
  | none =>
    obtain ⟨_, noStay, same⟩ := bind_eq_ok.mp clearing
    rw [raiseIf_eq_ok, not_not] at noStay
    cases same
    exact ⟨row, previousEndsAt, blocked, ⟨stored, oldEnd.2.1, oldEnd.1, oldEnd.2.2, noBlock,
        overlappingReservationsForBlock_eq_nil noStay⟩, .inl rfl, written⟩
  | some runId =>
    obtain ⟨plan, -, clearing⟩ := bind_eq_ok.mp clearing
    obtain ⟨moved, acceptance, clearing⟩ := bind_eq_ok.mp clearing
    obtain ⟨_, noStay, same⟩ := bind_eq_ok.mp clearing
    rw [raiseIf_eq_ok, not_not] at noStay
    obtain rfl := pure_eq_ok.mp same
    obtain ⟨-, -, -, -, rows⟩ := acceptPlan_eq_ok acceptance
    exact ⟨row, previousEndsAt, moved,
      ⟨rows ▸ stored, oldEnd.2.1, oldEnd.1, oldEnd.2.2, rows ▸ noBlock,
        overlappingReservationsForBlock_eq_nil noStay⟩,
      .inr ⟨plan, acceptance⟩, written⟩

theorem Excluding.extendBlockWithAllocationPlan
    {blockId endsAt : Int} {allocationRunId userId : Option Int}
    (excluding : Excluding blocked)
    (extended : blocked.extendBlockWithAllocationPlan fingerprint blockId
      endsAt allocationRunId userId = .ok after) : Excluding after := by
  obtain ⟨row, previousEndsAt, cleared, extension, rfl | ⟨stored,
    acceptance⟩, written⟩ := extendBlockWithAllocationPlan_eq_ok extended
  · exact excluding.writeEnd extension written
  · exact (excluding.acceptPlan acceptance).writeEnd extension written

end Change
end HotelPms.Blocks
