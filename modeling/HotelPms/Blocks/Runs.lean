import HotelPms.Blocks.Exclusion
import HotelPms.Stays.Extension

/-!
# Runs of block and stay operations

Blocks are created, extended and resolved while reservations are created,
moved and extended.  A refused call changes nothing.  In every run the blocks
and the stays exclude each other, as long as no indefinite block is created in
a room that has a block from the last day of the calendar on.
-/

namespace HotelPms.Blocks

open Hotel HalfOpen Checked Transition Booking Stays

structure CalendarHotel extends BlockedHotel where
  inCalendar : InCalendar toBlockedHotel

/-- Blocks of one room do not overlap, and no active stay overlaps a block of
its room. -/
def CalendarHotel.Excludes (hotel : CalendarHotel) : Prop :=
  Excluding hotel.toBlockedHotel

/-- A new reservation under a fresh id, in a room that the creation may take.
Guest, company and price checks are those of other tables. -/
def createReservation (state : HotelState) (data : ReservationCreate)
    (allowOverbooking : Bool) (otherChecks : Except String Unit)
    (roomId : Option Int) (id : Int) : Except String HotelState := do
  data.validate state
  otherChecks
  let choices ← data.roomChoices state allowOverbooking
  raiseIf (¬∃ choice ∈ choices, choice = roomId) "not the room the database returns first"
  if ordered : data.checkInDate < data.checkOutDate then
    if fresh : id ∉ state.reservations.map Reservation.id then
      pure (state.addReservation (data.row id roomId ordered) fresh)
    else throw "uq_reservation_id"
  else throw "ck_reservation_dates"

/-- Calls that write blocks or stays, with dates of the calendar. -/
inductive HotelCall
  | createBlock (data : RoomBlockCreate)
      (inCalendar : data.startsAt ≤ dateMax)
  | createBlockWithAllocationPlan (data : RoomBlockCreate)
      (inCalendar : data.startsAt ≤ dateMax)
      (createdByUserId allocationRunId : Option Int)
  | extendBlockWithAllocationPlan (blockId endsAt : Int)
      (inCalendar : endsAt ≤ dateMax)
      (allocationRunId createdByUserId : Option Int)
  | resolveBlock (blockId now : Int) (pendingMaintenance : Bool)
  | createReservation (data : ReservationCreate)
      (inCalendar : data.checkOutDate ≤ dateMax)
      (allowOverbooking : Bool) (otherChecks : Except String Unit)
      (roomId : Option Int) (id : Int)
  | moveReservationRoom (reservationId : Int) (call : RoomMoveCall)
      (surroundings : Surroundings)
  | extendReservationStay (reservationId : Int) (call : ExtensionCall)
      (inCalendar : call.newCheckoutDate ≤ dateMax)
      (surroundings : ExtensionSurroundings)

section Run

variable (fingerprint : Allocation.ReservationStatePayload -> String)
  (impactFingerprint : ExtensionImpact -> String)

/-- The hotel after a call, if the call is accepted. -/
def perform (blocked : BlockedHotel) : HotelCall -> Option BlockedHotel
  | .createBlock data _ => (blocked.createBlock data).toOption
  | .createBlockWithAllocationPlan data _ userId runId =>
    (blocked.createBlockWithAllocationPlan fingerprint data userId runId).toOption
  | .extendBlockWithAllocationPlan blockId endsAt _ runId userId =>
    (blocked.extendBlockWithAllocationPlan fingerprint blockId endsAt runId userId).toOption
  | .resolveBlock blockId now pendingMaintenance =>
    (blocked.resolveBlock blockId now pendingMaintenance).toOption
  | .createReservation data _ allowOverbooking otherChecks roomId id =>
    (createReservation blocked.hotel data allowOverbooking otherChecks
      roomId id).toOption.map blocked.withTables
  | .moveReservationRoom reservationId call surroundings =>
    (blocked.hotel.reservation? reservationId).bind fun loaded =>
      (moveReservationRoom blocked.hotel surroundings call loaded).toOption.map blocked.withTables
  | .extendReservationStay reservationId call _ surroundings =>
    (blocked.hotel.reservation? reservationId).bind fun loaded =>
      match extendReservationStay impactFingerprint blocked.hotel surroundings call loaded with
      | .ok (.extended final) => some (blocked.withTables final)
      | .ok (.conflicts _) => none
      | .error _ => none

def HotelCall.SeesEveryBlock (blocked : BlockedHotel) : HotelCall -> Prop
  | .createBlock data _ => Blocks.SeesEveryBlock blocked data
  | .createBlockWithAllocationPlan data _ _ _ =>
    Blocks.SeesEveryBlock blocked data
  | .extendBlockWithAllocationPlan _ _ _ _ _ => True
  | .resolveBlock _ _ _ => True
  | .createReservation _ _ _ _ _ _ => True
  | .moveReservationRoom _ _ _ => True
  | .extendReservationStay _ _ _ _ => True

instance (blocked : BlockedHotel) (call : HotelCall) : Decidable (call.SeesEveryBlock blocked) := by
  cases call <;> unfold HotelCall.SeesEveryBlock <;> infer_instance

theorem InCalendar.insertBlock {blocked : BlockedHotel} {block : RoomBlock}
    (inCalendar : InCalendar blocked) (starts : block.startsAt ≤ dateMax) :
    InCalendar (blocked.insertBlock block) := by
  refine ⟨?_, inCalendar.stays⟩
  intro row member
  rcases BlockedHotel.mem_insertBlock.mp member with old | rfl
  · exact inCalendar.blocks row old
  · exact starts

theorem InCalendar.replaceBlock {blocked : BlockedHotel} {row : RoomBlockRow}
    (inCalendar : InCalendar blocked) (starts : row.startsAt ≤ dateMax) :
    InCalendar (blocked.replaceBlock row) := by
  refine ⟨?_, inCalendar.stays⟩
  intro other member
  rcases Table.mem_replace member with rfl | ⟨old, -⟩
  · exact starts
  · exact inCalendar.blocks other old

variable {blocked after : BlockedHotel}

theorem InCalendar.createBlock {data : RoomBlockCreate}
    (inCalendar : InCalendar blocked) (starts : data.startsAt ≤ dateMax)
    (created : blocked.createBlock data = .ok after) : InCalendar after := by
  obtain ⟨-, -, block, rfl, -, sameStart, -⟩ := createBlock_eq_ok created
  exact inCalendar.insertBlock (sameStart.trans_le starts)

theorem InCalendar.resolveBlock {blockId now : Int} {pending : Bool}
    (inCalendar : InCalendar blocked)
    (resolved : blocked.resolveBlock blockId now pending = .ok after) :
    InCalendar after := by
  unfold BlockedHotel.resolveBlock at resolved
  split at resolved
  · cases resolved
  · next row found =>
    split_ifs at resolved
    · split at resolved
      · cases resolved
      · obtain ⟨-, -, written⟩ := bind_eq_ok.mp resolved
        rw [← pure_eq_ok.mp written]
        exact inCalendar.replaceBlock
          (inCalendar.blocks row (BlockedHotel.blockRow?_eq_some found).1)
    · rw [← Except.ok.inj resolved]
      exact inCalendar

theorem InCalendar.extendBlock {blockId endsAt : Int}
    {runId userId : Option Int} (inCalendar : InCalendar blocked)
    (extended : blocked.extendBlockWithAllocationPlan fingerprint blockId
      endsAt runId userId = .ok after) : InCalendar after := by
  obtain ⟨row, previousEndsAt, cleared, extension, cases_, written⟩ :=
    extendBlockWithAllocationPlan_eq_ok extended
  have clearedIn : InCalendar cleared := by
    rcases cases_ with rfl | ⟨stored, acceptance⟩
    · exact inCalendar
    · exact inCalendar.acceptPlan acceptance
  unfold BlockedHotel.writeEnd at written
  split_ifs at written
  rw [← Except.ok.inj written]
  exact clearedIn.replaceBlock (clearedIn.blocks row extension.stored)

/-! ## Stays -/

variable {fingerprint impactFingerprint}
variable {blocked after : BlockedHotel}

structure StayWrites (property : Reservation -> Prop)
    (blocked : BlockedHotel) : Prop
    extends WritesOnly property blocked.hotel where
  created : ∀ (data : ReservationCreate) (id : Int) (roomId : Option Int)
    (ordered : data.checkInDate < data.checkOutDate),
    data.checkOutDate ≤ dateMax ->
    (∀ room, roomId = some room -> roomHasActiveBlock blocked.hotel room data.stay = false) ->
    property (data.row id roomId ordered)
  extended : ∀ reservation ∈ blocked.tables.reservations, reservation.Active ->
    ∀ (newCheckoutDate : Int) (status : ReservationStatus)
      (later : reservation.checkOutDate < newCheckoutDate),
    newCheckoutDate ≤ dateMax ->
    (∀ roomId, reservation.roomId = some roomId -> roomHasActiveBlock blocked.hotel roomId
        (reservation.checkOutDate, newCheckoutDate) = false) ->
    property (extendedReservation reservation newCheckoutDate status later)

theorem mem_roomChoices {state : HotelState} {data : ReservationCreate} {allowOverbooking : Bool}
    {choices : List (Option Int)} {roomId : Int}
    (chosen : data.roomChoices state allowOverbooking = .ok choices)
    (member : some roomId ∈ choices) :
    roomHasActiveBlock state roomId data.stay = false ∧ state.RoomFree roomId data.stay none := by
  unfold ReservationCreate.roomChoices at chosen
  split at chosen
  · next requested _ =>
    obtain ⟨room, checked, chosen⟩ := bind_eq_ok.mp chosen
    rw [← pure_eq_ok.mp chosen, List.mem_singleton] at member
    unfold ReservationCreate.requestedRoom at checked
    split at checked
    · cases checked
    · obtain ⟨-, -, checked⟩ := bind_eq_ok.mp checked
      obtain ⟨available, read, checked⟩ := bind_eq_ok.mp checked
      obtain ⟨_, isAvailable, checked⟩ := bind_eq_ok.mp checked
      rw [raiseIf_eq_ok, Bool.not_eq_false] at isAvailable
      obtain rfl := Option.some.inj (member.trans (pure_eq_ok.mp checked).symm)
      rw [isAvailable] at read
      exact ⟨roomHasActiveBlock_of_available read, checkRoomAvailability_eq_ok read⟩
  · split_ifs at chosen
    · rw [← pure_eq_ok.mp chosen, List.mem_singleton] at member
      cases member
    · obtain ⟨available, found, chosen⟩ := bind_eq_ok.mp chosen
      split_ifs at chosen
      · obtain ⟨-, -, chosen⟩ := bind_eq_ok.mp chosen
        rw [← pure_eq_ok.mp chosen, List.mem_singleton] at member
        cases member
      · rw [← pure_eq_ok.mp chosen] at member
        obtain ⟨room, roomIn, same⟩ := List.mem_map.mp member
        cases same
        exact findAvailableRooms_cases found roomIn

theorem createReservation_eq_ok {state final : HotelState} {data : ReservationCreate}
    {allowOverbooking : Bool} {otherChecks : Except String Unit}
    {roomId : Option Int} {id : Int}
    (created : createReservation state data allowOverbooking otherChecks roomId id = .ok final) :
    ∃ (ordered : data.checkInDate < data.checkOutDate)
      (fresh : id ∉ state.reservations.map Reservation.id),
      final = state.addReservation (data.row id roomId ordered) fresh ∧
        ∀ room, roomId = some room -> roomHasActiveBlock state room data.stay = false ∧
            state.RoomFree room data.stay none := by
  obtain ⟨-, -, created⟩ := bind_eq_ok.mp created
  obtain ⟨-, -, created⟩ := bind_eq_ok.mp created
  obtain ⟨choices, chosen, created⟩ := bind_eq_ok.mp created
  obtain ⟨_, offered, created⟩ := bind_eq_ok.mp created
  rw [raiseIf_eq_ok, not_not] at offered
  obtain ⟨choice, offered, same⟩ := offered
  rw [same] at offered
  split_ifs at created with ordered fresh
  refine ⟨ordered, fresh, (pure_eq_ok.mp created).symm, ?_⟩
  rintro room rfl
  exact mem_roomChoices chosen offered

section Forall

variable {property : Reservation -> Prop}
  (holds : ∀ reservation ∈ blocked.tables.reservations, property reservation)
  (writes : StayWrites property blocked)

include holds writes

variable {final : HotelState}

theorem forall_createReservation {data : ReservationCreate} {allowOverbooking : Bool}
    {otherChecks : Except String Unit} {roomId : Option Int} {id : Int}
    (ends : data.checkOutDate ≤ dateMax)
    (created : createReservation blocked.hotel data allowOverbooking
      otherChecks roomId id = .ok final) :
    ∀ reservation ∈ final.reservations, property reservation := by
  obtain ⟨ordered, fresh, rfl, offered⟩ := createReservation_eq_ok created
  intro reservation member
  rcases List.mem_cons.mp member with rfl | old
  · exact writes.created data id roomId ordered ends fun room assigned => (offered room assigned).1
  · exact holds reservation old

theorem forall_moveReservationRoom {surroundings : Surroundings} {call : RoomMoveCall}
    {loaded : Reservation}
    (member : loaded ∈ blocked.tables.reservations)
    (moved : moveReservationRoom blocked.hotel surroundings call loaded = .ok final) :
    ∀ reservation ∈ final.reservations, property reservation := by
  obtain ⟨-, -, room, -, moved⟩ := moveReservationRoom_eq_ok moved
  obtain ⟨available, rows, -⟩ := moveToLockedRoom_eq_ok moved
  rw [rows]
  exact forall_replaceReservation holds (writes.moved loaded member room available)

theorem forall_extendReservationStay {surroundings : ExtensionSurroundings} {call : ExtensionCall}
    {loaded : Reservation}
    (member : loaded ∈ blocked.tables.reservations)
    (ends : call.newCheckoutDate ≤ dateMax)
    (made : extendReservationStay impactFingerprint blocked.hotel
      surroundings call loaded = .ok (.extended final)) :
    ∀ reservation ∈ final.reservations, property reservation := by
  obtain ⟨later, work, status, locked, extendable, resolved, -, rfl⟩ :=
    extendReservationStay_eq_ok made
  have stored : ∀ reservation ∈ blocked.hotel.reservations, property reservation := holds
  obtain ⟨unblocked, all⟩ := resolveExtensionConflict_all stored writes.toWritesOnly resolved
  have active : loaded.Active := active_of_checkExtendable
    (deletedAt_of_lockReservationVersion member locked) extendable
  refine forall_replaceReservation all.flush
    (writes.extended loaded member active _ status later ends ?_)
  intro roomId assigned
  unfold rootRoomBlocked at unblocked
  rwa [assigned] at unblocked

end Forall

/-- An accepted call writes a block, or only the stays of the tables. -/
inductive Performed (fingerprint : Allocation.ReservationStatePayload -> String)
    (blocked after : BlockedHotel) : HotelCall -> Prop
  | created {data inCalendar}
      (accepted : blocked.createBlock data = .ok after) :
      Performed fingerprint blocked after (.createBlock data inCalendar)
  | planned {data inCalendar userId runId}
      (accepted : blocked.createBlockWithAllocationPlan fingerprint data userId runId = .ok after) :
      Performed fingerprint blocked after
        (.createBlockWithAllocationPlan data inCalendar userId runId)
  | grown {blockId endsAt inCalendar runId userId}
      (accepted : blocked.extendBlockWithAllocationPlan fingerprint blockId
        endsAt runId userId = .ok after) :
      Performed fingerprint blocked after
        (.extendBlockWithAllocationPlan blockId endsAt inCalendar runId userId)
  | resolved {blockId now pending}
      (accepted : blocked.resolveBlock blockId now pending = .ok after) :
      Performed fingerprint blocked after (.resolveBlock blockId now pending)
  | stays {call final}
      (written : after = blocked.withTables final)
      (kept : ∀ property : Reservation -> Prop, (∀ reservation ∈ blocked.tables.reservations,
          property reservation) -> StayWrites property blocked ->
        ∀ reservation ∈ final.reservations, property reservation) :
      Performed fingerprint blocked after call

variable {call : HotelCall}

theorem performed_of_perform (performs : perform fingerprint impactFingerprint blocked call =
      some after) : Performed fingerprint blocked after call := by
  cases call with
  | createBlock data inCalendar => exact .created (toOption_eq_some performs)
  | createBlockWithAllocationPlan data inCalendar userId runId =>
    exact .planned (toOption_eq_some performs)
  | extendBlockWithAllocationPlan blockId endsAt inCalendar runId userId =>
    exact .grown (toOption_eq_some performs)
  | resolveBlock blockId now pending =>
    exact .resolved (toOption_eq_some performs)
  | createReservation data ends allowOverbooking otherChecks roomId id =>
    obtain ⟨final, accepted, rfl⟩ := Option.map_eq_some_iff.mp performs
    exact .stays rfl fun property holds writes =>
      forall_createReservation holds writes ends (toOption_eq_some accepted)
  | moveReservationRoom reservationId call surroundings =>
    obtain ⟨loaded, found, moved⟩ := Option.bind_eq_some_iff.mp performs
    obtain ⟨final, accepted, rfl⟩ := Option.map_eq_some_iff.mp moved
    exact .stays rfl fun property holds writes =>
      forall_moveReservationRoom holds writes (HotelState.reservation?_eq_some found).1
        (toOption_eq_some accepted)
  | extendReservationStay reservationId call ends surroundings =>
    obtain ⟨loaded, found, extended⟩ := Option.bind_eq_some_iff.mp performs
    cases made : extendReservationStay impactFingerprint blocked.hotel surroundings call loaded with
    | error error =>
      rw [made] at extended
      cases extended
    | ok outcome =>
      rw [made] at extended
      cases outcome with
      | conflicts unresolved => cases extended
      | extended final =>
        cases extended
        exact .stays rfl fun property holds writes => forall_extendReservationStay holds writes
            (HotelState.reservation?_eq_some found).1 ends made

theorem stayWrites_calendar (inCalendar : InCalendar blocked) :
    StayWrites (·.checkOutDate ≤ dateMax) blocked where
  moved := fun reservation member _ _ => inCalendar.stays reservation member
  released := inCalendar.stays
  created := fun _ _ _ _ ends _ => ends
  extended := fun _ _ _ _ _ _ ends _ => ends

theorem InCalendar.perform (inCalendar : InCalendar blocked)
    (performs : perform fingerprint impactFingerprint blocked call =
      some after) : InCalendar after := by
  cases performed_of_perform performs with
  | @created data starts accepted =>
    exact inCalendar.createBlock starts accepted
  | @planned data starts userId runId accepted =>
    rcases createBlockWithAllocationPlan_eq_ok accepted with direct |
      ⟨stored, moved, acceptance, afterPlan⟩
    · exact inCalendar.createBlock starts direct
    · exact (inCalendar.acceptPlan acceptance).createBlock starts afterPlan
  | grown accepted => exact inCalendar.extendBlock _ accepted
  | resolved accepted => exact inCalendar.resolveBlock accepted
  | @stays call final written kept =>
    rw [written]
    exact ⟨inCalendar.blocks, kept _ inCalendar.stays (stayWrites_calendar inCalendar)⟩

theorem stayWrites_clear (excluding : Excluding blocked) :
    StayWrites (fun reservation => reservation.Active ->
      ClearOfBlocks blocked.blockRows reservation) blocked where
  moved := fun reservation _ _ available _ =>
    ClearOfBlocks.of_roomHasActiveBlock rfl (roomHasActiveBlock_of_available available)
  released := fun _ _ _ => ClearOfBlocks.of_roomId_eq_none rfl
  created := by
    intro data id roomId ordered _ unblocked _
    cases roomId with
    | none => exact ClearOfBlocks.of_roomId_eq_none rfl
    | some room =>
      exact ClearOfBlocks.of_roomHasActiveBlock rfl (unblocked room rfl)
  extended := by
    intro reservation member active newCheckoutDate status later _ unblocked
      _ row rowIn inForce assigned overlap
    have grown : Overlap (stayWindow reservation) row.window ∨
        Overlap (openEnded reservation.checkOutDate (some newCheckoutDate)) row.window :=
      Overlap.of_grown_openEnded row.datesOrdered overlap.symm
    rcases grown with before | added
    · exact excluding.stays reservation member active row rowIn inForce assigned before.symm
    · exact BlockedHotel.roomHasActiveBlock_eq_false.mp
        (unblocked row.roomId assigned) row rowIn rfl inForce added.symm

theorem Excluding.perform (excluding : Excluding blocked)
    (inCalendar : InCalendar blocked) (seesEvery : call.SeesEveryBlock blocked)
    (performs : perform fingerprint impactFingerprint blocked call =
      some after) : Excluding after := by
  cases performed_of_perform performs with
  | created accepted =>
    exact excluding.createBlock inCalendar seesEvery accepted
  | planned accepted =>
    exact excluding.createBlockWithAllocationPlan inCalendar seesEvery accepted
  | grown accepted => exact excluding.extendBlockWithAllocationPlan accepted
  | resolved accepted => exact excluding.resolveBlock accepted
  | @stays call final written kept =>
    rw [written]
    exact excluding.withTables (kept _ excluding.stays (stayWrites_clear excluding))

variable (fingerprint impactFingerprint)

/-- One call, accepted or refused. -/
def hotelStep (hotel : CalendarHotel) (call : HotelCall) : Option CalendarHotel :=
  match performs : perform fingerprint impactFingerprint hotel.toBlockedHotel call with
  | some after => some ⟨after, hotel.inCalendar.perform performs⟩
  | none => some hotel

variable {fingerprint impactFingerprint}

theorem CalendarHotel.Excludes.hotelStep {hotel next : CalendarHotel} (excludes : hotel.Excludes)
    (seesEvery : call.SeesEveryBlock hotel.toBlockedHotel)
    (taken : hotelStep fingerprint impactFingerprint hotel call = some next) : next.Excludes := by
  unfold Blocks.hotelStep at taken
  split at taken
  · next after performs =>
    cases taken
    exact Excluding.perform excludes hotel.inCalendar seesEvery performs
  · cases taken
    exact excludes

end Run

/-- In every run of calls that create no indefinite block in a room with a
block of the last day, blocks and stays exclude each other. -/
theorem reaches_excludes {fingerprint : Allocation.ReservationStatePayload -> String}
    {impactFingerprint : ExtensionImpact -> String}
    {start finish : CalendarHotel} (excludes : start.Excludes)
    (reached : Reaches (hotelStep fingerprint impactFingerprint)
      (fun hotel call => call.SeesEveryBlock hotel.toBlockedHotel)
      start finish) :
    finish.Excludes :=
  reached.invariant excludes fun before seesEvery taken => before.hotelStep seesEvery taken

/-- A hotel with two rooms of one category and no reservation. -/
def emptyHotel : CalendarHotel where
  tables :=
    { reservations := []
      distinctReservations := by decide
      rooms := [{ id := 1, roomNumber := "101", categoryId := 1 },
        { id := 2, roomNumber := "102", categoryId := 1 }]
      distinctRooms := by decide
      categories := [{ id := 1, maxOccupancy := 2 }] }
  numbered := .nil _ _
  inCalendar := ⟨by simp, by simp⟩

theorem emptyHotel_excludes : emptyHotel.Excludes where
  blocks := fun first member => by cases member.1
  stays := fun reservation member => by cases member

def threeNights : ReservationCreate where
  categoryId := 1
  roomId := some 1
  checkInDate := 739685
  checkOutDate := 739688

/-- A stay is booked, extended by a night and moved, and its first room is
blocked and the block extended. -/
def openingRun : List HotelCall :=
  [.createReservation threeNights (by decide) false (.ok ()) (some 1) 1, .extendReservationStay 1
      { newCheckoutDate := 739689, clientVersion := some 0 } (by decide) {},
    .createBlock { roomId := 1, startsAt := 739686, endsAt := some 739687 } (by decide),
    .moveReservationRoom 1 { toRoomId := 2, clientVersion := some 0, reasonCode := some "view" } {},
    .createBlock { roomId := 1, startsAt := 739686, endsAt := some 739687 } (by decide),
    .extendBlockWithAllocationPlan 1 739690 (by decide) none none,
    .createBlock { roomId := 1, startsAt := 739690, isIndefinite := true } (by decide)]

/-- Rooms and days of the unresolved blocks and of the reservations. -/
def occupation (blocked : BlockedHotel) :
    List (Int × Int × Option Int) × List (Option Int × Int × Int) :=
  ((blocked.blockRows.filter (decide ·.Unresolved)).map
      fun row => (row.roomId, row.startsAt, row.endsAt),
    blocked.tables.reservations.map fun reservation =>
      (reservation.roomId, reservation.checkInDate, reservation.checkOutDate))

/-- The extension is refused to a pending stay, and the first block while the
stay is in its room; the other calls are accepted, and exclude each other. -/
theorem reaches_excludes_openingRun :
    ∃ finish, run (hotelStep (fun _ => "") (fun _ => "")) emptyHotel openingRun = some finish ∧
      occupation finish.toBlockedHotel =
        ([(1, 739686, some 739690), (1, 739690, none)], [(some 2, 739685, 739688)]) ∧
      finish.Excludes := by
  have outcome : (run (hotelStep (fun _ => "") (fun _ => "")) emptyHotel
      openingRun).map (occupation ·.toBlockedHotel) =
      some ([(1, 739686, some 739690), (1, 739690, none)], [(some 2, 739685, 739688)]) := by
    decide +kernel
  obtain ⟨finish, ran, occupied⟩ := Option.map_eq_some_iff.mp outcome
  have guarded : Guarded (hotelStep (fun _ => "") (fun _ => ""))
      (fun hotel call => call.SeesEveryBlock hotel.toBlockedHotel)
      emptyHotel openingRun := by
    decide +kernel
  exact ⟨finish, ran, occupied, reaches_excludes emptyHotel_excludes (reaches_of_run guarded ran)⟩

/-- A room is blocked from 31 December 9999 on, and then from 10 March 2026
on; both calls are accepted. -/
theorem not_excludes_lastDay :
    emptyHotel.Excludes ∧ ∃ finish, run (hotelStep (fun _ => "") (fun _ => "")) emptyHotel
        [.createBlock
            { roomId := 1, startsAt := dateMax, isIndefinite := true }
            (by decide), .createBlock
            { roomId := 1, startsAt := 739685, isIndefinite := true }
            (by decide)] = some finish ∧
      ¬finish.Excludes := by
  refine ⟨emptyHotel_excludes, _, rfl, ?_⟩
  intro excludes
  refine excludes.blocks
    { roomId := 1, startsAt := dateMax, endsAt := none, id := 1,
      datesOrdered := by simp } ⟨.head _, rfl⟩
    { roomId := 1, startsAt := 739685, endsAt := none, id := 2,
      datesOrdered := by simp } ⟨.tail _ (.head _), rfl⟩ ?_ 1 rfl rfl ?_
  · intro same
    exact absurd (congrArg RoomBlockRow.id same) (by decide)
  · exact overlap_openEnded.mpr ⟨by simp, by simp⟩

end HotelPms.Blocks
