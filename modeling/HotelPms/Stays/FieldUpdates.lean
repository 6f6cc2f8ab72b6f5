import HotelPms.Collaboration.Editing
import HotelPms.Stays.DateChange

/-!
# Editing the fields of a reservation

An edit may submit dates, a room and other fields in any combination.  Its
dates are checked against the room it submits, a room submitted as null
included, and a room submitted as null is not written.
-/

namespace HotelPms.Stays

open Hotel HalfOpen Checked Booking

/-- Payload of an edit. -/
structure FieldUpdateCall where
  data : ReservationUpdate
  clientVersion : Option Int := none
  /-- A guest count or the mobility flag is submitted as null. -/
  submitsNull : Bool := false

/-- What the tables outside this model answer during an edit. -/
structure FieldUpdateSurroundings where
  /-- Checks of a submitted total, made before anything is written. -/
  totalChecks : Except String Unit := .ok ()
  /-- Restrictions of the guest. -/
  restrictionChecks : Except String Unit := .ok ()
  /-- Pricing of the new dates. -/
  datePricing : Int × Int -> Except String Unit := fun _ => .ok ()
  /-- Write of a submitted total. -/
  totalCorrection : Except String Unit := .ok ()

def checkClientVersion (state : HotelState) (loaded : Reservation)
    (clientVersion : Option Int) : Except String Unit :=
  match clientVersion with
  | none => .ok ()
  | some _ => lockReservationVersion state loaded clientVersion

def updateReservationFields (surroundings : FieldUpdateSurroundings)
    (state : HotelState) (loaded : Reservation) (call : FieldUpdateCall) :
    Except String HotelState := do
  checkClientVersion state loaded call.clientVersion
  surroundings.totalChecks
  surroundings.restrictionChecks
  call.data.checkDates loaded state
  Collaboration.whenNeeded (call.data.changesDates = true)
    (surroundings.datePricing (call.data.stayAfter loaded))
  Collaboration.checkSubmittedRoom state call.data loaded
  raiseIf (call.submitsNull = true) "NOT NULL constraint failed"
  let row ← call.data.flush loaded loaded
  surroundings.totalCorrection
  pure (state.replaceReservation row)

/-- Where new dates are checked against no room and no room is submitted, the
room of an active stay is open at them. -/
def UncheckedRoomOpen (state : HotelState) (loaded : Reservation)
    (data : ReservationUpdate) : Prop :=
  data.changesDates = true -> truthy (data.targetRoomId loaded) = none ->
    data.submittedRoom? = none -> loaded.Active -> ∀ roomId, loaded.roomId = some roomId ->
        RoomOpen state roomId (data.stayAfter loaded) (some loaded.id)

variable {state : HotelState} {loaded : Reservation}

variable {roomId : Int} {data : ReservationUpdate}

theorem NoRoomConflict.roomOpen
    (noConflict : NoRoomConflict state) (stored : loaded ∈ state.reservations)
    (active : loaded.Active) (assigned : loaded.roomId = some roomId) :
    RoomOpen state roomId loaded.stay (some loaded.id) := by
  constructor
  · intro other member otherActive notSelf inRoom overlap
    refine noConflict.noDoubleBooking other ⟨member, otherActive⟩ loaded
      ⟨stored, active⟩ ?_ roomId inRoom assigned overlap
    rintro rfl
    exact notSelf rfl
  · exact noConflict.unblocked loaded stored active roomId assigned

theorem roomOpen_of_checkDates (passed : data.checkDates loaded state = .ok ())
    (changes : data.changesDates = true)
    (target : truthy (data.targetRoomId loaded) = some roomId) :
    RoomOpen state roomId (data.stayAfter loaded) (some loaded.id) := by
  obtain ⟨-, -, passed⟩ := bind_eq_ok.mp passed
  rw [if_pos changes] at passed
  cases newStay : data.newStay? loaded with
  | none =>
    rw [newStay] at passed
    cases passed
  | some stay =>
    simp only [newStay, target, bind_eq_ok, raiseIf_eq_ok] at passed
    obtain ⟨-, -, available, read, isAvailable⟩ := passed
    rw [Bool.not_eq_false] at isAvailable
    rw [isAvailable] at read
    rw [ReservationUpdate.stayAfter, newStay]
    exact ⟨checkRoomAvailability_eq_ok read, roomHasActiveBlock_of_available read⟩

/-- What an accepted edit has checked, and the row it writes. -/
structure FieldsUpdated (state : HotelState) (loaded : Reservation)
    (data : ReservationUpdate) (row : Reservation) : Prop where
  dates : data.checkDates loaded state = .ok ()
  submitted : ∀ roomId, data.submittedRoom? = some roomId ->
    RoomOpen state roomId (data.stayAfter loaded) (some loaded.id)
  written : data.Written loaded row

theorem updateReservationFields_eq_ok {after : HotelState}
    {surroundings : FieldUpdateSurroundings} {call : FieldUpdateCall}
    (updated : updateReservationFields surroundings state loaded call = .ok after) :
    ∃ row, FieldsUpdated state loaded call.data row ∧ after = state.replaceReservation row := by
  unfold updateReservationFields at updated
  simp only [bind_eq_ok, pure_eq_ok] at updated
  obtain ⟨-, -, -, -, -, -, _, dates, -, -, _, room, -, -, row, flushed, -, -, rfl⟩ := updated
  refine ⟨row, ⟨dates, ?_, ReservationUpdate.flush_eq_ok flushed⟩, rfl⟩
  intro roomId submitted
  unfold Collaboration.checkSubmittedRoom at room
  rw [submitted] at room
  exact roomOpen_of_checkNewRoom room

theorem FieldsUpdated.roomOpen {row : Reservation} (updated : FieldsUpdated state loaded data row)
    (noConflict : NoRoomConflict state) (stored : loaded ∈ state.reservations)
    (opened : UncheckedRoomOpen state loaded data)
    (assigned : row.roomId = some roomId) (active : row.Active) :
    RoomOpen state roomId row.stay (some row.id) := by
  rw [updated.written.stay, updated.written.id]
  rw [updated.written.roomId, ReservationUpdate.newRoomId] at assigned
  rw [updated.written.active] at active
  cases submitted : data.submittedRoom? with
  | some chosen =>
    rw [submitted] at assigned
    obtain rfl := Option.some.inj assigned
    exact updated.submitted chosen submitted
  | none =>
    rw [submitted, Option.none_or] at assigned
    by_cases changes : data.changesDates = true
    · cases target : truthy (data.targetRoomId loaded) with
      | none => exact opened changes target submitted active roomId assigned
      | some checkedId =>
        have checked := roomOpen_of_checkDates updated.dates changes target
        have isTarget := (truthy_eq_some.mp target).1
        unfold ReservationUpdate.targetRoomId at isTarget
        unfold ReservationUpdate.submittedRoom? at submitted
        cases room : data.roomId with
        | none =>
          rw [room, Option.getD_none, assigned] at isTarget
          rwa [← Option.some.inj isTarget] at checked
        | some null =>
          rw [room, Option.getD_some] at submitted isTarget
          rw [submitted] at isTarget
          cases isTarget
    · rw [ReservationUpdate.stayAfter, ReservationUpdate.newStay?_of_not_changesDates changes]
      exact noConflict.roomOpen stored active assigned

theorem FieldsUpdated.not_noRoomConflict {row : Reservation}
    (updated : FieldsUpdated state loaded data row)
    (stored : loaded ∈ state.reservations) (active : loaded.Active)
    (submitted : data.submittedRoom? = none)
    (assigned : loaded.roomId = some roomId)
    (closed : ¬RoomOpen state roomId (data.stayAfter loaded) (some loaded.id)) :
    ¬NoRoomConflict (state.replaceReservation row) := by
  have written := updated.written
  have inRoom : row.roomId = some roomId := by
    rw [written.roomId, ReservationUpdate.newRoomId, submitted, assigned]
    rfl
  rw [← written.stay, ← written.id] at closed
  exact not_noRoomConflict_replaceReservation stored written.id
    (written.active.mpr active) inRoom closed

/-- An accepted edit keeps rooms free of conflicts exactly when new dates that
are checked against no room leave an active stay in an open one. -/
theorem updateReservationFields_keeps_iff {after : HotelState}
    {surroundings : FieldUpdateSurroundings} {call : FieldUpdateCall}
    (noConflict : NoRoomConflict state) (stored : loaded ∈ state.reservations)
    (accepted : updateReservationFields surroundings state loaded call = .ok after) :
    NoRoomConflict after ↔ UncheckedRoomOpen state loaded call.data := by
  obtain ⟨row, updated, rfl⟩ := updateReservationFields_eq_ok accepted
  constructor
  · intro kept _ _ submitted active roomId assigned
    by_contra closed
    exact updated.not_noRoomConflict stored active submitted assigned closed kept
  · intro opened
    exact noConflict.replaceReservation fun roomId assigned active =>
      updated.roomOpen noConflict stored opened assigned active

/-- New dates and a room submitted as null. -/
def withoutRoom (checkInDate checkOutDate : Int) : FieldUpdateCall where
  data := (movedTo checkInDate checkOutDate).update
  clientVersion := some 0

theorem updateReservationFields_keeps_iff_earlierNights :
    ∃ after, updateReservationFields {} twoStays depositStay (withoutRoom 11 14) = .ok after ∧
      (NoRoomConflict after ↔ UncheckedRoomOpen twoStays depositStay (withoutRoom 11 14).data) := by
  have ran : (updateReservationFields {} twoStays depositStay
      (withoutRoom 11 14)).toOption.isSome = true := by
    decide +kernel
  obtain ⟨after, accepted⟩ := Option.isSome_iff_exists.mp ran
  have updated := toOption_eq_some accepted
  exact ⟨after, updated, updateReservationFields_keeps_iff
    twoStays_noRoomConflict (.head _) updated⟩

/-- Nights that reach the later stay are accepted with a null room. -/
theorem nullRoom_overlaps : NoRoomConflict twoStays ∧ depositStay ∈ twoStays.reservations ∧
      ∃ after, updateReservationFields {} twoStays depositStay
          (withoutRoom 10 15) = .ok after ∧ ¬NoRoomConflict after := by
  refine ⟨twoStays_noRoomConflict, .head _, ?_⟩
  have ran : (updateReservationFields {} twoStays depositStay
      (withoutRoom 10 15)).toOption.isSome = true := by
    decide +kernel
  obtain ⟨after, accepted⟩ := Option.isSome_iff_exists.mp ran
  have accepted := toOption_eq_some accepted
  refine ⟨after, accepted, ?_⟩
  obtain ⟨row, updated, rfl⟩ := updateReservationFields_eq_ok accepted
  refine updated.not_noRoomConflict (.head _) (by decide) rfl rfl ?_
  rintro ⟨free, -⟩
  exact free laterStay (.tail _ (.head _)) (by decide) (by decide) rfl (by decide)

end HotelPms.Stays
