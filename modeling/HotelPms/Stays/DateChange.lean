import HotelPms.Blocks.Runs
import HotelPms.Booking.ConcurrencySafety

/-!
# Changing the dates of a reservation

A reservation without payments is cancelled and created again with its new
dates; one with payments keeps its row, whose dates are edited.  The edit is
given the room of the caller, also when the caller leaves it out, and reads
availability of the room it is given only.
-/

namespace HotelPms.Stays

open Hotel HalfOpen Checked Booking

structure DateChangeCall where
  checkInDate : Int
  checkOutDate : Int
  clientVersion : Option Int
  roomId : Option Int := none
  pricingMode : String := "recalculate"
  managerAuthorized : Bool := false

namespace DateChangeCall

variable (call : DateChangeCall)

/-- Half-open window of the requested dates. -/
def stay : Int × Int := (call.checkInDate, call.checkOutDate)

/-- Payload of the edit of a reservation with payments. -/
def update : ReservationUpdate where
  roomId := some call.roomId
  checkInDate := some (some call.checkInDate)
  checkOutDate := some (some call.checkOutDate)

/-- Payload of the new reservation that replaces one without payments. -/
def recreated (loaded : Reservation) (channelCode : String) : ReservationCreate where
  guestId := loaded.guestId
  categoryId := loaded.categoryId
  roomId := call.roomId.or loaded.roomId
  sellableProductId := loaded.sellableProductId
  companyId := loaded.companyId
  checkInDate := call.checkInDate
  checkOutDate := call.checkOutDate
  numAdults := loaded.numAdults
  numChildren := loaded.numChildren
  channelCode := channelCode
  source := loaded.source

end DateChangeCall

/-- What the tables outside this model answer during a date change. -/
structure DateChangeSurroundings where
  today : Int := 0
  amountPaid : ℚ := 0
  hasAnyTransaction : Bool := false
  allowOverbooking : Bool := false
  /-- Channel of the reservation as a new one resolves it. -/
  channelCode : String := "other_direct"
  /-- Guest, company and price checks of a new reservation. -/
  creationChecks : Except String Unit := .ok ()
  /-- Restrictions of the guest. -/
  restrictionChecks : Except String Unit := .ok ()
  /-- Total of the edited reservation in a pricing mode. -/
  newTotal : String -> Except String ℚ := fun _ => .ok 0

/-- The two rows a date change returns, and the tables with them. -/
structure DateChangeResult where
  state : HotelState
  original : Reservation
  reservation : Reservation
  recreated : Bool

section Change

variable (state : HotelState) (surroundings : DateChangeSurroundings)
  (call : DateChangeCall) (loaded : Reservation)

/-- Checks made before the payments are looked at. -/
def checkDateChange : Except String Unit := do
  lockReservationVersion state loaded call.clientVersion
  raiseIf (call.checkOutDate ≤ call.checkInDate)
    "La fecha de salida debe ser posterior a la fecha de entrada"
  raiseIf (call.checkInDate < surroundings.today)
    "No se puede cambiar la fecha de check-in a una fecha en el pasado"
  raiseIf (loaded.status = .partialCheckIn ∨ loaded.status = .checkedIn ∨
      loaded.status = .checkedOut ∨ loaded.status = .cancelled ∨
      loaded.status = .noShow)
    "No se pueden cambiar fechas en el estado actual"

/-- The reservation has a payment, or something that stands for one. -/
def HasPayment : Prop :=
  loaded.status = .depositPaid ∨ loaded.status = .fullyPaid ∨
    0 < surroundings.amountPaid ∨ surroundings.hasAnyTransaction = true
deriving Decidable

def cancelledReservation : Reservation :=
  { loaded with status := .cancelled, version := loaded.version + 1 }

/-- Cancel the reservation, and create it again with its new dates.  The
database returns the rooms of a category in no fixed order and numbers the new
row. -/
def recreateReservation (roomId : Option Int) (id : Int) : Except String DateChangeResult := do
  let cancelled := cancelledReservation loaded
  let data := call.recreated loaded surroundings.channelCode
  let final ← Blocks.createReservation (state.replaceReservation cancelled)
    data surroundings.allowOverbooking surroundings.creationChecks roomId id
  match final.reservation? id with
  | none => throw "uq_reservation_id"
  | some created =>
    pure { state := final, original := cancelled, reservation := created, recreated := true }

def checkSubmittedRoom : Except String Unit :=
  match call.roomId with
  | none => .ok ()
  | some roomId => call.update.checkNewRoom loaded roomId state

/-- A total that is covered by the payments makes the reservation paid. -/
def settleEdited (total : ℚ) (row : Reservation) : Except String Reservation :=
  if row.status ≠ .fullyPaid ∧ total ≤ surroundings.amountPaid then do
    raiseIf (.fullyPaid ∉ row.status.validTransitions)
      "No se puede cambiar la reserva al estado fully_paid"
    pure { row with status := .fullyPaid }
  else pure row

def updateReservationDates : Except String DateChangeResult := do
  raiseIf (call.managerAuthorized = false)
    "Modificar fechas con pagos requiere gerente, dueno o codueno"
  lockReservationVersion state loaded call.clientVersion
  surroundings.restrictionChecks
  call.update.checkDates loaded state
  let total ← surroundings.newTotal call.pricingMode
  checkSubmittedRoom state call loaded
  let edited ← call.update.flush loaded loaded
  let row ← settleEdited surroundings total edited
  pure
    { state := state.replaceReservation row, original := row, reservation := row
      recreated := false }

def changeReservationDates (roomId : Option Int) (id : Int) : Except String DateChangeResult := do
  checkDateChange state surroundings call loaded
  if HasPayment surroundings loaded then
    updateReservationDates state surroundings call loaded
  else recreateReservation state surroundings call loaded roomId id

end Change

/-- No other active stay and no unresolved block is in the room. -/
def RoomOpen (state : HotelState) (roomId : Int) (window : Int × Int) (self : Option Int) : Prop :=
  state.RoomFree roomId window self ∧ roomHasActiveBlock state roomId window = false

/-- No two active stays of a room overlap, nor does one overlap an unresolved
block of its room. -/
structure NoRoomConflict (state : HotelState) : Prop where
  noDoubleBooking : state.NoDoubleBooking
  unblocked : ∀ reservation ∈ state.reservations, reservation.Active ->
    ∀ roomId, reservation.roomId = some roomId ->
      roomHasActiveBlock state roomId reservation.stay = false

/-- The guest keeps one active stay of the two returned ones, at the requested
dates; a paid change that leaves the room out keeps the room. -/
structure StayKept (surroundings : DateChangeSurroundings)
    (call : DateChangeCall) (loaded : Reservation)
    (result : DateChangeResult) : Prop where
  originalId : result.original.id = loaded.id
  original : result.original ∈ result.state.reservations
  returned : result.reservation ∈ result.state.reservations
  oneActive : ∃! row, (row = result.original ∨ row = result.reservation) ∧ row.Active
  ofGuest : ∀ row, row = result.original ∨ row = result.reservation →
    row.Active → row.guestId = loaded.guestId ∧ row.stay = call.stay ∧
      (HasPayment surroundings loaded → call.roomId = none → row.roomId = loaded.roomId)

structure PaidChangePasses (state : HotelState)
    (surroundings : DateChangeSurroundings) (call : DateChangeCall)
    (loaded : Reservation) : Prop where
  checks : checkDateChange state surroundings call loaded = .ok ()
  authorized : call.managerAuthorized = true
  unrestricted : surroundings.restrictionChecks = .ok ()
  guests : 0 < loaded.numAdults ∧ 0 ≤ loaded.numChildren
  priced : ∃ total, surroundings.newTotal call.pricingMode = .ok total ∧
    (loaded.status ≠ .fullyPaid → total ≤ surroundings.amountPaid →
      .fullyPaid ∈ loaded.status.validTransitions)

/-- A paid change that leaves the room out, and passes its other checks, finds
the room of the reservation open. -/
def RoomLeftOutOpen (state : HotelState)
    (surroundings : DateChangeSurroundings) (call : DateChangeCall)
    (loaded : Reservation) : Prop :=
  HasPayment surroundings loaded → call.roomId = none →
    PaidChangePasses state surroundings call loaded → ∀ roomId, loaded.roomId = some roomId →
        RoomOpen state roomId call.stay (some loaded.id)

section Writes

variable {state : HotelState} {row : Reservation}

theorem NoRoomConflict.replaceReservation (noConflict : NoRoomConflict state)
    (opened : ∀ roomId, row.roomId = some roomId -> row.Active ->
      RoomOpen state roomId row.stay (some row.id)) :
    NoRoomConflict (state.replaceReservation row) where
  noDoubleBooking := noConflict.noDoubleBooking.replaceReservation
    fun roomId assigned active => (opened roomId assigned active).1
  unblocked := by
    refine forall_replaceReservation noConflict.unblocked ?_
    intro active roomId assigned
    exact (opened roomId assigned active).2

theorem NoRoomConflict.addReservation {fresh : row.id ∉ state.reservations.map Reservation.id}
    (noConflict : NoRoomConflict state)
    (opened : ∀ roomId, row.roomId = some roomId -> RoomOpen state roomId row.stay none) :
    NoRoomConflict (state.addReservation row fresh) where
  noDoubleBooking := noConflict.noDoubleBooking.addReservation
    fun roomId assigned => (opened roomId assigned).1
  unblocked := by
    intro reservation member active roomId assigned
    rcases List.mem_cons.mp member with rfl | old
    · exact (opened roomId assigned).2
    · exact noConflict.unblocked reservation old active roomId assigned

theorem not_noRoomConflict_replaceReservation {old : Reservation} {roomId : Int}
    (stored : old ∈ state.reservations) (sameId : row.id = old.id)
    (active : row.Active) (assigned : row.roomId = some roomId)
    (closed : ¬RoomOpen state roomId row.stay (some row.id)) :
    ¬NoRoomConflict (state.replaceReservation row) := by
  intro noConflict
  have written := HotelState.mem_replaceReservation_self stored sameId
  apply closed
  constructor
  · intro other member otherActive notSelf inRoom overlap
    have different : other.id ≠ row.id := fun same => notSelf (congrArg some same.symm)
    refine noConflict.noDoubleBooking other
      ⟨HotelState.mem_replaceReservation_of_ne member different, otherActive⟩ row
      ⟨written, active⟩ ?_ roomId inRoom assigned overlap
    rintro rfl
    exact different rfl
  · exact noConflict.unblocked row written active roomId assigned

end Writes

/-! ## What a date change does -/

section Outcome

variable {state : HotelState} {surroundings : DateChangeSurroundings}
  {call : DateChangeCall} {loaded : Reservation}
  {result : DateChangeResult}

theorem checkDateChange_eq_ok (stored : loaded ∈ state.reservations)
    (passed : checkDateChange state surroundings call loaded = .ok ()) :
    loaded.Active ∧ call.checkInDate < call.checkOutDate := by
  obtain ⟨_, version, passed⟩ := bind_eq_ok.mp passed
  obtain ⟨_, ordered, passed⟩ := bind_eq_ok.mp passed
  obtain ⟨-, -, passed⟩ := bind_eq_ok.mp passed
  rw [raiseIf_eq_ok, not_le] at ordered
  rw [raiseIf_eq_ok] at passed
  push Not at passed
  have present := deletedAt_of_lockReservationVersion stored version
  exact ⟨⟨present, passed.2.2.2.1, passed.2.2.1⟩, ordered⟩

/-- The reservation with its new dates, and a new room if one is
submitted. -/
def editedReservation (loaded : Reservation) (call : DateChangeCall)
    (ordered : call.checkInDate < call.checkOutDate) : Reservation :=
  { loaded with
    roomId := call.roomId.or loaded.roomId
    checkInDate := call.checkInDate
    checkOutDate := call.checkOutDate
    datesOrdered := ordered
    version := loaded.version + 1 }

/-- The edit writes the dates and the room, where the guests are valid. -/
theorem flush_update_eq_ok {row : Reservation} :
    call.update.flush loaded loaded = .ok row ↔ (0 < loaded.numAdults ∧ 0 ≤ loaded.numChildren) ∧
        ∃ ordered, row = editedReservation loaded call ordered := by
  unfold ReservationUpdate.flush
  simp only [bind_eq_ok, raiseIf_eq_ok, ReservationUpdate.column_self, DateChangeCall.update,
    ReservationUpdate.newRoomId, ReservationUpdate.submittedRoom?, ReservationUpdate.stayAfter,
    ReservationUpdate.newStay?, Option.getD_some, Option.getD_none]
  constructor
  · rintro ⟨-, -, -, adults, -, children, written⟩
    split_ifs at written with ordered
    refine ⟨⟨not_le.mp adults, not_lt.mp children⟩, ordered, ?_⟩
    exact (pure_eq_ok.mp written).symm
  · rintro ⟨⟨adults, children⟩, ordered, rfl⟩
    refine ⟨(), by simp, (), not_le.mpr adults, (), not_lt.mpr children, ?_⟩
    exact dif_pos ordered

theorem settleEdited_eq_ok {total : ℚ} {edited row : Reservation} (active : edited.Active)
    (settled : settleEdited surroundings total edited = .ok row) :
    row.Active ∧ ∃ status, row = { edited with status := status } := by
  unfold settleEdited at settled
  split_ifs at settled
  · obtain ⟨-, -, settled⟩ := bind_eq_ok.mp settled
    rw [← pure_eq_ok.mp settled]
    exact ⟨⟨active.1, by simp, by simp⟩, .fullyPaid, rfl⟩
  · rw [← pure_eq_ok.mp settled]
    exact ⟨active, edited.status, rfl⟩

/-- An edit rewrites the row with its new dates, and has found a room that was
submitted open. -/
structure EditedInPlace (state : HotelState) (call : DateChangeCall)
    (loaded : Reservation) (result : DateChangeResult) : Prop where
  row : ∃ status ordered, result.reservation =
      { editedReservation loaded call ordered with status := status }
  tables : result.state = state.replaceReservation result.reservation
  original : result.original = result.reservation
  active : result.reservation.Active
  submitted : ∀ roomId, call.roomId = some roomId → RoomOpen state roomId call.stay (some loaded.id)

theorem roomOpen_of_checkNewRoom {data : ReservationUpdate} {roomId : Int}
    (passed : data.checkNewRoom loaded roomId state = .ok ()) :
    RoomOpen state roomId (data.stayAfter loaded) (some loaded.id) := by
  unfold ReservationUpdate.checkNewRoom at passed
  split at passed
  · cases passed
  · obtain ⟨-, -, passed⟩ := bind_eq_ok.mp passed
    obtain ⟨available, read, passed⟩ := bind_eq_ok.mp passed
    rw [raiseIf_eq_ok, Bool.not_eq_false] at passed
    rw [passed] at read
    exact ⟨checkRoomAvailability_eq_ok read, roomHasActiveBlock_of_available read⟩

theorem checkSubmittedRoom_eq_ok (passed : checkSubmittedRoom state call loaded = .ok ()) :
    ∀ roomId, call.roomId = some roomId → RoomOpen state roomId call.stay (some loaded.id) := by
  intro roomId submitted
  unfold checkSubmittedRoom at passed
  rw [submitted] at passed
  exact roomOpen_of_checkNewRoom passed

theorem updateReservationDates_eq_ok (active : loaded.Active)
    (updated : updateReservationDates state surroundings call loaded =
      .ok result) : EditedInPlace state call loaded result := by
  obtain ⟨-, -, updated⟩ := bind_eq_ok.mp updated
  obtain ⟨-, -, updated⟩ := bind_eq_ok.mp updated
  obtain ⟨-, -, updated⟩ := bind_eq_ok.mp updated
  obtain ⟨-, -, updated⟩ := bind_eq_ok.mp updated
  obtain ⟨total, -, updated⟩ := bind_eq_ok.mp updated
  obtain ⟨_, submitted, updated⟩ := bind_eq_ok.mp updated
  obtain ⟨edited, flushed, updated⟩ := bind_eq_ok.mp updated
  obtain ⟨row, settled, updated⟩ := bind_eq_ok.mp updated
  obtain ⟨-, ordered, rfl⟩ := flush_update_eq_ok.mp flushed
  obtain ⟨rowActive, status, rfl⟩ := settleEdited_eq_ok
    (show (editedReservation loaded call ordered).Active from active) settled
  rw [← pure_eq_ok.mp updated]
  exact
    { row := ⟨status, ordered, rfl⟩, tables := rfl, original := rfl, active := rowActive
      submitted := checkSubmittedRoom_eq_ok submitted }

theorem exists_updateReservationDates
    (ordered : call.checkInDate < call.checkOutDate)
    (version : lockReservationVersion state loaded call.clientVersion = .ok ())
    (leftOut : call.roomId = none)
    (passes : PaidChangePasses state surroundings call loaded) :
    ∃ result, updateReservationDates state surroundings call loaded = .ok result := by
  obtain ⟨total, priced, settles⟩ := passes.priced
  have datesPass : call.update.checkDates loaded state = .ok () := by
    unfold ReservationUpdate.checkDates ReservationUpdate.validateOccupancy
    simp [DateChangeCall.update, ReservationUpdate.changesDates, ReservationUpdate.newStay?,
      ReservationUpdate.targetRoomId, leftOut, truthy, raiseIf, if_neg (not_le.mpr ordered), pure,
      Except.pure, bind, Except.bind]
  have roomPasses : checkSubmittedRoom state call loaded = .ok () := by
    unfold checkSubmittedRoom
    rw [leftOut]
  have flushes := flush_update_eq_ok.mpr ⟨passes.guests, ordered, rfl⟩
  have settled : ∃ row, settleEdited surroundings total
      (editedReservation loaded call ordered) = .ok row := by
    unfold settleEdited
    split_ifs with pays
    · exact ⟨_, bind_eq_ok.mpr ⟨(), raiseIf_eq_ok.mpr
        (not_not.mpr (settles pays.1 pays.2)), rfl⟩⟩
    · exact ⟨_, rfl⟩
  obtain ⟨row, settled⟩ := settled
  have authorized : ¬call.managerAuthorized = false := by
    simp [passes.authorized]
  refine
    ⟨{ state := state.replaceReservation row, original := row, reservation := row
       recreated := false }, ?_⟩
  unfold updateReservationDates
  rw [raiseIf, if_neg authorized, version, passes.unrestricted, datesPass,
    priced, roomPasses, flushes]
  show (settleEdited surroundings total (editedReservation loaded call ordered) >>= _) = _
  rw [settled]
  rfl

theorem paidChangePasses_of_eq_ok (checks : checkDateChange state surroundings call loaded = .ok ())
    (updated : updateReservationDates state surroundings call loaded =
      .ok result) : PaidChangePasses state surroundings call loaded := by
  obtain ⟨_, authorized, updated⟩ := bind_eq_ok.mp updated
  obtain ⟨-, -, updated⟩ := bind_eq_ok.mp updated
  obtain ⟨_, unrestricted, updated⟩ := bind_eq_ok.mp updated
  obtain ⟨-, -, updated⟩ := bind_eq_ok.mp updated
  obtain ⟨total, priced, updated⟩ := bind_eq_ok.mp updated
  obtain ⟨-, -, updated⟩ := bind_eq_ok.mp updated
  obtain ⟨edited, flushed, updated⟩ := bind_eq_ok.mp updated
  obtain ⟨row, settled, -⟩ := bind_eq_ok.mp updated
  rw [raiseIf_eq_ok, Bool.not_eq_false] at authorized
  obtain ⟨guests, ordered, rfl⟩ := flush_update_eq_ok.mp flushed
  refine ⟨checks, authorized, unrestricted, guests, total, priced, ?_⟩
  intro unpaid covered
  unfold settleEdited at settled
  rw [if_pos ⟨unpaid, covered⟩] at settled
  obtain ⟨_, allowed, -⟩ := bind_eq_ok.mp settled
  rwa [raiseIf_eq_ok, not_not] at allowed

/-- A reservation that is created again leaves a cancelled row, and a new one
at the requested dates in an open room. -/
structure Recreated (state : HotelState) (call : DateChangeCall)
    (loaded : Reservation) (result : DateChangeResult) : Prop where
  original : result.original = cancelledReservation loaded
  tables : ∃ fresh, result.state = (state.replaceReservation result.original).addReservation
      result.reservation fresh
  active : result.reservation.Active
  guest : result.reservation.guestId = loaded.guestId
  stay : result.reservation.stay = call.stay
  opened : ∀ roomId, result.reservation.roomId = some roomId →
    RoomOpen (state.replaceReservation result.original) roomId call.stay none

theorem recreateReservation_eq_ok {roomId : Option Int} {id : Int}
    (made : recreateReservation state surroundings call loaded roomId id =
      .ok result) : Recreated state call loaded result := by
  obtain ⟨final, created, made⟩ := bind_eq_ok.mp made
  obtain ⟨ordered, fresh, rfl, offered⟩ := Blocks.createReservation_eq_ok created
  have added := HotelState.reservation?_eq_some_of_mem
    ((state.replaceReservation (cancelledReservation loaded)).addReservation
      ((call.recreated loaded surroundings.channelCode).row id roomId
        ordered) fresh) List.mem_cons_self
  rw [show ((call.recreated loaded surroundings.channelCode).row id roomId
    ordered).id = id from rfl] at added
  rw [added] at made
  rw [← pure_eq_ok.mp made]
  exact
    { original := rfl
      tables := ⟨fresh, rfl⟩
      active := ⟨rfl, by simp [ReservationCreate.row], by simp [ReservationCreate.row]⟩
      guest := rfl
      stay := rfl
      opened := fun room assigned => ⟨(offered room assigned).2, (offered room assigned).1⟩ }

/-- A cancelled row holds no room. -/
theorem cancelledReservation_not_active : ¬(cancelledReservation loaded).Active := by
  rintro ⟨-, notCancelled, -⟩
  exact notCancelled rfl

theorem Recreated.noRoomConflict (recreated : Recreated state call loaded result)
    (noConflict : NoRoomConflict state) : NoRoomConflict result.state := by
  obtain ⟨fresh, tables⟩ := recreated.tables
  rw [tables]
  refine NoRoomConflict.addReservation ?_ ?_
  · refine noConflict.replaceReservation fun roomId _ active => ?_
    rw [recreated.original] at active
    exact absurd active cancelledReservation_not_active
  · intro roomId assigned
    rw [recreated.stay]
    exact recreated.opened roomId assigned

theorem Recreated.stayKept (recreated : Recreated state call loaded result)
    (stored : loaded ∈ state.reservations)
    (unpaid : ¬HasPayment surroundings loaded) :
    StayKept surroundings call loaded result := by
  obtain ⟨fresh, tables⟩ := recreated.tables
  have cancelled : ¬result.original.Active := by
    rw [recreated.original]
    exact cancelledReservation_not_active
  have sameId : result.original.id = loaded.id := by
    rw [recreated.original]
    rfl
  refine
    { originalId := sameId, original := ?_, returned := ?_
      oneActive := ⟨result.reservation, ⟨.inr rfl, recreated.active⟩, ?_⟩, ofGuest := ?_ }
  · rw [tables]
    exact List.mem_cons_of_mem _ (HotelState.mem_replaceReservation_self stored sameId)
  · rw [tables]
    exact List.mem_cons_self
  · rintro row ⟨rfl | rfl, active⟩
    · exact absurd active cancelled
    · rfl
  · rintro row (rfl | rfl) active
    · exact absurd active cancelled
    · exact ⟨recreated.guest, recreated.stay, (absurd · unpaid)⟩

theorem EditedInPlace.stayKept (edited : EditedInPlace state call loaded result)
    (stored : loaded ∈ state.reservations) :
    StayKept surroundings call loaded result := by
  obtain ⟨status, ordered, row⟩ := edited.row
  have sameId : result.reservation.id = loaded.id := by
    rw [row]
    rfl
  have written : result.reservation ∈ result.state.reservations := by
    rw [edited.tables]
    exact HotelState.mem_replaceReservation_self stored sameId
  refine
    { originalId := edited.original ▸ sameId, original := edited.original ▸ written
      returned := written, oneActive := ⟨result.reservation, ⟨.inr rfl, edited.active⟩, ?_⟩
      ofGuest := ?_ }
  · rintro other ⟨same | same, -⟩
    · exact same.trans edited.original
    · exact same
  · intro other returned _
    have same : other = result.reservation := by
      rcases returned with same | same
      · exact same.trans edited.original
      · exact same
    rw [same, row]
    refine ⟨rfl, rfl, fun _ leftOut => ?_⟩
    show call.roomId.or loaded.roomId = loaded.roomId
    rw [leftOut]
    rfl

theorem EditedInPlace.noRoomConflict (edited : EditedInPlace state call loaded result)
    (noConflict : NoRoomConflict state)
    (opened : call.roomId = none -> ∀ roomId, loaded.roomId = some roomId ->
      RoomOpen state roomId call.stay (some loaded.id)) :
    NoRoomConflict result.state := by
  obtain ⟨status, ordered, row⟩ := edited.row
  rw [edited.tables]
  refine noConflict.replaceReservation fun roomId assigned _ => ?_
  rw [row] at assigned ⊢
  cases submitted : call.roomId with
  | none =>
    refine opened submitted roomId ?_
    rw [← assigned]
    show loaded.roomId = call.roomId.or loaded.roomId
    rw [submitted]
    rfl
  | some chosen =>
    have same : some chosen = some roomId := by
      rw [← assigned, ← submitted]
      show call.roomId = call.roomId.or loaded.roomId
      rw [submitted]
      rfl
    obtain rfl := Option.some.inj same
    exact edited.submitted chosen submitted

theorem EditedInPlace.not_noRoomConflict {roomId : Int}
    (edited : EditedInPlace state call loaded result)
    (stored : loaded ∈ state.reservations) (leftOut : call.roomId = none)
    (assigned : loaded.roomId = some roomId)
    (closed : ¬RoomOpen state roomId call.stay (some loaded.id)) :
    ¬NoRoomConflict result.state := by
  obtain ⟨status, ordered, row⟩ := edited.row
  rw [edited.tables]
  have active := edited.active
  rw [row] at active ⊢
  refine not_noRoomConflict_replaceReservation stored rfl active ?_ closed
  show call.roomId.or loaded.roomId = some roomId
  rw [leftOut]
  exact assigned

end Outcome

/-- A date change keeps rooms free of conflicts and the stay of its guest,
whatever it returns, exactly when a paid change that leaves the room out finds
its room open. -/
theorem changeReservationDates_keeps_iff
    {state : HotelState} {surroundings : DateChangeSurroundings}
    {call : DateChangeCall} {loaded : Reservation} {roomId : Option Int}
    {id : Int} (noConflict : NoRoomConflict state)
    (stored : loaded ∈ state.reservations) :
    (∀ result, changeReservationDates state surroundings call loaded roomId id = .ok result ->
      NoRoomConflict result.state ∧ StayKept surroundings call loaded result) ↔
      RoomLeftOutOpen state surroundings call loaded := by
  constructor
  · intro keeps paid leftOut passes held assigned
    by_contra closed
    obtain ⟨active, ordered⟩ := checkDateChange_eq_ok stored passes.checks
    obtain ⟨_, version, -⟩ := bind_eq_ok.mp passes.checks
    obtain ⟨result, updated⟩ := exists_updateReservationDates ordered version leftOut passes
    have changed : changeReservationDates state surroundings call loaded
        roomId id = .ok result := by
      refine bind_eq_ok.mpr ⟨(), passes.checks, ?_⟩
      rw [if_pos paid]
      exact updated
    exact (updateReservationDates_eq_ok active updated).not_noRoomConflict
      stored leftOut assigned closed (keeps result changed).1
  · intro opened result changed
    obtain ⟨_, checks, changed⟩ := bind_eq_ok.mp changed
    obtain ⟨active, -⟩ := checkDateChange_eq_ok stored checks
    split_ifs at changed with paid
    · have edited := updateReservationDates_eq_ok active changed
      refine ⟨edited.noRoomConflict noConflict ?_, edited.stayKept stored⟩
      intro leftOut
      exact opened paid leftOut (paidChangePasses_of_eq_ok checks changed)
    · have recreated := recreateReservation_eq_ok changed
      exact ⟨recreated.noRoomConflict noConflict, recreated.stayKept stored paid⟩

theorem depositStay_datesOrdered : (10 : Int) < 12 := by decide

def depositStay : Reservation where
  id := 10
  roomId := some 1
  categoryId := 1
  checkInDate := 10
  checkOutDate := 12
  datesOrdered := depositStay_datesOrdered
  status := .depositPaid

theorem laterStay_datesOrdered : (14 : Int) < 16 := by decide

def laterStay : Reservation where
  id := 11
  roomId := some 1
  categoryId := 1
  checkInDate := 14
  checkOutDate := 16
  datesOrdered := laterStay_datesOrdered

theorem twoStays_distinctReservations : ([depositStay, laterStay].map Reservation.id).Nodup := by
  decide

theorem twoStays_distinctRooms :
    (([{ id := 1, categoryId := 1 }] : List Room).map Room.id).Nodup := by
  decide

def twoStays : HotelState where
  reservations := [depositStay, laterStay]
  distinctReservations := twoStays_distinctReservations
  rooms := [{ id := 1, categoryId := 1 }]
  distinctRooms := twoStays_distinctRooms
  categories := [{ id := 1, maxOccupancy := 2 }]

theorem twoStays_noRoomConflict : NoRoomConflict twoStays where
  noDoubleBooking := by
    rintro first ⟨firstIn, -⟩ second ⟨secondIn, -⟩ different held - - overlap
    simp only [twoStays, List.mem_cons, List.not_mem_nil, or_false] at firstIn secondIn
    rcases firstIn with rfl | rfl <;> rcases secondIn with rfl | rfl
    · exact different rfl
    · exact absurd overlap (by decide)
    · exact absurd overlap (by decide)
    · exact different rfl
  unblocked := fun _ _ _ _ _ => rfl

/-- A manager changes the dates of the first stay and leaves its room out. -/
def movedTo (checkInDate checkOutDate : Int) : DateChangeCall where
  checkInDate := checkInDate
  checkOutDate := checkOutDate
  clientVersion := some 0
  managerAuthorized := true

/-- A deposit of 30 towards a total of 90. -/
def deposit : DateChangeSurroundings where
  amountPaid := 30
  newTotal := fun _ => .ok 90

/-- Nights that do not reach the later stay are accepted, and keep the
rooms. -/
theorem changeReservationDates_keeps_iff_earlierNights :
    NoRoomConflict twoStays ∧ depositStay ∈ twoStays.reservations ∧
      (changeReservationDates twoStays deposit (movedTo 11 14) depositStay none 0).isOk = true ∧
      ∀ result, changeReservationDates twoStays deposit (movedTo 11 14)
          depositStay none 0 = .ok result ->
        NoRoomConflict result.state ∧ StayKept deposit (movedTo 11 14) depositStay result := by
  refine ⟨twoStays_noRoomConflict, .head _, by decide +kernel, ?_⟩
  refine (changeReservationDates_keeps_iff twoStays_noRoomConflict (.head _)).mpr ?_
  intro _ _ _ roomId assigned
  refine ⟨?_, rfl⟩
  intro other member _ notSelf _ overlap
  simp only [twoStays, List.mem_cons, List.not_mem_nil, or_false] at member
  rcases member with rfl | rfl
  · exact notSelf rfl
  · exact absurd overlap (by decide)

/-- Nights that reach the later stay are accepted too. -/
theorem not_noRoomConflict_laterNights :
    NoRoomConflict twoStays ∧ depositStay ∈ twoStays.reservations ∧
      ∃ result, changeReservationDates twoStays deposit (movedTo 10 15)
          depositStay none 0 = .ok result ∧ ¬NoRoomConflict result.state := by
  refine ⟨twoStays_noRoomConflict, .head _, ?_⟩
  have accepted : (changeReservationDates twoStays deposit (movedTo 10 15)
      depositStay none 0).isOk = true := by
    decide +kernel
  cases changed : changeReservationDates twoStays deposit (movedTo 10 15) depositStay none 0 with
  | error error =>
    rw [changed] at accepted
    cases accepted
  | ok result =>
    refine ⟨result, rfl, ?_⟩
    obtain ⟨-, -, changed⟩ := bind_eq_ok.mp changed
    refine (updateReservationDates_eq_ok (by decide)
      changed).not_noRoomConflict (.head _) rfl rfl ?_
    rintro ⟨free, -⟩
    exact free laterStay (.tail _ (.head _)) (by decide) (by decide) rfl (by decide)

end HotelPms.Stays
