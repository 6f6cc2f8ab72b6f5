import HotelPms.Foundation.KeySort
import HotelPms.Stays.RoomMoves
import Mathlib.Algebra.Order.Ring.Rat
import Mathlib.Data.Prod.Lex
import Mathlib.Data.String.Basic

/-!
# Extending a stay

An extension first deals with the reservations that hold the room in the added
nights: each is moved to a free room of its category, to one of a better
category, or loses its room; one that must not be touched stops the extension.
The plan is shown to the client, who sends back its fingerprint.  A released
room is written to the database only with the next flush, and the availability
read after the plan sees what has been written.
-/

namespace HotelPms.Stays

open Hotel HalfOpen Checked KeySort Booking

/-- What an extension does with a reservation in its way. -/
inductive ExtensionAction
  | blocked (reasonCode message : String)
  | movedEquivalent (toRoom : Room)
  | movedSuperior (toRoom : Room)
  | assignmentReleased

structure PlannedItem where
  reservation : Reservation
  hasPaymentOrDeposit : Bool
  fromRoomLabel : Option String
  action : ExtensionAction

/-- What a fingerprint is taken of. -/
structure ExtensionImpact where
  rootRoomLabel : Option String
  reservation : Reservation
  newCheckoutDate : Int
  canManageCompanyReservations : Bool
  rootRoomBlocked : Bool
  planned : List PlannedItem

/-- What the tables outside this model answer during an extension. -/
structure ExtensionSurroundings extends Surroundings where
  basePricePerNight : Int -> ℚ := fun _ => 0
  hasLedgerPayment : Int -> Bool := fun _ => false
  /-- Checks of the company account, made before any lock. -/
  accountChecks : Except String Unit := .ok ()
  /-- The price and its payment: the status the stay has afterwards. -/
  settlement : Reservation -> Except String ReservationStatus :=
    (.ok ·.status)

structure ExtensionCall where
  newCheckoutDate : Int
  clientVersion : Option Int
  canManageCompanyReservations : Bool := false
  confirmedImpactFingerprint : Option String := none

/-- Reservations of the room in the added nights, no-shows or the others. -/
def extensionOverlaps (state : HotelState) (reservation : Reservation)
    (newCheckoutDate : Int) (noShow : Bool) : List Reservation :=
  state.reservations.filter fun other =>
    reservation.roomId ≠ none ∧ other.roomId = reservation.roomId ∧
      other.id ≠ reservation.id ∧ other.Active ∧
      decide (other.status = .noShow) = noShow ∧
      Overlap other.stay (reservation.checkOutDate, newCheckoutDate)

/-- Reservations in the way of an extension, by arrival. -/
def extensionConflicts (state : HotelState) (reservation : Reservation)
    (newCheckoutDate : Int) : List Reservation :=
  sortByKey (fun other : Reservation => toLex (other.checkInDate, other.id))
    (extensionOverlaps state reservation newCheckoutDate false ++
      extensionOverlaps state reservation newCheckoutDate true)

section Plan

variable (state : HotelState) (surroundings : ExtensionSurroundings)

def reservationHasPaymentOrDeposit (reservation : Reservation) : Bool :=
  decide (reservation.status = .depositPaid ∨ reservation.status = .fullyPaid) ||
    surroundings.hasLedgerPayment reservation.id

variable (conflict : Reservation)

def isAutoAssignableFutureReservation : Bool :=
  !conflict.allocationLocked &&
    decide (conflict.status ≠ .partialCheckIn ∧
      conflict.status ≠ .checkedIn ∧ conflict.status ≠ .checkedOut ∧
      conflict.status ≠ .cancelled ∧ conflict.status ≠ .noShow)

/-- Categories a conflict may be moved to: its own, or the dearer ones from
the cheapest on. -/
def destinationCategories (current : RoomCategory) (superior : Bool) : List RoomCategory :=
  if superior then
    sortByKey (fun category : RoomCategory =>
      toLex (surroundings.basePricePerNight category.id, category.id))
      (state.categories.filter fun category => surroundings.basePricePerNight current.id <
          surroundings.basePricePerNight category.id)
  else
    state.categories.filter (·.id = current.id)

/-- Rooms of a category other than the extended one, by number. -/
def destinationRooms (extensionRoomId : Int) (category : RoomCategory) : List Room :=
  sortByKey (fun room : Room => toLex (room.roomNumber, room.id)) (state.rooms.filter fun room =>
      room.deletedAt.isNone && room.isActive &&
        decide (room.categoryId = category.id ∧ room.id ≠ extensionRoomId))

/-- First room that is neither planned for another conflict in the same
nights nor taken.  The read is repeated under the lock of the room. -/
def firstAvailableRoom (conflict : Reservation) (planned : List (Int × (Int × Int))) :
    List Room -> Except String (Option Room)
  | [] => .ok none
  | room :: rooms =>
    if planned.any (fun assignment =>
        assignment.1 = room.id ∧ Overlap assignment.2 conflict.stay) = true then
      firstAvailableRoom conflict planned rooms
    else do
      let available ← checkRoomAvailability state room.id conflict.stay (some conflict.id)
      if available then pure (some room)
      else firstAvailableRoom conflict planned rooms

def availableRoomForConflict (extensionRoomId : Int) (superior : Bool)
    (planned : List (Int × (Int × Int))) : Except String (Option Room) :=
  match state.category? conflict.categoryId with
  | none => .ok none
  | some current =>
    firstAvailableRoom state conflict planned
      ((destinationCategories state surroundings current superior).flatMap
        (destinationRooms state extensionRoomId))

/-- Why a reservation in the house or pinned is not moved. -/
def notReallocatable : ExtensionAction :=
  if conflict.status = .partialCheckIn ∨ conflict.status = .checkedIn then
    .blocked "checked_in_reservation_cannot_be_reallocated"
      "La reserva en estadía no puede ser reasignada por una extensión."
  else if conflict.allocationLocked then
    .blocked "reservation_allocation_locked"
      "La asignación de habitación está bloqueada y requiere revisión manual."
  else
    .blocked "reservation_not_reallocatable"
      "La reserva requiere revisión antes de cambiar su asignación."

/-- A room for a conflict that may be moved. -/
def reassignConflict (extensionRoomId : Int)
    (planned : List (Int × (Int × Int))) : Except String ExtensionAction := do
  let equivalent ← availableRoomForConflict state surroundings conflict
    extensionRoomId false planned
  match equivalent with
  | some room => pure (.movedEquivalent room)
  | none => do
    let superior ← availableRoomForConflict state surroundings conflict extensionRoomId true planned
    match superior with
    | some room => pure (.movedSuperior room)
    | none => pure .assignmentReleased

def planConflict (canManageCompanyReservations : Bool) (conflict : Reservation)
    (extensionRoomId : Int) (planned : List (Int × (Int × Int))) :
    Except String ExtensionAction :=
  if conflict.status = .noShow then
    .ok (.blocked "no_show_reservation_blocks_extension"
      "La reserva marcada como no-show requiere revisión antes de extender esta habitación.")
  else if conflict.companyId ≠ none ∧ canManageCompanyReservations = false then
    .ok (.blocked "company_reservation_requires_management_permission"
      "Se necesita permiso para reasignar una reserva de empresa en conflicto.")
  else if reservationHasPaymentOrDeposit surroundings conflict = true then
    .ok (.blocked "future_reservation_has_payment_or_deposit"
      "La reserva futura tiene pago o seña y no puede ser desplazada automáticamente.")
  else if isAutoAssignableFutureReservation conflict = false then
    .ok (notReallocatable conflict)
  else
    reassignConflict state surroundings conflict extensionRoomId planned

def ExtensionAction.toRoom? : ExtensionAction -> Option Room
  | .movedEquivalent room => some room
  | .movedSuperior room => some room
  | .blocked _ _ => none
  | .assignmentReleased => none

/-- Rooms and nights taken by the items planned so far. -/
def plannedAssignments (items : List PlannedItem) : List (Int × (Int × Int)) :=
  items.filterMap fun item => item.action.toRoom?.map fun room => (room.id, item.reservation.stay)

/-- Plan one more conflict. -/
def planItem (canManageCompanyReservations : Bool) (extensionRoomId : Int)
    (items : List PlannedItem) (conflict : Reservation) :
    Except String (List PlannedItem) := do
  let action ← planConflict state surroundings canManageCompanyReservations
    conflict extensionRoomId (plannedAssignments items)
  pure (items ++
    [{ reservation := conflict
       hasPaymentOrDeposit :=
         reservationHasPaymentOrDeposit surroundings conflict
       fromRoomLabel :=
         (conflict.roomId.bind state.room?).map Room.roomNumber
       action := action }])

/-- Plan every conflict in order. -/
def buildExtensionImpactPlan (reservation : Reservation) (call : ExtensionCall) :
    Except String (List PlannedItem) :=
  match reservation.roomId with
  | none => .ok []
  | some roomId =>
    (extensionConflicts state reservation call.newCheckoutDate).foldlM
      (planItem state surroundings call.canManageCompanyReservations roomId) []

end Plan

/-- What the database shows, and the rows changed since the last flush. -/
structure UnitOfWork where
  stored : HotelState
  pending : List Reservation := []

/-- Write the changed rows. -/
def UnitOfWork.flush (work : UnitOfWork) : HotelState :=
  work.pending.foldl HotelState.replaceReservation work.stored

def releasedReservation (reservation : Reservation) : Reservation :=
  { reservation with roomId := none, version := reservation.version + 1 }

/-- Carry out one item of the plan.  A grouped move flushes what was changed
before it. -/
def performAction (surroundings : ExtensionSurroundings)
    (work : UnitOfWork) (item : PlannedItem) : Except String UnitOfWork :=
  match item.action with
  | .blocked _ _ => .ok work
  | .assignmentReleased =>
    .ok { work with pending := work.pending ++ [releasedReservation item.reservation] }
  | .movedEquivalent room => do
    let moved ← createGroupedRoomMove work.flush surroundings.toSurroundings item.reservation room
    pure { stored := moved }
  | .movedSuperior room => do
    let moved ← createGroupedRoomMove work.flush surroundings.toSurroundings item.reservation room
    pure { stored := moved }

/-- The plan leaves some conflict unresolved. -/
def ExtensionAction.Blocked : ExtensionAction -> Prop
  | .blocked _ _ => True
  | _ => False

instance (action : ExtensionAction) : Decidable action.Blocked :=
  match action with
  | .blocked _ _ => .isTrue trivial
  | .movedEquivalent _ => .isFalse id
  | .movedSuperior _ => .isFalse id
  | .assignmentReleased => .isFalse id

/-- Outcome of an extension: refused with the conflicts left, or made. -/
inductive ExtensionOutcome
  | conflicts (unresolved : List PlannedItem)
  | extended (state : HotelState)

section Extend

variable (impactFingerprint : ExtensionImpact -> String)
  (state : HotelState) (surroundings : ExtensionSurroundings)

variable (reservation : Reservation) (call : ExtensionCall)

def rootRoomBlocked : Bool :=
  reservation.roomId.any fun roomId =>
    roomHasActiveBlock state roomId (reservation.checkOutDate, call.newCheckoutDate)

def planFingerprint (planned : List PlannedItem) : Option String :=
  if planned = [] then none
  else some (impactFingerprint
    { rootRoomLabel :=
        (reservation.roomId.bind state.room?).map Room.roomNumber
      reservation := reservation
      newCheckoutDate := call.newCheckoutDate
      canManageCompanyReservations := call.canManageCompanyReservations
      rootRoomBlocked := rootRoomBlocked state reservation call
      planned := planned })

/-- The client has confirmed the plan it is shown. -/
def checkConfirmation (planned : List PlannedItem) : Except String Unit := do
  raiseIf (call.confirmedImpactFingerprint ≠ none ∧ call.confirmedImpactFingerprint ≠
        planFingerprint impactFingerprint state reservation call planned)
    "impact_plan_stale"
  raiseIf ((¬∃ item ∈ planned, item.action.Blocked) ∧ planned ≠ [] ∧
      call.confirmedImpactFingerprint = none)
    "impact_confirmation_required"

/-- Carry the plan out, unless an item of it is blocked. -/
def resolveExtensionConflict : Except String (List PlannedItem ⊕ UnitOfWork) := do
  raiseIf (rootRoomBlocked state reservation call = true)
    "La habitación no está disponible para la extensión"
  let planned ← buildExtensionImpactPlan state surroundings reservation call
  checkConfirmation impactFingerprint state reservation call planned
  if ∃ item ∈ planned, item.action.Blocked then
    pure (.inl (planned.filter (decide ·.action.Blocked)))
  else do
    let work ← planned.foldlM (performAction surroundings)
      { stored := state }
    pure (.inr work)

/-- The added nights of the room are available in the database. -/
def checkExtensionRoom (stored : HotelState) (reservation : Reservation)
    (call : ExtensionCall) : Except String Unit :=
  match truthy reservation.roomId with
  | none => .ok ()
  | some roomId => do
    let available ← checkRoomAvailability stored roomId
      (reservation.checkOutDate, call.newCheckoutDate)
      (some reservation.id)
    raiseIf (available = false) "La habitacion no esta disponible para la extension"

/-- The stay with its new end. -/
def extendedReservation (newCheckoutDate : Int) (status : ReservationStatus)
    (later : reservation.checkOutDate < newCheckoutDate) : Reservation :=
  { reservation with
    checkOutDate := newCheckoutDate
    datesOrdered := reservation.datesOrdered.trans later
    status := status
    version := reservation.version + 1 }

/-- Availability, price and payment, and the new end of the stay. -/
def writeExtension (work : UnitOfWork) (reservation : Reservation) (call : ExtensionCall)
    (later : reservation.checkOutDate < call.newCheckoutDate) :
    Except String HotelState := do
  checkExtensionRoom work.stored reservation call
  let status ← surroundings.settlement reservation
  pure (work.flush.replaceReservation
    (extendedReservation reservation call.newCheckoutDate status later))

/-- Checks after the version is locked and before the room is. -/
def checkExtendable : Except String Unit :=
  raiseIf (reservation.status ≠ .partialCheckIn ∧
      reservation.status ≠ .checkedIn ∧ reservation.status ≠ .fullyPaid)
    "Solo se pueden extender reservas en estadía o pagadas por completo"

/-- The room of the reservation is still there to be locked. -/
def checkExtensionRoomExists : Except String Unit :=
  raiseIf (∃ roomId ∈ reservation.roomId, state.room? roomId = none)
    "La habitación de la reserva no pertenece al hotel activo"

def extendReservationStay (loaded : Reservation) : Except String ExtensionOutcome := do
  surroundings.accountChecks
  lockReservationVersion state loaded call.clientVersion
  checkExtendable loaded
  if later : loaded.checkOutDate < call.newCheckoutDate then do
    checkExtensionRoomExists state loaded
    let resolution ← resolveExtensionConflict impactFingerprint state surroundings loaded call
    match resolution with
    | .inl unresolved => pure (.conflicts unresolved)
    | .inr work => do
      let extended ← writeExtension surroundings work loaded call later
      pure (.extended extended)
  else
    throw "La nueva fecha de salida debe ser posterior a la fecha de salida actual"

end Extend

/-! ## What an extension writes -/

section Outcome

variable {impactFingerprint : ExtensionImpact -> String}
  {state : HotelState} {surroundings : ExtensionSurroundings}

variable {conflict : Reservation} {planned : List (Int × (Int × Int))}

variable {room : Room} {extensionRoomId : Int} {reservation : Reservation}
  {call : ExtensionCall} {work : UnitOfWork}

theorem firstAvailableRoom_eq_ok {rooms : List Room}
    (found : firstAvailableRoom state conflict planned rooms = .ok (some room)) :
    checkRoomAvailability state room.id conflict.stay (some conflict.id) = .ok true := by
  induction rooms with
  | nil => cases found
  | cons first rooms ih =>
    unfold firstAvailableRoom at found
    split_ifs at found
    · exact ih found
    · obtain ⟨available, checked, found⟩ := bind_eq_ok.mp found
      split_ifs at found with isAvailable
      · cases found
        rw [checked, isAvailable]
      · exact ih found

theorem availableRoomForConflict_eq_ok {superior : Bool}
    (found : availableRoomForConflict state surroundings conflict
      extensionRoomId superior planned = .ok (some room)) :
    checkRoomAvailability state room.id conflict.stay (some conflict.id) = .ok true := by
  unfold availableRoomForConflict at found
  split at found
  · cases found
  · exact firstAvailableRoom_eq_ok found

theorem planConflict_toRoom? {canManage : Bool} {action : ExtensionAction}
    (computed : planConflict state surroundings canManage conflict
      extensionRoomId planned = .ok action)
    (moves : action.toRoom? = some room) :
    checkRoomAvailability state room.id conflict.stay (some conflict.id) = .ok true := by
  unfold planConflict at computed
  split_ifs at computed
  · rw [← Except.ok.inj computed] at moves
    cases moves
  · rw [← Except.ok.inj computed] at moves
    cases moves
  · rw [← Except.ok.inj computed] at moves
    cases moves
  · rw [← Except.ok.inj computed] at moves
    unfold notReallocatable at moves
    split_ifs at moves <;> cases moves
  · obtain ⟨equivalent, first, computed⟩ := bind_eq_ok.mp computed
    cases equivalent with
    | some found =>
      rw [← pure_eq_ok.mp computed] at moves
      cases moves
      exact availableRoomForConflict_eq_ok first
    | none =>
      obtain ⟨superior, second, computed⟩ := bind_eq_ok.mp computed
      cases superior with
      | some found =>
        rw [← pure_eq_ok.mp computed] at moves
        cases moves
        exact availableRoomForConflict_eq_ok second
      | none =>
        rw [← pure_eq_ok.mp computed] at moves
        cases moves

theorem mem_extensionConflicts {conflict : Reservation} {newCheckoutDate : Int} :
    conflict ∈ extensionConflicts state reservation newCheckoutDate ↔
      conflict ∈ state.reservations ∧ reservation.roomId ≠ none ∧
        conflict.roomId = reservation.roomId ∧
        conflict.id ≠ reservation.id ∧ conflict.Active ∧
        Overlap conflict.stay (reservation.checkOutDate, newCheckoutDate) := by
  unfold extensionConflicts extensionOverlaps
  by_cases noShow : conflict.status = .noShow
  · simp [noShow]
  · simp [noShow]

/-- A planned item concerns a stored reservation, and the room it moves it to
is available. -/
structure PlannedItem.Sound (state : HotelState) (item : PlannedItem) :
    Prop where
  stored : item.reservation ∈ state.reservations
  available : ∀ room, item.action.toRoom? = some room ->
    checkRoomAvailability state room.id item.reservation.stay (some item.reservation.id) = .ok true

theorem planItem_sound {canManage : Bool}
    {items planned : List PlannedItem}
    (sound : ∀ item ∈ items, item.Sound state)
    (stored : conflict ∈ state.reservations)
    (computed : planItem state surroundings canManage extensionRoomId items
      conflict = .ok planned) : ∀ item ∈ planned, item.Sound state := by
  obtain ⟨action, chosen, computed⟩ := bind_eq_ok.mp computed
  rw [← pure_eq_ok.mp computed]
  intro item member
  rcases List.mem_added.mp member with old | rfl
  · exact sound item old
  · exact ⟨stored, fun room moves => planConflict_toRoom? chosen moves⟩

theorem buildExtensionImpactPlan_sound {planned : List PlannedItem}
    (computed : buildExtensionImpactPlan state surroundings reservation call =
      .ok planned) : ∀ item ∈ planned, item.Sound state := by
  unfold buildExtensionImpactPlan at computed
  split at computed
  · rw [← Except.ok.inj computed]
    simp
  · have stored : ∀ conflict ∈ extensionConflicts state reservation
        call.newCheckoutDate, conflict ∈ state.reservations :=
      fun conflict member => (mem_extensionConflicts.mp member).1
    refine foldlM_invariant (fun items => ∀ item ∈ items, item.Sound state) (by simp) ?_ computed
    intro items conflict next member sound step
    exact planItem_sound sound (stored conflict member) step

/-- Every row an extension writes has a property. -/
structure WritesOnly (property : Reservation -> Prop) (state : HotelState) :
    Prop where
  moved : ∀ reservation ∈ state.reservations, ∀ room : Room,
    checkRoomAvailability state room.id reservation.stay (some reservation.id) = .ok true ->
    property (movedReservation reservation room)
  released : ∀ reservation ∈ state.reservations, property (releasedReservation reservation)

structure UnitOfWork.All (property : Reservation -> Prop)
    (work : UnitOfWork) : Prop where
  stored : ∀ row ∈ work.stored.reservations, property row
  pending : ∀ row ∈ work.pending, property row

variable {property : Reservation -> Prop}

theorem UnitOfWork.All.flush (all : work.All property) :
    ∀ row ∈ work.flush.reservations, property row := by
  obtain ⟨stored, pending⟩ := work
  obtain ⟨storedAll, pendingAll⟩ := all
  induction pending generalizing stored with
  | nil => exact storedAll
  | cons row pending ih =>
    refine ih _ (forall_replaceReservation storedAll ?_) ?_
    · exact pendingAll row List.mem_cons_self
    · exact (List.forall_mem_cons.mp pendingAll).2

theorem performAction_all {next : UnitOfWork} {item : PlannedItem}
    (writes : WritesOnly property state) (sound : item.Sound state)
    (all : work.All property)
    (performed : performAction surroundings work item = .ok next) :
    next.All property := by
  have moves : ∀ room, item.action.toRoom? = some room ->
      ∀ moved, createGroupedRoomMove work.flush surroundings.toSurroundings
        item.reservation room = .ok moved ->
      (UnitOfWork.mk moved []).All property := by
    intro room target moved written
    refine ⟨?_, by simp⟩
    rw [(createGroupedRoomMove_eq_ok written).1]
    exact forall_replaceReservation all.flush
      (writes.moved _ sound.stored room (sound.available room target))
  unfold performAction at performed
  split at performed
  · rw [← Except.ok.inj performed]
    exact all
  · rw [← Except.ok.inj performed]
    refine ⟨all.stored, ?_⟩
    intro row member
    rcases List.mem_added.mp member with old | rfl
    · exact all.pending row old
    · exact writes.released _ sound.stored
  · next room action =>
    obtain ⟨moved, written, performed⟩ := bind_eq_ok.mp performed
    rw [← pure_eq_ok.mp performed]
    exact moves room (by rw [action]; rfl) moved written
  · next room action =>
    obtain ⟨moved, written, performed⟩ := bind_eq_ok.mp performed
    rw [← pure_eq_ok.mp performed]
    exact moves room (by rw [action]; rfl) moved written

theorem resolveExtensionConflict_all (holds : ∀ row ∈ state.reservations, property row)
    (writes : WritesOnly property state)
    (resolved : resolveExtensionConflict impactFingerprint state surroundings
      reservation call = .ok (.inr work)) :
    rootRoomBlocked state reservation call = false ∧ work.All property := by
  obtain ⟨_, unblocked, resolved⟩ := bind_eq_ok.mp resolved
  obtain ⟨planned, computed, resolved⟩ := bind_eq_ok.mp resolved
  obtain ⟨-, -, resolved⟩ := bind_eq_ok.mp resolved
  rw [raiseIf_eq_ok, Bool.not_eq_true] at unblocked
  refine ⟨unblocked, ?_⟩
  split_ifs at resolved
  · cases pure_eq_ok.mp resolved
  · obtain ⟨performed, performing, resolved⟩ := bind_eq_ok.mp resolved
    cases resolved
    have sound := buildExtensionImpactPlan_sound computed
    refine foldlM_invariant (·.All property) ⟨holds, by simp⟩ ?_ performing
    intro work item next member all step
    exact performAction_all writes (sound item member) all step

theorem extendReservationStay_eq_ok {loaded : Reservation} {final : HotelState}
    (made : extendReservationStay impactFingerprint state surroundings call
      loaded = .ok (.extended final)) :
    ∃ (later : loaded.checkOutDate < call.newCheckoutDate)
      (work : UnitOfWork) (status : ReservationStatus),
      lockReservationVersion state loaded call.clientVersion = .ok () ∧
      checkExtendable loaded = .ok () ∧
      resolveExtensionConflict impactFingerprint state surroundings loaded call = .ok (.inr work) ∧
      checkExtensionRoom work.stored loaded call = .ok () ∧
      final = work.flush.replaceReservation
        (extendedReservation loaded call.newCheckoutDate status later) := by
  obtain ⟨-, -, made⟩ := bind_eq_ok.mp made
  obtain ⟨_, locked, made⟩ := bind_eq_ok.mp made
  obtain ⟨_, extendable, made⟩ := bind_eq_ok.mp made
  split_ifs at made with later
  · obtain ⟨-, -, made⟩ := bind_eq_ok.mp made
    obtain ⟨resolution, resolved, made⟩ := bind_eq_ok.mp made
    cases resolution with
    | inl unresolved => cases pure_eq_ok.mp made
    | inr work =>
      obtain ⟨extended, written, made⟩ := bind_eq_ok.mp made
      cases made
      obtain ⟨_, room, written⟩ := bind_eq_ok.mp written
      obtain ⟨status, -, written⟩ := bind_eq_ok.mp written
      exact ⟨later, work, status, locked, extendable, resolved, room, (pure_eq_ok.mp written).symm⟩

/-- An extension starts from a reservation in the house or paid for. -/
theorem active_of_checkExtendable {loaded : Reservation} (present : loaded.deletedAt = none)
    (extendable : checkExtendable loaded = .ok ()) : loaded.Active := by
  unfold checkExtendable at extendable
  rw [raiseIf_eq_ok] at extendable
  push Not at extendable
  refine ⟨present, ?_, ?_⟩
  · intro cancelled
    have paid := extendable (by simp [cancelled]) (by simp [cancelled])
    simp [cancelled] at paid
  · intro left
    have paid := extendable (by simp [left]) (by simp [left])
    simp [left] at paid

end Outcome
end HotelPms.Stays
