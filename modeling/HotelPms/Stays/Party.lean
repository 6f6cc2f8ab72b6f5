import HotelPms.Stays.Arrivals

/-!
# Completeness of a party

Guests of a reservation arrive in any order, and its declared and registered
guests are edited in between.  The status of the reservation is decided at
each recorded arrival, from the guests there are at that moment, and is never
taken back.
-/

namespace HotelPms.Stays

open Hotel Checked Booking

inductive PartyCall
  | arrive (checks : ArrivalChecks) (reservationId guestId : Int)
  | resize (update : PartySizeUpdate) (reservationId : Int)
  | link (reservationId : Int) (existingGuests newGuests : List Int)

/-- Outcome of a call, if it is accepted. -/
def performParty (state : HouseState) : PartyCall -> Option HouseState
  | .arrive checks reservationId guestId =>
    (performGuestCheckin state checks reservationId guestId).toOption
  | .resize update reservationId =>
    (updatePartySize state update reservationId).toOption
  | .link reservationId existingGuests newGuests =>
    if fresh : (newGuests ++ state.guests).Nodup then
      (addGuests state reservationId existingGuests newGuests fresh).toOption
    else none

/-- State after a call; a rejected one changes nothing. -/
def partyStep (state : HouseState) (call : PartyCall) : HouseState :=
  (performParty state call).getD state

def partyRun (start : HouseState) (calls : List PartyCall) : HouseState :=
  calls.foldl partyStep start

theorem partyRun_append (start : HouseState) (calls : List PartyCall) (call : PartyCall) :
    partyRun start (calls ++ [call]) = partyStep (partyRun start calls) call :=
  List.foldl_append

section Predicates

variable (state : HouseState) (reservationId : Int)

/-- Number of recorded arrivals of a reservation. -/
def arrivedCount : Nat := (arrivalsOf state reservationId).length

def HasStatus (status : ReservationStatus) : Prop :=
  ∃ row, state.reservation? reservationId = some row ∧ row.status = status

/-- The arrivals and the registered guests reach the expected guests. -/
def Complete : Prop :=
  ∃ row, state.reservation? reservationId = some row ∧
    PartyComplete state row (arrivedCount state reservationId)

/-- No guest of the reservation has arrived, and its status is kept until the
party arrives. -/
structure AwaitsParty : Prop where
  noArrival : arrivedCount state reservationId = 0
  outside : ∀ row, state.reservation? reservationId = some row ->
    row.status ≠ .partialCheckIn ∧ row.status ≠ .checkedIn
  snapshot : state.policySnapshot reservationId = none ∨
    state.policySnapshot reservationId = some "partial_checkin"
  policy : state.hotelPolicy = none ∨ state.hotelPolicy = some "" ∨
    state.hotelPolicy = some "partial_checkin"

/-- A call records an arrival of the reservation. -/
def Records (call : PartyCall) : Prop :=
  arrivedCount (partyStep state call) reservationId = arrivedCount state reservationId + 1

def PartyCall.IsEdit : PartyCall -> Prop
  | .arrive _ _ _ => False
  | _ => True

end Predicates

/-! ## What a call does to one party -/

section Effects

variable {state next : HouseState} {reservationId : Int}

theorem HasStatus.unique {first second : ReservationStatus}
    (hasFirst : HasStatus state reservationId first)
    (hasSecond : HasStatus state reservationId second) : first = second := by
  obtain ⟨row, found, rfl⟩ := hasFirst
  obtain ⟨other, foundOther, rfl⟩ := hasSecond
  rw [found] at foundOther
  cases foundOther
  rfl

/-- The policies of the hotel and of the reservation keep a party partial. -/
structure KeepsPartial (state : HouseState) (reservationId : Int) : Prop where
  snapshot : state.policySnapshot reservationId = none ∨
    state.policySnapshot reservationId = some "partial_checkin"
  policy : state.hotelPolicy = none ∨ state.hotelPolicy = some "" ∨
    state.hotelPolicy = some "partial_checkin"

/-- A call leaves the arrivals and the status of a reservation as they
were. -/
structure LeavesParty (state next : HouseState) (reservationId : Int) :
    Prop where
  arrived : arrivedCount next reservationId = arrivedCount state reservationId
  status : ∀ status, HasStatus next reservationId status ↔ HasStatus state reservationId status
  snapshot : next.policySnapshot reservationId = state.policySnapshot reservationId
  policy : next.hotelPolicy = state.hotelPolicy

/-- A call records an arrival, which decides the status. -/
structure DecidesParty (state next : HouseState) (reservationId : Int) :
    Prop where
  arrived : arrivedCount next reservationId = arrivedCount state reservationId + 1
  complete : Complete next reservationId -> HasStatus next reservationId .checkedIn
  kept : HasStatus state reservationId .checkedIn -> HasStatus next reservationId .checkedIn
  incomplete : ¬Complete next reservationId -> ¬HasStatus state reservationId .checkedIn ->
      HasStatus next reservationId .partialCheckIn
  reached : Complete state reservationId -> Complete next reservationId
  keepsPartial : KeepsPartial next reservationId

theorem checkinStatusPolicy_eq {row : Reservation} {policy : String}
    (keeps : KeepsPartial state row.id)
    (read : checkinStatusPolicy state row = .ok policy) :
    policy = "partial_checkin" := by
  obtain ⟨_, -, read⟩ := bind_eq_ok.mp read
  rw [← pure_eq_ok.mp read]
  rcases keeps.snapshot with none | stored
  · rw [none]
    rcases keeps.policy with none | empty | usual
    · rw [none]
      rfl
    · rw [empty]
      rfl
    · rw [usual]
      rfl
  · rw [stored]

theorem arrivalTarget_partial {status next : ReservationStatus} {first complete : Prop}
    [Decidable first] [Decidable complete] (arriving : status ∈ arrivalStatuses)
    (decided : transitionStatus status
      (arrivalTarget "partial_checkin" first complete status) = .ok next) :
    (complete -> next = .checkedIn) ∧ (status = .checkedIn -> next = .checkedIn) ∧
      (¬complete -> status ≠ .checkedIn -> next = .partialCheckIn) := by
  have notFirst : ¬(first ∧ "partial_checkin" = "checked_in_on_first_guest") :=
    fun both => absurd both.2 (by decide)
  unfold arrivalTarget at decided
  rw [if_neg notFirst] at decided
  by_cases isComplete : complete
  · rw [if_pos ⟨rfl, isComplete⟩] at decided
    obtain ⟨_, -, decided⟩ := bind_eq_ok.mp decided
    have same := (pure_eq_ok.mp decided).symm
    exact ⟨fun _ => same, fun _ => same, (absurd isComplete ·)⟩
  · rw [if_neg (isComplete ·.2)] at decided
    by_cases before : BeforeArrival status
    · rw [if_pos before] at decided
      obtain ⟨_, -, decided⟩ := bind_eq_ok.mp decided
      refine ⟨(absurd · isComplete), fun isIn => ?_, fun _ _ => (pure_eq_ok.mp decided).symm⟩
      rw [isIn] at before
      exact absurd before (by decide)
    · rw [if_neg before] at decided
      obtain rfl : status = next := Except.ok.inj decided
      refine ⟨(absurd · isComplete), id, fun _ notIn => ?_⟩
      revert arriving before notIn
      cases status <;> decide

/-- What a recorded arrival leaves of the tables a party is read from. -/
structure ArrivalEffect (state next : HouseState) (row newRow : Reservation)
    (stored : String) : Prop where
  sameId : newRow.id = row.id
  sameGuest : newRow.guestId = row.guestId
  sameExpected : expectedCount newRow = expectedCount row
  rows : ∀ id, next.reservation? id =
    if id = row.id then some newRow else state.reservation? id
  arrivals : ∃ arrival : GuestArrival, arrival.reservationId = row.id ∧
    next.arrivals = arrival :: state.arrivals
  guests : next.guests = state.guests
  links : next.additionalGuests = state.additionalGuests
  policy : next.hotelPolicy = state.hotelPolicy
  snapshot : ∀ id, next.policySnapshot id = state.policySnapshot id ∨
    (id = row.id ∧ next.policySnapshot id = some stored)

theorem ArrivalRecord.effect {checks : ArrivalChecks} {row : Reservation} {guestId : Int}
    {fresh : (row.id, guestId) ∉ state.arrivals.map GuestArrival.key}
    {policy : String} {status : ReservationStatus} {room : Room}
    (stored : state.reservation? row.id = some row)
    (record : ArrivalRecord state checks row (addArrival state
        { reservationId := row.id, guestId := guestId, arrivedAt := checks.arrivedAt } fresh)
      next policy status room) :
    ∃ newRow, newRow.status = status ∧ ArrivalEffect state next row newRow policy := by
  by_cases first : (arrivalsOf state row.id).length = 0
  · obtain ⟨-, rfl⟩ := record.first first
    refine ⟨{ row with
      status := status
      actualCheckIn := some checks.arrivedAt }, rfl, rfl, rfl, rfl,
      HotelState.reservation?_overwritten _ stored rfl, ⟨_, rfl, rfl⟩, rfl, rfl, rfl, ?_⟩
    intro id
    by_cases same : id = row.id
    · right
      refine ⟨same, ?_⟩
      rw [same]
      exact Function.update_self ..
    · exact .inl (Function.update_of_ne same ..)
  · obtain ⟨-, rfl⟩ := record.later first
    exact ⟨{ row with status := status }, rfl, rfl, rfl, rfl,
      HotelState.reservation?_overwritten _ stored rfl, ⟨_, rfl, rfl⟩, rfl, rfl, rfl,
      fun _ => .inl rfl⟩

theorem arrivedCount_cons
    {arrival : GuestArrival} (same : next.arrivals = arrival :: state.arrivals)
    (reservationId : Int) :
    arrivedCount next reservationId = arrivedCount state reservationId +
      if arrival.reservationId = reservationId then 1 else 0 := by
  unfold arrivedCount arrivalsOf
  rw [same, List.filter_cons]
  by_cases ofReservation : arrival.reservationId = reservationId
  · simp [ofReservation]
  · simp [ofReservation]

section Recorded

variable {row newRow : Reservation} {policy : String}

/-- A recorded arrival registers nobody. -/
theorem ArrivalEffect.reservationGuests (effect : ArrivalEffect state next row newRow policy) :
    reservationGuests next newRow = reservationGuests state row := by
  unfold Stays.reservationGuests
  rw [effect.guests, effect.links, effect.sameGuest, effect.sameId]

theorem ArrivalEffect.complete_iff (effect : ArrivalEffect state next row newRow policy) :
    Complete next row.id ↔ PartyComplete state row (arrivedCount state row.id + 1) := by
  obtain ⟨arrival, ofRow, added⟩ := effect.arrivals
  have count := arrivedCount_cons added row.id
  rw [if_pos ofRow] at count
  unfold Complete PartyComplete
  rw [effect.rows, if_pos rfl, count]
  constructor
  · rintro ⟨found, same, reached⟩
    cases same
    rw [effect.reservationGuests, effect.sameExpected] at reached
    exact_mod_cast reached
  · intro reached
    refine ⟨newRow, rfl, ?_⟩
    rw [effect.reservationGuests, effect.sameExpected]
    exact_mod_cast reached

theorem ArrivalEffect.other (effect : ArrivalEffect state next row newRow policy)
    (different : reservationId ≠ row.id) :
    LeavesParty state next reservationId ∧
      (Complete next reservationId ↔ Complete state reservationId) := by
  obtain ⟨arrival, ofRow, added⟩ := effect.arrivals
  have count := arrivedCount_cons added reservationId
  rw [if_neg fun same => different (same.symm.trans ofRow)] at count
  have sameRow : next.reservation? reservationId = state.reservation? reservationId := by
    rw [effect.rows, if_neg different]
  have registered : ∀ other,
      Stays.reservationGuests next other = Stays.reservationGuests state other := by
    intro other
    unfold Stays.reservationGuests
    rw [effect.guests, effect.links]
  refine ⟨⟨count, fun status => ?_, ?_, effect.policy⟩, ?_⟩
  · unfold HasStatus
    rw [sameRow]
  · exact (effect.snapshot reservationId).resolve_right (different ·.1)
  · unfold Complete PartyComplete
    rw [sameRow, count]
    simp only [registered, Nat.add_zero]

theorem ArrivalEffect.decides (effect : ArrivalEffect state next row newRow "partial_checkin")
    {status : ReservationStatus} (hasStatus : newRow.status = status)
    (stored : state.reservation? row.id = some row)
    (keeps : KeepsPartial state row.id)
    (arriving : row.status ∈ arrivalStatuses)
    (decided : transitionStatus row.status
      (arrivalTarget "partial_checkin" ((arrivalsOf state row.id).length = 0)
        (PartyComplete state row ((arrivalsOf state row.id).length + 1))
        row.status) = .ok status) :
    DecidesParty state next row.id := by
  obtain ⟨ifComplete, ifIn, otherwise⟩ := arrivalTarget_partial arriving decided
  obtain ⟨arrival, ofRow, added⟩ := effect.arrivals
  have count := arrivedCount_cons added row.id
  rw [if_pos ofRow] at count
  have written : HasStatus next row.id status :=
    ⟨newRow, by rw [effect.rows, if_pos rfl], hasStatus⟩
  have before : HasStatus state row.id row.status := ⟨row, stored, rfl⟩
  refine ⟨count, fun complete => ?_, fun isIn => ?_, fun incomplete notIn => ?_,
    fun complete => ?_, ?_, ?_⟩
  · rw [← ifComplete (effect.complete_iff.mp complete)]
    exact written
  · rw [← ifIn (before.unique isIn)]
    exact written
  · have keptPartial := otherwise (fun complete => incomplete (effect.complete_iff.mpr complete))
      (fun isIn => notIn (isIn ▸ before))
    rw [← keptPartial]
    exact written
  · obtain ⟨found, same, arrived, registered⟩ := complete
    rw [stored] at same
    cases same
    exact effect.complete_iff.mpr ⟨by omega, registered⟩
  · rcases effect.snapshot row.id with same | ⟨-, same⟩
    · rw [same]
      exact keeps.snapshot
    · exact .inr same
  · rw [effect.policy]
    exact keeps.policy

end Recorded

theorem performGuestCheckin_effect {checks : ArrivalChecks} {arrivingId guestId : Int}
    (keeps : KeepsPartial state reservationId)
    (performed : performGuestCheckin state checks arrivingId guestId = .ok next) :
    DecidesParty state next reservationId ∨ (LeavesParty state next reservationId ∧
        (Complete next reservationId ↔ Complete state reservationId)) := by
  obtain ⟨row, loaded, rfl | ⟨fresh, recorded⟩⟩ := performGuestCheckin_cases performed
  · exact .inr ⟨⟨rfl, fun _ => Iff.rfl, rfl, rfl⟩, Iff.rfl⟩
  · obtain ⟨stored, -⟩ := loadReservation_eq_ok loaded
    obtain ⟨-, sameId⟩ := HotelState.reservation?_eq_some stored
    rw [← sameId] at stored
    obtain ⟨policy, status, room, record⟩ := recordArrival_eq_ok recorded
    obtain ⟨newRow, hasStatus, effect⟩ := record.effect stored
    by_cases same : reservationId = row.id
    · subst same
      have usual := checkinStatusPolicy_eq keeps record.policyRead
      have decided := record.transition
      rw [usual] at effect decided
      exact .inl (effect.decides hasStatus stored keeps record.arriving decided)
    · exact .inr (effect.other same)

theorem LeavesParty.refl : LeavesParty state state reservationId :=
  ⟨rfl, fun _ => Iff.rfl, rfl, rfl⟩

theorem LeavesParty.keepsPartial (leaves : LeavesParty state next reservationId)
    (keeps : KeepsPartial state reservationId) :
    KeepsPartial next reservationId where
  snapshot := by
    rw [leaves.snapshot]
    exact keeps.snapshot
  policy := by
    rw [leaves.policy]
    exact keeps.policy

/-- A change of the declared guests leaves arrivals and status. -/
theorem updatePartySize_leavesParty {update : PartySizeUpdate} {editedId : Int}
    (updated : updatePartySize state update editedId = .ok next) :
    LeavesParty state next reservationId := by
  obtain ⟨row, found, updated⟩ := bind_eq_ok.mp updated
  obtain ⟨_, -, updated⟩ := bind_eq_ok.mp updated
  obtain ⟨_, -, updated⟩ := bind_eq_ok.mp updated
  cases updated
  have stored : state.reservation? row.id = some row := by
    unfold findReservation at found
    split at found
    · cases found
    · next other selected =>
      cases found
      have isRow := (Option.filter_eq_some_iff.mp selected).1
      rw [(HotelState.reservation?_eq_some isRow).2]
      exact isRow
  refine ⟨rfl, fun status => ?_, rfl, rfl⟩
  have rows := HotelState.reservation?_overwritten (resizedReservation update row) stored
    rfl reservationId
  show (∃ other, (state.toHotelState.replaceReservation
    (resizedReservation update row)).reservation? reservationId = some other ∧
      other.status = status) ↔ _
  rw [rows]
  split_ifs with same
  · subst same
    constructor
    · rintro ⟨other, isNew, hasStatus⟩
      cases isNew
      exact ⟨row, stored, hasStatus⟩
    · rintro ⟨other, isOld, hasStatus⟩
      rw [stored] at isOld
      cases isOld
      exact ⟨_, rfl, hasStatus⟩
  · exact Iff.rfl

theorem addGuests_leavesParty {editedId : Int} {existingGuests newGuests : List Int}
    {fresh : (newGuests ++ state.guests).Nodup}
    (linked : addGuests state editedId existingGuests newGuests fresh = .ok next) :
    LeavesParty state next reservationId := by
  obtain ⟨row, -, linked⟩ := bind_eq_ok.mp linked
  obtain ⟨_, -, linked⟩ := bind_eq_ok.mp linked
  cases capacity : roomCapacityCategory state row with
  | none =>
    rw [capacity] at linked
    cases linked
  | some category =>
    rw [capacity] at linked
    obtain ⟨_, -, linked⟩ := bind_eq_ok.mp linked
    cases linked
    exact ⟨rfl, fun _ => Iff.rfl, rfl, rfl⟩

theorem partyStep_effect (keeps : KeepsPartial state reservationId) (call : PartyCall) :
    DecidesParty state (partyStep state call) reservationId ∨
      (LeavesParty state (partyStep state call) reservationId ∧
        (¬call.IsEdit -> (Complete (partyStep state call) reservationId ↔
          Complete state reservationId))) := by
  unfold partyStep
  cases performed : performParty state call with
  | none => exact .inr ⟨.refl, fun _ => Iff.rfl⟩
  | some next =>
    cases call with
    | arrive checks arrivingId guestId =>
      rcases performGuestCheckin_effect keeps (toOption_eq_some performed) with decided | left
      · exact .inl decided
      · exact .inr ⟨left.1, fun _ => left.2⟩
    | resize update editedId =>
      exact .inr ⟨updatePartySize_leavesParty (toOption_eq_some performed), (absurd trivial ·)⟩
    | link editedId existingGuests newGuests =>
      simp only [performParty] at performed
      split at performed
      · exact .inr ⟨addGuests_leavesParty (toOption_eq_some performed), (absurd trivial ·)⟩
      · cases performed

end Effects

/-! ## Runs -/

section Runs

variable {start : HouseState} {reservationId : Int}

theorem AwaitsParty.keepsPartial (awaits : AwaitsParty start reservationId) :
    KeepsPartial start reservationId :=
  ⟨awaits.snapshot, awaits.policy⟩

theorem partyRun_keepsPartial (awaits : AwaitsParty start reservationId) (calls : List PartyCall) :
    KeepsPartial (partyRun start calls) reservationId := by
  induction calls using List.reverseRecOn with
  | nil => exact awaits.keepsPartial
  | append_singleton calls call ih =>
    rw [partyRun_append]
    rcases partyStep_effect ih call with decided | ⟨left, -⟩
    · exact decided.keepsPartial
    · exact left.keepsPartial ih

/-- What every run from a party nobody has arrived of has reached. -/
structure PartySettled (state : HouseState) (reservationId : Int) : Prop where
  awaiting : arrivedCount state reservationId = 0 ->
    ¬HasStatus state reservationId .partialCheckIn ∧ ¬HasStatus state reservationId .checkedIn
  inHouse : 0 < arrivedCount state reservationId -> HasStatus state reservationId .partialCheckIn ∨
      HasStatus state reservationId .checkedIn

theorem partyRun_settled (awaits : AwaitsParty start reservationId) (calls : List PartyCall) :
    PartySettled (partyRun start calls) reservationId := by
  induction calls using List.reverseRecOn with
  | nil =>
    refine ⟨fun _ => ⟨?_, ?_⟩, fun arrived => ?_⟩
    · rintro ⟨row, found, status⟩
      exact (awaits.outside row found).1 status
    · rintro ⟨row, found, status⟩
      exact (awaits.outside row found).2 status
    · exact absurd awaits.noArrival (Nat.ne_of_gt arrived)
  | append_singleton calls call ih =>
    rw [partyRun_append]
    rcases partyStep_effect (partyRun_keepsPartial awaits calls) call with decided | ⟨left, -⟩
    · refine ⟨fun none => ?_, fun _ => ?_⟩
      · rw [decided.arrived] at none
        omega
      · by_cases complete : Complete (partyStep (partyRun start calls) call) reservationId
        · exact .inr (decided.complete complete)
        · by_cases isIn : HasStatus (partyRun start calls) reservationId .checkedIn
          · exact .inr (decided.kept isIn)
          · exact .inl (decided.incomplete complete isIn)
    · refine ⟨fun none => ?_, fun arrived => ?_⟩
      · rw [left.status, left.status]
        exact ih.awaiting (left.arrived ▸ none)
      · rw [left.status, left.status]
        exact ih.inHouse (left.arrived ▸ arrived)

theorem partyStep_checkedIn {state : HouseState} (keeps : KeepsPartial state reservationId)
    (isIn : HasStatus state reservationId .checkedIn) (call : PartyCall) :
    HasStatus (partyStep state call) reservationId .checkedIn := by
  rcases partyStep_effect keeps call with decided | ⟨left, -⟩
  · exact decided.kept isIn
  · exact (left.status _).mpr isIn

theorem partyRun_checkedIn (awaits : AwaitsParty start reservationId) {before : List PartyCall}
    (isIn : HasStatus (partyRun start before) reservationId .checkedIn)
    (after : List PartyCall) :
    HasStatus (partyRun start (before ++ after)) reservationId .checkedIn := by
  induction after using List.reverseRecOn with
  | nil =>
    rw [List.append_nil]
    exact isIn
  | append_singleton after call ih =>
    rw [← List.append_assoc, partyRun_append]
    exact partyStep_checkedIn (partyRun_keepsPartial awaits _) ih call

section History

variable (start : HouseState) (calls : List PartyCall) (reservationId : Int)

def FoundComplete : Prop :=
  ∃ before call after, calls = before ++ call :: after ∧
    Records (partyRun start before) reservationId call ∧
    Complete (partyStep (partyRun start before) call) reservationId

/-- The party has not been complete since its first arrival. -/
def NeverComplete : Prop :=
  ∀ before after, calls = before ++ after -> 0 < arrivedCount (partyRun start before) reservationId ->
      ¬Complete (partyRun start before) reservationId

/-- No edit since the first arrival has changed whether the party is
complete. -/
def EditsKeepParty : Prop :=
  ∀ before call after, calls = before ++ call :: after -> call.IsEdit ->
    0 < arrivedCount (partyRun start before) reservationId ->
      (Complete (partyStep (partyRun start before) call) reservationId ↔
        Complete (partyRun start before) reservationId)

/-- Status of a party after a run: checked in from the arrival on that found
it complete, partial as long as it never is, and exactly one of the two by
whether it is complete if no edit changes that. -/
structure PartyStatus : Prop where
  inHouse : HasStatus (partyRun start calls) reservationId .partialCheckIn ∨
    HasStatus (partyRun start calls) reservationId .checkedIn
  found : FoundComplete start calls reservationId ->
    HasStatus (partyRun start calls) reservationId .checkedIn
  never : NeverComplete start calls reservationId ->
    HasStatus (partyRun start calls) reservationId .partialCheckIn
  exact : EditsKeepParty start calls reservationId ->
    (HasStatus (partyRun start calls) reservationId .checkedIn ↔
        Complete (partyRun start calls) reservationId) ∧
      (¬Complete (partyRun start calls) reservationId ->
        HasStatus (partyRun start calls) reservationId .partialCheckIn)

end History

variable {calls : List PartyCall}

theorem checkedIn_of_foundComplete (awaits : AwaitsParty start reservationId)
    (found : FoundComplete start calls reservationId) :
    HasStatus (partyRun start calls) reservationId .checkedIn := by
  obtain ⟨before, call, after, rfl, records, complete⟩ := found
  have isIn : HasStatus (partyRun start (before ++ [call])) reservationId .checkedIn := by
    rw [partyRun_append]
    rcases partyStep_effect (partyRun_keepsPartial awaits before) call with decided | ⟨left, -⟩
    · exact decided.complete complete
    · have none := left.arrived
      unfold Records at records
      omega
  have rest := partyRun_checkedIn awaits isIn after
  rwa [List.append_assoc] at rest

theorem exists_complete_of_checkedIn (awaits : AwaitsParty start reservationId)
    (isIn : HasStatus (partyRun start calls) reservationId .checkedIn) :
    ∃ before after, calls = before ++ after ∧
      0 < arrivedCount (partyRun start before) reservationId ∧
      Complete (partyRun start before) reservationId := by
  induction calls using List.reverseRecOn with
  | nil =>
    exact absurd isIn ((partyRun_settled awaits []).awaiting awaits.noArrival).2
  | append_singleton calls call ih =>
    have earlier : HasStatus (partyRun start calls) reservationId
        .checkedIn -> ∃ before after, calls ++ [call] = before ++ after ∧
          0 < arrivedCount (partyRun start before) reservationId ∧
          Complete (partyRun start before) reservationId := by
      intro wasIn
      obtain ⟨before, after, rfl, reached⟩ := ih wasIn
      exact ⟨before, after ++ [call], List.append_assoc .., reached⟩
    rw [partyRun_append] at isIn
    rcases partyStep_effect (partyRun_keepsPartial awaits calls) call with decided | ⟨left, -⟩
    · by_cases complete : Complete (partyStep (partyRun start calls) call) reservationId
      · refine ⟨calls ++ [call], [], (List.append_nil _).symm, ?_, ?_⟩
        · rw [partyRun_append, decided.arrived]
          omega
        · rw [partyRun_append]
          exact complete
      · by_cases wasIn : HasStatus (partyRun start calls) reservationId .checkedIn
        · exact earlier wasIn
        · have isPartial := decided.incomplete complete wasIn
          cases isIn.unique isPartial
    · exact earlier ((left.status _).mp isIn)

theorem checkedIn_iff_complete (awaits : AwaitsParty start reservationId)
    (kept : EditsKeepParty start calls reservationId)
    (arrived : 0 < arrivedCount (partyRun start calls) reservationId) :
    HasStatus (partyRun start calls) reservationId .checkedIn ↔
      Complete (partyRun start calls) reservationId := by
  induction calls using List.reverseRecOn with
  | nil =>
    exact absurd awaits.noArrival (Nat.ne_of_gt arrived)
  | append_singleton calls call ih =>
    have keptBefore : EditsKeepParty start calls reservationId := by
      rintro before edit after rfl
      exact kept before edit (after ++ [call]) (by simp)
    have keptLast := kept calls call [] rfl
    rw [partyRun_append] at arrived ⊢
    rcases partyStep_effect (partyRun_keepsPartial awaits calls) call with
      decided | ⟨left, unedited⟩
    · refine ⟨fun isIn => ?_, decided.complete⟩
      by_contra incomplete
      by_cases wasIn : HasStatus (partyRun start calls) reservationId .checkedIn
      · have wasArrived : 0 < arrivedCount (partyRun start calls) reservationId := by
          by_contra none
          exact ((partyRun_settled awaits calls).awaiting (by omega)).2 wasIn
        have wasComplete :=
          (ih keptBefore wasArrived).mp wasIn
        exact incomplete (decided.reached wasComplete)
      · cases isIn.unique (decided.incomplete incomplete wasIn)
    · rw [left.arrived] at arrived
      rw [left.status, ih keptBefore arrived]
      by_cases edit : call.IsEdit
      · exact (keptLast edit arrived).symm
      · exact (unedited edit).symm

/-- Every run of arrivals and edits from a party nobody has arrived of, once
somebody has. -/
theorem partyRun_status (awaits : AwaitsParty start reservationId) (calls : List PartyCall)
    (arrived : 0 < arrivedCount (partyRun start calls) reservationId) :
    PartyStatus start calls reservationId := by
  have settled := (partyRun_settled awaits calls).inHouse arrived
  refine ⟨settled, checkedIn_of_foundComplete awaits, fun never => ?_, fun kept => ?_⟩
  · rcases settled with isPartial | isIn
    · exact isPartial
    · obtain ⟨before, after, split, wasArrived, complete⟩ :=
        exists_complete_of_checkedIn awaits isIn
      exact absurd complete (never before after split wasArrived)
  · have iff := checkedIn_iff_complete awaits kept arrived
    refine ⟨iff, fun incomplete => ?_⟩
    rcases settled with isPartial | isIn
    · exact isPartial
    · exact absurd (iff.mp isIn) incomplete

end Runs

section Example

theorem soloStay_datesOrdered : (10 : Int) < 12 := by decide

/-- A paid stay of one guest in room 1. -/
def soloStay : Reservation where
  id := 1
  guestId := 1
  roomId := some 1
  categoryId := 1
  checkInDate := 10
  checkOutDate := 12
  datesOrdered := soloStay_datesOrdered
  status := .fullyPaid

theorem soloHouse_distinctReservations : ([soloStay].map Reservation.id).Nodup := by
  decide

theorem soloHouse_distinctRooms :
    (([{ id := 1, categoryId := 1 }] : List Room).map Room.id).Nodup := by
  decide

theorem soloHouse_distinctGuests : ([1] : List Int).Nodup := by
  decide

theorem soloHouse_distinctArrivals : (([] : List GuestArrival).map GuestArrival.key).Nodup := by
  decide

/-- A hotel with the stay and a registered guest. -/
def soloHouse : HouseState where
  reservations := [soloStay]
  distinctReservations := soloHouse_distinctReservations
  rooms := [{ id := 1, categoryId := 1 }]
  distinctRooms := soloHouse_distinctRooms
  categories := [{ id := 1, maxOccupancy := 2 }]
  guests := [1]
  distinctGuests := soloHouse_distinctGuests
  arrivals := []
  distinctArrivals := soloHouse_distinctArrivals

theorem soloHouse_awaitsParty : AwaitsParty soloHouse 1 where
  noArrival := rfl
  outside := by
    intro row found
    obtain rfl : soloStay = row := Option.some.inj found
    decide
  snapshot := .inl rfl
  policy := .inl rfl

/-- The guest arrives. -/
def soloArrival : PartyCall := .arrive {} 1 1

/-- The guest arrives, and the stay is then declared for two. -/
def grownParty : List PartyCall :=
  [soloArrival, .resize { numAdults := some 2 } 1]

/-- The single guest's arrival settles the party. -/
theorem partyRun_status_soloArrival : PartyStatus soloHouse [soloArrival] 1 :=
  partyRun_status soloHouse_awaitsParty [soloArrival] (by decide)

/-- A party that grows after it is checked in stays checked in, with one guest
of two. -/
theorem not_checkedIn_iff_complete_grownParty : 0 < arrivedCount (partyRun soloHouse grownParty) 1 ∧
      ¬(HasStatus (partyRun soloHouse grownParty) 1 .checkedIn ↔
        Complete (partyRun soloHouse grownParty) 1) := by
  refine ⟨by decide, fun same => ?_⟩
  have status : ((partyRun soloHouse grownParty).reservation? 1).map
      Reservation.status = some .checkedIn := by
    decide
  have expected : ((partyRun soloHouse grownParty).reservation? 1).map expectedCount = some 2 := by
    decide
  obtain ⟨row, found, isIn⟩ := Option.map_eq_some_iff.mp status
  obtain ⟨other, foundOther, reached, -⟩ := same.mp ⟨row, found, isIn⟩
  rw [foundOther, Option.map_some] at expected
  rw [Option.some.inj expected] at reached
  cases reached

end Example

end HotelPms.Stays
