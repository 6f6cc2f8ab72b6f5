import HotelPms.Laundry.DecisionCustody

/-!
# Runs of the laundry keep custody

Whatever calls are made, a discrepancy is never over-settled, the hotel-wide
total of an item moves only with a resolution, and a key that was used changes
nothing again.  The linen at a vendor's location covers the shortages that are
open with it as long as every remito line meets its condition.
-/

namespace HotelPms.Laundry

open Checked Inventory Transition

instance (state : LaundryState) (key : String) : Decidable (state.KeyRecorded key) :=
  inferInstanceAs (Decidable (∃ _ ∈ state.actions, _))

/-- The key of a call was used: the number of a remito with its vendor and
direction, or the idempotency key of a decision. -/
def LaundryState.KeyUsed (state : LaundryState) : LaundryCall -> Prop
  | .createRemito request =>
    ∃ remito ∈ state.remitos, remito.vendorId = request.vendorId ∧
        remito.direction.value = request.direction ∧
        remito.remitoNumber = Text.strip request.remitoNumber
  | .approveDiscrepancy request =>
    state.KeyRecorded (Text.strip request.idempotencyKey)
  | .resolveDiscrepancy request _ =>
    state.KeyRecorded (Text.strip request.idempotencyKey)
  | .confirmDiscrepancyReturnToLaundry request =>
    state.KeyRecorded (Text.strip request.idempotencyKey)

/-- What a call adds to the hotel-wide total of an item: what remains of a
discrepancy that is resolved as hotel stock, or less what remains of one that
is resolved as loss or vendor credit. -/
def LaundryState.totalChange (casing : CaseMapping) (state : LaundryState) (call : LaundryCall)
    (itemId : Int) : Int :=
  match call with
  | .resolveDiscrepancy request asked =>
    if state.KeyRecorded (Text.strip request.idempotencyKey) then 0
    else
      match state.findDiscrepancy request.discrepancyId with
      | some row =>
        resolutionChange (normalizeResolution casing asked).code row itemId
      | none => 0
  | _ => 0

/-- A movement of another linen operation is away from the vendors. -/
def LaundryEvent.AwayFromVendors (state : LaundryState) : LaundryEvent -> Prop
  | .otherMovement movement =>
    ∀ vendor ∈ state.vendors.rows, movement.locationId ≠ some vendor.linenLocationId
  | .call _ _ => True

/-- Every line of a remito meets its condition, in the state it is recorded
from. -/
def KeepsCustody (state : LaundryState) : LaundryEvent -> Prop
  | .call env (.createRemito request) =>
    ∀ direction ∈ Direction.ofValue request.direction, ∀ vendor ∈ state.findVendor request.vendorId,
        let context := remitoContext env state request vendor direction
        Guarded (lineStep context) (LineKeepsCustody context)
          (state.addRemito context.remito) request.lines
  | _ => True

instance (state : LaundryState) (event : LaundryEvent) : Decidable (event.AwayFromVendors state) :=
  match event with
  | .otherMovement movement =>
    inferInstanceAs (Decidable (∀ vendor ∈ state.vendors.rows,
      movement.locationId ≠ some vendor.linenLocationId))
  | .call _ _ => .isTrue trivial

instance (state : LaundryState) (event : LaundryEvent) : Decidable (KeepsCustody state event) :=
  match event with
  | .call env (.createRemito request) =>
    inferInstanceAs (Decidable (∀ direction ∈ Direction.ofValue request.direction,
        ∀ vendor ∈ state.findVendor request.vendorId, Guarded
            (lineStep (remitoContext env state request vendor direction))
            (LineKeepsCustody (remitoContext env state request vendor direction))
            (state.addRemito (remitoContext env state request vendor direction).remito)
            request.lines))
  | .call _ (.approveDiscrepancy _) => .isTrue trivial
  | .call _ (.resolveDiscrepancy _ _) => .isTrue trivial
  | .call _ (.confirmDiscrepancyReturnToLaundry _) => .isTrue trivial
  | .otherMovement _ => .isTrue trivial

section

variable {casing : CaseMapping} {env : LaundryEnvironment} {state after : LaundryState}

theorem getVendor_eq_ok {vendorId : Int} {vendor : LaundryVendor}
    (found : state.getVendor vendorId = .ok vendor) :
    state.findVendor vendorId = some vendor := by
  unfold LaundryState.getVendor at found
  split at found
  · next stored isStored =>
    simp only [bind_eq_ok, pure_eq_ok] at found
    obtain ⟨_, -, rfl⟩ := found
    exact isStored
  · cases found

theorem direction_ofValue_eq_some {text : String} {direction : Direction} :
    Direction.ofValue text = some direction ↔ direction.value = text := by
  constructor
  · intro isDirection
    have found := List.find?_some isDirection
    rwa [decide_eq_true_eq] at found
  · rintro rfl
    cases direction <;> decide

theorem remitoContext_of {request : RemitoRequest} {vendor : LaundryVendor} {direction : Direction}
    (found : state.findVendor request.vendorId = some vendor) :
    (remitoContext env state request vendor direction).Of state.vendors := by
  obtain ⟨known, isId⟩ := Table.find_eq_some found
  exact ⟨known, isId.symm⟩

/-- A remito that is created has a new number, and its lines are recorded one
after another. -/
structure Creates
    (env : LaundryEnvironment) (state : LaundryState)
    (request : RemitoRequest) (direction : Direction)
    (vendor : LaundryVendor) (context : RemitoContext)
    (after : LaundryState) : Prop where
  isContext : context = remitoContext env state request vendor direction
  isDirection : direction.value = request.direction
  found : state.findVendor request.vendorId = some vendor
  fresh : ¬state.HasRemito request.vendorId direction (Text.strip request.remitoNumber)
  ran : run (lineStep context) (state.addRemito context.remito) request.lines = some after

theorem createRemito_eq_ok {request : RemitoRequest} {remito : LaundryRemito}
    (created : createRemito env state request = .ok (after, remito)) :
    ∃ direction vendor context, Creates env state request direction vendor context after := by
  unfold createRemito at created
  split at created
  · cases created
  · next direction isDirection =>
    unfold createDirected at created
    simp only [bind_eq_ok, raiseIf_eq_ok, pure_eq_ok] at created
    obtain ⟨_, -, _, -, vendor, isVendor, _, fresh, _, -, _, -, _, -,
      recorded, folded, pair⟩ := created
    cases pair
    exact ⟨direction, vendor, _, rfl,
      direction_ofValue_eq_some.mp isDirection, getVendor_eq_ok isVendor,
      fresh, run_of_foldlM_eq_ok folded⟩

theorem LaundryState.Sound.addRemito (sound : state.Sound) (remito : LaundryRemito) :
    (state.addRemito remito).Sound :=
  ⟨sound.numbered, sound.rows⟩

namespace Creates

variable {request : RemitoRequest} {direction : Direction}
  {vendor : LaundryVendor} {context : RemitoContext}

section

variable (creates : Creates env state request direction vendor context after)
include creates

theorem of : context.Of (state.addRemito context.remito).vendors := by
  rw [creates.isContext]
  exact remitoContext_of creates.found

theorem records (sound : state.Sound) : RecordsLines (state.addRemito context.remito) after :=
  reaches_recordsLines (sound.addRemito _) creates.of
    (reaches_of_run (guarded_of_forall (fun _ _ => trivial) _ _) creates.ran)

theorem custodyCovered (sound : state.Sound) (covered : state.CustodyCovered)
    (keeps : KeepsCustody state (.call env (.createRemito request))) :
    after.CustodyCovered := by
  have guarded := keeps direction
    (direction_ofValue_eq_some.mpr creates.isDirection) vendor creates.found
  rw [← creates.isContext] at guarded
  exact reaches_custodyCovered (sound.addRemito _) creates.of covered
    (reaches_of_run guarded creates.ran)

end

end Creates

/-- What is known of every call that succeeds. -/
structure KeepsBooks
    (casing : CaseMapping) (state : LaundryState) (call : LaundryCall)
    (after : LaundryState) : Prop where
  total : ∀ itemId, balance after.entries itemId none =
    balance state.entries itemId none + state.totalChange casing call itemId
  replay : state.KeyUsed call -> after = state
  used : after.KeyUsed call

/-- The tables only gain remitos and actions, and stay sound. -/
structure Grows (state after : LaundryState) : Prop where
  vendors : after.vendors = state.vendors
  remitos : state.remitos <+: after.remitos
  actions : state.actions <+: after.actions
  sound : after.Sound

theorem Grows.refl (sound : state.Sound) : Grows state state where
  vendors := rfl
  remitos := List.prefix_rfl
  actions := List.prefix_rfl
  sound := sound

theorem Grows.trans {middle : LaundryState}
    (first : Grows state middle) (second : Grows middle after) :
    Grows state after where
  vendors := second.vendors.trans first.vendors
  remitos := first.remitos.trans second.remitos
  actions := first.actions.trans second.actions
  sound := second.sound

theorem Grows.keyUsed (grows : Grows state after) {call : LaundryCall}
    (used : state.KeyUsed call) : after.KeyUsed call := by
  have recorded {key : String} (used : state.KeyRecorded key) : after.KeyRecorded key := by
    obtain ⟨action, member, isKey⟩ := used
    exact ⟨action, grows.actions.subset member, isKey⟩
  cases call with
  | createRemito request =>
    obtain ⟨remito, member, same⟩ := used
    exact ⟨remito, grows.remitos.subset member, same⟩
  | _ => exact recorded used

namespace Answers

variable {discrepancyId : Int} {key : String} {change : LaundryDiscrepancy -> Int -> Int}

theorem grows (answers : Answers state discrepancyId key change after)
    (sound : state.Sound) : Grows state after := by
  rcases answers with ⟨-, rfl⟩ | ⟨linen, old, new, -, decides, outcome⟩
  · exact .refl sound
  · have remitos : state.remitos <+: after.remitos :=
      decides.remitos ▸ List.prefix_rfl
    exact ⟨decides.vendors, remitos, decides.actions.1,
      decides.sound sound outcome.remainder outcome.typed⟩

theorem keyRecorded (answers : Answers state discrepancyId key change after) :
    after.KeyRecorded key := by
  rcases answers with ⟨used, rfl⟩ | ⟨linen, old, new, -, decides, -⟩
  · exact used
  · exact decides.actions.2

theorem replay (answers : Answers state discrepancyId key change after)
    (used : state.KeyRecorded key) : after = state := by
  rcases answers with ⟨-, unchanged⟩ | ⟨linen, old, new, -, decides, -⟩
  · exact unchanged
  · exact absurd used decides.unused

theorem total (answers : Answers state discrepancyId key change after) (itemId : Int) :
    balance after.entries itemId none = balance state.entries itemId none +
        if state.KeyRecorded key then 0
        else
          match state.findDiscrepancy discrepancyId with
          | some row => change row itemId
          | none => 0 := by
  rcases answers with ⟨used, rfl⟩ | ⟨linen, old, new, found, decides, outcome⟩
  · rw [if_pos used, add_zero]
  · rw [if_neg decides.unused, decides.entries, outcome.total, found]

theorem custodyCovered (answers : Answers state discrepancyId key change after)
    (sound : state.Sound) (covered : state.CustodyCovered) :
    after.CustodyCovered := by
  rcases answers with ⟨-, rfl⟩ | ⟨linen, old, new, -, decides, outcome⟩
  · exact covered
  · exact decides.custodyCovered sound covered outcome.loses

end Answers

/-- A decision that changes no total. -/
theorem ite_match_zero {discrepancyId : Int} {key : String} :
    (if state.KeyRecorded key then (0 : Int)
      else
        match state.findDiscrepancy discrepancyId with
        | some _ => 0
        | none => 0) = 0 := by
  split_ifs
  · rfl
  · split <;> rfl

theorem performCall_keepsBooks {call : LaundryCall} (sound : state.Sound)
    (performed : performCall casing env state call = .ok after) :
    Grows state after ∧ KeepsBooks casing state call after := by
  cases call with
  | createRemito request =>
    obtain ⟨remito, created⟩ := map_fst_eq_ok.mp performed
    obtain ⟨direction, vendor, context, creates⟩ := createRemito_eq_ok created
    have records := creates.records sound
    refine ⟨⟨records.vendors, ?_, records.actions, records.sound⟩, ?_, ?_, ?_⟩
    · rw [records.remitos]
      exact List.prefix_append _ _
    · intro itemId
      exact (records.total itemId).trans (add_zero _).symm
    · rintro ⟨other, member, isVendor, sameDirection, isNumber⟩
      refine absurd ⟨other, member, isVendor, ?_, isNumber⟩ creates.fresh
      apply Option.some.inj
      rw [← direction_ofValue_eq_some.mpr sameDirection,
        ← direction_ofValue_eq_some.mpr creates.isDirection]
    · refine ⟨context.remito, ?_, ?_⟩
      · rw [records.remitos]
        exact List.mem_append_right _ List.mem_cons_self
      · rw [creates.isContext]
        exact ⟨rfl, creates.isDirection, rfl⟩
  | approveDiscrepancy request =>
    obtain ⟨row, approved⟩ := map_fst_eq_ok.mp performed
    have answers := approveDiscrepancy_eq_ok sound approved
    refine ⟨answers.grows sound, ?_, answers.replay, answers.keyRecorded⟩
    intro itemId
    rw [answers.total, ite_match_zero]
    rfl
  | resolveDiscrepancy request asked =>
    obtain ⟨row, resolved⟩ := map_fst_eq_ok.mp performed
    have answers := resolveDiscrepancy_eq_ok sound resolved
    exact ⟨answers.grows sound, answers.total, answers.replay, answers.keyRecorded⟩
  | confirmDiscrepancyReturnToLaundry request =>
    obtain ⟨row, confirmed⟩ := map_fst_eq_ok.mp performed
    have answers := confirmDiscrepancyReturnToLaundry_eq_ok sound confirmed
    refine ⟨answers.grows sound, ?_, answers.replay, answers.keyRecorded⟩
    intro itemId
    rw [answers.total, ite_match_zero]
    rfl

theorem performCall_custodyCovered {call : LaundryCall}
    (sound : state.Sound) (covered : state.CustodyCovered)
    (keeps : KeepsCustody state (.call env call))
    (performed : performCall casing env state call = .ok after) :
    after.CustodyCovered := by
  cases call with
  | createRemito request =>
    obtain ⟨remito, created⟩ := map_fst_eq_ok.mp performed
    obtain ⟨direction, vendor, context, creates⟩ := createRemito_eq_ok created
    exact creates.custodyCovered sound covered keeps
  | approveDiscrepancy request =>
    obtain ⟨row, approved⟩ := map_fst_eq_ok.mp performed
    exact (approveDiscrepancy_eq_ok sound approved).custodyCovered sound covered
  | resolveDiscrepancy request asked =>
    obtain ⟨row, resolved⟩ := map_fst_eq_ok.mp performed
    exact (resolveDiscrepancy_eq_ok sound resolved).custodyCovered sound covered
  | confirmDiscrepancyReturnToLaundry request =>
    obtain ⟨row, confirmed⟩ := map_fst_eq_ok.mp performed
    exact (confirmDiscrepancyReturnToLaundry_eq_ok sound confirmed).custodyCovered sound covered

variable {finish : LaundryState} {event : LaundryEvent}

theorem laundryStep_grows (sound : state.Sound)
    (taken : laundryStep casing state event = some after) :
    Grows state after := by
  cases event with
  | call env call =>
    unfold laundryStep at taken
    simp only at taken
    split at taken
    · next performed =>
      cases taken
      exact (performCall_keepsBooks sound performed).1
    · cases taken
      exact .refl sound
  | otherMovement movement =>
    cases taken
    exact ⟨rfl, List.prefix_rfl, List.prefix_rfl, sound.numbered, sound.rows⟩

theorem laundryStep_custodyCovered (sound : state.Sound) (covered : state.CustodyCovered)
    (away : event.AwayFromVendors state) (keeps : KeepsCustody state event)
    (taken : laundryStep casing state event = some after) :
    after.CustodyCovered := by
  cases event with
  | call env call =>
    unfold laundryStep at taken
    simp only at taken
    split at taken
    · next performed =>
      cases taken
      exact performCall_custodyCovered sound covered keeps performed
    · cases taken
      exact covered
  | otherMovement movement =>
    cases taken
    intro vendor known itemId
    have ledger : ({ state with
        linen := state.linen.add movement } : LaundryState).entries =
          state.entries ++ [movement.entry] := by
      show (state.linen.movements ++ [movement]).map _ = _
      rw [List.map_append]
      rfl
    have elsewhere : movement.entry.effect itemId (some vendor.linenLocationId) = 0 :=
      effect_of_place_ne (away vendor known)
    rw [ledger, balance_concat, elsewhere, add_zero]
    exact covered vendor known itemId

theorem reaches_grows {guard : LaundryState -> LaundryEvent -> Prop} (sound : state.Sound)
    (reached : Reaches (laundryStep casing) guard state finish) :
    Grows state finish := by
  apply reached.invariant (Grows.refl sound)
  intro before event after grows _ taken
  exact grows.trans (laundryStep_grows grows.sound taken)

/-- Sound tables whose custody is covered. -/
structure LaundryState.Kept (state : LaundryState) : Prop where
  sound : state.Sound
  covered : state.CustodyCovered

theorem reaches_kept {guard : LaundryState -> LaundryEvent -> Prop} (kept : state.Kept)
    (meets : ∀ state event, guard state event ->
      event.AwayFromVendors state ∧ KeepsCustody state event)
    (reached : Reaches (laundryStep casing) guard state finish) :
    finish.Kept := by
  apply reached.invariant kept
  intro before event last keptBefore guarded taken
  obtain ⟨away, keeps⟩ := meets _ _ guarded
  exact ⟨(laundryStep_grows keptBefore.sound taken).sound,
    laundryStep_custodyCovered keptBefore.sound keptBefore.covered away keeps taken⟩

theorem kept_of_empty (emptyLedger : state.linen.movements = [])
    (noDiscrepancies : state.discrepancies = []) : state.Kept where
  sound := by
    constructor
    · rw [noDiscrepancies]
      exact .nil _ _
    · rw [noDiscrepancies]
      intro row member
      cases member
  covered := by
    intro vendor _ itemId
    unfold LaundryState.disputedQuantity LaundryState.entries LinenLedger.entries
    rw [noDiscrepancies, emptyLedger]
    exact le_refl 0

/-- In every run from an empty ledger each discrepancy stays within its
quantity and is closed exactly when nothing remains, the hotel-wide total of
an item changes in a call only by a resolution, and a key that was used stays
used and changes nothing again.  When the other movements are away from the
vendors and every remito line meets its condition, the ledger of each vendor
covers what is in dispute with it. -/
theorem reaches_laundryCustody {guard : LaundryState -> LaundryEvent -> Prop}
    {start : LaundryState} (emptyLedger : start.linen.movements = [])
    (noDiscrepancies : start.discrepancies = [])
    (reached : Reaches (laundryStep casing) guard start finish) :
    (∀ row ∈ finish.discrepancies, RemainderValid row) ∧
      (∀ env call after, performCall casing env finish call = .ok after ->
        KeepsBooks casing finish call after) ∧
      (∀ later, Reaches (laundryStep casing) guard finish later ->
        ∀ call, finish.KeyUsed call -> later.KeyUsed call) ∧
      ((∀ state event, guard state event -> event.AwayFromVendors state ∧ KeepsCustody state event) ->
        ∀ vendor ∈ finish.vendors.rows, ∀ itemId, 0 ≤ finish.disputedQuantity vendor.id itemId ∧
            finish.disputedQuantity vendor.id itemId ≤
              balance finish.entries itemId (some vendor.linenLocationId)) := by
  have initial := kept_of_empty emptyLedger noDiscrepancies
  have sound : finish.Sound := (reaches_grows initial.sound reached).sound
  refine ⟨?_, ?_, ?_, ?_⟩
  · intro row member
    exact (sound.rows row member).toRemainderValid
  · intro env call after performed
    exact (performCall_keepsBooks sound performed).2
  · intro later onwards call used
    exact (reaches_grows sound onwards).keyUsed used
  · intro meets vendor known itemId
    have kept : finish.Kept := reaches_kept initial meets reached
    exact ⟨kept.sound.disputedQuantity_nonneg, kept.covered vendor known itemId⟩

end

/-- A hotel with one article, a location of its own and two vendors. -/
def laundryHotel : LaundryState where
  vendors :=
    { rows := [{ id := 1, linenLocationId := 10 }, { id := 2, linenLocationId := 20 }]
      ids := by decide
      dedicated := by decide }

def laundryCatalogue : LaundryEnvironment where
  now := 0
  items := fun id => if id = 1 then some { name := "Sábana" } else none
  locations := fun id =>
    if id = 1 ∨ id = 10 ∨ id = 20 then some { name := "Ropería" } else none
  prices := [1, 2].map fun vendorId =>
    { id := vendorId, vendorId := vendorId, linenItemId := 1, unitPrice := 100, effectiveFrom := 0 }
  hasReservation := fun _ => false

def asciiCasing : CaseMapping where
  lower := String.toLower
  upper := String.toUpper
  isAlpha := (·.all Char.isAlpha)

/-- A quantity of the article comes in at the hotel. -/
def openingCount (quantity : Int) : LaundryEvent :=
  .otherMovement
    { id := 0, itemId := 1, locationId := some 1, movementType := .inbound, quantity := quantity
      reason := none, reservationId := none, createdByUserId := none, createdAt := 0
      transferReference := none }

def remitoCall (vendorId : Int) (direction : Direction) (remitoNumber : String)
    (houseLocationId : Int) (quantity missingQuantity : ℚ) : LaundryEvent :=
  .call laundryCatalogue (.createRemito
    { vendorId := vendorId, direction := direction.value, remitoNumber := remitoNumber
      remitoDate := 0, houseLocationId := houseLocationId
      lines := [{ linenItemId := 1, quantity := quantity, missingQuantity := missingQuantity }] })

def decisionOn (discrepancyId : Int) (key : String) : DecisionRequest where
  discrepancyId := discrepancyId
  reason := "Conteo"
  idempotencyKey := key

/-- Ten units go to a vendor, four come back and three are declared missing;
two more come back, and what is missing of the three is written off. -/
def settledRun : List LaundryEvent :=
  [openingCount 1000, remitoCall 1 .outbound "A-1" 1 1000 0, remitoCall 1 .inbound "A-2" 1 400 300,
    .call laundryCatalogue (.approveDiscrepancy (decisionOn 1 "k-1")),
    remitoCall 1 .inbound "A-3" 1 200 0,
    .call laundryCatalogue (.resolveDiscrepancy (decisionOn 1 "k-2") { resolutionCode := "loss" })]

def firstVendorCustody (state : LaundryState) : Int × Int :=
  (state.disputedQuantity 1 1, balance state.entries 1 (some 10))

/-- The vendor keeps three units, and none of them is in dispute. -/
theorem reaches_laundryCustody_settledRun :
    ∃ finish, run (laundryStep asciiCasing) laundryHotel settledRun = some finish ∧
      firstVendorCustody finish = (0, 300) ∧
      finish.disputedQuantity 1 1 ≤ balance finish.entries 1 (some 10) := by
  have outcome : (run (laundryStep asciiCasing) laundryHotel
      settledRun).map firstVendorCustody = some (0, 300) := by
    decide +kernel
  obtain ⟨finish, ran, custody⟩ := Option.map_eq_some_iff.mp outcome
  have guarded : Guarded (laundryStep asciiCasing) (fun state event =>
        event.AwayFromVendors state ∧ KeepsCustody state event)
      laundryHotel settledRun := by
    decide +kernel
  have vendors : finish.vendors = laundryHotel.vendors :=
    (reaches_grows (kept_of_empty rfl rfl).sound (reaches_of_run guarded ran)).vendors
  have covered := (reaches_laundryCustody rfl rfl
    (reaches_of_run guarded ran)).2.2.2 (fun _ _ meets => meets) { id := 1, linenLocationId := 10 }
      (by rw [vendors]; exact List.mem_cons_self) 1
  exact ⟨finish, ran, custody, covered.2⟩

/-- A remito of another vendor takes eight of the ten units at the first one's
location, five of which are in dispute.  A receipt of 1.005 takes 1.01 off the
ledger and settles 1.00 of the two units in dispute. -/
theorem laundryCustody_uncovered : (run (laundryStep asciiCasing) laundryHotel
        [openingCount 1000, remitoCall 1 .outbound "A-1" 1 1000 0,
          remitoCall 1 .inbound "A-2" 1 0 500,
          remitoCall 2 .outbound "B-1" 10 800 0]).map firstVendorCustody =
        some (500, 200) ∧
      (run (laundryStep asciiCasing) laundryHotel
        [openingCount 1000, remitoCall 1 .outbound "A-1" 1 200 0,
          remitoCall 1 .inbound "A-2" 1 0 200,
          remitoCall 1 .inbound "A-3" 1 (201 / 2) 0]).map
          firstVendorCustody = some (100, 99) := by
  constructor
  · decide +kernel
  · decide +kernel

end HotelPms.Laundry
