import HotelPms.Laundry.Custody

/-!
# Custody of what remitos move

The linen at a vendor's location covers the shortages that are open with the
vendor.  A remito line keeps it so when it takes no more out of a location than
is not disputed there, and a receipt settles what it takes off the ledger.
-/

namespace HotelPms.Laundry

open Checked Inventory Decimal Transition

def movedQuantity (quantity : ℚ) : Int :=
  if 0 < quantity then column quantity else 0

/-- A line moves a quantity from the source to the destination. -/
structure MovesLinen
    (context : RemitoContext) (itemId : Int) (quantity : ℚ)
    (state after : LaundryState) : Prop where
  frame : ∃ linen, after = { state with linen := linen }
  total : ∀ otherItemId, balance after.entries otherItemId none =
    balance state.entries otherItemId none
  place : ∀ otherItemId locationId, balance after.entries otherItemId (some locationId) =
      balance state.entries otherItemId (some locationId) -
          (if itemId = otherItemId ∧ context.sourceLocationId = locationId
            then movedQuantity quantity else 0) +
        (if itemId = otherItemId ∧ context.destLocationId = locationId
          then movedQuantity quantity else 0)
  nonneg : 0 ≤ movedQuantity quantity
  fits : movedQuantity quantity ≤ maximumColumn
  covered : 0 < quantity -> movedQuantity quantity ≤
    balance state.entries itemId (some context.sourceLocationId)

section

variable {context : RemitoContext} {state after : LaundryState} {itemId lineId : Int} {quantity : ℚ}

theorem moveLinen_eq_ok (moved : moveLinen context state itemId quantity = .ok after) :
    MovesLinen context itemId quantity state after := by
  unfold moveLinen at moved
  split_ifs at moved with positive
  · simp only [bind_eq_ok, pure_eq_ok] at moved
    obtain ⟨⟨gone, _⟩, out, ⟨arrived, _⟩, into, rfl⟩ := moved
    have leaves : Registers _ .outbound _ _ := registerMovement_eq_ok rfl out
    have enters : Registers _ .inbound _ _ := registerMovement_eq_ok rfl into
    have isMoved : movedQuantity quantity = column quantity :=
      if_pos positive
    have ledger : ({ state with linen := arrived } : LaundryState).entries =
        state.entries ++ [⟨itemId, some context.sourceLocationId, -column quantity⟩,
            ⟨itemId, some context.destLocationId, column quantity⟩] := by
      show arrived.entries = _
      rw [enters.entries, leaves.entries, List.append_assoc]
      rfl
    refine ⟨⟨_, rfl⟩, ?_, ?_, ?_, ?_, ?_⟩
    · intro otherItemId
      rw [ledger, balance_move]
    · intro otherItemId locationId
      rw [ledger, balance_move_place, isMoved]
    · rw [isMoved]
      exact leaves.positive.le
    · rw [isMoved]
      exact leaves.fits
    · intro _
      rw [isMoved]
      exact leaves.covered (by decide)
  · cases moved
    have isMoved : movedQuantity quantity = 0 := if_neg positive
    refine ⟨⟨_, rfl⟩, fun _ => rfl, ?_, isMoved.ge, ?_, ?_⟩
    · simp [isMoved]
    · rw [isMoved]
      decide
    · intro isPositive
      exact absurd isPositive positive

variable {line : RemitoLineInput}

theorem addRemitoLine_eq_ok (added : addRemitoLine context state line = .ok (after, lineId)) :
    ∃ remitoLines nextLineId, after =
      { state with remitoLines := remitoLines, nextLineId := nextLineId } := by
  unfold addRemitoLine at added
  simp only [bind_eq_ok, pure_eq_ok] at added
  obtain ⟨_, -, _, -, _, -, _, -, result⟩ := added
  cases result
  exact ⟨_, _, rfl⟩

variable {discrepancyType : DiscrepancyType} {custodyLocationId : Option Int}

variable {sourceLocationId : Int} {status : DiscrepancyStatus}

theorem openDiscrepancy_eq_ok (opened : openDiscrepancy context state lineId itemId discrepancyType
      quantity sourceLocationId custodyLocationId status = .ok after) :
    0 < column quantity ∧ column quantity ≤ maximumColumn ∧
      after = state.addDiscrepancy (discrepancyOf context state lineId itemId
        discrepancyType (column quantity) sourceLocationId custodyLocationId
        status) := by
  unfold openDiscrepancy at opened
  simp only [bind_eq_ok, raiseIf_eq_ok, pure_eq_ok, not_le] at opened
  obtain ⟨stored, isStored, _, positive, rfl⟩ := opened
  obtain ⟨fits, rfl⟩ := storeColumn_eq_ok.mp isStored
  exact ⟨positive, (le_abs_self _).trans fits, rfl⟩

theorem discrepancyOf_valid {vendors : VendorBook} {stored : Int}
    (positive : 0 < stored) (fits : stored ≤ maximumColumn)
    (typed : status ∈ discrepancyType.statuses)
    (pending : status ≠ .resolved ∧ status ≠ .returnedToLaundry)
    (source : discrepancyType = .shortReturn ->
      ∃ vendor ∈ vendors.rows, vendor.id = context.remito.vendorId ∧
        vendor.linenLocationId = sourceLocationId) :
    RowValid vendors (discrepancyOf context state lineId itemId
      discrepancyType stored sourceLocationId custodyLocationId status) where
  nonneg := positive.le
  within := le_refl stored
  closed := iff_of_false positive.ne' (by
    rintro (isResolved | isReturned)
    · exact pending.1 isResolved
    · exact pending.2 isReturned)
  fits := fits
  typed := typed
  source := source

/-! ## One line -/

/-- The vendor and the number of a remito's context are those of the state. -/
structure RemitoContext.Of
    (context : RemitoContext) (vendors : VendorBook) : Prop where
  known : context.vendor ∈ vendors.rows
  vendorId : context.remito.vendorId = context.vendor.id

/-- The linen at the location of a vendor covers what is in dispute with it. -/
def LaundryState.CustodyCovered (state : LaundryState) : Prop :=
  ∀ vendor ∈ state.vendors.rows, ∀ itemId, state.disputedQuantity vendor.id itemId ≤
      balance state.entries itemId (some vendor.linenLocationId)

/-- Sum of the open shortages of an item whose source is a location. -/
def LaundryState.disputedAt (state : LaundryState) (locationId itemId : Int) : Int :=
  ((state.discrepancies.filter fun row =>
      row.sourceLocationId = locationId ∧ row.linenItemId = itemId ∧
        row.OpenShortage).map LaundryDiscrepancy.remainingQuantity).sum

/-- A line between two locations leaves in custody what is in dispute: an
outbound one leaves it at the house location, and what an inbound one takes off
the ledger beyond what it settles was not disputed. -/
def LineKeepsCustody (context : RemitoContext) (state : LaundryState)
    (line : RemitoLineInput) : Prop :=
  context.houseLocationId ≠ context.vendor.linenLocationId ->
    match context.remito.direction with
    | .outbound =>
      state.disputedAt context.houseLocationId line.linenItemId + column line.quantity ≤
        balance state.entries line.linenItemId (some context.houseLocationId)
    | .inbound =>
      let available := balance state.entries line.linenItemId (some context.vendor.linenLocationId)
      let shortages :=
        state.openShortages context.remito.vendorId line.linenItemId
      let received := min line.quantity (available : ℚ)
      0 < received -> shortages ≠ [] -> column received - settledBy shortages received ≤
          available - state.disputedQuantity context.remito.vendorId line.linenItemId

instance (context : RemitoContext) (state : LaundryState) (line : RemitoLineInput) :
    Decidable (LineKeepsCustody context state line) := by
  unfold LineKeepsCustody
  cases context.remito.direction with
  | outbound => exact inferInstanceAs (Decidable (_ -> _))
  | inbound => exact inferInstanceAs (Decidable (_ -> _ -> _ -> _))

section

variable (sound : state.Sound)
include sound

theorem LaundryState.Sound.disputedAt_eq {vendor : LaundryVendor}
    (known : vendor ∈ state.vendors.rows) :
    state.disputedAt vendor.linenLocationId itemId = state.disputedQuantity vendor.id itemId := by
  unfold LaundryState.disputedAt
  congr 2
  apply List.filter_congr
  intro row member
  rw [decide_eq_decide]
  have same : row.OpenShortage ->
      (row.sourceLocationId = vendor.linenLocationId ↔ row.vendorId = vendor.id) := by
    rintro ⟨isShort, -⟩
    obtain ⟨other, otherKnown, isId, isLocation⟩ := (sound.rows row member).source isShort
    rw [← isId, ← isLocation]
    constructor
    · intro sameLocation
      rw [Table.eq_of_key state.vendors.dedicated otherKnown known sameLocation]
    · intro sameId
      rw [Table.eq_of_key state.vendors.ids otherKnown known sameId]
  constructor
  · rintro ⟨isLocation, isItem, isOpen⟩
    exact ⟨(same isOpen).mp isLocation, isItem, isOpen⟩
  · rintro ⟨isVendor, isItem, isOpen⟩
    exact ⟨(same isOpen).mpr isVendor, isItem, isOpen⟩

theorem openDiscrepancy_receives (typed : status ∈ discrepancyType.statuses)
    (pending : status ≠ .resolved ∧ status ≠ .returnedToLaundry)
    (source : discrepancyType = .shortReturn ->
      ∃ vendor ∈ state.vendors.rows, vendor.id = context.remito.vendorId ∧
        vendor.linenLocationId = sourceLocationId)
    (opened : openDiscrepancy context state lineId itemId discrepancyType
      quantity sourceLocationId custodyLocationId status = .ok after) :
    Receives context.remito.vendorId itemId state after ∧
      after.disputedQuantity context.remito.vendorId itemId =
        state.disputedQuantity context.remito.vendorId itemId +
          if discrepancyType = .shortReturn then column quantity else 0 := by
  obtain ⟨positive, fits, rfl⟩ := openDiscrepancy_eq_ok opened
  refine ⟨⟨rfl, rfl, rfl, List.prefix_rfl, ?_, ?_⟩, ?_⟩
  · exact sound.addDiscrepancy rfl (discrepancyOf_valid positive fits typed pending source)
  · intro otherVendorId otherItemId differs
    rw [disputedQuantity_addDiscrepancy,
      LaundryDiscrepancy.disputes_elsewhere rfl rfl differs, add_zero]
  · rw [disputedQuantity_addDiscrepancy]
    congr 1
    split_ifs with isShort
    · exact LaundryDiscrepancy.disputes_of_open rfl rfl ⟨isShort, pending.1⟩
    · apply LaundryDiscrepancy.disputes_of_closed
      rintro ⟨isShort', -⟩
      exact isShort isShort'

theorem openExcess_eq_ok (opened : openExcess context state lineId itemId quantity = .ok after) :
    Receives context.remito.vendorId itemId state after ∧
      after.disputedQuantity context.remito.vendorId itemId =
        state.disputedQuantity context.remito.vendorId itemId ∧
      after.openShortages context.remito.vendorId itemId =
        state.openShortages context.remito.vendorId itemId := by
  unfold openExcess at opened
  split_ifs at opened
  · obtain ⟨receives, disputed⟩ := openDiscrepancy_receives sound (by decide)
      (by decide) (fun isShort => by cases isShort) opened
    refine ⟨receives, disputed.trans (add_zero _), ?_⟩
    obtain ⟨-, -, rfl⟩ := openDiscrepancy_eq_ok opened
    unfold LaundryState.openShortages
    congr 1
    show (state.discrepancies ++ [_]).filter _ = _
    simp [LaundryDiscrepancy.Matchable, discrepancyOf]
  · cases opened
    exact ⟨.refl _ _ sound, rfl, rfl⟩

/-- A receipt takes off the disputes what it settles, or all of them; without
one they stay. -/
theorem receiveLinen_eq_ok {bound : Int}
    (nonneg : 0 ≤ bound) (digits : bound < 10 ^ 28) (below : quantity ≤ bound)
    (received : receiveLinen context state lineId itemId quantity = .ok after) :
    Receives context.remito.vendorId itemId state after ∧
      ((context.remito.direction = .inbound ∧ 0 < quantity ∧
          after.disputedQuantity context.remito.vendorId itemId ≤
            state.disputedQuantity context.remito.vendorId itemId ∧
          after.disputedQuantity context.remito.vendorId itemId ≤ max
              (state.disputedQuantity context.remito.vendorId itemId - settledBy
                  (state.openShortages context.remito.vendorId itemId)
                  quantity)
              0) ∨
        (¬(context.remito.direction = .inbound ∧ 0 < quantity) ∧ after = state)) := by
  unfold receiveLinen at received
  split_ifs at received with isReceipt
  · obtain ⟨receives, bounded⟩ := matchShortageReceipt_eq_ok sound nonneg digits below received
    exact ⟨receives, .inl ⟨isReceipt.1, isReceipt.2, bounded⟩⟩
  · cases received
    exact ⟨.refl _ _ sound, .inr ⟨isReceipt, rfl⟩⟩

/-- A declared shortage disputes no more than the ledger leaves free. -/
theorem openMissing_eq_ok (of : context.Of state.vendors)
    (opened : openMissing context state lineId itemId quantity = .ok after) :
    Receives context.remito.vendorId itemId state after ∧
      (state.CustodyCovered -> after.CustodyCovered) := by
  unfold openMissing at opened
  split_ifs at opened
  · simp only [bind_eq_ok, raiseIf_eq_ok, not_lt] at opened
    obtain ⟨still, current, _, within, opened⟩ := opened
    obtain ⟨rfl, digits⟩ := currentStock_eq_ok current
    obtain ⟨receives, disputed⟩ := openDiscrepancy_receives sound (by decide)
      (by decide) (fun _ => ⟨_, of.known, of.vendorId.symm, rfl⟩) opened
    refine ⟨receives, ?_⟩
    intro covered vendor known otherItemId
    rw [receives.vendors] at known
    have ledger : after.entries = state.entries :=
      congrArg LinenLedger.entries receives.linen
    rw [ledger]
    by_cases own : vendor.id = context.remito.vendorId ∧ otherItemId = itemId
    · obtain ⟨isVendor, rfl⟩ := own
      obtain rfl : vendor = context.vendor :=
        Table.eq_of_key state.vendors.ids known of.known (isVendor.trans of.vendorId)
      rw [isVendor, disputed, if_pos rfl]
      have before := covered _ known otherItemId
      rw [isVendor] at before
      have disputes : 0 ≤ state.disputedQuantity context.remito.vendorId
          otherItemId := sound.disputedQuantity_nonneg
      have free : |balance state.linen.entries otherItemId (some context.vendor.linenLocationId) -
          state.disputedQuantity context.remito.vendorId otherItemId| < 10 ^ 28 := by
        have digits := abs_lt.mp digits
        have before : _ ≤ balance state.linen.entries otherItemId
          (some context.vendor.linenLocationId) := before
        rw [abs_lt]
        omega
      rw [← Int.cast_sub, inContext_intCast free, max_eq_left] at within
      · have stored := roundHalfUp_le within
        unfold column LaundryState.entries
        omega
      · exact_mod_cast sub_nonneg.mpr before
    · rw [receives.others _ _ own]
      exact covered vendor known otherItemId
  · cases opened
    exact ⟨.refl _ _ sound, id⟩

omit sound in
theorem checkSource_eq_ok {item : LinenItem} {available : Int} {done : Unit}
    (checked : checkSource context item line available = .ok done) :
    sourceQuantity context line available ≤ available := by
  unfold checkSource at checked
  split_ifs at checked with short
  · simp only [bind_eq_ok] at checked
    obtain ⟨_, -, raised⟩ := checked
    cases raised
  · exact not_lt.mp short

theorem LineKeepsCustody.covered {moved received : LaundryState} {quantity : ℚ}
    (keeps : LineKeepsCustody context state line) (of : context.Of state.vendors)
    (covered : state.CustodyCovered)
    (isQuantity : quantity = sourceQuantity context line
      (balance state.entries line.linenItemId (some context.sourceLocationId)))
    (moves : MovesLinen context line.linenItemId quantity state moved)
    (vendors : received.vendors = state.vendors)
    (ledger : received.entries = moved.entries)
    (others : ∀ vendorId itemId, ¬(vendorId = context.remito.vendorId ∧ itemId = line.linenItemId) ->
        received.disputedQuantity vendorId itemId = state.disputedQuantity vendorId itemId)
    (own : (context.remito.direction = .inbound ∧ 0 < quantity ∧
        received.disputedQuantity context.remito.vendorId line.linenItemId ≤
          state.disputedQuantity context.remito.vendorId line.linenItemId ∧
        received.disputedQuantity context.remito.vendorId line.linenItemId ≤ max
            (state.disputedQuantity context.remito.vendorId line.linenItemId -
              settledBy (state.openShortages context.remito.vendorId line.linenItemId) quantity)
            0) ∨
      (¬(context.remito.direction = .inbound ∧ 0 < quantity) ∧
        received.disputedQuantity context.remito.vendorId line.linenItemId =
          state.disputedQuantity context.remito.vendorId line.linenItemId)) :
    received.CustodyCovered := by
  intro vendor known itemId
  rw [vendors] at known
  rw [ledger, moves.place]
  have before := covered vendor known itemId
  have nonneg := moves.nonneg
  cases isDirection : context.remito.direction with
  | outbound =>
    have source : context.sourceLocationId = context.houseLocationId := by
      unfold RemitoContext.sourceLocationId
      rw [isDirection]
    have dest : context.destLocationId = context.vendor.linenLocationId := by
      unfold RemitoContext.destLocationId
      rw [isDirection]
    have same : received.disputedQuantity vendor.id itemId =
        state.disputedQuantity vendor.id itemId := by
      rcases own with ⟨isInbound, -⟩ | ⟨-, unchanged⟩
      · rw [isDirection] at isInbound
        cases isInbound
      · by_cases isOwn : vendor.id = context.remito.vendorId ∧ itemId = line.linenItemId
        · rw [isOwn.1, isOwn.2]
          exact unchanged
        · exact others _ _ isOwn
    rw [same, source, dest]
    by_cases leaves : line.linenItemId = itemId ∧ context.houseLocationId = vendor.linenLocationId
    · obtain ⟨rfl, isHouse⟩ := leaves
      by_cases returns : context.vendor.linenLocationId = vendor.linenLocationId
      · omega
      · rw [if_pos ⟨rfl, isHouse⟩, if_neg (returns ·.2)]
        have enough := keeps fun isOwn => returns (isOwn.symm.trans isHouse)
        rw [isDirection] at enough
        rw [isHouse, sound.disputedAt_eq known] at enough
        have isLine : quantity = line.quantity := by
          rw [isQuantity]
          unfold sourceQuantity
          rw [isDirection]
        unfold movedQuantity
        split_ifs with positive
        · rw [isLine]
          omega
        · omega
    · split_ifs <;> omega
  | inbound =>
    have source : context.sourceLocationId = context.vendor.linenLocationId := by
      unfold RemitoContext.sourceLocationId
      rw [isDirection]
    rw [source]
    by_cases leaves : line.linenItemId = itemId ∧
        context.vendor.linenLocationId = vendor.linenLocationId
    · obtain ⟨rfl, isLocation⟩ := leaves
      obtain rfl : context.vendor = vendor :=
        Table.eq_of_key state.vendors.dedicated of.known known isLocation
      rw [if_pos ⟨rfl, rfl⟩, ← of.vendorId]
      rw [← of.vendorId] at before
      have less : received.disputedQuantity context.remito.vendorId line.linenItemId ≤
            state.disputedQuantity context.remito.vendorId line.linenItemId := by
        rcases own with ⟨-, -, less, -⟩ | ⟨-, unchanged⟩
        · exact less
        · exact unchanged.le
      by_cases isOwn : context.houseLocationId = context.vendor.linenLocationId
      · have dest : context.destLocationId = context.vendor.linenLocationId := by
          unfold RemitoContext.destLocationId
          rw [isDirection]
          exact isOwn
        omega
      suffices received.disputedQuantity context.remito.vendorId line.linenItemId ≤
            balance state.entries line.linenItemId (some context.vendor.linenLocationId) -
              movedQuantity quantity by
        split_ifs <;> omega
      rcases own with ⟨-, positive, -, bounded⟩ | ⟨isNot, unchanged⟩
      · have within := moves.covered positive
        rw [source] at within
        have isMoved : movedQuantity quantity = column quantity :=
          if_pos positive
        by_cases none : state.openShortages context.remito.vendorId line.linenItemId = []
        · have zero : _ = state.disputedQuantity context.remito.vendorId
              line.linenItemId := sound.sum_openShortages
          rw [none, List.map_nil, List.sum_nil] at zero
          omega
        · have isReceived : quantity = min line.quantity (balance state.entries line.linenItemId
                (some context.vendor.linenLocationId) : ℚ) := by
            rw [isQuantity, source]
            unfold sourceQuantity
            rw [isDirection]
          have free := keeps isOwn
          rw [isDirection] at free
          simp only [← isReceived] at free
          have free := free positive none
          omega
      · have zero : movedQuantity quantity = 0 :=
          if_neg (isNot ⟨isDirection, ·⟩)
        omega
    · rw [if_neg leaves, others]
      · split_ifs <;> omega
      · rintro ⟨isVendor, rfl⟩
        apply leaves
        rw [Table.eq_of_key state.vendors.ids known of.known (isVendor.trans of.vendorId)]
        exact ⟨rfl, rfl⟩

structure RecordsLines (state after : LaundryState) : Prop where
  vendors : after.vendors = state.vendors
  remitos : after.remitos = state.remitos
  actions : state.actions <+: after.actions
  sound : after.Sound
  total : ∀ itemId, balance after.entries itemId none = balance state.entries itemId none

theorem RecordsLines.refl : RecordsLines state state where
  vendors := rfl
  remitos := rfl
  actions := List.prefix_rfl
  sound := sound
  total := fun _ => rfl

omit sound in
theorem RecordsLines.trans {middle : LaundryState}
    (first : RecordsLines state middle) (second : RecordsLines middle after) :
    RecordsLines state after where
  vendors := second.vendors.trans first.vendors
  remitos := second.remitos.trans first.remitos
  actions := first.actions.trans second.actions
  sound := second.sound
  total := fun itemId => (second.total itemId).trans (first.total itemId)

theorem recordLine_eq_ok (of : context.Of state.vendors)
    (recorded : recordLine context state line = .ok after) :
    RecordsLines state after ∧ (state.CustodyCovered -> LineKeepsCustody context state line ->
        after.CustodyCovered) := by
  unfold recordLine at recorded
  simp only [bind_eq_ok] at recorded
  obtain ⟨_, -, item, -, available, current, _, -, _, enough, moved, isMoved, ⟨lined, lineId⟩,
    isLined, exceeded, isExceeded, received, isReceived, isAfter⟩ := recorded
  obtain ⟨rfl, digits⟩ := currentStock_eq_ok current
  have below := (checkSource_eq_ok enough).trans (Int.cast_le.mpr (le_abs_self _))
  have moves := moveLinen_eq_ok isMoved
  obtain ⟨remitoLines, nextLineId, rfl⟩ := addRemitoLine_eq_ok isLined
  obtain ⟨linen, rfl⟩ := moves.frame
  have linedSound : ({ state with
      linen := linen
      remitoLines := remitoLines
      nextLineId := nextLineId } : LaundryState).Sound :=
    ⟨sound.numbered, sound.rows⟩
  obtain ⟨exceeds, sameDisputes, sameShortages⟩ := openExcess_eq_ok linedSound isExceeded
  obtain ⟨receives, settled⟩ := receiveLinen_eq_ok exceeds.sound
    (abs_nonneg _) digits below isReceived
  have toReceived := exceeds.trans receives
  have sameOf : context.Of received.vendors := by
    rw [toReceived.vendors]
    exact of
  obtain ⟨misses, keepsCovered⟩ := openMissing_eq_ok toReceived.sound sameOf isAfter
  have all := toReceived.trans misses
  refine ⟨⟨all.vendors, all.remitos, all.actions, all.sound, ?_⟩, ?_⟩
  · intro itemId
    unfold LaundryState.entries
    rw [all.linen]
    exact moves.total itemId
  · intro covered keeps
    apply keepsCovered
    refine keeps.covered sound of covered rfl moves toReceived.vendors ?_ toReceived.others ?_
    · unfold LaundryState.entries
      rw [toReceived.linen]
    · rcases settled with ⟨isInbound, positive, bounded⟩ | ⟨isNot, rfl⟩
      · rw [sameDisputes, sameShortages] at bounded
        exact .inl ⟨isInbound, positive, bounded⟩
      · exact .inr ⟨isNot, sameDisputes⟩

def lineStep (context : RemitoContext) (state : LaundryState)
    (line : RemitoLineInput) : Option LaundryState :=
  (recordLine context state line).toOption

omit sound in
theorem recordLine_of_lineStep (taken : lineStep context state line = some after) :
    recordLine context state line = .ok after := by
  unfold lineStep at taken
  cases recorded : recordLine context state line with
  | error error =>
    rw [recorded] at taken
    cases taken
  | ok result =>
    rw [recorded] at taken
    rw [Option.some.inj taken]

theorem reaches_recordsLines {guard : LaundryState -> RemitoLineInput -> Prop} (of : context.Of state.vendors)
    (reached : Reaches (lineStep context) guard state after) :
    RecordsLines state after := by
  apply reached.invariant (RecordsLines.refl sound)
  intro before line last records _ taken
  have sameOf : context.Of before.vendors := by
    rw [records.vendors]
    exact of
  exact records.trans (recordLine_eq_ok records.sound sameOf (recordLine_of_lineStep taken)).1

theorem reaches_custodyCovered (of : context.Of state.vendors) (covered : state.CustodyCovered)
    (reached : Reaches (lineStep context) (LineKeepsCustody context) state after) :
    after.CustodyCovered := by
  have both : RecordsLines state after ∧ after.CustodyCovered := by
    apply reached.invariant ⟨RecordsLines.refl sound, covered⟩
    rintro before line last ⟨records, coveredBefore⟩ keeps taken
    have sameOf : context.Of before.vendors := by
      rw [records.vendors]
      exact of
    obtain ⟨record, keepsCovered⟩ :=
      recordLine_eq_ok records.sound sameOf (recordLine_of_lineStep taken)
    exact ⟨records.trans record, keepsCovered coveredBefore keeps⟩
  exact both.2

end

end

end HotelPms.Laundry
