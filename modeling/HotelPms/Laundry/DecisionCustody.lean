import HotelPms.Laundry.RemitoCustody

/-!
# Custody of what decisions settle

A decision rewrites one discrepancy under a new key.  It moves linen when an
excess becomes hotel stock or a shortage is written off, by exactly what
remained of it; any other decision leaves the ledger.
-/

namespace HotelPms.Laundry

open Checked Inventory Decimal

theorem column_intCast (value : Int) : column (value : ℚ) = value := by
  unfold column
  apply le_antisymm
  · exact roundHalfUp_le (le_refl _)
  · have near := abs_le.mp (abs_roundHalfUp_sub_le (value : ℚ))
    have : (value : ℚ) < roundHalfUp (value : ℚ) + 1 := by linarith
    have : value < roundHalfUp (value : ℚ) + 1 := by exact_mod_cast this
    omega

def LaundryState.KeyRecorded (state : LaundryState) (key : String) : Prop :=
  ∃ action ∈ state.actions, action.idempotencyKey = key

section

variable {env : LaundryEnvironment} {state after : LaundryState}
  {linen : LinenLedger} {old new result : LaundryDiscrepancy}
  {key reason : String} {actorUserId : Option Int} {details : ActionDetails}

theorem findAction_ne_none : state.findAction key ≠ none ↔ state.KeyRecorded key := by
  constructor
  · intro found
    obtain ⟨action, isAction⟩ := Option.ne_none_iff_exists'.mp found
    exact ⟨action, Table.find_eq_some isAction⟩
  · rintro ⟨action, member, isKey⟩ absent
    exact Table.find_eq_none absent action member isKey

/-- What is known of a decision once it is recorded: one row is rewritten, and
its action is added under a key that was not used. -/
structure Decides
    (state : LaundryState) (linen : LinenLedger)
    (old new : LaundryDiscrepancy) (key : String) (after : LaundryState) :
    Prop where
  member : old ∈ state.discrepancies
  revises : Revises old new
  unused : ¬state.KeyRecorded key
  recorded : ∃ action : LaundryAction, action.idempotencyKey = key ∧
    after = { ({ state with linen := linen } : LaundryState).store new with
      actions := state.actions ++ [action] }

theorem recordDecision_eq_ok (member : old ∈ state.discrepancies) (revises : Revises old new)
    (recorded : recordDecision env { state with linen := linen } new
      actorUserId key details = .ok (after, result)) :
    Decides state linen old new key after := by
  unfold recordDecision at recorded
  simp only [bind_eq_ok, pure_eq_ok] at recorded
  obtain ⟨_, isRecorded, pair⟩ := recorded
  cases pair
  obtain ⟨unused, rfl⟩ := recordDiscrepancyAction_eq_ok isRecorded
  refine ⟨member, revises, ?_, _, rfl, rfl⟩
  intro used
  exact findAction_ne_none.mpr used unused

namespace Decides

section

variable (decides : Decides state linen old new key after)
include decides

theorem sound (sound : state.Sound) (remainder : RemainderValid new)
    (typed : new.status ∈ old.discrepancyType.statuses) : after.Sound := by
  obtain ⟨action, -, rfl⟩ := decides.recorded
  have stored := sound.store decides.member decides.revises.id
    ((sound.rows old decides.member).revise decides.revises remainder typed)
  exact ⟨stored.numbered, stored.rows⟩

theorem entries : after.entries = linen.entries := by
  obtain ⟨action, -, rfl⟩ := decides.recorded
  rfl

theorem vendors : after.vendors = state.vendors := by
  obtain ⟨action, -, rfl⟩ := decides.recorded
  rfl

theorem remitos : after.remitos = state.remitos := by
  obtain ⟨action, -, rfl⟩ := decides.recorded
  rfl

theorem actions : state.actions <+: after.actions ∧ after.KeyRecorded key := by
  obtain ⟨action, isKey, rfl⟩ := decides.recorded
  exact ⟨List.prefix_append _ _, action, List.mem_append_right _ List.mem_cons_self, isKey⟩

theorem disputedQuantity (sound : state.Sound) (vendorId itemId : Int) :
    after.disputedQuantity vendorId itemId = state.disputedQuantity vendorId itemId -
        old.disputes vendorId itemId + new.disputes vendorId itemId := by
  obtain ⟨action, -, rfl⟩ := decides.recorded
  exact sound.disputedQuantity_store decides.member decides.revises.id

theorem custodyCovered (sound : state.Sound) (covered : state.CustodyCovered)
    (loses : ∀ vendor ∈ state.vendors.rows, ∀ itemId,
      balance state.entries itemId (some vendor.linenLocationId) + new.disputes vendor.id itemId ≤
        balance linen.entries itemId (some vendor.linenLocationId) +
          old.disputes vendor.id itemId) :
    after.CustodyCovered := by
  intro vendor known itemId
  rw [decides.vendors] at known
  rw [decides.entries, decides.disputedQuantity sound]
  have before := covered vendor known itemId
  have lost := loses vendor known itemId
  omega

end

end Decides

/-- The replay of a key finds it used; any other call finds it unused. -/
theorem actionReplay_eq_ok {discrepancyId : Int} {replay : Option LaundryDiscrepancy}
    (replayed : actionReplay state discrepancyId actorUserId key details = .ok replay) :
    (state.KeyRecorded key ∧ replay.isSome) ∨ (¬state.KeyRecorded key ∧ replay = none) := by
  unfold actionReplay at replayed
  split at replayed
  · next absent =>
    refine .inr ⟨?_, (pure_eq_ok.mp replayed).symm⟩
    intro used
    exact findAction_ne_none.mpr used absent
  · next found =>
    simp only [bind_eq_ok, pure_eq_ok] at replayed
    obtain ⟨_, -, row, -, rfl⟩ := replayed
    refine .inl ⟨findAction_ne_none.mp ?_, rfl⟩
    rw [found]
    exact Option.some_ne_none _

theorem getDiscrepancy_eq_ok {discrepancyId : Int}
    (found : state.getDiscrepancy discrepancyId = .ok old) :
    state.findDiscrepancy discrepancyId = some old ∧ old ∈ state.discrepancies := by
  unfold LaundryState.getDiscrepancy at found
  split at found
  · next row isRow =>
    cases found
    exact ⟨isRow, (Table.find_eq_some isRow).1⟩
  · cases found

theorem validateActionInput_eq_ok {rawReason rawKey : String}
    (validated : validateActionInput rawReason rawKey = .ok (reason, key)) :
    key = Text.strip rawKey := by
  unfold validateActionInput at validated
  simp only [bind_eq_ok, pure_eq_ok] at validated
  obtain ⟨_, -, _, -, _, -, pair⟩ := validated
  exact (Prod.mk.inj pair).2.symm

/-! ## What decisions leave -/

theorem RemainderValid.pending (valid : RemainderValid old) (positive : 0 < old.remainingQuantity)
    (sameRemaining : new.remainingQuantity = old.remainingQuantity)
    (sameQuantity : new.quantity = old.quantity)
    (isPending : new.status ≠ .resolved ∧ new.status ≠ .returnedToLaundry) :
    RemainderValid new where
  nonneg := sameRemaining ▸ valid.nonneg
  within := by
    rw [sameRemaining, sameQuantity]
    exact valid.within
  closed := by
    rw [sameRemaining]
    apply iff_of_false positive.ne'
    rintro (isResolved | isReturned)
    · exact isPending.1 isResolved
    · exact isPending.2 isReturned

theorem RemainderValid.settled (valid : RemainderValid old) (none : new.remainingQuantity = 0)
    (sameQuantity : new.quantity = old.quantity)
    (isClosed : new.status = .resolved ∨ new.status = .returnedToLaundry) :
    RemainderValid new where
  nonneg := none.ge
  within := by
    rw [none, sameQuantity]
    exact valid.nonneg.trans valid.within
  closed := iff_of_true none isClosed

theorem RemainderValid.remaining_pos (valid : RemainderValid old)
    (isPending : old.status ≠ .resolved ∧ old.status ≠ .returnedToLaundry) :
    0 < old.remainingQuantity := by
  apply lt_of_le_of_ne valid.nonneg
  intro none
  rcases valid.closed.mp none.symm with isResolved | isReturned
  · exact isPending.1 isResolved
  · exact isPending.2 isReturned

theorem Revises.disputes_le (revises : Revises old new) (nonneg : 0 ≤ old.remainingQuantity)
    (less : new.remainingQuantity ≤ old.remainingQuantity)
    (opens : new.OpenShortage -> old.OpenShortage) (vendorId itemId : Int) :
    new.disputes vendorId itemId ≤ old.disputes vendorId itemId := by
  unfold LaundryDiscrepancy.disputes
  rw [revises.vendorId, revises.linenItemId]
  by_cases isOpen : old.vendorId = vendorId ∧ old.linenItemId = itemId ∧ new.OpenShortage
  · rw [if_pos isOpen, if_pos ⟨isOpen.1, isOpen.2.1, opens isOpen.2.2⟩]
    exact less
  · split_ifs
    · exact nonneg
    · exact le_refl 0

/-- What a decision does to its row and to the linen ledger: the row stays
valid, the total of each item changes by `change`, and the ledger of a vendor
loses no more than the disputes do. -/
structure Outcome
    (state : LaundryState) (old : LaundryDiscrepancy) (change : Int -> Int)
    (linen : LinenLedger) (new : LaundryDiscrepancy) : Prop where
  revises : Revises old new
  remainder : RemainderValid new
  typed : new.status ∈ old.discrepancyType.statuses
  total : ∀ itemId, balance linen.entries itemId none =
    balance state.entries itemId none + change itemId
  loses : ∀ vendor ∈ state.vendors.rows, ∀ itemId,
    balance state.entries itemId (some vendor.linenLocationId) + new.disputes vendor.id itemId ≤
      balance linen.entries itemId (some vendor.linenLocationId) + old.disputes vendor.id itemId

/-- A decision that leaves the ledger and disputes no more. -/
theorem Outcome.of_same_ledger (valid : RowValid state.vendors old)
    (revises : Revises old new) (remainder : RemainderValid new)
    (typed : new.status ∈ old.discrepancyType.statuses)
    (less : new.remainingQuantity ≤ old.remainingQuantity)
    (opens : new.OpenShortage -> old.OpenShortage) :
    Outcome state old (fun _ => 0) state.linen new where
  revises := revises
  remainder := remainder
  typed := typed
  total := fun itemId => (add_zero _).symm
  loses := by
    intro vendor _ itemId
    have := revises.disputes_le valid.nonneg less opens vendor.id itemId
    unfold LaundryState.entries
    omega

theorem approvedRow_outcome (env : LaundryEnvironment) (actorUserId : Option Int) (reason : String)
    (valid : RowValid state.vendors old)
    (expected : old.status = expectedStatus old.discrepancyType) :
    Outcome state old (fun _ => 0) state.linen (approvedRow env old actorUserId reason) := by
  have positive := valid.remaining_pos (by
    rw [expected]
    cases old.discrepancyType <;> decide)
  refine Outcome.of_same_ledger valid ?_ ?_ ?_ ?_ ?_
  · exact ⟨rfl, rfl, rfl, rfl, rfl, rfl⟩
  · refine valid.pending positive rfl rfl ?_
    show nextStatus old.discrepancyType ≠ _ ∧ nextStatus old.discrepancyType ≠ _
    cases old.discrepancyType <;> decide
  · show nextStatus old.discrepancyType ∈ _
    cases old.discrepancyType <;> decide
  · exact le_refl _
  · rintro ⟨isShort, -⟩
    refine ⟨isShort, ?_⟩
    rw [expected]
    cases old.discrepancyType <;> decide

theorem returnedRow_outcome (env : LaundryEnvironment) (vendor : LaundryVendor)
    (actorUserId : Option Int) (reason : String)
    (valid : RowValid state.vendors old)
    (isExcess : old.discrepancyType = .excessReturn) :
    Outcome state old (fun _ => 0) state.linen (returnedRow env old vendor actorUserId reason) := by
  refine Outcome.of_same_ledger valid ?_ ?_ ?_ ?_ ?_
  · exact ⟨rfl, rfl, rfl, rfl, rfl, rfl⟩
  · exact valid.settled rfl rfl (.inr rfl)
  · show DiscrepancyStatus.returnedToLaundry ∈ _
    rw [isExcess]
    decide
  · exact valid.nonneg
  · rintro ⟨isShort, -⟩
    rw [show (returnedRow env old vendor actorUserId reason).discrepancyType =
      old.discrepancyType from rfl, isExcess] at isShort
    cases isShort

/-- What a resolution adds to the hotel-wide total of an item. -/
def resolutionChange (code : String) (row : LaundryDiscrepancy) (itemId : Int) : Int :=
  if row.linenItemId = itemId then
    if code = "hotel_stock" then row.remainingQuantity
    else if code = "loss" ∨ code = "vendor_credit" then
      -row.remainingQuantity
    else 0
  else 0

variable {text code : String}

theorem resolutionMovement_entry {locationId : Int} {movementType : MovementType} :
    movementEntry (resolutionMovement old locationId movementType text actorUserId) movementType =
      ⟨old.linenItemId, some locationId,
        if movementType.IsOutbound then -old.remainingQuantity
        else old.remainingQuantity⟩ := by
  unfold movementEntry resolutionMovement
  simp only [column_intCast]

section

variable (valid : RowValid state.vendors old)
include valid

theorem Outcome.of_hotel_stock {houseLocationId : Int}
    (isExcess : old.discrepancyType = .excessReturn)
    (registers : Registers (resolutionMovement old houseLocationId .inbound text actorUserId)
      .inbound state.linen linen) :
    Outcome state old (resolutionChange "hotel_stock" old) linen
      (closedRow env old (some houseLocationId) actorUserId) where
  revises := ⟨rfl, rfl, rfl, rfl, rfl, rfl⟩
  remainder := valid.settled rfl rfl (.inl rfl)
  typed := by
    show DiscrepancyStatus.resolved ∈ _
    rw [isExcess]
    decide
  total := by
    intro itemId
    rw [registers.entries, balance_concat, resolutionMovement_entry, if_neg (by decide)]
    unfold Entry.effect Entry.CountsIn resolutionChange
    simp only [true_or, and_true, if_true]
    rfl
  loses := by
    intro vendor _ itemId
    rw [registers.entries, balance_concat]
    have none : (closedRow env old (some houseLocationId)
        actorUserId).disputes vendor.id itemId = 0 := by
      apply LaundryDiscrepancy.disputes_of_closed
      rintro ⟨-, isOpen⟩
      exact isOpen rfl
    have nonneg := valid.disputes_nonneg vendor.id itemId
    have enters : 0 ≤ (movementEntry
        (resolutionMovement old houseLocationId .inbound text actorUserId)
        .inbound).effect itemId (some vendor.linenLocationId) := by
      unfold Entry.effect
      split_ifs
      · exact registers.positive.le
      · exact le_refl 0
    unfold LaundryState.entries
    omega

theorem Outcome.of_written_off (isShort : old.discrepancyType = .shortReturn)
    (unresolved : old.status ≠ .resolved)
    (isCode : code = "loss" ∨ code = "vendor_credit")
    (registers : Registers
      (resolutionMovement old old.sourceLocationId .adjustmentOut text actorUserId)
      .adjustmentOut state.linen linen) :
    Outcome state old (resolutionChange code old) linen (closedRow env old none actorUserId) where
  revises := ⟨rfl, rfl, rfl, rfl, rfl, rfl⟩
  remainder := valid.settled rfl rfl (.inl rfl)
  typed := by
    show DiscrepancyStatus.resolved ∈ _
    rw [isShort]
    decide
  total := by
    intro itemId
    rw [registers.entries, balance_concat, resolutionMovement_entry, if_pos (by decide)]
    unfold Entry.effect Entry.CountsIn resolutionChange
    have notStock : code ≠ "hotel_stock" := by
      rintro rfl
      revert isCode
      decide
    simp only [true_or, and_true, if_neg notStock, if_pos isCode]
    rfl
  loses := by
    intro vendor known itemId
    rw [registers.entries, balance_concat]
    have none : (closedRow env old Option.none actorUserId).disputes vendor.id itemId = 0 := by
      apply LaundryDiscrepancy.disputes_of_closed
      rintro ⟨-, isOpen⟩
      exact isOpen rfl
    have nonneg := valid.disputes_nonneg vendor.id itemId
    unfold LaundryState.entries Entry.effect
    split_ifs with counts
    · obtain ⟨isItem, nowhere | here⟩ := counts
      · cases nowhere
      · obtain ⟨other, otherKnown, isId, isLocation⟩ := valid.source isShort
        have sameVendor : other = vendor := by
          apply Table.eq_of_key state.vendors.dedicated otherKnown known
          rw [isLocation]
          exact Option.some.inj here
        have own : old.disputes vendor.id itemId = old.remainingQuantity :=
          LaundryDiscrepancy.disputes_of_open (sameVendor ▸ isId.symm) isItem ⟨isShort, unresolved⟩
        rw [own, resolutionMovement_entry, if_pos (by decide)]
        simp only
        omega
    · omega

omit valid in
theorem resolutionChange_of_other (notStock : code ≠ "hotel_stock")
    (notOff : ¬(code = "loss" ∨ code = "vendor_credit")) :
    resolutionChange code old = fun _ => 0 := by
  funext itemId
  unfold resolutionChange
  rw [if_neg notStock, if_neg notOff, ite_self]

theorem resolveExcess_eq_ok (isExcess : old.discrepancyType = .excessReturn)
    (resolved : resolveExcess env state old code reason actorUserId = .ok (linen, new)) :
    Outcome state old (resolutionChange code old) linen new := by
  unfold resolveExcess at resolved
  simp only [bind_eq_ok, raiseIf_eq_ok, not_not, not_le] at resolved
  obtain ⟨_, identified, _, allowed, _, positive, house, -, resolved⟩ := resolved
  split_ifs at resolved with isStock
  · simp only [bind_eq_ok, pure_eq_ok] at resolved
    obtain ⟨⟨_, _⟩, registered, pair⟩ := resolved
    cases pair
    subst isStock
    exact Outcome.of_hotel_stock valid isExcess (registerMovement_eq_ok rfl registered)
  · cases resolved
    have isReturn : code = "return_to_laundry" := by
      simpa [isStock] using allowed
    rw [resolutionChange_of_other isStock (by rw [isReturn]; decide)]
    refine Outcome.of_same_ledger valid ?_ ?_ ?_ ?_ ?_
    · exact ⟨rfl, rfl, rfl, rfl, rfl, rfl⟩
    · refine valid.pending positive rfl rfl ?_
      show DiscrepancyStatus.returnToLaundry ≠ _ ∧ DiscrepancyStatus.returnToLaundry ≠ _
      decide
    · show DiscrepancyStatus.returnToLaundry ∈ _
      rw [isExcess]
      decide
    · exact le_refl _
    · rintro ⟨isShort, -⟩
      exact absurd (isShort.symm.trans isExcess) (by decide)

/-- A shortage that stays open under another status. -/
theorem Outcome.of_reopened (isShort : old.discrepancyType = .shortReturn)
    (unresolved : old.status ≠ .resolved) (positive : 0 < old.remainingQuantity)
    (revises : Revises old new)
    (same : new.remainingQuantity = old.remainingQuantity)
    (status : new.status = .pendingClaim ∨ new.status = .awaitingReplacement) :
    Outcome state old (fun _ => 0) state.linen new := by
  refine Outcome.of_same_ledger valid revises ?_ ?_ same.le ?_
  · apply valid.pending positive same revises.quantity
    rcases status with status | status <;> rw [status] <;> decide
  · rw [isShort]
    rcases status with status | status <;> rw [status] <;> decide
  · exact fun _ => ⟨isShort, unresolved⟩

theorem resolveShortage_eq_ok (isShort : old.discrepancyType = .shortReturn)
    (resolved : resolveShortage env state old code reason actorUserId = .ok (linen, new)) :
    Outcome state old (resolutionChange code old) linen new := by
  unfold resolveShortage at resolved
  simp only [bind_eq_ok, raiseIf_eq_ok, not_not, not_le] at resolved
  obtain ⟨_, inReview, _, positive, _, allowed, vendor, -, resolved⟩ := resolved
  have unresolved : old.status ≠ .resolved := by
    intro isResolved
    rw [isResolved] at inReview
    revert inReview
    decide
  have notStock : code ≠ "hotel_stock" := by
    rintro rfl
    revert allowed
    decide
  split_ifs at resolved with isOff isCustody isClaim
  · simp only [bind_eq_ok, pure_eq_ok] at resolved
    obtain ⟨⟨_, _⟩, registered, pair⟩ := resolved
    cases pair
    exact Outcome.of_written_off valid isShort unresolved isOff
      (registerMovement_eq_ok rfl registered)
  · cases resolved
    rw [resolutionChange_of_other notStock isOff]
    refine Outcome.of_same_ledger valid ?_ ?_ ?_ ?_ ?_
    · exact ⟨rfl, rfl, rfl, rfl, rfl, rfl⟩
    · exact valid.settled rfl rfl (.inl rfl)
    · show DiscrepancyStatus.resolved ∈ _
      rw [isShort]
      decide
    · exact valid.nonneg
    · exact fun _ => ⟨isShort, unresolved⟩
  · cases resolved
    rw [resolutionChange_of_other notStock isOff]
    exact Outcome.of_reopened valid isShort unresolved positive
      ⟨rfl, rfl, rfl, rfl, rfl, rfl⟩ rfl (.inl rfl)
  · cases resolved
    rw [resolutionChange_of_other notStock isOff]
    exact Outcome.of_reopened valid isShort unresolved positive
      ⟨rfl, rfl, rfl, rfl, rfl, rfl⟩ rfl (.inr rfl)

end

/-- The record of a resolution does not touch custody. -/
theorem Outcome.resolvedRow {change : Int -> Int} {resolution : NormalizedResolution}
    (outcome : Outcome state old change linen new) :
    Outcome state old change linen (resolvedRow env new resolution reason actorUserId) where
  revises := ⟨outcome.revises.id, outcome.revises.vendorId,
    outcome.revises.linenItemId, outcome.revises.discrepancyType,
    outcome.revises.quantity, outcome.revises.sourceLocationId⟩
  remainder := ⟨outcome.remainder.nonneg, outcome.remainder.within, outcome.remainder.closed⟩
  typed := outcome.typed
  total := outcome.total
  loses := outcome.loses

/-- A decision is answered from its key without a change, or it rewrites its
discrepancy and changes the totals as it should. -/
def Answers (state : LaundryState) (discrepancyId : Int) (key : String)
    (change : LaundryDiscrepancy -> Int -> Int) (after : LaundryState) : Prop :=
  (state.KeyRecorded key ∧ after = state) ∨
    ∃ linen old new, state.findDiscrepancy discrepancyId = some old ∧
      Decides state linen old new key after ∧
      Outcome state old (change old) linen new

variable {request : DecisionRequest}

theorem approveDiscrepancy_eq_ok (sound : state.Sound)
    (approved : approveDiscrepancy env state request = .ok (after, result)) :
    Answers state request.discrepancyId (Text.strip request.idempotencyKey)
      (fun _ _ => 0) after := by
  unfold approveDiscrepancy at approved
  simp only [bind_eq_ok] at approved
  obtain ⟨⟨reason, key⟩, validated, row, isRow, replay, replayed, approved⟩ := approved
  rw [← validateActionInput_eq_ok validated]
  obtain ⟨found, member⟩ := getDiscrepancy_eq_ok isRow
  rcases actionReplay_eq_ok replayed with ⟨used, isSome⟩ | ⟨unused, rfl⟩
  · obtain ⟨row, rfl⟩ := Option.isSome_iff_exists.mp isSome
    exact .inl ⟨used, (Prod.mk.inj (pure_eq_ok.mp approved)).1.symm⟩
  · simp only [bind_eq_ok, raiseIf_eq_ok, not_not] at approved
    obtain ⟨_, expected, decided⟩ := approved
    have outcome := approvedRow_outcome env request.actorUserId reason
      (sound.rows row member) expected
    exact .inr ⟨_, _, _, found, recordDecision_eq_ok member outcome.revises decided, outcome⟩

theorem confirmDiscrepancyReturnToLaundry_eq_ok (sound : state.Sound)
    (confirmed : confirmDiscrepancyReturnToLaundry env state request = .ok (after, result)) :
    Answers state request.discrepancyId (Text.strip request.idempotencyKey)
      (fun _ _ => 0) after := by
  unfold confirmDiscrepancyReturnToLaundry at confirmed
  simp only [bind_eq_ok] at confirmed
  obtain ⟨⟨reason, key⟩, validated, row, isRow, replay, replayed, confirmed⟩ := confirmed
  rw [← validateActionInput_eq_ok validated]
  obtain ⟨found, member⟩ := getDiscrepancy_eq_ok isRow
  rcases actionReplay_eq_ok replayed with ⟨used, isSome⟩ | ⟨unused, rfl⟩
  · obtain ⟨row, rfl⟩ := Option.isSome_iff_exists.mp isSome
    exact .inl ⟨used, (Prod.mk.inj (pure_eq_ok.mp confirmed)).1.symm⟩
  · simp only [bind_eq_ok, raiseIf_eq_ok, not_or, not_not] at confirmed
    obtain ⟨_, ⟨isExcess, -⟩, vendor, -, decided⟩ := confirmed
    have outcome := returnedRow_outcome env vendor request.actorUserId
      reason (sound.rows row member) isExcess
    exact .inr ⟨_, _, _, found, recordDecision_eq_ok member outcome.revises decided, outcome⟩

theorem resolveDiscrepancy_eq_ok
    {casing : CaseMapping} {asked : ResolutionRequest} (sound : state.Sound)
    (resolved : resolveDiscrepancy env state casing request asked = .ok (after, result)) :
    Answers state request.discrepancyId (Text.strip request.idempotencyKey)
      (resolutionChange (normalizeResolution casing asked).code) after := by
  unfold resolveDiscrepancy at resolved
  simp only [bind_eq_ok] at resolved
  obtain ⟨⟨reason, key⟩, validated, _, -, row, isRow, replay, replayed, resolved⟩ := resolved
  rw [← validateActionInput_eq_ok validated]
  obtain ⟨found, member⟩ := getDiscrepancy_eq_ok isRow
  rcases actionReplay_eq_ok replayed with ⟨used, isSome⟩ | ⟨unused, rfl⟩
  · obtain ⟨row, rfl⟩ := Option.isSome_iff_exists.mp isSome
    exact .inl ⟨used, (Prod.mk.inj (pure_eq_ok.mp resolved)).1.symm⟩
  · have valid := sound.rows row member
    simp only [performResolution, bind_eq_ok] at resolved
    obtain ⟨⟨linen, applied⟩, isApplied, _, -, decided⟩ := resolved
    have outcome : Outcome state row
        (resolutionChange (normalizeResolution casing asked).code row) linen
        applied := by
      unfold applyResolution at isApplied
      split at isApplied
      · next isExcess => exact resolveExcess_eq_ok valid isExcess isApplied
      · next isShort => exact resolveShortage_eq_ok valid isShort isApplied
    exact .inr ⟨_, _, _, found, recordDecision_eq_ok member outcome.resolvedRow.revises decided,
      outcome.resolvedRow⟩

end

end HotelPms.Laundry
