import HotelPms.Foundation.ContextSum
import HotelPms.Laundry.Discrepancies

/-!
# What the laundry operations write

Every discrepancy row stays within the quantity it was opened with, and is
closed exactly when nothing of it remains.  A remito moves linen in pairs, a
receipt takes off the shortages what they give back, and a decision rewrites
one row and records its key.
-/

namespace HotelPms.Laundry

open Checked Inventory Decimal

/-- What a discrepancy row adds to the disputes over an item of a vendor. -/
def LaundryDiscrepancy.disputes (row : LaundryDiscrepancy) (vendorId itemId : Int) : Int :=
  if row.vendorId = vendorId ∧ row.linenItemId = itemId ∧ row.OpenShortage
  then row.remainingQuantity else 0

def DiscrepancyType.statuses : DiscrepancyType -> List DiscrepancyStatus
  | .excessReturn =>
    [.pendingApproval, .pendingIdentification, .resolved, .returnToLaundry, .returnedToLaundry]
  | .shortReturn =>
    [.pendingReview, .pendingResolution, .pendingClaim, .awaitingReplacement, .resolved]

/-- The remaining quantity of a row is within its quantity, and nothing
remains exactly when it was resolved or returned to the laundry. -/
structure RemainderValid (row : LaundryDiscrepancy) : Prop where
  nonneg : 0 ≤ row.remainingQuantity
  within : row.remainingQuantity ≤ row.quantity
  closed : row.remainingQuantity = 0 ↔ row.status = .resolved ∨ row.status = .returnedToLaundry

/-- A row is valid among the vendors: its source, when it is a shortage, is
the location of its vendor. -/
structure RowValid (vendors : VendorBook) (row : LaundryDiscrepancy) : Prop
    extends RemainderValid row where
  fits : row.quantity ≤ maximumColumn
  typed : row.status ∈ row.discrepancyType.statuses
  source : row.discrepancyType = .shortReturn -> ∃ vendor ∈ vendors.rows, vendor.id = row.vendorId ∧
      vendor.linenLocationId = row.sourceLocationId

/-- The discrepancies are numbered and valid. -/
structure LaundryState.Sound (state : LaundryState) : Prop where
  numbered : Table.Numbered LaundryDiscrepancy.id state.nextDiscrepancyId state.discrepancies
  rows : ∀ row ∈ state.discrepancies, RowValid state.vendors row

/-- The columns of a row that no operation changes. -/
structure Revises (old new : LaundryDiscrepancy) : Prop where
  id : new.id = old.id
  vendorId : new.vendorId = old.vendorId
  linenItemId : new.linenItemId = old.linenItemId
  discrepancyType : new.discrepancyType = old.discrepancyType
  quantity : new.quantity = old.quantity
  sourceLocationId : new.sourceLocationId = old.sourceLocationId

section

variable {state : LaundryState} {row old : LaundryDiscrepancy} {vendorId itemId : Int}

theorem LaundryDiscrepancy.disputes_of_open
    (isVendor : row.vendorId = vendorId) (isItem : row.linenItemId = itemId)
    (isOpen : row.OpenShortage) :
    row.disputes vendorId itemId = row.remainingQuantity :=
  if_pos ⟨isVendor, isItem, isOpen⟩

theorem LaundryDiscrepancy.disputes_of_closed (closed : ¬row.OpenShortage) :
    row.disputes vendorId itemId = 0 :=
  if_neg (closed ·.2.2)

theorem LaundryDiscrepancy.disputes_elsewhere {otherVendorId otherItemId : Int}
    (isVendor : row.vendorId = vendorId) (isItem : row.linenItemId = itemId)
    (differs : ¬(otherVendorId = vendorId ∧ otherItemId = itemId)) :
    row.disputes otherVendorId otherItemId = 0 := by
  apply if_neg
  rintro ⟨sameVendor, sameItem, -⟩
  exact differs ⟨sameVendor.symm.trans isVendor, sameItem.symm.trans isItem⟩

variable {vendors : VendorBook}

theorem RowValid.disputes_nonneg (valid : RowValid vendors row)
    (vendorId itemId : Int) : 0 ≤ row.disputes vendorId itemId := by
  unfold LaundryDiscrepancy.disputes
  split_ifs
  · exact valid.nonneg
  · exact le_refl 0

theorem RowValid.revise (valid : RowValid vendors old)
    (revises : Revises old row) (remainder : RemainderValid row)
    (typed : row.status ∈ old.discrepancyType.statuses) :
    RowValid vendors row where
  toRemainderValid := remainder
  fits := revises.quantity ▸ valid.fits
  typed := revises.discrepancyType ▸ typed
  source := by
    rw [revises.discrepancyType, revises.vendorId, revises.sourceLocationId]
    exact valid.source

theorem disputedQuantity_eq_sum (state : LaundryState) :
    state.disputedQuantity vendorId itemId = (state.discrepancies.map fun row =>
        row.disputes vendorId itemId).sum := by
  unfold LaundryState.disputedQuantity LaundryDiscrepancy.disputes
  rw [GroupSum.sum_map_filter]
  simp only [decide_eq_true_eq]

theorem LaundryState.Sound.disputedQuantity_nonneg (sound : state.Sound) :
    0 ≤ state.disputedQuantity vendorId itemId := by
  rw [disputedQuantity_eq_sum]
  apply List.sum_nonneg
  intro amount member
  obtain ⟨row, rowIn, rfl⟩ := List.mem_map.mp member
  exact (sound.rows row rowIn).disputes_nonneg vendorId itemId

theorem LaundryState.Sound.disputedQuantity_store
    (sound : state.Sound) (member : old ∈ state.discrepancies)
    (same : row.id = old.id) :
    (state.store row).disputedQuantity vendorId itemId = state.disputedQuantity vendorId itemId -
        old.disputes vendorId itemId + row.disputes vendorId itemId := by
  rw [disputedQuantity_eq_sum, disputedQuantity_eq_sum]
  exact Table.sum_replace _ _ _ sound.numbered.distinct member same.symm

theorem LaundryState.Sound.store (sound : state.Sound) (member : old ∈ state.discrepancies)
    (same : row.id = old.id) (valid : RowValid state.vendors row) :
    (state.store row).Sound where
  numbered := by
    apply sound.numbered.replace
    rw [same]
    exact sound.numbered.below old member
  rows := by
    intro other otherIn
    rcases Table.mem_replace otherIn with rfl | ⟨kept, -⟩
    · exact valid
    · exact sound.rows other kept

theorem LaundryState.Sound.addDiscrepancy
    (sound : state.Sound) (isNext : row.id = state.nextDiscrepancyId)
    (valid : RowValid state.vendors row) :
    (state.addDiscrepancy row).Sound where
  numbered := sound.numbered.append isNext
  rows := by
    intro other otherIn
    rcases List.mem_added.mp otherIn with kept | rfl
    · exact sound.rows other kept
    · exact valid

theorem disputedQuantity_addDiscrepancy :
    (state.addDiscrepancy row).disputedQuantity vendorId itemId =
      state.disputedQuantity vendorId itemId + row.disputes vendorId itemId := by
  rw [disputedQuantity_eq_sum, disputedQuantity_eq_sum]
  show ((state.discrepancies ++ [row]).map _).sum = _
  rw [List.map_append, List.sum_append, List.map_singleton, List.sum_singleton]

theorem RowValid.matchable_iff (valid : RowValid vendors row) : row.Matchable vendorId itemId ↔
      row.vendorId = vendorId ∧ row.linenItemId = itemId ∧ row.OpenShortage := by
  refine and_congr_right fun _ => and_congr_right fun _ => and_congr_right fun isShort => ?_
  have typed := valid.typed
  rw [isShort] at typed
  constructor
  · rintro ⟨-, positive⟩ isResolved
    rw [valid.closed.mpr (.inl isResolved)] at positive
    exact lt_irrefl 0 positive
  · intro unresolved
    constructor
    · simpa [DiscrepancyType.statuses, unresolved] using typed
    · apply lt_of_le_of_ne valid.nonneg
      intro none
      rcases valid.closed.mp none.symm with isResolved | isReturned
      · exact unresolved isResolved
      · rw [isReturned] at typed
        revert typed
        decide

theorem LaundryState.Sound.sum_openShortages (sound : state.Sound) :
    ((state.openShortages vendorId itemId).map LaundryDiscrepancy.remainingQuantity).sum =
      state.disputedQuantity vendorId itemId := by
  have ordered : (state.openShortages vendorId itemId).Perm (state.discrepancies.filter fun row =>
        row.Matchable vendorId itemId) :=
    KeySort.sortByKey_perm _ _
  rw [(ordered.map _).sum_eq]
  congr 2
  apply List.filter_congr
  intro row member
  rw [decide_eq_decide]
  exact (sound.rows row member).matchable_iff

end

/-! ## Receipts of earlier shortages -/

/-- What a receipt of an item from a vendor may change: the disputes over that
item, and actions that are added. -/
structure Receives
    (vendorId itemId : Int) (before after : LaundryState) : Prop where
  vendors : after.vendors = before.vendors
  linen : after.linen = before.linen
  remitos : after.remitos = before.remitos
  actions : before.actions <+: after.actions
  sound : after.Sound
  others : ∀ otherVendorId otherItemId, ¬(otherVendorId = vendorId ∧ otherItemId = itemId) ->
      after.disputedQuantity otherVendorId otherItemId =
        before.disputedQuantity otherVendorId otherItemId

theorem Receives.refl {state : LaundryState} (vendorId itemId : Int) (sound : state.Sound) :
    Receives vendorId itemId state state where
  vendors := rfl
  linen := rfl
  remitos := rfl
  actions := List.prefix_rfl
  sound := sound
  others := fun _ _ _ => rfl

theorem Receives.trans {vendorId itemId : Int} {before middle after : LaundryState}
    (first : Receives vendorId itemId before middle)
    (second : Receives vendorId itemId middle after) :
    Receives vendorId itemId before after where
  vendors := second.vendors.trans first.vendors
  linen := second.linen.trans first.linen
  remitos := second.remitos.trans first.remitos
  actions := first.actions.trans second.actions
  sound := second.sound
  others := fun otherVendorId otherItemId differs =>
    (second.others otherVendorId otherItemId differs).trans
      (first.others otherVendorId otherItemId differs)

theorem recordDiscrepancyAction_eq_ok {env : LaundryEnvironment} {state after : LaundryState}
    {row : LaundryDiscrepancy} {actorUserId : Option Int} {key : String}
    {details : ActionDetails}
    (recorded : recordDiscrepancyAction env state row actorUserId key details = .ok after) :
    state.findAction key = none ∧ after = { state with
        actions := state.actions ++ [actionOf env row.id actorUserId key details] } := by
  unfold recordDiscrepancyAction at recorded
  simp only [bind_eq_ok, raiseIf_eq_ok, pure_eq_ok, not_not] at recorded
  obtain ⟨_, -, _, -, _, -, _, -, _, unused, rfl⟩ := recorded
  exact ⟨unused, rfl⟩

section

variable {context : RemitoContext} {lineId vendorId itemId received : Int}
  {state after : LaundryState} {row : LaundryDiscrepancy}

theorem settledRow_revises (context : RemitoContext) (row : LaundryDiscrepancy) (received : Int) :
    Revises row (settledRow context row received) := by
  unfold settledRow
  simp only
  split_ifs
  · exact ⟨rfl, rfl, rfl, rfl, rfl, rfl⟩
  · exact ⟨rfl, rfl, rfl, rfl, rfl, rfl⟩

/-- A part of a shortage leaves the rest of it. -/
theorem settledRow_remainingQuantity (context : RemitoContext)
    (fits : row.remainingQuantity ≤ maximumColumn)
    (nonneg : 0 ≤ received) (within : received ≤ row.remainingQuantity) :
    (settledRow context row received).remainingQuantity = row.remainingQuantity - received := by
  have digits : |row.remainingQuantity - received| < 10 ^ 28 := by
    unfold maximumColumn at fits
    rw [abs_lt]
    omega
  have exactly : roundHalfEven (inContext ((row.remainingQuantity : ℚ) - received)) =
        row.remainingQuantity - received := by
    rw [← Int.cast_sub, inContext_intCast digits, roundHalfEven_intCast]
  unfold settledRow
  simp only [exactly]
  split_ifs with none
  · rfl
  · rfl

theorem settledRow_status (context : RemitoContext) (row : LaundryDiscrepancy) (received : Int) :
    (settledRow context row received).status =
      if (settledRow context row received).remainingQuantity = 0
      then .resolved else row.status := by
  unfold settledRow
  simp only
  split_ifs
  · rfl
  · rfl

theorem settleShortage_eq_ok (sound : state.Sound) (member : row ∈ state.discrepancies)
    (matchable : row.Matchable vendorId itemId)
    (nonneg : 0 ≤ received) (within : received ≤ row.remainingQuantity)
    (settled : settleShortage context lineId state row received = .ok after) :
    Receives vendorId itemId state after ∧ after.disputedQuantity vendorId itemId =
        state.disputedQuantity vendorId itemId - received ∧
      ∀ other ∈ state.discrepancies, other.id ≠ row.id -> other ∈ after.discrepancies := by
  obtain ⟨-, rfl⟩ := recordDiscrepancyAction_eq_ok settled
  have valid := sound.rows row member
  have opened := valid.matchable_iff.mp matchable
  obtain ⟨isVendor, isItem, isShort, unresolved⟩ := opened
  have revises := settledRow_revises context row received
  have remaining := settledRow_remainingQuantity context
    (valid.within.trans valid.fits) nonneg within
  have status := settledRow_status context row received
  have unreturned : row.status ≠ .returnedToLaundry := by
    intro isReturned
    have none := valid.closed.mpr (.inr isReturned)
    have positive := matchable.2.2.2.2
    omega
  have remainder : RemainderValid (settledRow context row received) := by
    refine ⟨by omega, ?_, ?_⟩
    · rw [revises.quantity]
      have := valid.within
      omega
    · rw [status]
      split_ifs with none
      · exact iff_of_true none (.inl rfl)
      · exact iff_of_false none (by simp [unresolved, unreturned])
  have typed : (settledRow context row received).status ∈ row.discrepancyType.statuses := by
    rw [status]
    split_ifs
    · rw [isShort]
      decide
    · exact valid.typed
  have own : (settledRow context row received).disputes vendorId itemId =
      row.remainingQuantity - received := by
    rw [← remaining]
    by_cases none : (settledRow context row received).remainingQuantity = 0
    · rw [none]
      apply LaundryDiscrepancy.disputes_of_closed
      rintro ⟨-, stillOpen⟩
      rw [status, if_pos none] at stillOpen
      exact stillOpen rfl
    · apply LaundryDiscrepancy.disputes_of_open
      · exact revises.vendorId.trans isVendor
      · exact revises.linenItemId.trans isItem
      · refine ⟨revises.discrepancyType.trans isShort, ?_⟩
        rw [status, if_neg none]
        exact unresolved
  refine ⟨⟨rfl, rfl, rfl, List.prefix_append _ _, ?_, ?_⟩, ?_, ?_⟩
  · have stored := sound.store member revises.id (valid.revise revises remainder typed)
    exact ⟨stored.numbered, stored.rows⟩
  · intro otherVendorId otherItemId differs
    refine (sound.disputedQuantity_store member revises.id).trans ?_
    rw [LaundryDiscrepancy.disputes_elsewhere isVendor isItem differs,
      LaundryDiscrepancy.disputes_elsewhere (revises.vendorId.trans isVendor)
      (revises.linenItemId.trans isItem) differs, sub_zero, add_zero]
  · refine (sound.disputedQuantity_store member revises.id).trans ?_
    have whole : row.disputes vendorId itemId = row.remainingQuantity :=
      LaundryDiscrepancy.disputes_of_open isVendor isItem ⟨isShort, unresolved⟩
    omega
  · intro other otherIn differs
    apply Table.mem_replace_of_ne otherIn
    rw [revises.id]
    exact differs

/-- What shortages take of a receipt, if they are enough to take it all: the
first takes what it can, and the rest of the receipt is rounded again. -/
def settledBy : List LaundryDiscrepancy -> ℚ -> Int
  | [], _ => 0
  | row :: _, receipt =>
    receivedOf receipt row + roundHalfEven (inContext (receipt - receivedOf receipt row))

variable {receipt : ℚ}

theorem receivedOf_of_le (covers : receipt ≤ row.remainingQuantity) :
    receivedOf receipt row = roundHalfEven receipt := by
  unfold receivedOf
  rw [min_eq_left covers]

variable {rows : List LaundryDiscrepancy}

/-- A whole receipt is taken whole. -/
theorem settledBy_intCast {receipt : Int} (nonneg : 0 ≤ receipt) (digits : receipt < 10 ^ 28)
    (remaining : 0 ≤ row.remainingQuantity) :
    settledBy (row :: rows) receipt = receipt := by
  have lower : 0 ≤ receivedOf receipt row := by
    apply roundHalfEven_nonneg
    apply le_min
    · exact_mod_cast nonneg
    · exact_mod_cast remaining
  have upper : receivedOf receipt row ≤ receipt :=
    roundHalfEven_le (min_le_left _ _)
  have rest : |receipt - receivedOf receipt row| < 10 ^ 28 := by
    rw [abs_lt]
    omega
  unfold settledBy
  simp only
  rw [← Int.cast_sub, inContext_intCast rest, roundHalfEven_intCast]
  omega

theorem matchRows_of_nonpos (nonpos : receipt ≤ 0) :
    matchRows context lineId rows receipt state = .ok state := by
  cases rows with
  | nil => rfl
  | cons row rows =>
    rw [matchRows, if_pos nonpos]
    rfl

theorem matchRows_eq_ok {bound : Int} (sound : state.Sound)
    (distinct : (rows.map LaundryDiscrepancy.id).Nodup)
    (stored : ∀ row ∈ rows, row ∈ state.discrepancies ∧ row.Matchable vendorId itemId)
    (nonneg : 0 ≤ bound) (digits : bound < 10 ^ 28) (below : receipt ≤ bound)
    (matched : matchRows context lineId rows receipt state = .ok after) :
    Receives vendorId itemId state after ∧
      after.disputedQuantity vendorId itemId ≤ state.disputedQuantity vendorId itemId ∧
      after.disputedQuantity vendorId itemId ≤ max
          (state.disputedQuantity vendorId itemId - settledBy rows receipt)
          (state.disputedQuantity vendorId itemId -
            (rows.map LaundryDiscrepancy.remainingQuantity).sum) := by
  induction rows generalizing state receipt with
  | nil =>
    obtain rfl : state = after := by simpa [matchRows] using matched
    refine ⟨.refl vendorId itemId sound, le_refl _, ?_⟩
    simp [settledBy]
  | cons row rows ih =>
    obtain ⟨member, matchable⟩ := stored row List.mem_cons_self
    rw [List.map_cons, List.nodup_cons] at distinct
    rw [List.map_cons, List.sum_cons]
    have remaining := (sound.rows row member).nonneg
    by_cases nonpos : receipt ≤ 0
    · rw [matchRows_of_nonpos nonpos] at matched
      cases matched
      refine ⟨.refl vendorId itemId sound, le_refl _, le_max_of_le_left ?_⟩
      have first : receivedOf receipt row = roundHalfEven receipt :=
        receivedOf_of_le (nonpos.trans (by exact_mod_cast remaining))
      have taken : roundHalfEven receipt ≤ 0 :=
        roundHalfEven_le (by exact_mod_cast nonpos)
      have rest := roundHalfEven_rest_nonpos receipt
      unfold settledBy
      simp only [first]
      omega
    · rw [matchRows, if_neg nonpos] at matched
      simp only [bind_eq_ok] at matched
      obtain ⟨middle, settled, rest⟩ := matched
      have lower : 0 ≤ receivedOf receipt row := by
        apply roundHalfEven_nonneg
        apply le_min (le_of_not_ge nonpos)
        exact_mod_cast remaining
      have upper : receivedOf receipt row ≤ row.remainingQuantity :=
        roundHalfEven_le (min_le_right _ _)
      obtain ⟨receives, lost, kept⟩ :=
        settleShortage_eq_ok sound member matchable lower upper settled
      have restBelow : roundHalfEven (inContext (receipt - receivedOf receipt row)) ≤ bound := by
        apply roundHalfEven_le
        apply inContext_le nonneg digits
        have : (0 : ℚ) ≤ receivedOf receipt row := by exact_mod_cast lower
        linarith
      have others : ∀ other ∈ rows, other ∈ middle.discrepancies ∧
          other.Matchable vendorId itemId := by
        intro other otherIn
        obtain ⟨otherMember, otherMatchable⟩ := stored other (List.mem_cons_of_mem _ otherIn)
        refine ⟨kept other otherMember ?_, otherMatchable⟩
        intro same
        exact distinct.1 (same ▸ List.mem_map_of_mem otherIn)
      obtain ⟨further, less, bounded⟩ :=
        ih receives.sound distinct.2 others (by exact_mod_cast restBelow) rest
      refine ⟨receives.trans further, by omega, ?_⟩
      unfold settledBy
      simp only
      by_cases nothing : roundHalfEven (inContext (receipt - receivedOf receipt row)) ≤ 0
      · -- nothing is left for the other shortages
        omega
      · -- something is left, so the first shortage took all it could
        have whole : receivedOf receipt row = row.remainingQuantity := by
          rcases le_total receipt row.remainingQuantity with less | more
          · rw [receivedOf_of_le less] at nothing
            exact absurd (roundHalfEven_rest_nonpos receipt) nothing
          · unfold receivedOf
            rw [min_eq_right more, roundHalfEven_intCast]
        refine bounded.trans (max_le ?_ ?_)
        · cases rows with
          | nil =>
            simp only [settledBy, List.map_nil, List.sum_nil]
            omega
          | cons next rows =>
            have isRow := (others next List.mem_cons_self).1
            rw [settledBy_intCast (by omega) (by omega) (receives.sound.rows next isRow).nonneg]
            omega
        · omega

theorem matchShortageReceipt_eq_ok {bound : Int}
    (sound : state.Sound) (nonneg : 0 ≤ bound) (digits : bound < 10 ^ 28)
    (below : receipt ≤ bound)
    (matched : matchShortageReceipt context lineId itemId receipt state = .ok after) :
    Receives context.remito.vendorId itemId state after ∧
      after.disputedQuantity context.remito.vendorId itemId ≤
        state.disputedQuantity context.remito.vendorId itemId ∧
      after.disputedQuantity context.remito.vendorId itemId ≤ max
          (state.disputedQuantity context.remito.vendorId itemId -
            settledBy (state.openShortages context.remito.vendorId itemId) receipt)
          0 := by
  have distinct : ((state.openShortages context.remito.vendorId itemId).map
      LaundryDiscrepancy.id).Nodup := by
    apply KeySort.nodup_map_sortByKey
    exact sound.numbered.distinct.sublist (List.filter_sublist.map _)
  have stored : ∀ row ∈ state.openShortages context.remito.vendorId itemId,
      row ∈ state.discrepancies ∧ row.Matchable context.remito.vendorId itemId := by
    intro row member
    unfold LaundryState.openShortages at member
    rwa [KeySort.mem_sortByKey, List.mem_filter, decide_eq_true_eq] at member
  obtain ⟨receives, less, bounded⟩ :=
    matchRows_eq_ok sound distinct stored nonneg digits below matched
  refine ⟨receives, less, ?_⟩
  rwa [sound.sum_openShortages, sub_self] at bounded

end

end HotelPms.Laundry
