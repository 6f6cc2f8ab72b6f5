import HotelPms.Laundry.State
import Mathlib.Algebra.Order.BigOperators.Group.List

/-!
# Shortages in the available stock

The available stock takes the open shortages out of the balance of their
source, one after another, and adds them where they are known to be.  The
quantity a shortage may take is what is left of the balance less what earlier
shortages took, which the balance has already lost: the second shortage of a
source counts the first one twice.
-/

namespace HotelPms.Laundry

/-- Balances by location, a missing one being zero. -/
abbrev LocationBalances := List (Option Int × Int)

namespace LocationBalances

def get : LocationBalances -> Option Int -> Int
  | [], _ => 0
  | entry :: rest, location =>
    if location = entry.1 then entry.2 else get rest location

def set : LocationBalances -> Option Int -> Int -> LocationBalances
  | [], location, value => [(location, value)]
  | entry :: rest, location, value =>
    if location = entry.1 then (location, value) :: rest
    else entry :: set rest location value

def total : LocationBalances -> Int
  | [] => 0
  | entry :: rest => entry.2 + total rest

variable (balances : LocationBalances)

theorem get_set (location other : Option Int) (value : Int) :
    (balances.set location value).get other =
      if other = location then value else balances.get other := by
  induction balances with
  | nil => rfl
  | cons entry rest ih =>
    unfold set
    split_ifs with first same same
    · rw [get, if_pos same]
    · rw [get, get, if_neg same, if_neg (first ▸ same)]
    · rw [get, ih, if_pos same, if_neg (same ▸ first)]
    · rw [get, get, ih, if_neg same]

theorem total_set (location : Option Int) (value : Int) :
    (balances.set location value).total = balances.total - balances.get location + value := by
  induction balances with
  | nil => simp [set, get, total]
  | cons entry rest ih =>
    unfold set get
    split_ifs
    · rw [total, total]
      omega
    · rw [total, total, ih]
      omega

end LocationBalances

/-- Projected balances, and what the shortages of each source took. -/
structure Overlay where
  effective : LocationBalances
  reservedBySource : Int -> Int := fun _ => 0

namespace LaundryDiscrepancy

/-- The discrepancy is open and its quantity is not where it came from. -/
def Isolated (discrepancy : LaundryDiscrepancy) : Prop :=
  discrepancy.status ≠ .resolved ∧ discrepancy.custodyLocationId ≠ some discrepancy.sourceLocationId
deriving Decidable

end LaundryDiscrepancy

namespace Overlay

variable (overlay : Overlay) (discrepancy : LaundryDiscrepancy)

def quantity : Int :=
  let sourceBalance :=
    max (overlay.effective.get (some discrepancy.sourceLocationId)) 0
  let remainingSource := max (sourceBalance -
    overlay.reservedBySource discrepancy.sourceLocationId) 0
  min discrepancy.remainingQuantity remainingSource

/-- Move a quantity from its source to where it is known to be. -/
def move (quantity : Int) : Overlay :=
  let sourceId := discrepancy.sourceLocationId
  let taken := overlay.effective.set (some sourceId)
    (overlay.effective.get (some sourceId) - quantity)
  { effective :=
      match discrepancy.custodyLocationId with
      | none => taken
      | some targetId =>
        taken.set (some targetId) (taken.get (some targetId) + quantity)
    reservedBySource := Function.update overlay.reservedBySource sourceId
      (overlay.reservedBySource sourceId + quantity) }

/-- One round of the projection. -/
def project : Overlay :=
  if ¬discrepancy.Isolated then overlay
  else if overlay.quantity discrepancy ≤ 0 then overlay
  else overlay.move discrepancy (overlay.quantity discrepancy)

end Overlay

def applyShortageCustodyOverlay (ledgerBalances : LocationBalances)
    (discrepancies : List LaundryDiscrepancy) : LocationBalances :=
  (discrepancies.foldl Overlay.project { effective := ledgerBalances }).effective

/-! ## What one source is left with -/

/-- What a source keeps of a balance when its shortages are taken out in
order, given what was reserved before. -/
def drain (held reserved : Int) : List Int -> Int
  | [] => held
  | quantity :: rest =>
    let taken := min quantity (max (max held 0 - reserved) 0)
    if taken ≤ 0 then drain held reserved rest
    else drain (held - taken) (reserved + taken) rest

/-- Quantities that are not zero. -/
def positives (quantities : List Int) : List Int :=
  quantities.filter (0 < ·)

section

variable {held reserved : Int} {quantities : List Int}

/-- Nothing is left to take. -/
theorem drain_stopped (nonneg : 0 ≤ held) (stopped : held ≤ reserved) :
    drain held reserved quantities = held := by
  induction quantities with
  | nil => rfl
  | cons quantity rest ih =>
    unfold drain
    rw [if_pos (by omega)]
    exact ih

theorem sum_of_positives_eq_nil (nonneg : ∀ quantity ∈ quantities, 0 ≤ quantity)
    (none : positives quantities = []) : quantities.sum = 0 := by
  apply List.sum_eq_zero
  intro quantity member
  have := nonneg quantity member
  have := List.filter_eq_nil_iff.mp none quantity member
  rw [decide_eq_true_eq] at this
  omega

theorem last_positives_le_sum (nonneg : ∀ quantity ∈ quantities, 0 ≤ quantity) :
    (positives quantities).getLastD 0 ≤ quantities.sum := by
  rcases List.eq_nil_or_concat (positives quantities) with none | ⟨_, _, some⟩
  · rw [none]
    exact List.sum_nonneg nonneg
  · have member : (positives quantities).getLastD 0 ∈ quantities := by
      have last : (positives quantities).getLastD 0 ∈ positives quantities := by
        rw [some]
        simp
      exact (List.mem_filter.mp last).1
    exact List.single_le_sum nonneg _ member

/-- Something is reserved: the rest is taken out exactly when its sum, with all
but the last counted twice, fits. -/
theorem drain_eq_iff_of_reserved (some : 0 < reserved) (positive : 0 < held)
    (nonneg : ∀ quantity ∈ quantities, 0 ≤ quantity) :
    drain held reserved quantities = max 0 (held - quantities.sum) ↔ positives quantities = [] ∨
        2 * quantities.sum - (positives quantities).getLastD 0 ≤ held - reserved := by
  induction quantities generalizing held reserved with
  | nil => simp [drain, positives, positive.le]
  | cons quantity rest ih =>
    have here := nonneg quantity List.mem_cons_self
    have later := fun other member => nonneg other (List.mem_cons_of_mem quantity member)
    have restNonneg := List.sum_nonneg later
    have last := last_positives_le_sum nonneg
    rw [List.sum_cons] at last ⊢
    unfold drain
    rcases here.eq_or_lt with zero | some
    · have same : positives (quantity :: rest) = positives rest := by
        simp [positives, ← zero]
      rw [if_pos (by omega), same, ← zero, zero_add]
      exact ih some positive later
    · have cons : positives (quantity :: rest) = quantity :: positives rest :=
        by simp [positives, some]
      rcases le_or_gt (held - reserved) 0 with empty | free
      · rw [if_pos (by omega), drain_stopped positive.le (by omega), cons]
        simp only [reduceCtorEq, false_or]
        rw [cons] at last
        omega
      · rw [if_neg (by omega)]
        rcases le_or_gt quantity (held - reserved) with fits | short
        · rw [min_eq_left (by omega), ← sub_sub, ih (by omega) (by omega) later, cons]
          rcases h : positives rest with _ | ⟨next, others⟩
          · have := sum_of_positives_eq_nil later h
            simp only [reduceCtorEq, false_or, true_or, true_iff,
              List.getLastD_cons, List.getLastD_nil]
            omega
          · simp only [reduceCtorEq, false_or, List.getLastD_cons]
            omega
        · rw [min_eq_right (by omega), drain_stopped (by omega) (by omega), cons]
          simp only [reduceCtorEq, false_or]
          rw [cons] at last
          omega

/-- A source is left with what its shortages do not take exactly when it has no
more than the first of them asks for, or their sum, with all but the last
counted twice, fits. -/
theorem drain_eq_iff (nonneg : ∀ quantity ∈ quantities, 0 ≤ quantity) (balance : 0 ≤ held) :
    drain held 0 quantities = max 0 (held - quantities.sum) ↔
      held ≤ (positives quantities).headD 0 ∨
        2 * quantities.sum - (positives quantities).getLastD 0 ≤ held := by
  induction quantities with
  | nil => simp [drain, positives, balance]
  | cons quantity rest ih =>
    have here := nonneg quantity List.mem_cons_self
    have later := fun other member => nonneg other (List.mem_cons_of_mem quantity member)
    have restNonneg := List.sum_nonneg later
    rw [List.sum_cons]
    unfold drain
    rcases here.eq_or_lt with zero | some
    · have same : positives (quantity :: rest) = positives rest := by
        simp [positives, ← zero]
      rw [if_pos (by omega), same, ← zero, zero_add]
      exact ih later
    · have cons : positives (quantity :: rest) = quantity :: positives rest :=
        by simp [positives, some]
      rw [cons, List.headD_cons]
      rcases le_or_gt held quantity with first | more
      · rcases balance.eq_or_lt with none | positive
        · rw [if_pos (by omega), drain_stopped balance (by omega)]
          omega
        · rw [if_neg (by omega), min_eq_right (by omega), drain_stopped (by omega) (by omega)]
          omega
      · rw [if_neg (by omega), min_eq_left (by omega), ← sub_sub,
          drain_eq_iff_of_reserved (by omega) (by omega) later]
        rcases h : positives rest with _ | ⟨next, others⟩
        · have := sum_of_positives_eq_nil later h
          simp only [true_or, true_iff, List.getLastD_cons, List.getLastD_nil]
          omega
        · simp only [reduceCtorEq, false_or, List.getLastD_cons]
          omega

end

/-! ## The projection -/

/-- Quantities that are missing from a source, in order. -/
def shortagesOf (discrepancies : List LaundryDiscrepancy) (sourceId : Int) : List Int :=
  (discrepancies.filter fun discrepancy =>
    discrepancy.Isolated ∧ discrepancy.sourceLocationId = sourceId).map
    LaundryDiscrepancy.remainingQuantity

namespace Overlay

/-- What a shortage takes from its source. -/
def taken (overlay : Overlay) (discrepancy : LaundryDiscrepancy) : Int :=
  if ¬discrepancy.Isolated then 0 else max 0 (overlay.quantity discrepancy)

/-- What the shortages take, with the place each quantity is known to be. -/
def moves : Overlay -> List LaundryDiscrepancy -> List (Option Int × Int)
  | _, [] => []
  | overlay, discrepancy :: rest =>
    (discrepancy.custodyLocationId, overlay.taken discrepancy) ::
      moves (overlay.project discrepancy) rest

/-- What is taken with a given custody. -/
def movedTo (overlay : Overlay) (discrepancies : List LaundryDiscrepancy)
    (custody : Option Int) : Int :=
  ((overlay.moves discrepancies).map fun move =>
    if move.1 = custody then move.2 else 0).sum

variable (overlay : Overlay) {discrepancy : LaundryDiscrepancy}
  {discrepancies : List LaundryDiscrepancy} {location : Int}

theorem project_cases (discrepancy : LaundryDiscrepancy) :
    (overlay.taken discrepancy = 0 ∧ overlay.project discrepancy = overlay) ∨
      (overlay.taken discrepancy = overlay.quantity discrepancy ∧ overlay.project discrepancy =
          overlay.move discrepancy (overlay.quantity discrepancy)) := by
  unfold taken project
  by_cases isolated : discrepancy.Isolated
  · rw [if_neg (not_not.mpr isolated), if_neg (not_not.mpr isolated)]
    rcases le_or_gt (overlay.quantity discrepancy) 0 with none | some
    · exact .inl ⟨max_eq_left none, if_pos none⟩
    · exact .inr ⟨max_eq_right some.le, if_neg (not_le.mpr some)⟩
  · exact .inl ⟨if_pos isolated, if_pos isolated⟩

theorem get_project : (overlay.project discrepancy).effective.get (some location) =
      overlay.effective.get (some location) - (if discrepancy.sourceLocationId = location
            then overlay.taken discrepancy else 0) +
        if discrepancy.custodyLocationId = some location
          then overlay.taken discrepancy else 0 := by
  rcases overlay.project_cases discrepancy with ⟨none, same⟩ | ⟨some, moved⟩
  · simp [none, same]
  · rw [some, moved]
    unfold move
    cases discrepancy.custodyLocationId <;>
      simp only [LocationBalances.get_set, Option.some.injEq] <;>
      grind

theorem total_project : (overlay.project discrepancy).effective.total = overlay.effective.total -
        if discrepancy.custodyLocationId = none then overlay.taken discrepancy else 0 := by
  rcases overlay.project_cases discrepancy with ⟨none, same⟩ | ⟨some, moved⟩
  · simp [none, same]
  · rw [some, moved]
    unfold move
    cases discrepancy.custodyLocationId <;>
      simp only [LocationBalances.total_set] <;>
      grind

theorem reserved_project :
    (overlay.project discrepancy).reservedBySource location = overlay.reservedBySource location +
        if discrepancy.sourceLocationId = location
          then overlay.taken discrepancy else 0 := by
  rcases overlay.project_cases discrepancy with ⟨none, same⟩ | ⟨some, moved⟩
  · simp [none, same]
  · rw [some, moved]
    unfold move
    grind

/-- A source to which nothing is moved is drained by its shortages. -/
theorem get_foldl_source (apart : ∀ discrepancy ∈ discrepancies, discrepancy.Isolated ->
      discrepancy.custodyLocationId ≠ some location) :
    (discrepancies.foldl project overlay).effective.get (some location) =
      drain (overlay.effective.get (some location)) (overlay.reservedBySource location)
        (shortagesOf discrepancies location) := by
  induction discrepancies generalizing overlay with
  | nil => rfl
  | cons discrepancy rest ih =>
    rw [List.foldl_cons, ih _ fun other member =>
      apart other (List.mem_cons_of_mem _ member), get_project,
      reserved_project]
    have custody : (if discrepancy.custodyLocationId = some location
        then overlay.taken discrepancy else 0) = 0 := by
      split_ifs with moved
      · exact if_pos (apart discrepancy List.mem_cons_self · moved)
      · rfl
    unfold shortagesOf
    rw [List.filter_cons, custody, add_zero]
    by_cases here : discrepancy.Isolated ∧ discrepancy.sourceLocationId = location
    · obtain ⟨isolated, source⟩ := here
      have takes : overlay.taken discrepancy =
          max 0 (overlay.quantity discrepancy) := if_neg (not_not.mpr isolated)
      rw [if_pos (decide_eq_true ⟨isolated, source⟩), List.map_cons, drain, if_pos source, takes]
      unfold quantity
      rw [source]
      simp only
      split_ifs with none
      · rw [max_eq_left none, sub_zero, add_zero]
      · rw [max_eq_right (by omega)]
    · have leaves : (if discrepancy.sourceLocationId = location
          then overlay.taken discrepancy else 0) = 0 := by
        split_ifs with source
        · exact if_pos (here ⟨·, source⟩)
        · rfl
      rw [leaves, sub_zero, add_zero, if_neg (by rwa [decide_eq_true_eq])]

theorem get_foldl_custody (apart : ∀ discrepancy ∈ discrepancies, discrepancy.Isolated ->
      discrepancy.sourceLocationId ≠ location) :
    (discrepancies.foldl project overlay).effective.get (some location) =
      overlay.effective.get (some location) + overlay.movedTo discrepancies (some location) := by
  induction discrepancies generalizing overlay with
  | nil => simp [movedTo, moves]
  | cons discrepancy rest ih =>
    have here : (if discrepancy.sourceLocationId = location
        then overlay.taken discrepancy else 0) = 0 := by
      split_ifs with source
      · have notIsolated : ¬discrepancy.Isolated := fun isolated =>
          apart discrepancy List.mem_cons_self isolated source
        exact if_pos notIsolated
      · rfl
    rw [List.foldl_cons, ih _ fun other member =>
      apart other (List.mem_cons_of_mem _ member), get_project, here]
    simp only [movedTo, moves, List.map_cons, List.sum_cons]
    omega

theorem total_foldl : (discrepancies.foldl project overlay).effective.total =
      overlay.effective.total - overlay.movedTo discrepancies none := by
  induction discrepancies generalizing overlay with
  | nil => simp [movedTo, moves]
  | cons discrepancy rest ih =>
    rw [List.foldl_cons, ih, total_project]
    simp only [movedTo, moves, List.map_cons, List.sum_cons]
    omega

end Overlay

/-- What the projection should make of the balances: every source loses all its
shortages, down to zero, and what is taken is where it is known to be. -/
structure Isolates (ledgerBalances : LocationBalances)
    (discrepancies : List LaundryDiscrepancy)
    (effective : LocationBalances) : Prop where
  source : ∀ discrepancy ∈ discrepancies, discrepancy.status ≠ .resolved ->
    effective.get (some discrepancy.sourceLocationId) =
      max 0 (ledgerBalances.get (some discrepancy.sourceLocationId) -
        (shortagesOf discrepancies discrepancy.sourceLocationId).sum)
  custody : ∀ discrepancy ∈ discrepancies, discrepancy.Isolated ->
    ∀ targetId, discrepancy.custodyLocationId = some targetId ->
      effective.get (some targetId) = ledgerBalances.get (some targetId) +
        Overlay.movedTo { effective := ledgerBalances } discrepancies (some targetId)
  total : effective.total = ledgerBalances.total -
    Overlay.movedTo { effective := ledgerBalances } discrepancies none

/-- The first shortage of a source takes its whole balance, or its shortages
fit in it with all but the last counted twice. -/
def CountsOnce (balance : Int) (shortages : List Int) : Prop :=
  balance ≤ (positives shortages).headD 0 ∨
    2 * shortages.sum - (positives shortages).getLastD 0 ≤ balance
deriving Decidable

/-- Shortages whose custody is not a source are isolated exactly when every
source counts them once. -/
theorem applyShortageCustodyOverlay_isolates_iff {ledgerBalances : LocationBalances}
    {discrepancies : List LaundryDiscrepancy}
    (nonneg : ∀ location, 0 ≤ ledgerBalances.get location)
    (remaining : ∀ discrepancy ∈ discrepancies, 0 ≤ discrepancy.remainingQuantity)
    (separate : ∀ discrepancy ∈ discrepancies, discrepancy.Isolated ->
      ∀ other ∈ discrepancies, other.status ≠ .resolved ->
        discrepancy.custodyLocationId ≠ some other.sourceLocationId) :
    Isolates ledgerBalances discrepancies
        (applyShortageCustodyOverlay ledgerBalances discrepancies) ↔
      ∀ discrepancy ∈ discrepancies, discrepancy.status ≠ .resolved -> CountsOnce
          (ledgerBalances.get (some discrepancy.sourceLocationId))
          (shortagesOf discrepancies discrepancy.sourceLocationId) := by
  have source : ∀ discrepancy ∈ discrepancies, discrepancy.status ≠ .resolved ->
      ((applyShortageCustodyOverlay ledgerBalances discrepancies).get
          (some discrepancy.sourceLocationId) =
        max 0 (ledgerBalances.get (some discrepancy.sourceLocationId) -
          (shortagesOf discrepancies discrepancy.sourceLocationId).sum) ↔
        CountsOnce (ledgerBalances.get (some discrepancy.sourceLocationId))
          (shortagesOf discrepancies discrepancy.sourceLocationId)) := by
    intro discrepancy member isOpen
    unfold applyShortageCustodyOverlay
    rw [Overlay.get_foldl_source _ fun other otherIn isolated =>
      separate other otherIn isolated discrepancy member isOpen]
    refine drain_eq_iff ?_ (nonneg _)
    intro quantity asked
    obtain ⟨other, otherIn, rfl⟩ := List.mem_map.mp asked
    exact remaining other (List.mem_filter.mp otherIn).1
  constructor
  · intro isolates discrepancy member isOpen
    exact (source discrepancy member isOpen).mp (isolates.source discrepancy member isOpen)
  · intro counts
    refine ⟨fun discrepancy member isOpen => (source discrepancy member isOpen).mpr
        (counts discrepancy member isOpen), ?_, Overlay.total_foldl _⟩
    intro discrepancy member isolated targetId known
    apply Overlay.get_foldl_custody
    intro other otherIn otherIsolated same
    exact separate discrepancy member isolated other otherIn otherIsolated.1
      (known.trans (congrArg some same.symm))

/-- Four sheets, of ten, that are missing from the first location. -/
def missingSheets : LaundryDiscrepancy where
  id := 1
  remitoId := 1
  remitoLineId := 1
  vendorId := 1
  linenItemId := 1
  discrepancyType := .shortReturn
  quantity := 400
  remainingQuantity := 400
  sourceLocationId := 1
  custodyLocationId := none
  status := .pendingReview
  createdByUserId := none
  createdAt := 0

theorem nonneg_tenSheets (location : Option Int) :
    0 ≤ LocationBalances.get [(some 1, 1000)] location := by
  unfold LocationBalances.get LocationBalances.get
  split_ifs <;> decide

/-- One shortage is isolated. -/
theorem applyShortageCustodyOverlay_isolates_iff_one : Isolates [(some 1, 1000)] [missingSheets]
      (applyShortageCustodyOverlay [(some 1, 1000)] [missingSheets]) :=
  (applyShortageCustodyOverlay_isolates_iff nonneg_tenSheets (by decide)
    (by decide)).mpr (by decide +kernel)

/-- Two shortages of four leave four of ten sheets. -/
theorem second_shortage_not_isolated : (applyShortageCustodyOverlay [(some 1, 1000)]
        [missingSheets, missingSheets]).get (some 1) = 400 ∧
      ¬Isolates [(some 1, 1000)] [missingSheets, missingSheets]
        (applyShortageCustodyOverlay [(some 1, 1000)] [missingSheets, missingSheets]) := by
  refine ⟨by decide +kernel, fun isolates => ?_⟩
  have source := isolates.source missingSheets List.mem_cons_self (by decide)
  revert source
  decide +kernel

end HotelPms.Laundry
