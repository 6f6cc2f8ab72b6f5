import HotelPms.Foundation.Pages
import HotelPms.Reports.DailyReport

/-!
# Open balances of the daily report

What the pending group should count is each stay that still owes, by the
collectible balance the rest of the system uses.  The report finds the stays by
other tests, one in the database and one in the program, and it does not ask for
stays checked in only in part.
-/

namespace HotelPms.Reports

open Checked GroupSum Hotel KeySort Payments
open Actions.ActionDatabase (sqlNormalized)

namespace ReportInput

variable (input : ReportInput)

/-- What a stay owes on a day: of a company that settles outside, only the
extra nights of the day. -/
def openAmount (row : StoredReservation) : ℚ :=
  if input.db.reservationHasDeferredCompanyBilling row input.hotelId then
    input.extraDueByReservation row.id
  else
    input.db.operationalBalanceDue input.hotelId row.toReservationFinancials none

/-- Stays neither cancelled, nor missed, nor checked out, that leave after the
day and owe something. -/
def openStays : List StoredReservation :=
  input.activeReservations.filter fun row =>
    row.status ∉ [ReservationStatus.cancelled, .noShow, .checkedOut] ∧
      input.reportDate < row.checkOutDate ∧ 0 < input.openAmount row

/-- With any page size the report counts the open stays, and its pages list
each of them once, with what it owes. -/
def ListsOpenBalances : Prop :=
  ∀ size, 1 ≤ size -> size ≤ 100 -> ∃ pages : Nat -> OperationalReservationGroup,
      (∀ page, 1 ≤ page -> input.dailyReport page size = .ok (pages page) ∧
        (pages page).count = input.openStays.length) ∧
      (((List.range (pages 1).totalPages).flatMap fun page =>
        (pages (page + 1)).reservations).map fun item => (item.reservationId, item.amount)).Perm
        (input.openStays.map fun row => (row.id, some (input.openAmount row)))

/-- The totals of any page are those of the open stays by currency. -/
def TotalsOpenBalances : Prop :=
  ∀ page size, 1 ≤ page -> 1 ≤ size -> size ≤ 100 ->
    ∃ group, input.dailyReport page size = .ok group ∧ ∀ currency,
        (group.totalBalanceByCurrency.lookup currency).getD 0 =
          totalOf (fun row : StoredReservation => row.currency)
            input.openAmount input.openStays currency

def externalCurrency (row : ReservationFinancials) : String :=
  if textGiven row.externalPaidCurrency then
    normalizeCurrency (row.externalPaidCurrency.getD "")
  else row.currency

/-- The database and the program credit the same external payment, or nothing
is owed even without it. -/
def CreditedAlike (row : StoredReservation) : Prop :=
  row.isOta = true -> row.externalPaidConfirmed = true -> 0 < row.externalPaidAmount ->
      (sqlExternalCurrency input.upper row = sqlNormalized input.upper row.currencyCode ↔
        externalCurrency row.toReservationFinancials = row.currency) ∨
      row.totalAmount + row.adjustmentTotal (ofHotel input.hotelId input.db.adjustments) ≤
        input.ledger.completedPaidAmount row.id

/-- The stay owes nothing where the report does not look for it, and what it
owes is what the database computes. -/
def ReportsBalance (row : StoredReservation) : Prop :=
  row.status ∉ [ReservationStatus.cancelled, .noShow, .checkedOut] ->
    input.reportDate < row.checkOutDate -> (row.status = .partialCheckIn ∨
        (input.sqlDeferredCompany row ∧
          ¬input.db.reservationHasDeferredCompanyBilling row input.hotelId) ->
        input.openAmount row ≤ 0) ∧
      (row.status ≠ .partialCheckIn -> ¬input.sqlDeferredCompany row -> input.CreditedAlike row)

/-- Stays billed here are filed under their currency, and those of one currency
in one group. -/
def CodesAgree : Prop :=
  ∀ first ∈ input.openStays, ¬input.sqlDeferredCompany first -> normalizeCurrency
          (if sqlNormalized input.upper first.currencyCode = "" then "ARS"
            else sqlNormalized input.upper first.currencyCode) = first.currency ∧
      ∀ second ∈ input.openStays, ¬input.sqlDeferredCompany second ->
          second.currency = first.currency -> sqlNormalized input.upper second.currencyCode =
              sqlNormalized input.upper first.currencyCode

variable {input} {row : StoredReservation}

theorem active_unique {first second : StoredReservation}
    (firstIn : first ∈ input.activeReservations)
    (secondIn : second ∈ input.activeReservations)
    (same : first.id = second.id) : first = second :=
  Database.reservation_unique (List.mem_of_mem_filter (List.mem_of_mem_filter firstIn))
    (List.mem_of_mem_filter (List.mem_of_mem_filter secondIn)) same

theorem active_own (member : row ∈ input.activeReservations) : row.hotelId = input.hotelId :=
  of_decide_eq_true (List.mem_filter.mp (List.mem_of_mem_filter member)).2

theorem mem_reportStays (member : row ∈ input.reportStays) : row ∈ input.activeReservations := by
  simp only [reportStays, arrivals, noShows, departures, balanceCandidates,
    List.mem_append, List.mem_filter, mem_sortByKey] at member
  tauto

/-- The batch of the report decides each stay as if alone. -/
theorem mem_reportDeferredIds (listed : row ∈ input.reportStays) :
    row.id ∈ input.reportDeferredIds ↔
      input.db.reservationHasDeferredCompanyBilling row input.hotelId := by
  have own := active_own (mem_reportStays listed)
  refine (Database.mem_deferredCompanyReservationIds ?_ listed own).trans
    (Database.mem_deferredCompanyReservationIds ?_ List.mem_cons_self own).symm
  · intro other otherIn same
    exact active_unique (mem_reportStays otherIn) (mem_reportStays listed) same
  · exact fun other otherIn _ => List.mem_singleton.mp otherIn

theorem dropWhile_space {letters : List Char} (none : ' ' ∉ letters) :
    letters.dropWhile (· = ' ') = letters := by
  cases letters with
  | nil => rfl
  | cons first letters =>
    simpa using (List.ne_of_not_mem_cons none).symm

/-- Trimming spaces leaves a text that has none. -/
theorem sqlNormalized_of_toLower {text lowered : String}
    (isLowered : text.toLower = lowered) (none : ' ' ∉ lowered.toList) :
    sqlNormalized String.toLower text = lowered := by
  have noSpace : ' ' ∉ text.toList := by
    intro member
    apply none
    rw [← isLowered]
    show ' ' ∈ (text.map Char.toLower).toList
    rw [String.toList_map]
    exact List.mem_map.mpr ⟨' ', member, rfl⟩
  have noSpaceBack : ' ' ∉ text.toList.reverse :=
    fun member => noSpace (List.mem_reverse.mp member)
  rw [sqlNormalized, dropWhile_space noSpace, dropWhile_space noSpaceBack,
    List.reverse_reverse, String.ofList_toList, isLowered]

/-- What the program takes for a stay billed outside, the database does. -/
theorem sqlDeferred_of_deferred (member : row ∈ input.activeReservations)
    (deferred : input.db.reservationHasDeferredCompanyBilling row input.hotelId) :
    input.sqlDeferredCompany row := by
  obtain ⟨-, settled | company⟩ := (Database.mem_deferredCompanyReservationIds (fun other otherIn _
    => List.mem_singleton.mp otherIn) List.mem_cons_self (active_own member)).mp deferred
  · left
    have spaceless : ∀ status ∈ ["deferred", "settled"], ' ' ∉ status.toList := by decide
    rw [sqlNormalized_of_toLower rfl (spaceless _ settled)]
    exact settled
  · exact .inr company

theorem foldl_addNightDue {paid : Int -> ℚ} {dates : Int × Int} {id : Int}
    {charges : List CompanyNightCharge}
    (absent : ∀ charge ∈ charges, charge.reservationId ≠ id) (due : Int -> ℚ) :
    charges.foldl (addNightDue paid dates) due id = due id := by
  induction charges generalizing due with
  | nil => rfl
  | cons charge charges ih =>
    rw [List.foldl_cons, ih (List.forall_mem_cons.mp absent).2]
    unfold addNightDue
    split_ifs
    · exact Function.update_of_ne (absent charge List.mem_cons_self).symm _ _
    · rfl

theorem hasCompanyNightCharge_of_pos (positive : 0 < input.extraDueByReservation row.id) :
    input.hasCompanyNightCharge row := by
  by_contra without
  refine positive.ne' ?_
  unfold extraDueByReservation companyNightExtraBalances
  simp only
  rw [foldl_addNightDue]
  · exact cents_intCast 0
  · intro charge chargeIn same
    rw [mem_sortByKey] at chargeIn
    exact without ⟨charge, List.mem_of_mem_filter chargeIn, same⟩

theorem mem_balanceCandidates {mode : BalanceQueryMode} : row ∈ input.balanceCandidates mode ↔
      row ∈ input.activeReservations ∧ row.status ∈ activeReservationStatuses ∧
        input.reportDate < row.checkOutDate ∧ input.Selects row mode := by
  simp [balanceCandidates]

theorem mem_deferredPendingCandidates : row ∈ input.deferredPendingCandidates ↔
      row ∈ input.activeReservations ∧ row.status ∈ activeReservationStatuses ∧
        input.reportDate < row.checkOutDate ∧
        input.db.reservationHasDeferredCompanyBilling row input.hotelId ∧
        0 < input.extraDueByReservation row.id := by
  unfold deferredPendingCandidates
  rw [List.mem_filter, decide_eq_true_eq]
  constructor
  · rintro ⟨candidate, listed, positive⟩
    have inReport : row ∈ input.reportStays := List.mem_append_right _ candidate
    obtain ⟨member, isActive, stays, -⟩ := mem_balanceCandidates.mp candidate
    exact ⟨member, isActive, stays, (mem_reportDeferredIds inReport).mp listed, positive⟩
  · rintro ⟨member, isActive, stays, deferred, positive⟩
    have candidate : row ∈ input.balanceCandidates .flags :=
      mem_balanceCandidates.mpr ⟨member, isActive, stays,
        Or.inl ⟨sqlDeferred_of_deferred member deferred, hasCompanyNightCharge_of_pos positive⟩⟩
    exact ⟨candidate, (mem_reportDeferredIds
      (List.mem_append_right _ candidate)).mpr deferred, positive⟩

variable (input)

def listedItems : List OperationalReservationSummary :=
  (input.balanceCandidates .directPending).map input.directSummary ++
    input.deferredPendingCandidates.map input.deferredSummary

/-- Stays with the amounts the report lists. -/
def listedBalances : List (Int × Option ℚ) :=
  ((input.balanceCandidates .directPending).map
    fun row => (row.id, some (input.directBalance row : ℚ))) ++
  input.deferredPendingCandidates.map fun row => (row.id, some (input.extraDueByReservation row.id))

variable {input}

theorem map_listedItems : input.listedItems.map (fun item => (item.reservationId, item.amount)) =
      input.listedBalances := by
  unfold listedItems
  rw [List.map_append, List.map_map, List.map_map]
  congr 1
  apply List.map_congr_left
  intro row candidate
  obtain ⟨-, -, -, -, positive⟩ := mem_balanceCandidates.mp candidate
  have owed : (0 : ℚ) ≤ input.directBalance row := by
    exact_mod_cast positive.le
  rw [directBalance] at owed ⊢
  push_cast at owed ⊢
  simp [directSummary, candidateSummary, OperationalReservationSummary.amount, owed]

theorem pendingGroup_reservations {page size : Nat}
    (existing : page < (input.pendingGroup 1 size).totalPages) :
    (input.pendingGroup (page + 1) size).reservations =
      (input.listedItems.drop (page * size)).take size := by
  have resolved : min (page + 1)
      (max (input.pendingGroup 1 size).totalPages 1) - 1 = page := by omega
  unfold pendingGroup at resolved ⊢
  simp only at resolved ⊢
  rw [resolved]
  simp only [List.map_take, List.map_drop, List.length_take, List.length_drop]
  have sliced := Pages.slice_append
    ((input.balanceCandidates .directPending).map input.directSummary)
    (input.deferredPendingCandidates.map input.deferredSummary) (page * size)
    size
  simp only [List.length_map, List.length_take, List.length_drop] at sliced
  exact sliced

theorem flatMap_pendingGroup {size : Nat} (positive : 0 < size) :
    ((List.range (input.pendingGroup 1 size).totalPages).flatMap fun page =>
      (input.pendingGroup (page + 1) size).reservations) = input.listedItems := by
  have total : (input.pendingGroup 1 size).totalPages =
      (input.listedItems.length + size - 1) / size := by
    simp [pendingGroup, listedItems]
  refine Eq.trans ?_ (Pages.flatMap_pages _ positive)
  rw [← total]
  apply List.flatMap_congr
  intro page inRange
  exact pendingGroup_reservations (List.mem_range.mp inRange)

theorem dailyReport_eq_ok {page size : Nat} (first : 1 ≤ page)
    (atLeast : 1 ≤ size) (atMost : size ≤ 100) :
    input.dailyReport page size = .ok (input.pendingGroup page size) := by
  unfold dailyReport raiseIf
  rw [if_neg (by omega), if_neg (by omega)]
  rfl

theorem listsOpenBalances_iff_perm :
    input.ListsOpenBalances ↔ input.listedBalances.Perm (input.openStays.map fun row =>
        (row.id, some (input.openAmount row))) := by
  rw [← map_listedItems]
  constructor
  · intro lists
    obtain ⟨pages, reported, permuted⟩ := lists 1 le_rfl (by decide)
    have same : ∀ page, 1 ≤ page -> pages page = input.pendingGroup page 1 := by
      intro page first
      have isPage := (reported page first).1
      rw [dailyReport_eq_ok first le_rfl (by decide)] at isPage
      exact (Except.ok.inj isPage).symm
    rw [same 1 le_rfl, List.flatMap_congr fun page _ =>
      congrArg OperationalReservationGroup.reservations (same (page + 1) (Nat.le_add_left 1 page)),
      flatMap_pendingGroup one_pos] at permuted
    exact permuted
  · intro permuted size atLeast atMost
    refine ⟨(input.pendingGroup · size),
      fun page first => ⟨dailyReport_eq_ok first atLeast atMost, ?_⟩, ?_⟩
    · have lengths := permuted.length_eq
      simp only [List.length_map] at lengths
      rw [← lengths]
      simp [pendingGroup, listedItems]
    · rw [flatMap_pendingGroup atLeast]
      exact permuted

variable (input) in
/-- The report lists the stay with an amount. -/
def Listed (row : StoredReservation) (amount : Option ℚ) : Prop :=
  row.status ∈ activeReservationStatuses ∧ input.reportDate < row.checkOutDate ∧
    ((¬input.sqlDeferredCompany row ∧ 0 < input.directBalance row ∧
        amount = some (input.directBalance row : ℚ)) ∨
      (input.db.reservationHasDeferredCompanyBilling row input.hotelId ∧
        0 < input.extraDueByReservation row.id ∧
        amount = some (input.extraDueByReservation row.id)))

theorem mem_listedBalances (member : row ∈ input.activeReservations) {amount : Option ℚ} :
    (row.id, amount) ∈ input.listedBalances ↔ input.Listed row amount := by
  simp only [listedBalances, List.mem_append, List.mem_map, Prod.mk.injEq,
    mem_balanceCandidates, mem_deferredPendingCandidates]
  constructor
  · rintro (⟨other, ⟨otherIn, isActive, stays, direct, positive⟩, same, rfl⟩ |
      ⟨other, ⟨otherIn, isActive, stays, deferred, positive⟩, same, rfl⟩)
    · obtain rfl := active_unique otherIn member same
      exact ⟨isActive, stays, .inl ⟨direct, positive, rfl⟩⟩
    · obtain rfl := active_unique otherIn member same
      exact ⟨isActive, stays, .inr ⟨deferred, positive, rfl⟩⟩
  · rintro ⟨isActive, stays, ⟨direct, positive, rfl⟩ | ⟨deferred, positive, rfl⟩⟩
    · exact .inl ⟨row, ⟨member, isActive, stays, direct, positive⟩, rfl, rfl⟩
    · exact .inr ⟨row, ⟨member, isActive, stays, deferred, positive⟩, rfl, rfl⟩

theorem mem_openStays : row ∈ input.openStays ↔ row ∈ input.activeReservations ∧
        row.status ∉ [ReservationStatus.cancelled, .noShow, .checkedOut] ∧
        input.reportDate < row.checkOutDate ∧ 0 < input.openAmount row := by
  rw [openStays, List.mem_filter, decide_eq_true_eq]

theorem active_distinct : (input.activeReservations.map (·.id)).Nodup :=
  input.db.distinctReservations.sublist ((List.filter_sublist.trans List.filter_sublist).map _)

/-- No stay is both billed here and deferred. -/
theorem candidates_nodup : ((input.balanceCandidates .directPending ++
      input.deferredPendingCandidates).map (·.id)).Nodup := by
  have candidates : ∀ mode, ((input.balanceCandidates mode).map (·.id)).Nodup := fun mode =>
    nodup_map_sortByKey _ _ (nodup_map_sortByKey _ _
      (active_distinct.sublist (List.filter_sublist.map _)))
  rw [List.map_append]
  refine List.Nodup.append (candidates _) ((candidates _).sublist (List.filter_sublist.map _)) ?_
  intro id directIn deferredIn
  obtain ⟨first, candidate, rfl⟩ := List.mem_map.mp directIn
  obtain ⟨second, pending, same⟩ := List.mem_map.mp deferredIn
  obtain ⟨firstIn, -, -, direct, -⟩ := mem_balanceCandidates.mp candidate
  obtain ⟨secondIn, -, -, deferred, -⟩ := mem_deferredPendingCandidates.mp pending
  obtain rfl := active_unique secondIn firstIn same
  exact direct (sqlDeferred_of_deferred firstIn deferred)

theorem listedBalances_nodup : input.listedBalances.Nodup := by
  apply List.Nodup.of_map Prod.fst
  have distinct := @candidates_nodup input
  rw [List.map_append] at distinct
  rw [listedBalances, List.map_append, List.map_map, List.map_map]
  exact distinct

/-- The lists agree when they agree on every stay. -/
theorem listedBalances_perm_iff : input.listedBalances.Perm
        (input.openStays.map fun row => (row.id, some (input.openAmount row))) ↔
      ∀ row ∈ input.activeReservations, ∀ amount, input.Listed row amount ↔
          row ∈ input.openStays ∧ amount = some (input.openAmount row) := by
  have openDistinct : (input.openStays.map fun row =>
      (row.id, some (input.openAmount row))).Nodup := by
    apply List.Nodup.of_map Prod.fst
    rw [List.map_map]
    exact active_distinct.sublist (List.filter_sublist.map _)
  have mem_open : ∀ row ∈ input.activeReservations, ∀ amount,
      (row.id, amount) ∈ (input.openStays.map fun row => (row.id, some (input.openAmount row))) ↔
        row ∈ input.openStays ∧ amount = some (input.openAmount row) := by
    intro row member amount
    rw [List.mem_map]
    constructor
    · rintro ⟨other, isOpen, same⟩
      obtain ⟨sameId, rfl⟩ := Prod.mk.inj same
      obtain rfl := active_unique (mem_openStays.mp isOpen).1 member sameId
      exact ⟨isOpen, rfl⟩
    · rintro ⟨isOpen, rfl⟩
      exact ⟨row, isOpen, rfl⟩
  rw [List.perm_ext_iff_of_nodup listedBalances_nodup openDistinct]
  constructor
  · intro same row member amount
    rw [← mem_listedBalances member, ← mem_open row member]
    exact same _
  · intro same pair
    constructor
    · intro listed
      have listedRow := listed
      simp only [listedBalances, List.mem_append, List.mem_map,
        mem_balanceCandidates, mem_deferredPendingCandidates] at listedRow
      obtain ⟨row, ⟨member, -⟩, rfl⟩ | ⟨row, ⟨member, -⟩, rfl⟩ := listedRow
      all_goals
        exact (mem_open row member _).mpr
          ((same row member _).mp ((mem_listedBalances member).mp listed))
    · intro isOpen
      obtain ⟨row, rowOpen, rfl⟩ := List.mem_map.mp isOpen
      have member := (mem_openStays.mp rowOpen).1
      exact (mem_listedBalances member).mpr ((same row member _).mpr ⟨rowOpen, rfl⟩)

theorem completedPaid_eq (id : Int) :
    input.completedPaid id = input.ledger.completedPaidAmount id := by
  unfold Ledger.completedPaidAmount
  rw [sum_map_filter fun row : Transaction => decide (row.status = .completed)]
  simp only [decide_eq_true_eq]
  rfl

theorem max_directBalance_eq_iff : max 0 (input.directBalance row) =
        row.operationalBalanceDue (ofHotel input.hotelId input.db.adjustments)
          (row.paidAmountWithLegacyFallback input.ledger) ↔
      input.CreditedAlike row := by
  unfold CreditedAlike directBalance sqlPaidAmount ReservationFinancials.operationalBalanceDue
    ReservationFinancials.paidAmountWithLegacyFallback
  rw [completedPaid_eq]
  by_cases ota : row.isOta = true
  · have credit : row.externalPaidBalanceCredit =
        if row.externalPaidConfirmed = true ∧ 0 < row.externalPaidAmount ∧
            externalCurrency row.toReservationFinancials = row.currency then
          row.externalPaidAmount else 0 := by
      unfold ReservationFinancials.externalPaidBalanceCredit externalCurrency
      split_ifs <;> grind
    split_ifs <;> grind
  · cases hasRows : input.ledger.hasTransactions row.id <;> simp [ota]

theorem listed_iff_max {balance due : Int} (nonneg : 0 ≤ due) :
    (∀ amount : Option ℚ, (0 < balance ∧ amount = some (balance : ℚ)) ↔
      ((0 : ℚ) < due ∧ amount = some (due : ℚ))) ↔ max 0 balance = due := by
  simp only [Int.cast_pos]
  constructor
  · intro same
    by_cases positive : 0 < balance
    · have isDue := ((same _).mp ⟨positive, rfl⟩).2
      rw [max_eq_right positive.le]
      exact_mod_cast Option.some.inj isDue
    · have nothing : ¬0 < due := fun owed => positive ((same _).mpr ⟨owed, rfl⟩).1
      omega
  · rintro rfl amount
    rcases le_or_gt balance 0 with nothing | positive
    · simp [nothing.not_gt, max_eq_left nothing]
    · rw [max_eq_right positive.le]

theorem activeReservationStatuses_iff (status : ReservationStatus) :
    status ∈ activeReservationStatuses ↔
      status ∉ [ReservationStatus.cancelled, .noShow, .checkedOut] ∧ status ≠ .partialCheckIn := by
  cases status <;> decide

theorem listed_iff_open (member : row ∈ input.activeReservations) :
    (∀ amount, input.Listed row amount ↔
      row ∈ input.openStays ∧ amount = some (input.openAmount row)) ↔
      input.ReportsBalance row := by
  simp only [Listed, mem_openStays, member, true_and, ReportsBalance, activeReservationStatuses_iff]
  by_cases closed : row.status ∈ [ReservationStatus.cancelled, .noShow, .checkedOut]
  · simp only [closed, not_true_eq_false, false_and, false_implies, implies_true]
  by_cases stays : input.reportDate < row.checkOutDate
  swap
  · simp [stays]
  simp only [closed, stays, true_and, not_false_eq_true, forall_const]
  by_cases isPartial : row.status = .partialCheckIn
  · simp [isPartial]
  by_cases sqlDeferred : input.sqlDeferredCompany row
  · by_cases deferred : input.db.reservationHasDeferredCompanyBilling row input.hotelId
    · simp [isPartial, sqlDeferred, deferred, openAmount]
    · simp [isPartial, sqlDeferred, deferred]
  · have direct : ¬input.db.reservationHasDeferredCompanyBilling row input.hotelId :=
      fun deferred => sqlDeferred (sqlDeferred_of_deferred member deferred)
    rw [← max_directBalance_eq_iff]
    simp only [isPartial, sqlDeferred, direct, openAmount, ne_eq, not_false_eq_true, true_and,
      false_and, or_false, forall_const, false_implies, if_false, Database.operationalBalanceDue_eq]
    exact listed_iff_max (le_max_left 0 _)

/-! ## Totals -/

theorem foldl_update_add {ρ κ : Type} [DecidableEq κ] (key : ρ -> κ)
    (value : ρ -> ℚ) (rows : List ρ) (totals : κ -> ℚ) (k : κ) :
    rows.foldl (fun totals row => Function.update totals (key row)
        (totals (key row) + value row)) totals k =
      totals k + totalOf key value rows k := by
  induction rows generalizing totals with
  | nil => simp [totalOf]
  | cons row rows ih =>
    rw [List.foldl_cons, ih, ← List.singleton_append, totalOf_append, ← add_assoc]
    by_cases same : key row = k
    · subst same
      simp [totalOf]
    · rw [Function.update_of_ne (Ne.symm same)]
      simp [totalOf, same]

theorem lookup_directPendingTotals
    (direct : ∀ row ∈ input.balanceCandidates .directPending, row ∈ input.openStays)
    (agree : input.CodesAgree) (currency : String) :
    (input.directPendingTotals.reverse.lookup currency).getD 0 =
      totalOf (fun row : StoredReservation => row.currency)
        (fun row => (input.directBalance row : ℚ))
        (input.balanceCandidates .directPending) currency := by
  have codes : ∀ row ∈ input.balanceCandidates .directPending,
      row ∈ input.openStays ∧ ¬input.sqlDeferredCompany row := by
    intro row candidate
    obtain ⟨-, -, -, billedHere, -⟩ := mem_balanceCandidates.mp candidate
    exact ⟨direct row candidate, billedHere⟩
  have entries : ∀ pair ∈ input.directPendingTotals.reverse, pair.1 = currency ->
      pair.2 = totalOf (fun row : StoredReservation => row.currency)
        (fun row => (input.directBalance row : ℚ))
        (input.balanceCandidates .directPending) currency := by
    intro pair listed isCurrency
    simp only [directPendingTotals, groupSum, List.mem_reverse, List.mem_map,
      List.mem_dedup] at listed
    obtain ⟨_, ⟨_, ⟨row, candidate, rfl⟩, rfl⟩, rfl⟩ := listed
    obtain ⟨isOpen, billedHere⟩ := codes row candidate
    obtain ⟨filed, oneGroup⟩ := agree row isOpen billedHere
    have sameCurrency : row.currency = currency := filed.symm.trans isCurrency
    have sameRows : ∀ other ∈ input.balanceCandidates .directPending,
        decide (sqlNormalized input.upper other.currencyCode =
          sqlNormalized input.upper row.currencyCode) =
            decide (other.currency = currency) := by
      intro other otherIn
      obtain ⟨otherOpen, otherHere⟩ := codes other otherIn
      obtain ⟨otherFiled, -⟩ := agree other otherOpen otherHere
      rw [decide_eq_decide]
      constructor
      · intro same
        rw [← otherFiled, same, filed, sameCurrency]
      · intro same
        exact oneGroup other otherOpen otherHere (same.trans sameCurrency.symm)
    simp only [totalOf]
    rw [List.filter_congr sameRows, Database.sum_intCast, cents_intCast]
  cases found : input.directPendingTotals.reverse.lookup currency with
  | some total =>
    obtain ⟨before, after, split, -⟩ := List.lookup_eq_some_iff.mp found
    exact entries (currency, total) (by rw [split]; simp) rfl
  | none =>
    symm
    apply totalOf_eq_zero
    intro listed
    obtain ⟨row, candidate, same⟩ := List.mem_map.mp listed
    obtain ⟨isOpen, billedHere⟩ := codes row candidate
    obtain ⟨filed, -⟩ := agree row isOpen billedHere
    have listedEntry : ∃ total, (row.currency, total) ∈ input.directPendingTotals.reverse := by
      simp only [directPendingTotals, groupSum, List.mem_reverse, List.mem_map, List.mem_dedup]
      exact ⟨_, _, ⟨_, ⟨row, candidate, rfl⟩, rfl⟩, Prod.ext filed rfl⟩
    obtain ⟨total, listedEntry⟩ := listedEntry
    have other := List.lookup_eq_none_iff.mp found _ listedEntry
    simp [same] at other

theorem cents_openAmount (row : StoredReservation) :
    cents (input.openAmount row) = input.openAmount row := by
  unfold openAmount
  split_ifs
  · exact cents_intCast _
  · rw [Database.operationalBalanceDue_eq, cents_intCast]

theorem totalsOpenBalances (lists : ∀ row ∈ input.activeReservations, input.ReportsBalance row)
    (agree : input.CodesAgree) : input.TotalsOpenBalances := by
  intro page size first atLeast atMost
  refine ⟨_, dailyReport_eq_ok first atLeast atMost, fun currency => ?_⟩
  have direct : ∀ row ∈ input.balanceCandidates .directPending,
      row ∈ input.openStays ∧ input.openAmount row = input.directBalance row := by
    intro row candidate
    obtain ⟨member, isActive, stays, billedHere, positive⟩ := mem_balanceCandidates.mp candidate
    obtain ⟨isOpen, same⟩ := ((listed_iff_open member).mpr (lists row member)
      _).mp ⟨isActive, stays, .inl ⟨billedHere, positive, rfl⟩⟩
    exact ⟨isOpen, (Option.some.inj same).symm⟩
  have nights : ∀ row ∈ input.deferredPendingCandidates, row ∈ input.openStays ∧
        input.openAmount row = input.extraDueByReservation row.id := by
    intro row candidate
    obtain ⟨member, isActive, stays, deferred, positive⟩ :=
      mem_deferredPendingCandidates.mp candidate
    obtain ⟨isOpen, same⟩ := ((listed_iff_open member).mpr (lists row member)
      _).mp ⟨isActive, stays, .inr ⟨deferred, positive, rfl⟩⟩
    exact ⟨isOpen, (Option.some.inj same).symm⟩
  have rows : input.openStays.Perm
      (input.balanceCandidates .directPending ++ input.deferredPendingCandidates) := by
    have openDistinct : input.openStays.Nodup :=
      List.Nodup.of_map _ (active_distinct.sublist (List.filter_sublist.map _))
    rw [List.perm_ext_iff_of_nodup openDistinct (List.Nodup.of_map _ candidates_nodup)]
    intro row
    rw [List.mem_append]
    constructor
    · intro isOpen
      have member := (mem_openStays.mp isOpen).1
      obtain ⟨isActive, stays, ⟨billedHere, positive, -⟩ | ⟨deferred, positive, -⟩⟩ :=
        ((listed_iff_open member).mpr (lists row member) _).mpr ⟨isOpen, rfl⟩
      · exact .inl (mem_balanceCandidates.mpr ⟨member, isActive, stays, billedHere, positive⟩)
      · exact .inr (mem_deferredPendingCandidates.mpr ⟨member, isActive, stays, deferred, positive⟩)
    · rintro (candidate | candidate)
      · exact (direct row candidate).1
      · exact (nights row candidate).1
  have expected : totalOf (fun row : StoredReservation => row.currency)
      input.openAmount input.openStays currency = input.pendingBalanceByCurrency currency := by
    unfold pendingBalanceByCurrency
    rw [foldl_update_add, lookup_directPendingTotals
      (fun row candidate => (direct row candidate).1) agree]
    unfold totalOf
    rw [((rows.filter _).map _).sum_eq, List.filter_append, List.map_append, List.sum_append]
    congr 2
    · refine List.map_congr_left fun row member => ?_
      exact (direct row (List.mem_of_mem_filter member)).2
    · refine List.map_congr_left fun row member => ?_
      exact (nights row (List.mem_of_mem_filter member)).2
  have shown : (input.pendingGroup page size).totalBalanceByCurrency.lookup currency =
        if currency ∈ input.pendingCurrencies then
          some (cents (input.pendingBalanceByCurrency currency))
        else none := by
    refine (lookup_keyed (fun currency =>
      cents (input.pendingBalanceByCurrency currency)) _ currency).trans ?_
    simp only [mem_sortByKey]
  rw [shown, ← expected]
  split_ifs with listed
  · have whole : input.openAmount = fun row =>
        ((Decimal.quantize 0 (input.openAmount row) : Int) : ℚ) := funext fun row => (cents_openAmount row).symm
    rw [Option.getD_some, totalOf, whole, Database.sum_intCast, cents_intCast]
  · symm
    apply totalOf_eq_zero
    intro owed
    obtain ⟨row, isOpen, rfl⟩ := List.mem_map.mp owed
    refine listed (List.mem_dedup.mpr (List.mem_append.mpr ?_))
    rcases List.mem_append.mp (rows.mem_iff.mp isOpen) with candidate | candidate
    · left
      obtain ⟨-, -, -, billedHere, -⟩ := mem_balanceCandidates.mp candidate
      obtain ⟨filed, -⟩ := agree row isOpen billedHere
      simp only [directPendingTotals, groupSum, List.mem_map, List.mem_dedup]
      exact ⟨_, ⟨_, ⟨_, ⟨row, candidate, rfl⟩, rfl⟩, rfl⟩, filed⟩
    · exact .inr (List.mem_map_of_mem candidate)

/-- Two hotels where of the agency stay only some guests have checked in. -/
def partlyArrived : Database :=
  { Database.twoHotels with
    reservations := [{ Database.agencyStay with status := .partialCheckIn }, Database.directStay]
    distinctReservations := Database.twoHotels_distinctReservations
    hotelsPositive := by decide
    guestStored := by decide
    transactionReservation := by decide }

end ReportInput

end HotelPms.Reports
