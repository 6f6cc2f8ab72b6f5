import HotelPms.Foundation.ContextSum
import HotelPms.Foundation.KeySort
import HotelPms.Payments.Summary
import Mathlib.Algebra.BigOperators.Ring.List
import Mathlib.Algebra.Order.Group.MinMax
import Mathlib.Data.Prod.Lex

/-!
# Balance of a deferred company reservation

The extra nights of a company that settles outside have two read models: the
list of nights, each with what is due on it, and the financial summary, with
their total.  Both add up the same net amounts; the list rounds every night and
the summary only the total.
-/

namespace HotelPms.Payments

open Checked Decimal GroupSum Hotel

/-- A night of the list, with what is paid and due on it. -/
structure CompanyNightChargeRead where
  id : Int
  stayDate : Int
  amount : Int
  currencyCode : String
  paidAmount : Int
  remainingDue : Int
  paymentPending : Bool
  reviewOnly : Bool

structure CompanyNightChargesSummary where
  reservationId : Int
  companyId : Int
  currencyCode : String
  charges : List CompanyNightChargeRead

namespace Database

variable (db : Database)

/-- Nights of a reservation by date, with their balances. -/
def companyNightChargesSummary (reservation : StoredReservation)
    (companyId today : Int) : CompanyNightChargesSummary :=
  let ledger := db.ledger reservation.hotelId
  let rows := KeySort.sortByKey (fun charge : CompanyNightCharge =>
      (toLex (charge.stayDate, charge.id) : ℤ ×ₗ ℤ))
    (chargesOfReservation (ofHotel reservation.hotelId db.nightCharges)
      reservation.toReservationFinancials)
  { reservationId := reservation.id
    companyId := companyId
    currencyCode := (if reservation.currencyCode = "" then "ARS"
      else reservation.currencyCode).toUpper
    charges := rows.map fun charge =>
      { id := charge.id, stayDate := charge.stayDate, amount := charge.amount
        currencyCode := charge.currencyCode, paidAmount := paidOnCharge ledger charge.id
        remainingDue := dueOnCharge ledger charge, paymentPending := chargePending ledger charge.id
        reviewOnly := decide (charge.stayDate < today ∧ 0 < dueOnCharge ledger charge) } }

def getCompanyNightCharges (hotelId reservationId today : Int) :
    Except String CompanyNightChargesSummary :=
  match db.reservations.find? fun row =>
      decide (row.id = reservationId ∧ row.hotelId = hotelId ∧ row.deletedAt = none) with
  | none => throw "La reserva no pertenece a este hotel."
  | some reservation =>
    match reservation.companyId with
    | none =>
      throw ("Los adicionales por noche solo se usan en reservas de " ++ "empresas.")
    | some companyId => do
      raiseIf (∀ company ∈ ofHotel hotelId db.companies, company.id ≠ companyId)
        "La empresa vinculada a la reserva no está disponible."
      pure (db.companyNightChargesSummary reservation companyId today)

end Database

section Nets

variable (ledger : Ledger) (charges : List CompanyNightCharge)

/-- Part of a payment its refunds without nights returned. -/
def refundFraction (transaction : Transaction) : ℚ :=
  if 0 < transaction.amount then
    inContext (((min (unallocatedRefunds ledger transaction.id)
        transaction.amount : Int) : ℚ) / transaction.amount)
  else 0

/-- What an allocation of a completed transaction leaves on its night. -/
def nightNet (pair : NightAllocation × Transaction) : ℚ :=
  if pair.2.IsRefund then -pair.1.amount
  else inContext (pair.1.amount * inContext (1 - refundFraction ledger pair.2))

def completedAllocations (chargeId : Int) : List (NightAllocation × Transaction) :=
  (chargeAllocations ledger charges).filter fun pair =>
    pair.1.companyNightChargeId = chargeId ∧ pair.2.status = .completed

variable {ledger charges}

theorem mem_chargeAllocations {pair : NightAllocation × Transaction}
    (member : pair ∈ chargeAllocations ledger charges) :
    pair.1 ∈ ledger.allocations ∧ pair.1.companyNightChargeId ∈ charges.map CompanyNightCharge.id ∧
      pair.2 ∈ ledger.transactions ∧ pair.2.id = pair.1.transactionId := by
  obtain ⟨row, rowIn, joined⟩ := List.mem_filterMap.mp member
  split_ifs at joined with listed
  obtain ⟨transaction, found, rfl⟩ := Option.map_eq_some_iff.mp joined
  have same := List.find?_some found
  exact ⟨rowIn, listed, List.mem_of_find?_eq_some found, of_decide_eq_true same⟩

theorem paidOnCharge_eq_contextSum {chargeId : Int}
    (listed : chargeId ∈ charges.map CompanyNightCharge.id) :
    paidOnCharge ledger chargeId = quantizeHalfUp 0 (contextSum
        ((completedAllocations ledger charges chargeId).map (nightNet ledger))) := by
  have run : ∀ (rows : List NightAllocation) (paid : ℚ), (rows.filter fun row =>
          row.companyNightChargeId = chargeId).foldl (addAllocation ledger) paid =
        (((rows.filterMap fun row =>
            if row.companyNightChargeId ∈ charges.map CompanyNightCharge.id then
              (ledger.transaction? row.transactionId).map fun transaction => (row, transaction)
            else none).filter fun pair => pair.1.companyNightChargeId = chargeId ∧
                pair.2.status = .completed).map (nightNet ledger)).foldl
          (fun total value => inContext (total + value)) paid := by
    intro rows
    induction rows with
    | nil => exact fun _ => rfl
    | cons row rows ih =>
      intro paid
      by_cases same : row.companyNightChargeId = chargeId
      · rw [List.filter_cons, if_pos (decide_eq_true same), List.foldl_cons, ih,
          List.filterMap_cons, if_pos (same ▸ listed)]
        cases found : ledger.transaction? row.transactionId with
        | none =>
          simp only [addAllocation, found, Option.map_none]
        | some transaction =>
          simp only [addAllocation, found, Option.map_some]
          by_cases completed : transaction.status = .completed
          · rw [if_neg (not_not.mpr completed), List.filter_cons, if_pos (decide_eq_true ⟨same,
              completed⟩), List.map_cons, List.foldl_cons]
            by_cases refund : transaction.IsRefund
            · rw [if_pos refund, nightNet, if_pos refund, sub_eq_add_neg]
            · rw [if_neg refund, nightNet, if_neg refund]
              unfold refundFraction
              push_cast
              rfl
          · simp [completed]
      · rw [List.filter_cons, if_neg (by simpa using same), ih, List.filterMap_cons]
        split_ifs with listedRow
        · cases found : ledger.transaction? row.transactionId with
          | none => rfl
          | some transaction =>
            simp [same]
        · rfl
  exact congrArg (quantizeHalfUp 0) (run ledger.allocations 0)

section Summary

variable (ledger : Ledger) (transactions : List Transaction) (charges : List CompanyNightCharge)

/-- Amounts a visible transaction adds to a night of the summary. -/
def contributions (chargeId : Int) (transaction : Transaction) : List ℚ :=
  let rows := (chargeAllocations ledger charges).filter fun pair =>
    pair.1.transactionId = transaction.id ∧ pair.1.companyNightChargeId = chargeId
  if transaction.status ≠ .completed then []
  else if transaction.IsRefund then
    rows.map fun pair => -(pair.1.amount : ℚ)
  else if transaction.amount ≤ 0 ∨ cents (((allocationsByTransaction
        (chargeAllocations ledger charges)).lookup transaction.id).getD 0) ≠
          cents transaction.amount then []
  else
    rows.map fun pair => inContext (pair.1.amount *
      inContext (1 - legacyFraction ledger transactions charges transaction))

variable {ledger transactions charges}

theorem addAllocations_apply (transaction : Transaction) (share : Int -> ℚ) (paid : Int -> ℚ)
    (chargeId : Int) :
    addAllocations ledger charges transaction share paid chargeId =
      ((((chargeAllocations ledger charges).filter fun pair =>
        pair.1.transactionId = transaction.id ∧
          pair.1.companyNightChargeId = chargeId).map (share ·.1.amount)).foldl
        (fun total value => inContext (total + value)) (paid chargeId)) := by
  unfold addAllocations
  generalize chargeAllocations ledger charges = pairs
  induction pairs generalizing paid with
  | nil => rfl
  | cons pair pairs ih =>
    rw [List.foldl_cons, ih, List.filter_cons]
    by_cases own : pair.1.transactionId = transaction.id
    · rw [if_pos own]
      by_cases same : pair.1.companyNightChargeId = chargeId
      · rw [if_pos (decide_eq_true ⟨own, same⟩), List.map_cons, List.foldl_cons]
        subst same
        unfold addToCharge
        rw [Function.update_self]
      · rw [if_neg (by simp [same])]
        unfold addToCharge
        rw [Function.update_of_ne (same ·.symm)]
    · rw [if_neg own, if_neg (by simp [own])]

/-- The summary adds up the contributions to a night. -/
theorem paidByCharge_apply (chargeId : Int) : paidByCharge ledger transactions charges chargeId =
      contextSum ((visibleExtraTransactions ledger transactions
        charges).flatMap (contributions ledger transactions charges chargeId)) := by
  have run : ∀ (visible : List Transaction) (paid : Int -> ℚ),
      visible.foldl (addExtraTransaction ledger transactions charges) paid chargeId =
        (visible.flatMap (contributions ledger transactions charges chargeId)).foldl
            (fun total value => inContext (total + value)) (paid chargeId) := by
    intro visible
    induction visible with
    | nil => exact fun _ => rfl
    | cons transaction visible ih =>
      intro paid
      rw [List.foldl_cons, ih, List.flatMap_cons, List.foldl_append]
      congr 1
      unfold addExtraTransaction contributions
      simp only
      split_ifs
      · rfl
      · exact addAllocations_apply _ _ _ _
      · rfl
      · exact addAllocations_apply _ _ _ _
  exact run _ _

/-! ### Fully allocated transactions -/

/-- Amount a transaction assigns to the nights. -/
def allocatedAmount (ledger : Ledger) (charges : List CompanyNightCharge)
    (transactionId : Int) : Int :=
  totalOf (·.1.transactionId) (·.1.amount) (chargeAllocations ledger charges) transactionId

/-- Transactions on the nights of a reservation, as payments write them: they
are the reservation's, their whole amount is assigned to its nights, and so is
that of the refunds of them that name any night. -/
structure NightsFullyAllocated
    (ledger : Ledger)
    (reservationId : Int)
    (charges : List CompanyNightCharge) : Prop where
  positive : ∀ pair ∈ chargeAllocations ledger charges, 0 < pair.1.amount
  own : ∀ pair ∈ chargeAllocations ledger charges, pair.2.reservationId = reservationId
  whole : ∀ pair ∈ chargeAllocations ledger charges,
    allocatedAmount ledger charges pair.2.id = pair.2.amount
  refunds : ∀ row ∈ ledger.transactions, row.IsRefund -> row.status = .completed ->
      (∃ pair ∈ chargeAllocations ledger charges, row.refundOfTransactionId = some pair.2.id) ->
      row.reservationId = reservationId ∧ 0 ≤ row.amount ∧
        (explicitlyAllocated ledger row.id = true ->
          ∃ pair ∈ chargeAllocations ledger charges, pair.2.id = row.id)

theorem totalOf_intCast {α : Type} (key value : α -> Int) (rows : List α) (k : Int) :
    totalOf key (fun row => (value row : ℚ)) rows k = ((totalOf key value rows k : Int) : ℚ) :=
  Database.sum_intCast _ value

theorem lookup_allocationsByTransaction (transactionId : Int) :
    ((allocationsByTransaction (chargeAllocations ledger charges)).lookup transactionId).getD 0 =
      (allocatedAmount ledger charges transactionId : ℚ) := by
  unfold allocationsByTransaction
  rw [getD_lookup_groupSum]
  exact totalOf_intCast _ _ _ _

variable {reservationId : Int} {pair : NightAllocation × Transaction}

section

variable (allocated : NightsFullyAllocated ledger reservationId charges)
  (member : pair ∈ chargeAllocations ledger charges)
include allocated member

theorem mem_validExtraPaymentIds :
    pair.2.id ∈ validExtraPaymentIds ledger (ledger.forReservation reservationId) charges := by
  obtain ⟨-, -, stored, same⟩ := mem_chargeAllocations member
  have key : pair.2.id ∈ ((chargeAllocations ledger charges).map (·.1.transactionId)).dedup := by
    rw [List.mem_dedup, same]
    exact List.mem_map_of_mem member
  refine List.mem_map.mpr ⟨(pair.2.id, totalOf (fun pair : NightAllocation × Transaction =>
      pair.1.transactionId) (fun pair => (pair.1.amount : ℚ))
      (chargeAllocations ledger charges) pair.2.id), ?_, rfl⟩
  refine List.mem_filter.mpr ⟨List.mem_map_of_mem key, ?_⟩
  apply List.any_eq_true.mpr
  refine ⟨pair.2, ?_, ?_⟩
  · exact List.mem_filter.mpr ⟨stored, decide_eq_true (allocated.own pair member)⟩
  · have total : totalOf (fun pair : NightAllocation × Transaction =>
          pair.1.transactionId) (fun pair => (pair.1.amount : ℚ))
        (chargeAllocations ledger charges) pair.2.id = (pair.2.amount : ℚ) := by
      rw [totalOf_intCast]
      exact congrArg Int.cast (allocated.whole pair member)
    rw [total]
    exact decide_eq_true ⟨rfl, rfl⟩

/-- The refunds without nights that the summary spreads over a payment are
those the list spreads. -/
theorem lookup_legacyRefundsBySource :
    ((legacyRefundsBySource ledger (ledger.forReservation reservationId)
        charges).lookup pair.2.id).getD 0 =
      (unallocatedRefunds ledger pair.2.id : ℚ) := by
  unfold legacyRefundsBySource
  rw [getD_lookup_groupSum, totalOf_intCast]
  unfold totalOf visibleExtraTransactions Ledger.forReservation
  rw [List.filter_filter, List.filter_filter, List.filter_filter]
  congr 3
  apply List.filter_congr
  intro row stored
  rw [Bool.eq_iff_iff]
  simp only [Bool.and_eq_true, decide_eq_true_eq, Bool.not_eq_true']
  constructor
  · rintro ⟨⟨⟨source, completed, refund, notExplicit, named⟩, -⟩, -⟩
    have sourceIs : row.refundOfTransactionId = some pair.2.id := by
      obtain ⟨id, isId⟩ := Option.ne_none_iff_exists'.mp named
      rw [isId, Option.getD_some] at source
      rw [isId, source]
    refine ⟨⟨sourceIs, refund, completed⟩, ?_⟩
    rw [← Bool.not_eq_true]
    intro explicit
    obtain ⟨other, otherIn, same⟩ := (allocated.refunds row stored refund
      completed ⟨pair, member, sourceIs⟩).2.2 explicit
    have otherIs : other.2 = row :=
      List.inj_on_of_nodup_map ledger.distinctIds (mem_chargeAllocations otherIn).2.2.1 stored same
    apply notExplicit
    refine List.mem_map.mpr ⟨other, List.mem_filter.mpr ⟨otherIn, ?_⟩, same⟩
    rw [otherIs]
    exact decide_eq_true refund
  · rintro ⟨⟨sourceIs, refund, completed⟩, notExplicit⟩
    obtain ⟨own, -, -⟩ := allocated.refunds row stored refund completed ⟨pair, member, sourceIs⟩
    refine ⟨⟨⟨by rw [sourceIs, Option.getD_some], completed, refund, ?_,
      by rw [sourceIs]; exact Option.some_ne_none _⟩, ?_⟩, own⟩
    · intro explicit
      obtain ⟨other, otherIn, same⟩ := List.mem_map.mp explicit
      obtain ⟨rowIn, -, -, isTransaction⟩ := mem_chargeAllocations (List.mem_filter.mp otherIn).1
      have named : explicitlyAllocated ledger row.id = true :=
        List.any_eq_true.mpr ⟨other.1, rowIn, decide_eq_true (isTransaction.symm.trans same)⟩
      rw [named] at notExplicit
      cases notExplicit
    · exact .inr ⟨refund, pair.2.id, sourceIs, mem_validExtraPaymentIds allocated member⟩

theorem legacyFraction_eq : legacyFraction ledger (ledger.forReservation reservationId) charges
        pair.2 = refundFraction ledger pair.2 := by
  unfold legacyFraction refundFraction
  rw [lookup_legacyRefundsBySource allocated member]
  push_cast
  rfl

omit allocated in
theorem eq_of_transactionId {transaction : Transaction} (stored : transaction ∈ ledger.transactions)
    (same : pair.1.transactionId = transaction.id) : pair.2 = transaction := by
  obtain ⟨-, -, pairStored, isTransaction⟩ := mem_chargeAllocations member
  exact List.inj_on_of_nodup_map ledger.distinctIds pairStored stored (isTransaction.trans same)

theorem NightsFullyAllocated.amount_pos : 0 < pair.2.amount := by
  rw [← allocated.whole pair member]
  have inRows : pair ∈ (chargeAllocations ledger charges).filter
      fun other => decide (other.1.transactionId = pair.2.id) :=
    List.mem_filter.mpr ⟨member, decide_eq_true (mem_chargeAllocations member).2.2.2.symm⟩
  have least := List.single_le_sum (l := ((chargeAllocations ledger charges).filter fun other =>
      other.1.transactionId = pair.2.id).map (·.1.amount))
    (fun value valueIn => by
      obtain ⟨other, otherIn, rfl⟩ := List.mem_map.mp valueIn
      exact (allocated.positive other (List.mem_filter.mp otherIn).1).le)
    pair.1.amount (List.mem_map_of_mem inRows)
  exact lt_of_lt_of_le (allocated.positive pair member) least

end

section

variable (allocated : NightsFullyAllocated ledger reservationId charges)
include allocated

theorem contributions_eq {transaction : Transaction} (stored : transaction ∈ ledger.transactions)
    (chargeId : Int) :
    contributions ledger (ledger.forReservation reservationId) charges chargeId transaction =
      ((completedAllocations ledger charges chargeId).filter fun pair =>
        pair.1.transactionId = transaction.id).map (nightNet ledger) := by
  have same : ∀ pair ∈ chargeAllocations ledger charges,
      pair.1.transactionId = transaction.id -> pair.2 = transaction :=
    fun pair member => eq_of_transactionId member stored
  unfold contributions completedAllocations
  rw [List.filter_filter]
  by_cases completed : transaction.status = .completed
  · have rows : ((chargeAllocations ledger charges).filter fun pair =>
        decide (pair.1.transactionId = transaction.id) &&
          decide (pair.1.companyNightChargeId = chargeId ∧ pair.2.status = .completed)) =
        (chargeAllocations ledger charges).filter fun pair =>
          decide (pair.1.transactionId = transaction.id ∧
            pair.1.companyNightChargeId = chargeId) := by
      apply List.filter_congr
      intro pair member
      rw [Bool.eq_iff_iff]
      simp only [Bool.and_eq_true, decide_eq_true_eq]
      constructor
      · exact fun both => ⟨both.1, both.2.1⟩
      · exact fun both => ⟨both.1, both.2, by rw [same pair member both.1, completed]⟩
    rw [rows]
    rw [if_neg (not_not.mpr completed)]
    split_ifs with refund invalid
    · apply List.map_congr_left
      intro pair member
      obtain ⟨pairIn, kept⟩ := List.mem_filter.mp member
      rw [nightNet, same pair pairIn (of_decide_eq_true kept).1, if_pos refund]
    · symm
      rw [List.map_eq_nil_iff, List.filter_eq_nil_iff]
      intro pair pairIn kept
      have isTransaction := same pair pairIn (of_decide_eq_true kept).1
      have positive := allocated.amount_pos pairIn
      have whole := allocated.whole pair pairIn
      rw [isTransaction] at positive whole
      rw [lookup_allocationsByTransaction, whole] at invalid
      rcases invalid with nonpositive | differs
      · omega
      · exact differs rfl
    · apply List.map_congr_left
      intro pair member
      obtain ⟨pairIn, kept⟩ := List.mem_filter.mp member
      have isTransaction := same pair pairIn (of_decide_eq_true kept).1
      rw [nightNet, isTransaction, if_neg refund, ← isTransaction,
        legacyFraction_eq allocated pairIn]
  · rw [if_pos completed]
    symm
    rw [List.map_eq_nil_iff, List.filter_eq_nil_iff]
    intro pair pairIn kept
    simp only [Bool.and_eq_true, decide_eq_true_eq] at kept
    rw [same pair pairIn kept.1] at kept
    exact completed kept.2.2

theorem exists_perm_nets (chargeId : Int) : ∃ pairs : List (NightAllocation × Transaction),
      pairs.Perm (completedAllocations ledger charges chargeId) ∧
      paidByCharge ledger (ledger.forReservation reservationId) charges
        chargeId = contextSum (pairs.map (nightNet ledger)) := by
  have storedOf : ∀ transaction ∈ visibleExtraTransactions ledger
      (ledger.forReservation reservationId) charges,
      transaction ∈ ledger.transactions := fun transaction member =>
    (List.mem_filter.mp (List.mem_filter.mp member).1).1
  have spelled : (visibleExtraTransactions ledger
      (ledger.forReservation reservationId) charges).flatMap
        (contributions ledger (ledger.forReservation reservationId) charges chargeId) =
      ((((visibleExtraTransactions ledger (ledger.forReservation reservationId) charges).map
          Transaction.id).flatMap fun id =>
            (completedAllocations ledger charges chargeId).filter fun pair =>
              pair.1.transactionId = id).map (nightNet ledger)) := by
    rw [List.map_flatMap, List.flatMap_map]
    exact List.flatMap_congr fun transaction member =>
      contributions_eq allocated (storedOf transaction member) chargeId
  have distinct : ((visibleExtraTransactions ledger
      (ledger.forReservation reservationId) charges).map Transaction.id).Nodup :=
    ledger.distinctIds.sublist ((List.filter_sublist.trans List.filter_sublist).map _)
  have grouped := flatMap_filter_perm
    (fun pair : NightAllocation × Transaction => pair.1.transactionId)
    distinct (completedAllocations ledger charges chargeId)
  have everything : (completedAllocations ledger charges chargeId).filter
      (fun pair => pair.1.transactionId ∈ (visibleExtraTransactions ledger
          (ledger.forReservation reservationId) charges).map Transaction.id) =
      completedAllocations ledger charges chargeId := by
    apply List.filter_eq_self.mpr
    intro pair member
    have pairIn := (List.mem_filter.mp member).1
    obtain ⟨-, -, stored, isTransaction⟩ := mem_chargeAllocations pairIn
    apply decide_eq_true
    rw [← isTransaction]
    refine List.mem_map.mpr ⟨pair.2, List.mem_filter.mpr ⟨?_, ?_⟩, rfl⟩
    · exact List.mem_filter.mpr ⟨stored, decide_eq_true (allocated.own pair pairIn)⟩
    · exact decide_eq_true (.inl (mem_validExtraPaymentIds allocated pairIn))
  rw [everything] at grouped
  exact ⟨_, grouped, by rw [paidByCharge_apply, spelled]⟩

end

/-- Sizes of the rows of a reservation's nights. -/
structure NightsFit
    (ledger : Ledger) (charges : List CompanyNightCharge) : Prop where
  distinct : (charges.map CompanyNightCharge.id).Nodup
  amounts : ∀ pair ∈ chargeAllocations ledger charges, pair.1.amount < 10 ^ 12
  rows : (chargeAllocations ledger charges).length < 2 ^ 31
  chargeAmounts : ∀ charge ∈ charges, |charge.amount| < 10 ^ 12
  chargeRows : charges.length < 2 ^ 31

/-- What the payments of a night assign to it. -/
def nightTotal (ledger : Ledger) (charges : List CompanyNightCharge) (chargeId : Int) : Int :=
  ((completedAllocations ledger charges chargeId).map (·.1.amount)).sum

def nightsTotal (ledger : Ledger) (charges : List CompanyNightCharge) : Int :=
  ((chargeAllocations ledger charges).map (·.1.amount)).sum

theorem sum_le_length_mul {values : List Int} {bound : Int}
    (below : ∀ value ∈ values, value ≤ bound) :
    values.sum ≤ values.length * bound := by
  have total := List.sum_le_card_nsmul values bound below
  rwa [nsmul_eq_mul] at total

/-- The nights share out what is assigned to them. -/
theorem sum_nightTotal_le (distinct : (charges.map CompanyNightCharge.id).Nodup)
    (positive : ∀ pair ∈ chargeAllocations ledger charges, 0 < pair.1.amount) :
    (charges.map (nightTotal ledger charges ·.id)).sum ≤ nightsTotal ledger charges := by
  have shared := sum_totalOf (fun pair : NightAllocation × Transaction =>
      pair.1.companyNightChargeId) (·.1.amount)
    ((chargeAllocations ledger charges).filter (·.2.status = .completed)) distinct
    (fun pair member => (mem_chargeAllocations (List.mem_filter.mp member).1).2.1)
  have sameNights : (charges.map CompanyNightCharge.id).map
      (totalOf (fun pair : NightAllocation × Transaction =>
        pair.1.companyNightChargeId) (·.1.amount)
        ((chargeAllocations ledger charges).filter (·.2.status = .completed))) =
      charges.map (nightTotal ledger charges ·.id) := by
    rw [List.map_map]
    apply List.map_congr_left
    intro charge _
    unfold nightTotal completedAllocations
    simp only [Function.comp_apply, totalOf, List.filter_filter, Bool.decide_and]
  rw [← sameNights, shared]
  apply List.Sublist.sum_le_sum (List.filter_sublist.map _)
  intro amount member
  obtain ⟨pair, pairIn, rfl⟩ := List.mem_map.mp member
  exact (positive pair pairIn).le

theorem nightTotal_nonneg (positive : ∀ pair ∈ chargeAllocations ledger charges,
      0 < pair.1.amount) (chargeId : Int) :
    0 ≤ nightTotal ledger charges chargeId := by
  apply List.sum_nonneg
  intro amount member
  obtain ⟨pair, pairIn, rfl⟩ := List.mem_map.mp member
  exact (positive pair (List.mem_filter.mp pairIn).1).le

theorem NightsFit.nightsTotal_le (fits : NightsFit ledger charges) :
    nightsTotal ledger charges ≤ 2 ^ 31 * 10 ^ 12 := by
  have total : nightsTotal ledger charges ≤ ((chargeAllocations ledger charges).map
        (·.1.amount)).length * 10 ^ 12 := by
    apply sum_le_length_mul
    intro amount member
    obtain ⟨pair, pairIn, rfl⟩ := List.mem_map.mp member
    exact (fits.amounts pair pairIn).le
  rw [List.length_map] at total
  have rows := fits.rows
  omega

/-- Every completed refund of a payment of the nights names nights. -/
def RefundsNamed (ledger : Ledger) (charges : List CompanyNightCharge) : Prop :=
  ∀ row ∈ ledger.transactions, row.IsRefund -> row.status = .completed ->
    (∃ pair ∈ chargeAllocations ledger charges, row.refundOfTransactionId = some pair.2.id) ->
      explicitlyAllocated ledger row.id = true

/-- What an allocation adds to its night, refunds as negative. -/
def signedAllocation (pair : NightAllocation × Transaction) : Int :=
  if pair.2.IsRefund then -pair.1.amount else pair.1.amount

theorem unallocatedRefunds_eq_zero (named : RefundsNamed ledger charges)
    (member : pair ∈ chargeAllocations ledger charges) :
    unallocatedRefunds ledger pair.2.id = 0 := by
  unfold unallocatedRefunds
  have none : (ledger.transactions.filter fun row =>
      decide (row.refundOfTransactionId = some pair.2.id ∧ row.IsRefund ∧
        row.status = .completed) && !explicitlyAllocated ledger row.id) = [] := by
    apply List.filter_eq_nil_iff.mpr
    intro row stored kept
    rw [Bool.and_eq_true, decide_eq_true_eq, Bool.not_eq_true'] at kept
    obtain ⟨⟨source, refund, completed⟩, unnamed⟩ := kept
    rw [named row stored refund completed ⟨pair, member, source⟩] at unnamed
    cases unnamed
  rw [none]
  rfl

theorem nightNet_eq_signed (named : RefundsNamed ledger charges)
    (member : pair ∈ chargeAllocations ledger charges)
    (positive : 0 < pair.1.amount) (amount : pair.1.amount < 10 ^ 12)
    (whole : 0 < pair.2.amount) :
    nightNet ledger pair = (signedAllocation pair : ℚ) := by
  unfold nightNet signedAllocation
  split_ifs
  · rfl
  · have fraction : refundFraction ledger pair.2 = 0 := by
      unfold refundFraction
      rw [if_pos whole, unallocatedRefunds_eq_zero named member, min_eq_left whole.le]
      simp [inContext]
    have one : inContext (1 : ℚ) = 1 := by
      have kept : inContext ((1 : Int) : ℚ) = ((1 : Int) : ℚ) :=
        inContext_intCast (by norm_num)
      simpa using kept
    rw [fraction, sub_zero, one, mul_one]
    exact inContext_intCast (by rw [abs_of_pos positive]; omega)

theorem quantizeHalfUp_intCast (value : Int) : quantizeHalfUp 0 (value : ℚ) = value := by
  unfold quantizeHalfUp
  rw [pow_zero, mul_one, roundHalfUp_intCast]

/-- Net of a night in whole cents. -/
def signedTotal (ledger : Ledger) (charges : List CompanyNightCharge) (chargeId : Int) : Int :=
  ((completedAllocations ledger charges chargeId).map signedAllocation).sum

/-- Without refunds to spread, both read models know the net of a night
exactly. -/
theorem paid_eq_signedTotal (allocated : NightsFullyAllocated ledger reservationId charges)
    (fits : NightsFit ledger charges) (named : RefundsNamed ledger charges)
    {charge : CompanyNightCharge} (listed : charge ∈ charges) :
    paidByCharge ledger (ledger.forReservation reservationId) charges
        charge.id = (signedTotal ledger charges charge.id : ℚ) ∧
      paidOnCharge ledger charge.id = signedTotal ledger charges charge.id ∧
      |signedTotal ledger charges charge.id| ≤ nightTotal ledger charges charge.id := by
  have whole : ∀ pair ∈ completedAllocations ledger charges charge.id,
      nightNet ledger pair = (signedAllocation pair : ℚ) := by
    intro pair member
    have pairIn := (List.mem_filter.mp member).1
    exact nightNet_eq_signed named pairIn (allocated.positive pair pairIn)
      (fits.amounts pair pairIn) (allocated.amount_pos pairIn)
  have sizes : ((completedAllocations ledger charges charge.id).map signedAllocation).map (|·|) =
        (completedAllocations ledger charges charge.id).map (·.1.amount) := by
    rw [List.map_map]
    apply List.map_congr_left
    intro pair member
    have positive := allocated.positive pair (List.mem_filter.mp member).1
    simp only [Function.comp_apply, signedAllocation]
    split_ifs
    · rw [abs_neg, abs_of_pos positive]
    · exact abs_of_pos positive
  have bounded : nightTotal ledger charges charge.id < 10 ^ 28 := by
    have shared := sum_nightTotal_le fits.distinct allocated.positive
    have least := List.single_le_sum (l := charges.map (nightTotal ledger charges ·.id))
      (fun value member => by
        obtain ⟨other, -, rfl⟩ := List.mem_map.mp member
        exact nightTotal_nonneg allocated.positive other.id)
      _ (List.mem_map_of_mem listed)
    have total := fits.nightsTotal_le
    omega
  have exactly : ∀ pairs : List (NightAllocation × Transaction),
      pairs.Perm (completedAllocations ledger charges charge.id) ->
      contextSum (pairs.map (nightNet ledger)) = (signedTotal ledger charges charge.id : ℚ) := by
    intro pairs permuted
    have spelled : pairs.map (nightNet ledger) = (pairs.map signedAllocation).map Int.cast := by
      rw [List.map_map]
      apply List.map_congr_left
      intro pair member
      exact whole pair (permuted.mem_iff.mp member)
    have sameSizes := ((permuted.map signedAllocation).map (|·|)).sum_eq
    rw [spelled, contextSum_intCast]
    · rw [(permuted.map signedAllocation).sum_eq]
      rfl
    · rw [sameSizes, sizes]
      exact bounded
  obtain ⟨pairs, permuted, sum⟩ := exists_perm_nets allocated charge.id
  refine ⟨sum.trans (exactly pairs permuted), ?_, ?_⟩
  · rw [paidOnCharge_eq_contextSum (List.mem_map_of_mem listed),
      exactly _ (List.Perm.refl _), quantizeHalfUp_intCast]
  · have triangle := abs_sum_le_sum_abs
      ((completedAllocations ledger charges charge.id).map signedAllocation)
    rw [sizes] at triangle
    exact triangle

theorem extraBalanceDue_eq_cents : extraBalanceDue ledger transactions charges =
      cents (contextSum (charges.map fun charge => max 0 (inContext
        (charge.amount - paidByCharge ledger transactions charges charge.id)))) := by
  unfold extraBalanceDue contextSum
  rw [List.foldl_map]

theorem extraBalanceDue_eq_sum (allocated : NightsFullyAllocated ledger reservationId charges)
    (fits : NightsFit ledger charges) (named : RefundsNamed ledger charges) :
    extraBalanceDue ledger (ledger.forReservation reservationId) charges =
      (((charges.map (dueOnCharge ledger)).sum : Int) : ℚ) := by
  have sizes : ∀ charge ∈ charges,
      |charge.amount - signedTotal ledger charges charge.id| ≤
        10 ^ 12 + nightTotal ledger charges charge.id := by
    intro charge listed
    obtain ⟨-, -, net⟩ := paid_eq_signedTotal allocated fits named listed
    have amount := fits.chargeAmounts charge listed
    have triangle := abs_sub charge.amount (signedTotal ledger charges charge.id)
    omega
  have totals : (charges.map fun charge =>
      10 ^ 12 + nightTotal ledger charges charge.id).sum ≤ 2 ^ 31 * 10 ^ 12 + 2 ^ 31 * 10 ^ 12 := by
    have shared := sum_nightTotal_le fits.distinct allocated.positive
    have whole := fits.nightsTotal_le
    have rows := fits.chargeRows
    rw [List.sum_map_add, List.map_const', List.sum_replicate, nsmul_eq_mul]
    omega
  have dues : charges.map (fun charge => max 0 (inContext (charge.amount - paidByCharge ledger
        (ledger.forReservation reservationId) charges charge.id))) =
      (charges.map (dueOnCharge ledger)).map Int.cast := by
    rw [List.map_map]
    apply List.map_congr_left
    intro charge listed
    obtain ⟨summary, list, -⟩ := paid_eq_signedTotal allocated fits named listed
    have size := sizes charge listed
    have least := List.single_le_sum (l := charges.map fun charge =>
        10 ^ 12 + nightTotal ledger charges charge.id)
      (fun value member => by
        obtain ⟨other, -, rfl⟩ := List.mem_map.mp member
        have := nightTotal_nonneg allocated.positive other.id
        omega)
      _ (List.mem_map_of_mem listed)
    rw [summary, ← Int.cast_sub, inContext_intCast (by omega)]
    simp only [Function.comp_apply, dueOnCharge, list]
    push_cast
    rfl
  have dueSizes : ((charges.map (dueOnCharge ledger)).map (|·|)).sum < 10 ^ 28 := by
    have each := List.sum_le_sum (l := charges) (f := (|dueOnCharge ledger ·|))
      (g := (10 ^ 12 + nightTotal ledger charges ·.id))
      fun charge listed => by
        obtain ⟨-, list, -⟩ := paid_eq_signedTotal allocated fits named listed
        have size := sizes charge listed
        unfold dueOnCharge
        rw [abs_le] at size ⊢
        omega
    rw [List.map_map]
    exact lt_of_le_of_lt (each.trans totals) (by norm_num)
  rw [extraBalanceDue_eq_cents, dues, contextSum_intCast dueSizes]
  exact cents_intCast _

/-! ## Refunds spread over the nights -/

/-- Refunds spread over a payment return part of it. -/
theorem refundFraction_mem (allocated : NightsFullyAllocated ledger reservationId charges)
    (member : pair ∈ chargeAllocations ledger charges) :
    0 ≤ refundFraction ledger pair.2 ∧ refundFraction ledger pair.2 ≤ 1 := by
  have positive := allocated.amount_pos member
  have cast : (0 : ℚ) < pair.2.amount := by exact_mod_cast positive
  have refunds : 0 ≤ unallocatedRefunds ledger pair.2.id := by
    apply List.sum_nonneg
    intro amount amountIn
    obtain ⟨row, rowIn, rfl⟩ := List.mem_map.mp amountIn
    obtain ⟨stored, kept⟩ := List.mem_filter.mp rowIn
    rw [Bool.and_eq_true, decide_eq_true_eq] at kept
    obtain ⟨⟨source, refund, completed⟩, -⟩ := kept
    exact (allocated.refunds row stored refund completed ⟨pair, member, source⟩).2.1
  have part : (0 : ℚ) ≤ (min (unallocatedRefunds ledger pair.2.id) pair.2.amount : Int) := by
    exact_mod_cast le_min refunds positive.le
  unfold refundFraction
  rw [if_pos positive]
  constructor
  · exact inContext_nonneg (div_nonneg part cast.le)
  · have whole : (((min (unallocatedRefunds ledger pair.2.id)
        pair.2.amount : Int) : ℚ) / pair.2.amount) ≤ ((1 : Int) : ℚ) := by
      rw [div_le_iff₀ cast, Int.cast_one, one_mul]
      exact_mod_cast min_le_right _ _
    have kept := inContext_le (by norm_num) (by norm_num) whole
    rwa [Int.cast_one] at kept

theorem abs_nightNet_le (allocated : NightsFullyAllocated ledger reservationId charges)
    (member : pair ∈ chargeAllocations ledger charges)
    (amount : pair.1.amount < 10 ^ 12) :
    |nightNet ledger pair| ≤ pair.1.amount := by
  have positive := allocated.positive pair member
  have cast : (0 : ℚ) < pair.1.amount := by exact_mod_cast positive
  unfold nightNet
  split_ifs
  · rw [abs_neg, abs_of_pos cast]
  · obtain ⟨low, high⟩ := refundFraction_mem allocated member
    have rest : (0 : ℚ) ≤ inContext (1 - refundFraction ledger pair.2) :=
      inContext_nonneg (by linarith)
    have atMost : inContext (1 - refundFraction ledger pair.2) ≤ 1 := by
      have below : 1 - refundFraction ledger pair.2 ≤ ((1 : Int) : ℚ) := by
        rw [Int.cast_one]
        linarith
      have kept := inContext_le (by norm_num) (by norm_num) below
      rwa [Int.cast_one] at kept
    rw [abs_of_nonneg (inContext_nonneg (mul_nonneg cast.le rest))]
    apply inContext_le positive.le (by omega)
    exact mul_le_of_le_one_right cast.le atMost

/-- Exact net of a night. -/
def netTotal (ledger : Ledger) (charges : List CompanyNightCharge) (chargeId : Int) : ℚ :=
  ((completedAllocations ledger charges chargeId).map (nightNet ledger)).sum

/-- The amounts of the nights and of their allocations together fit a money
column. -/
def NightsWithinColumn (ledger : Ledger) (charges : List CompanyNightCharge) :
    Prop :=
  (charges.map (|·.amount|)).sum + nightsTotal ledger charges < 10 ^ 12

theorem sum_abs_nets_le {reservationId chargeId : Int}
    (allocated : NightsFullyAllocated ledger reservationId charges)
    (fits : NightsFit ledger charges)
    {pairs : List (NightAllocation × Transaction)}
    (permuted : pairs.Perm (completedAllocations ledger charges chargeId)) :
    ((pairs.map (nightNet ledger)).map (|·|)).sum ≤ (nightTotal ledger charges chargeId : ℚ) := by
  have pairIn : ∀ pair ∈ pairs, pair ∈ chargeAllocations ledger charges :=
    fun pair member => (List.mem_filter.mp (permuted.mem_iff.mp member)).1
  have each := List.sum_le_sum (l := pairs) (f := (|nightNet ledger ·|))
    (g := fun pair => (pair.1.amount : ℚ))
    fun pair member => abs_nightNet_le allocated (pairIn pair member)
      (fits.amounts pair (pairIn pair member))
  rw [List.map_map]
  refine each.trans_eq ?_
  rw [Database.sum_intCast]
  exact congrArg Int.cast (permuted.map (·.1.amount)).sum_eq

theorem abs_netTotal_le (allocated : NightsFullyAllocated ledger reservationId charges)
    (fits : NightsFit ledger charges) (chargeId : Int) :
    |netTotal ledger charges chargeId| ≤ (nightTotal ledger charges chargeId : ℚ) :=
  (abs_sum_le_sum_abs _).trans (sum_abs_nets_le allocated fits (List.Perm.refl _))

theorem NightsWithinColumn.nightsTotal_lt (column : NightsWithinColumn ledger charges) :
    nightsTotal ledger charges < 10 ^ 12 := by
  have amounts : 0 ≤ (charges.map (|·.amount|)).sum :=
    List.sum_nonneg fun value member => by
      obtain ⟨charge, -, rfl⟩ := List.mem_map.mp member
      exact abs_nonneg _
  unfold NightsWithinColumn at column
  omega

section Close

variable {reservationId : Int} (allocated : NightsFullyAllocated ledger reservationId charges)
  (fits : NightsFit ledger charges)
  (column : NightsWithinColumn ledger charges)

include allocated fits column

theorem abs_contextSum_nets_sub_le {chargeId : Int} {pairs : List (NightAllocation × Transaction)}
    (permuted : pairs.Perm (completedAllocations ledger charges chargeId)) :
    |contextSum (pairs.map (nightNet ledger)) - netTotal ledger charges chargeId| ≤
      2 * (nightTotal ledger charges chargeId : ℚ) / 10 ^ 15 := by
  have nonneg := nightTotal_nonneg allocated.positive chargeId
  have sizes := sum_abs_nets_le allocated fits permuted
  have counted : (pairs.length : Int) ≤ nightsTotal ledger charges := by
    have each := List.sum_le_sum (l := chargeAllocations ledger charges) (f := fun _ => (1 : Int))
      (g := (·.1.amount))
      allocated.positive
    rw [List.map_const', List.sum_replicate, nsmul_one] at each
    have part : pairs.length ≤ (chargeAllocations ledger charges).length := by
      rw [permuted.length_eq]
      exact List.length_filter_le _ _
    have : (pairs.length : Int) ≤ ((chargeAllocations ledger charges).length : Int) := by
      exact_mod_cast part
    exact this.trans each
  have below := column.nightsTotal_lt
  have short : (pairs.length : ℚ) ≤ 10 ^ 12 := by
    have : (pairs.length : Int) ≤ 10 ^ 12 := by omega
    exact_mod_cast this
  have close := abs_contextSum_sub_le sizes (by
    rw [List.length_map]
    linarith)
  rw [List.length_map, (permuted.map (nightNet ledger)).sum_eq] at close
  calc |contextSum (pairs.map (nightNet ledger)) - netTotal ledger charges chargeId|
      ≤ pairs.length * (2 * (nightTotal ledger charges chargeId : ℚ) / 10 ^ 27) := close
    _ ≤ 10 ^ 12 * (2 * (nightTotal ledger charges chargeId : ℚ) / 10 ^ 27) := by
        gcongr
    _ = 2 * (nightTotal ledger charges chargeId : ℚ) / 10 ^ 15 := by ring

theorem abs_dueOnCharge_sub_le (charge : CompanyNightCharge) (listed : charge ∈ charges) :
    |(dueOnCharge ledger charge : ℚ) - max 0 (charge.amount - netTotal ledger charges charge.id)| ≤
      1 / 2 + 2 * (nightTotal ledger charges charge.id : ℚ) / 10 ^ 15 := by
  have close := abs_contextSum_nets_sub_le allocated fits column
    (List.Perm.refl (completedAllocations ledger charges charge.id))
  have rounded := abs_roundHalfUp_sub_le
    (contextSum ((completedAllocations ledger charges charge.id).map (nightNet ledger)))
  have paid : (paidOnCharge ledger charge.id : ℚ) = roundHalfUp (contextSum
        ((completedAllocations ledger charges charge.id).map (nightNet ledger))) := by
    rw [paidOnCharge_eq_contextSum (List.mem_map_of_mem listed)]
    unfold quantizeHalfUp
    rw [pow_zero, mul_one]
  unfold dueOnCharge
  push_cast
  rw [max_comm 0, max_comm (0 : ℚ) ((charge.amount : ℚ) - _)]
  refine (abs_max_sub_max_le_abs _ _ 0).trans ?_
  rw [sub_sub_sub_cancel_left, paid, abs_sub_comm]
  exact (abs_sub_le _ _ _).trans (add_le_add rounded close)

theorem abs_summaryDue_sub_le (charge : CompanyNightCharge) :
    |max 0 (inContext (charge.amount - paidByCharge ledger
          (ledger.forReservation reservationId) charges charge.id)) -
        max 0 (charge.amount - netTotal ledger charges charge.id)| ≤
      ((|charge.amount| : Int) + 4 * (nightTotal ledger charges charge.id : ℚ)) / 10 ^ 15 := by
  obtain ⟨pairs, permuted, sum⟩ := exists_perm_nets allocated charge.id
  have close := abs_contextSum_nets_sub_le allocated fits column permuted
  have net := abs_netTotal_le allocated fits charge.id
  have nonneg : (0 : ℚ) ≤ nightTotal ledger charges charge.id :=
    (abs_nonneg _).trans net
  rw [← sum] at close
  generalize paidByCharge ledger (ledger.forReservation reservationId)
    charges charge.id = paid at close
  have rounded := abs_inContext_sub_le ((charge.amount : ℚ) - paid)
  rw [max_comm 0, max_comm (0 : ℚ) ((charge.amount : ℚ) - _)]
  refine (abs_max_sub_max_le_abs _ _ 0).trans ?_
  have reach : |(charge.amount : ℚ) - paid| ≤
      |(charge.amount : ℚ)| + 2 * nightTotal ledger charges charge.id := by
    have paidSize := abs_sub_abs_le_abs_sub paid (netTotal ledger charges charge.id)
    have triangle := abs_sub (charge.amount : ℚ) paid
    linarith
  have moved : |(charge.amount : ℚ) - paid - (charge.amount - netTotal ledger charges charge.id)| ≤
        2 * (nightTotal ledger charges charge.id : ℚ) / 10 ^ 15 := by
    rw [sub_sub_sub_cancel_left, abs_sub_comm]
    exact close
  have amount : (0 : ℚ) ≤ |(charge.amount : ℚ)| := abs_nonneg _
  refine (abs_sub_le _ ((charge.amount : ℚ) - paid) _).trans ?_
  push_cast
  linarith

/-- The list's total is within half a cent for each night of the exact
balance. -/
theorem abs_sum_dueOnCharge_sub_le :
    |(((charges.map (dueOnCharge ledger)).sum : Int) : ℚ) - (charges.map fun charge =>
          max 0 (charge.amount - netTotal ledger charges charge.id)).sum| ≤
      (charges.length : ℚ) / 2 + 1 / 100 := by
  have close := abs_sum_map_sub_le (abs_dueOnCharge_sub_le allocated fits column)
  rw [Database.sum_intCast] at close
  have shared : ((charges.map fun charge =>
      nightTotal ledger charges charge.id).sum : Int) < 10 ^ 12 :=
    lt_of_le_of_lt (sum_nightTotal_le fits.distinct allocated.positive) column.nightsTotal_lt
  have spelled : (charges.map fun charge => (1 : ℚ) / 2 +
      2 * (nightTotal ledger charges charge.id : ℚ) / 10 ^ 15).sum =
      charges.length / 2 + 2 * (((charges.map fun charge =>
        nightTotal ledger charges charge.id).sum : Int) : ℚ) / 10 ^ 15 := by
    have term : ∀ charge : CompanyNightCharge,
        2 * (nightTotal ledger charges charge.id : ℚ) / 10 ^ 15 =
          2 / 10 ^ 15 * (nightTotal ledger charges charge.id : ℚ) := by
      intro charge
      ring
    simp only [term]
    rw [List.sum_map_add, List.map_const', List.sum_replicate,
      nsmul_eq_mul, ← Database.sum_intCast, List.sum_map_mul_left]
    ring
  have cast : (((charges.map fun charge =>
      nightTotal ledger charges charge.id).sum : Int) : ℚ) < 10 ^ 12 := by
    exact_mod_cast shared
  linarith

/-- The summary's balance is within half a cent of the exact balance, up to
the last digits of the context. -/
theorem abs_extraBalanceDue_sub_le :
    |extraBalanceDue ledger (ledger.forReservation reservationId) charges -
        (charges.map fun charge => max 0 (charge.amount - netTotal ledger charges charge.id)).sum| ≤
      1 / 2 + 1 / 100 := by
  have shared := sum_nightTotal_le fits.distinct allocated.positive
  have within : (((charges.map (|·.amount|)).sum : Int) : ℚ) + (((charges.map fun charge =>
        nightTotal ledger charges charge.id).sum : Int) : ℚ) < 10 ^ 12 := by
    have : (charges.map (|·.amount|)).sum + (charges.map fun charge =>
          nightTotal ledger charges charge.id).sum < 10 ^ 12 := by
      unfold NightsWithinColumn at column
      omega
    exact_mod_cast this
  have amounts : (0 : ℚ) ≤ (((charges.map (|·.amount|)).sum : Int) : ℚ) := by
    have : 0 ≤ (charges.map (|·.amount|)).sum :=
      List.sum_nonneg fun value member => by
        obtain ⟨charge, -, rfl⟩ := List.mem_map.mp member
        exact abs_nonneg _
    exact_mod_cast this
  have weighted : ∀ weight : ℚ, (charges.map fun charge =>
      (((|charge.amount| : Int) : ℚ) + weight * (nightTotal ledger charges charge.id : ℚ))).sum =
      (((charges.map (|·.amount|)).sum : Int) : ℚ) + weight * (((charges.map fun charge =>
          nightTotal ledger charges charge.id).sum : Int) : ℚ) := by
    intro weight
    rw [List.sum_map_add, List.sum_map_mul_left, Database.sum_intCast, Database.sum_intCast]
  have dues := abs_sum_map_sub_le fun charge (_ : charge ∈ charges) =>
    abs_summaryDue_sub_le allocated fits column charge
  have sizes : ((charges.map fun charge => max 0 (inContext (charge.amount - paidByCharge ledger
        (ledger.forReservation reservationId) charges charge.id))).map
          (|·|)).sum ≤ 2 * 10 ^ 12 := by
    have each := List.sum_le_sum (l := charges)
      (f := fun charge => |max 0 (inContext (charge.amount - paidByCharge
        ledger (ledger.forReservation reservationId) charges charge.id))|)
      (g := fun charge => 2 * (((|charge.amount| : Int) : ℚ) +
        1 * (nightTotal ledger charges charge.id : ℚ)))
      fun charge _ => by
        have close := abs_summaryDue_sub_le allocated fits column charge
        have net := abs_netTotal_le allocated fits charge.id
        have amount : (0 : ℚ) ≤ ((|charge.amount| : Int) : ℚ) := by
          exact_mod_cast abs_nonneg charge.amount
        have due : |max 0 ((charge.amount : ℚ) - netTotal ledger charges charge.id)| ≤
              |(charge.amount : ℚ)| + nightTotal ledger charges charge.id := by
          have triangle := abs_sub (charge.amount : ℚ) (netTotal ledger charges charge.id)
          rw [abs_of_nonneg (le_max_left _ _)]
          apply max_le
          · linarith [abs_nonneg (charge.amount : ℚ),
              abs_nonneg (netTotal ledger charges charge.id)]
          · linarith [le_abs_self ((charge.amount : ℚ) - netTotal ledger charges charge.id)]
        have near := abs_sub_abs_le_abs_sub (max 0 (inContext (charge.amount - paidByCharge ledger
            (ledger.forReservation reservationId) charges charge.id)))
          (max 0 (charge.amount - netTotal ledger charges charge.id))
        rw [← Int.cast_abs] at due
        have nonneg : (0 : ℚ) ≤ nightTotal ledger charges charge.id :=
          (abs_nonneg _).trans net
        linarith
    rw [List.map_map]
    refine each.trans ?_
    rw [List.sum_map_mul_left, weighted]
    linarith
  have rows : ((charges.length : Nat) : ℚ) ≤ 2 ^ 31 := by
    exact_mod_cast fits.chargeRows.le
  have summed := abs_contextSum_sub_le sizes (by
    rw [List.length_map]
    linarith)
  rw [List.length_map] at summed
  have spread : (charges.map fun charge => (((|charge.amount| : Int) : ℚ) +
        4 * (nightTotal ledger charges charge.id : ℚ)) / 10 ^ 15).sum ≤
      4 / 1000 := by
    have scaled : ∀ charge : CompanyNightCharge, (((|charge.amount| : Int) : ℚ) +
          4 * (nightTotal ledger charges charge.id : ℚ)) / 10 ^ 15 =
        1 / 10 ^ 15 * (((|charge.amount| : Int) : ℚ) +
          4 * (nightTotal ledger charges charge.id : ℚ)) := by
      intro charge
      ring
    simp only [scaled]
    rw [List.sum_map_mul_left, weighted]
    linarith
  rw [extraBalanceDue_eq_cents]
  generalize contextSum (charges.map fun charge => max 0 (inContext
    (charge.amount - paidByCharge ledger
      (ledger.forReservation reservationId) charges charge.id))) = total at summed
  have rounded := abs_roundHalfEven_sub_le total
  have cent : cents total = roundHalfEven total := by
    unfold cents quantize
    rw [pow_zero, mul_one]
  rw [cent]
  refine (abs_sub_le _ total _).trans ?_
  have close := (abs_sub_le total _ _).trans (add_le_add summed dues)
  linarith

/-- The summary's balance and the total of the list differ by at most half a
cent for each night and half a cent for the total. -/
theorem two_mul_abs_extraBalanceDue_sub_le :
    2 * |extraBalanceDue ledger (ledger.forReservation reservationId) charges -
        (((charges.map (dueOnCharge ledger)).sum : Int) : ℚ)| ≤
      charges.length + 1 := by
  have summary := abs_extraBalanceDue_sub_le allocated fits column
  have list := abs_sum_dueOnCharge_sub_le allocated fits column
  rw [abs_sub_comm] at list
  have apart := (abs_sub_le _ _ _).trans (add_le_add summary list)
  obtain ⟨whole, isWhole⟩ : ∃ whole : Int,
      extraBalanceDue ledger (ledger.forReservation reservationId) charges = (whole : ℚ) := ⟨_, rfl⟩
  rw [isWhole] at apart ⊢
  have strict : ((2 * |whole - (charges.map (dueOnCharge ledger)).sum| : Int) :
      ℚ) < ((charges.length + 2 : Int) : ℚ) := by
    push_cast at apart ⊢
    linarith
  have bound : 2 * |whole - (charges.map (dueOnCharge ledger)).sum| < charges.length + 2 := by
    exact_mod_cast strict
  have : 2 * |whole - (charges.map (dueOnCharge ledger)).sum| ≤ charges.length + 1 := by
    omega
  exact_mod_cast this

end Close

end Summary

end Nets

namespace Database

variable {db : Database} {reservation : StoredReservation}

/-- Nights of a stored reservation. -/
def nightsOf (db : Database) (reservation : StoredReservation) : List CompanyNightCharge :=
  chargesOfReservation (ofHotel reservation.hotelId db.nightCharges)
    reservation.toReservationFinancials

theorem getCompanyNightCharges_remainingDue (stored : reservation ∈ db.reservations)
    {today : Int} {nights : CompanyNightChargesSummary}
    (listed : db.getCompanyNightCharges reservation.hotelId reservation.id today = .ok nights) :
    (nights.charges.map CompanyNightChargeRead.remainingDue).sum =
        ((db.nightsOf reservation).map (dueOnCharge (db.ledger reservation.hotelId))).sum ∧
      nights.charges.length = (db.nightsOf reservation).length := by
  unfold getCompanyNightCharges at listed
  split at listed
  · cases listed
  next row found =>
    have same := List.find?_some found
    rw [decide_eq_true_eq] at same
    obtain rfl : row = reservation :=
      reservation_unique (List.mem_of_find?_eq_some found) stored same.1
    split at listed
    · cases listed
    next companyId _ =>
      obtain ⟨_, -, result⟩ := bind_eq_ok.mp listed
      cases result
      have sorted := KeySort.sortByKey_perm (fun charge : CompanyNightCharge =>
          (toLex (charge.stayDate, charge.id) : ℤ ×ₗ ℤ))
        (db.nightsOf row)
      constructor
      · simp only [companyNightChargesSummary, List.map_map]
        exact (sorted.map _).sum_eq
      · simp only [companyNightChargesSummary, List.length_map]
        exact sorted.length_eq

theorem nightsFit (db : Database) (reservation : StoredReservation) :
    NightsFit (db.ledger reservation.hotelId) (db.nightsOf reservation) := by
  have charge : ∀ row ∈ db.nightsOf reservation, ⟨reservation.hotelId, row⟩ ∈ db.nightCharges :=
    fun row member => mem_ofHotel.mp (List.mem_filter.mp member).1
  refine ⟨?_, ?_, ?_, ?_, ?_⟩
  · have kept : (ofHotel reservation.hotelId db.nightCharges).map CompanyNightCharge.id =
        (db.nightCharges.filter fun entry =>
          entry.hotelId = reservation.hotelId).map (·.row.id) := by
      rw [ofHotel, List.map_map]
      rfl
    refine List.Nodup.sublist (List.filter_sublist.map _) ?_
    rw [kept]
    exact db.distinctCharges.sublist (List.filter_sublist.map _)
  · intro pair member
    exact db.allocationAmounts _ (mem_ofHotel.mp (mem_chargeAllocations member).1)
  · refine lt_of_le_of_lt (List.length_filterMap_le _ _) ?_
    refine lt_of_le_of_lt ?_ db.allocationRows
    change (ofHotel reservation.hotelId db.allocations).length ≤ _
    rw [ofHotel, List.length_map]
    exact List.length_filter_le _ _
  · intro row member
    exact db.chargeAmounts _ (charge row member)
  · refine lt_of_le_of_lt (List.length_filter_le _ _) ?_
    refine lt_of_le_of_lt ?_ db.chargeRows
    rw [ofHotel, List.length_map]
    exact List.length_filter_le _ _

/-- A reservation of a company that settles outside. -/
def deferredStay : StoredReservation where
  id := 7
  hotelId := 1
  guestId := 4
  checkInDate := 10
  checkOutDate := 13
  totalAmount := 50000
  companyId := some 3

/-- A payment of 30.00 for three nights and, unless its nights are named, a
refund of 10.00 of it. -/
def deferredTransactions : List (Scoped Transaction) :=
  [⟨1, cardRow 1 7 3000 .partialPayment⟩,
    ⟨1, { cardRow 2 7 1000 .refund with refundOfTransactionId := some 1 }⟩]

def deferredAllocations : List (Scoped NightAllocation) :=
  [⟨1, ⟨1, 1, 1000⟩⟩, ⟨1, ⟨1, 2, 1000⟩⟩, ⟨1, ⟨1, 3, 1000⟩⟩]

def deferredCharges : List (Scoped CompanyNightCharge) :=
  [⟨1, ⟨1, 7, 10, 1000, "ARS"⟩⟩, ⟨1, ⟨2, 7, 11, 1000, "ARS"⟩⟩, ⟨1, ⟨3, 7, 12, 1000, "ARS"⟩⟩]

theorem deferred_distinctReservations : ([deferredStay].map (·.id)).Nodup := by
  decide

theorem deferred_distinctTransactions : (deferredTransactions.map (·.row.id)).Nodup := by
  decide

theorem deferred_distinctCharges : (deferredCharges.map (·.row.id)).Nodup := by
  decide

theorem deferred_idsBelow : ∀ entry ∈ deferredTransactions, entry.row.id < 3 := by
  decide

/-- The reservation with its nights, and the given allocations. -/
def deferredDatabase (allocations : List (Scoped NightAllocation))
    (below : ∀ entry ∈ allocations, entry.row.transactionId < 3)
    (amounts : ∀ entry ∈ allocations, entry.row.amount < 10 ^ 12)
    (rows : allocations.length < 2 ^ 31) : Database where
  reservations := [deferredStay]
  transactions := deferredTransactions
  allocations := allocations
  nightCharges := deferredCharges
  companies := [⟨1, { id := 3, paymentDeferred := true }⟩]
  guests := [⟨1, ⟨4, "Ana", "Paz"⟩⟩]
  nextTransactionId := 3
  distinctReservations := deferred_distinctReservations
  hotelsPositive := by simp [deferredStay]
  guestStored := by simp [deferredStay]
  transactionReservation := by
    simp [deferredStay, deferredTransactions, cardRow]
  distinctTransactions := deferred_distinctTransactions
  distinctCharges := deferred_distinctCharges
  idsBelow := deferred_idsBelow
  sourcesBelow := by simp [deferredTransactions, cardRow]
  allocationsBelow := below
  allocationAmounts := amounts
  chargeAmounts := by simp [deferredCharges]
  allocationRows := rows
  chargeRows := by simp [deferredCharges]

/-- The refund names no nights. -/
def spreadRefund : Database :=
  deferredDatabase deferredAllocations (by decide) (by decide) (by decide)

def namedRefund : Database :=
  deferredDatabase (⟨1, ⟨2, 1, 1000⟩⟩ :: deferredAllocations) (by decide) (by decide) (by decide)

theorem spreadRefund_fullyAllocated :
    NightsFullyAllocated (spreadRefund.ledger 1) 7 (spreadRefund.nightsOf deferredStay) where
  positive := by decide +kernel
  own := by decide +kernel
  whole := by decide +kernel
  refunds := by decide +kernel

theorem namedRefund_fullyAllocated :
    NightsFullyAllocated (namedRefund.ledger 1) 7 (namedRefund.nightsOf deferredStay) where
  positive := by decide +kernel
  own := by decide +kernel
  whole := by decide +kernel
  refunds := by decide +kernel

end Database

end HotelPms.Payments
