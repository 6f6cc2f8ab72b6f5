import HotelPms.Payments.Collection

/-!
# What runs of calls leave of the ledger

No call rewrites a recorded payment: the ledger grows at its newest end, what
a run adds says which reservations it touched, and a key keeps naming at most
one transaction of its reservation.
-/

namespace HotelPms.Payments

open Transition

/-- The later ledger is the earlier one with fresh rows, and only the
reservations of these rows have changed. -/
structure Extends (start : PaymentState) (fresh : List Transaction) (finish : PaymentState) :
    Prop where
  transactions : finish.ledger.transactions = fresh ++ start.ledger.transactions
  allocations : start.ledger.allocations <:+ finish.ledger.allocations
  adjustments : finish.adjustments = start.adjustments
  others : ∀ reservationId, (∀ row ∈ fresh, row.reservationId ≠ reservationId) ->
    finish.reservations reservationId = start.reservations reservationId

/-- A key names at most one transaction of a reservation. -/
def Ledger.KeysUnique (ledger : Ledger) : Prop :=
  ledger.transactions.Pairwise fun row other =>
    row.reservationId = other.reservationId -> row.idempotencyKey = other.idempotencyKey ->
      row.idempotencyKey = none

section

variable {env : PaymentEnvironment} {start state after finish : PaymentState} {call : PaymentCall}
  {transaction : Transaction} {fresh : List Transaction}
  {guard : PaymentState -> PaymentEnvironment × PaymentCall -> Prop}

theorem Extends.write (before : Extends start fresh state)
    (written : NewTransaction env state call after transaction) :
    Extends start (transaction :: fresh) after where
  transactions := by
    rw [written.flushed.transactions, ← written.isDraft, before.transactions, List.cons_append]
  allocations := by
    rw [written.flushed.allocations]
    exact before.allocations.trans (List.suffix_append _ _)
  adjustments := written.adjustments.trans before.adjustments
  others := by
    intro reservationId unnamed
    obtain ⟨other, rest⟩ := List.forall_mem_cons.mp unnamed
    rw [written.columns.reservationId] at other
    rw [written.reservations, Function.update_of_ne other.symm, before.others reservationId rest]

theorem NewTransaction.keysUnique (written : NewTransaction env state call after transaction)
    (unique : state.ledger.KeysUnique) : after.ledger.KeysUnique := by
  unfold Ledger.KeysUnique
  rw [written.flushed.transactions, ← written.isDraft, List.pairwise_cons]
  refine ⟨fun row member sameReservation sameKey => ?_, unique⟩
  have columns := written.columns
  by_contra keyed
  obtain ⟨key, isKey⟩ := Option.ne_none_iff_exists'.mp keyed
  -- The key was looked up before the row was written, and not found.
  have unseen := written.newKey
  rw [← columns.idempotencyKey, isKey, Option.bind_some, Ledger.transactionByKey,
    List.find?_eq_none] at unseen
  apply unseen row member
  rw [decide_eq_true_eq, ← sameReservation, ← sameKey, columns.reservationId]
  exact ⟨rfl, isKey⟩

/-- What an accepted call does: it replays, or writes one transaction. -/
theorem paymentStep_cases {event : PaymentEnvironment × PaymentCall}
    (taken : paymentStep state event = some after) : after = state ∨
      ∃ transaction, Nonempty (NewTransaction event.1 state event.2 after transaction) := by
  obtain ⟨transaction, processed⟩ := paymentStep_eq_some taken
  exact (exists_newTransaction processed).imp And.left (⟨transaction, ·⟩)

/-- A run only adds to the ledger: recorded transactions and night allocations
stay as they were written, the paid net of every reservation moves by exactly
the rows the run added for it, and a reservation without one is unchanged. -/
theorem reaches_extends (reached : Reaches paymentStep guard start finish) :
    ∃ fresh, Extends start fresh finish ∧ ∀ reservationId,
      finish.ledger.completedPaidAmount reservationId =
        start.ledger.completedPaidAmount reservationId +
          ((fresh.filter (·.reservationId = reservationId)).map Transaction.ledgerEffect).sum := by
  induction reached with
  | refl => exact ⟨[], ⟨rfl, List.suffix_rfl, rfl, fun _ _ => rfl⟩, by simp⟩
  | next _ _ taken ih =>
    obtain ⟨fresh, grown, moved⟩ := ih
    rcases paymentStep_cases taken with rfl | ⟨transaction, ⟨written⟩⟩
    · exact ⟨fresh, grown, moved⟩
    · refine ⟨transaction :: fresh, grown.write written, fun reservationId => ?_⟩
      rw [written.completedPaidAmount, moved, List.filter_cons, written.columns.reservationId]
      split_ifs with own named named
      · rw [List.map_cons, List.sum_cons]
        omega
      · exact absurd (decide_eq_true own) named
      · exact absurd (of_decide_eq_true named) own
      · omega

/-- Over any run of calls, replays included, a key names at most one
transaction of a reservation when it did at the start. -/
theorem reaches_keysUnique (unique : start.ledger.KeysUnique)
    (reached : Reaches paymentStep guard start finish) : finish.ledger.KeysUnique := by
  induction reached with
  | refl => exact unique
  | next _ _ taken ih =>
    rcases paymentStep_cases taken with rfl | ⟨transaction, ⟨written⟩⟩
    · exact ih
    · exact written.keysUnique ih

end

/-- A card payment under a key. -/
def keyedPayment : PaymentCall :=
  { cardPayment with idempotencyKey := some "cobro-1" }

theorem keyedPayment_reaches :
    ∃ finish, finish.ledger.transactions ≠ [] ∧
      Reaches paymentStep (fun _ _ => True) (directState 0 (by decide)) finish := by
  have processed : ∃ finish, finish.ledger.transactions ≠ [] ∧
      paymentStep (directState 0 (by decide)) (quietEnvironment, keyedPayment) = some finish :=
    ⟨_, List.cons_ne_nil _ _, rfl⟩
  obtain ⟨finish, written, taken⟩ := processed
  exact ⟨finish, written, Reaches.refl.next trivial taken⟩

theorem reaches_extends_sample :
    ∃ finish fresh, fresh ≠ [] ∧ Extends (directState 0 (by decide)) fresh finish := by
  obtain ⟨finish, written, reached⟩ := keyedPayment_reaches
  obtain ⟨fresh, grown, -⟩ := reaches_extends reached
  refine ⟨finish, fresh, ?_, grown⟩
  rintro rfl
  exact written (grown.transactions.trans rfl)

theorem reaches_keysUnique_sample :
    ∃ finish : PaymentState, finish.ledger.transactions ≠ [] ∧ finish.ledger.KeysUnique := by
  obtain ⟨finish, written, reached⟩ := keyedPayment_reaches
  have unique : (directState 0 (by decide)).ledger.KeysUnique := List.Pairwise.nil
  exact ⟨finish, written, reaches_keysUnique unique reached⟩

end HotelPms.Payments
