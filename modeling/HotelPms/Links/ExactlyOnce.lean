import HotelPms.Links.Runs

/-!
# Exactly one payment and one transaction

Whatever the order of its notifications, a payment of the provider has one row
and at most one transaction, which is written only after the payment was
reported completed.  Its amount and its currency stay, its status moves along
the table of allowed transitions, and a notification that is already logged
changes nothing.
-/

namespace HotelPms.Links

open Checked Decimal Hotel Payments

theorem completedKey_inj {provider other : LinkProvider} {externalPaymentId otherId : String}
    (same : completedKey provider externalPaymentId = completedKey other otherId) :
    provider = other ∧ externalPaymentId = otherId := by
  have spelled := congrArg String.toList same
  unfold completedKey at spelled
  simp only [String.toList_append] at spelled
  have unended := List.append_cancel_right spelled
  have mercadoPago : LinkProvider.mercadoPago.value.toList ++ ":".toList =
      "mercado_pago:".toList := by decide
  have paypal : LinkProvider.paypal.value.toList ++ ":".toList = "paypal:".toList := by decide
  cases provider with
  | mercadoPago =>
    cases other with
    | mercadoPago =>
      exact ⟨rfl, String.toList_inj.mp (List.append_cancel_left unended)⟩
    | paypal =>
      rw [mercadoPago, paypal] at unended
      have first := congrArg List.head? unended
      simp at first
  | paypal =>
    cases other with
    | mercadoPago =>
      rw [mercadoPago, paypal] at unended
      have first := congrArg List.head? unended
      simp at first
    | paypal =>
      exact ⟨rfl, String.toList_inj.mp (List.append_cancel_left unended)⟩

/-- The table of transitions is reflexive and transitive. -/
theorem IsAllowedStatusTransition.refl (status : PaymentStatus) :
    IsAllowedStatusTransition status status := by
  cases status <;> decide

theorem IsAllowedStatusTransition.trans {first second third : PaymentStatus}
    (next : IsAllowedStatusTransition first second)
    (last : IsAllowedStatusTransition second third) :
    IsAllowedStatusTransition first third := by
  revert next last
  cases first <;> cases second <;> cases third <;> decide

/-- Provider and external id of a payment. -/
def Payment.identity (payment : Payment) : LinkProvider × String :=
  (payment.provider, payment.externalPaymentId)

/-- A later row of the same payment. -/
structure KeptPayment (earlier later : Payment) : Prop where
  id : later.id = earlier.id
  identity : later.identity = earlier.identity
  reservationId : later.reservationId = earlier.reservationId
  amount : later.amount = earlier.amount
  currency : later.currency = earlier.currency
  status : IsAllowedStatusTransition earlier.status later.status

theorem KeptPayment.refl (payment : Payment) : KeptPayment payment payment :=
  ⟨rfl, rfl, rfl, rfl, rfl, .refl payment.status⟩

theorem KeptPayment.trans {first second third : Payment}
    (next : KeptPayment first second) (last : KeptPayment second third) :
    KeptPayment first third where
  id := last.id.trans next.id
  identity := last.identity.trans next.identity
  reservationId := last.reservationId.trans next.reservationId
  amount := last.amount.trans next.amount
  currency := last.currency.trans next.currency
  status := next.status.trans last.status

/-- Every payment of an earlier state has its row in a later one. -/
def PaymentsKept (earlier later : LinkState) : Prop :=
  ∀ payment ∈ earlier.payments, ∃ kept ∈ later.payments, KeptPayment payment kept

theorem PaymentsKept.refl (state : LinkState) : PaymentsKept state state :=
  fun payment member => ⟨payment, member, .refl payment⟩

theorem PaymentsKept.trans {first second third : LinkState}
    (next : PaymentsKept first second) (last : PaymentsKept second third) :
    PaymentsKept first third := by
  intro payment member
  obtain ⟨middle, middleIn, kept⟩ := next payment member
  obtain ⟨final, finalIn, kept'⟩ := last middle middleIn
  exact ⟨final, finalIn, kept.trans kept'⟩

namespace LinkState

variable (state : LinkState)

def completionTransactions
    (provider : LinkProvider) (externalPaymentId : String) : List Transaction :=
  state.accounts.ledger.transactions.filter fun row =>
    row.idempotencyKey = some (completedKey provider externalPaymentId)

end LinkState

/-- Payment rows are numbered, no two are of the same payment, and their
currencies are normalized. -/
structure PaymentTable (state : LinkState) : Prop where
  numbered : Table.Numbered Payment.id state.nextPaymentId state.payments
  identities : (state.payments.map Payment.identity).Nodup
  currencies : ∀ payment ∈ state.payments, normalizeCurrency payment.currency = payment.currency

/-- What every run of links keeps. -/
structure ReceiptInvariant (state : LinkState) : Prop where
  table : PaymentTable state
  /-- A transaction belongs to the reservation of its payment. -/
  keyed : ∀ provider externalPaymentId,
    ∀ row ∈ state.completionTransactions provider externalPaymentId, ∃ payment ∈ state.payments,
        payment.identity = (provider, externalPaymentId) ∧
        row.reservationId = payment.reservationId
  oneTransaction : ∀ provider externalPaymentId,
    (state.completionTransactions provider externalPaymentId).length ≤ 1

/-! ## Recording a charge -/

section

variable {env : LinkEnvironment} {state after recorded : LinkState}
  {provider : LinkProvider} {externalPaymentId webhookId : String}
  {link : PaymentLink} {closed : Option LinkStatus} {charge : Charge}
  {payment other : Payment} {result : WebhookResult} {call : WebhookCall}

theorem payment?_eq_none (absent : state.payment? provider externalPaymentId = none) :
    ∀ payment ∈ state.payments, payment.identity ≠ (provider, externalPaymentId) := by
  intro payment member same
  have differs := List.find?_eq_none.mp absent payment member
  obtain ⟨sameProvider, sameId⟩ := Prod.mk.inj same
  exact differs (decide_eq_true ⟨sameProvider, sameId⟩)

theorem payment?_eq_some (found : state.payment? provider externalPaymentId = some payment) :
    payment ∈ state.payments ∧ payment.identity = (provider, externalPaymentId) := by
  have matched := List.find?_some found
  rw [decide_eq_true_eq] at matched
  exact ⟨List.mem_of_find?_eq_some found, Prod.ext matched.1 matched.2⟩

theorem PaymentTable.eq_of_identity (table : PaymentTable state)
    (member : payment ∈ state.payments) (otherIn : other ∈ state.payments)
    (same : payment.identity = other.identity) : payment = other :=
  Table.eq_of_key table.identities member otherIn same

theorem PaymentTable.of_nil (none : state.payments = []) : PaymentTable state where
  numbered := by
    rw [none]
    exact .nil _ _
  identities := by
    rw [none]
    exact List.nodup_nil
  currencies := by
    intro payment member
    rw [none] at member
    cases member

theorem PaymentTable.storeLink (table : PaymentTable state) (link : PaymentLink) :
    PaymentTable (state.storeLink link) :=
  ⟨table.numbered, table.identities, table.currencies⟩

theorem PaymentTable.of_same (table : PaymentTable state)
    (payments : after.payments = state.payments)
    (nextPaymentId : after.nextPaymentId = state.nextPaymentId) :
    PaymentTable after where
  numbered := by
    rw [payments, nextPaymentId]
    exact table.numbered
  identities := by
    rw [payments]
    exact table.identities
  currencies := by
    rw [payments]
    exact table.currencies

/-- Columns that the moment of completion leaves. -/
theorem keptPayment_withProcessedAt : KeptPayment payment (withProcessedAt charge payment) ∧
      (withProcessedAt charge payment).status = payment.status ∧
      (withProcessedAt charge payment).paymentLinkId = payment.paymentLinkId := by
  unfold withProcessedAt
  split_ifs
  · exact ⟨⟨rfl, rfl, rfl, rfl, rfl, .refl _⟩, rfl, rfl⟩
  · exact ⟨.refl payment, rfl, rfl⟩

theorem newPayment_columns :
    (withProcessedAt charge (newPayment state provider link charge)).id = state.nextPaymentId ∧
      (withProcessedAt charge (newPayment state provider link charge)).identity =
          (provider, charge.externalPaymentId) ∧
      (withProcessedAt charge
        (newPayment state provider link charge)).currency = charge.currency := by
  obtain ⟨kept, -⟩ := @keptPayment_withProcessedAt charge (newPayment state provider link charge)
  exact ⟨kept.id, kept.identity, kept.currency⟩

/-- A known row moves to the reported status and keeps the rest. -/
theorem keptPayment_updatedPayment
    (normalized : normalizeCurrency payment.currency = payment.currency)
    (allowed : IsAllowedStatusTransition payment.status charge.status)
    (sameAmount : payment.amount = charge.amount)
    (sameCurrency : normalizeCurrency payment.currency = charge.currency) :
    KeptPayment payment (withProcessedAt charge (updatedPayment link charge payment)) := by
  have moved : KeptPayment payment (updatedPayment link charge payment) :=
    ⟨rfl, rfl, rfl, sameAmount.symm, sameCurrency.symm.trans normalized, allowed⟩
  exact moved.trans keptPayment_withProcessedAt.1

structure RecordedTable
    (state : LinkState)
    (provider : LinkProvider)
    (charge : Charge)
    (payment : Payment)
    (recorded : LinkState) : Prop where
  table : PaymentTable recorded
  kept : PaymentsKept state recorded
  member : payment ∈ recorded.payments
  identity : payment.identity = (provider, charge.externalPaymentId)
  /-- A known payment stays with its reservation. -/
  reservation : ∀ known ∈ state.payments, known.identity = (provider, charge.externalPaymentId) ->
      payment.reservationId = known.reservationId
  /-- Rows of other payments are left. -/
  others : ∀ row : Payment, row.identity ≠ (provider, charge.externalPaymentId) ->
      (row ∈ recorded.payments ↔ row ∈ state.payments)
  accounts : recorded.accounts = state.accounts
  events : recorded.events = state.events

/-- A row that takes the place of another one of the same payment. -/
theorem PaymentTable.storePayment (table : PaymentTable state)
    (member : payment ∈ state.payments) (kept : KeptPayment payment other) :
    PaymentTable (state.storePayment other) ∧ PaymentsKept state (state.storePayment other) ∧
      other ∈ (state.storePayment other).payments := by
  have known : other.id ∈ state.payments.map Payment.id := by
    rw [kept.id]
    exact List.mem_map_of_mem member
  refine ⟨⟨?_, ?_, ?_⟩, ?_, Table.mem_replace_self known⟩
  · apply table.numbered.replace
    rw [kept.id]
    exact table.numbered.below payment member
  · have same : (state.storePayment other).payments.map Payment.identity =
        state.payments.map Payment.identity := by
      apply Table.map_replace
      intro old oldIn sameId
      have isOld : old = payment :=
        Table.eq_of_key table.numbered.distinct oldIn member (sameId.trans kept.id)
      rw [isOld]
      exact kept.identity.symm
    rw [same]
    exact table.identities
  · intro row rowIn
    rcases Table.mem_replace rowIn with rfl | ⟨old, -⟩
    · rw [kept.currency]
      exact table.currencies payment member
    · exact table.currencies row old
  · intro row rowIn
    obtain ⟨later, laterIn, sameId, rfl | rfl⟩ := Table.exists_mem_replace Payment.id other rowIn
    · exact ⟨later, laterIn, .refl later⟩
    · have isOld : row = payment :=
        Table.eq_of_key table.numbered.distinct rowIn member (sameId.symm.trans kept.id)
      exact ⟨later, laterIn, isOld ▸ kept⟩

theorem PaymentTable.addPayment (table : PaymentTable state)
    (isNext : payment.id = state.nextPaymentId)
    (absent : ∀ row ∈ state.payments, row.identity ≠ payment.identity)
    (normalized : normalizeCurrency payment.currency = payment.currency) :
    PaymentTable (state.addPayment payment) where
  numbered := table.numbered.append isNext
  identities := by
    unfold LinkState.addPayment
    rw [List.map_append, List.nodup_append]
    refine ⟨table.identities, List.nodup_singleton _, ?_⟩
    intro old oldIn new newIn same
    obtain ⟨row, rowIn, rfl⟩ := List.mem_map.mp oldIn
    rw [List.map_singleton, List.mem_singleton] at newIn
    exact absent row rowIn (same.trans newIn)
  currencies := by
    intro row rowIn
    rcases List.mem_added.mp rowIn with old | rfl
    · exact table.currencies row old
    · exact normalized

theorem Recorded.recordedTable (table : PaymentTable state)
    (normalized : normalizeCurrency charge.currency = charge.currency)
    (isRecorded : Recorded state provider link closed charge payment recorded) :
    RecordedTable state provider charge payment recorded := by
  cases isRecorded with
  | added absent takesPayments fits =>
    obtain ⟨isNext, identity, currency⟩ := @newPayment_columns state provider link charge
    have unknown := payment?_eq_none absent
    refine ⟨table.addPayment isNext ?_ ?_, ?_, ?_, identity, ?_, ?_, rfl, rfl⟩
    · rw [identity]
      exact unknown
    · rw [currency]
      exact normalized
    · intro row rowIn
      exact ⟨row, List.mem_append_left _ rowIn, .refl row⟩
    · exact List.mem_concat_self
    · intro known knownIn same
      exact absurd same (unknown known knownIn)
    · intro row different
      refine ⟨fun member => ?_, (List.mem_append_left _ ·)⟩
      rcases List.mem_added.mp member with old | rfl
      · exact old
      · exact absurd identity different
  | moved found allowed ownLink ownReservation sameAmount sameCurrency =>
    obtain ⟨member, identity⟩ := payment?_eq_some found
    have kept := @keptPayment_updatedPayment link charge _
      (table.currencies _ member) allowed sameAmount sameCurrency
    obtain ⟨later, laterKept, laterIn⟩ := table.storePayment member kept
    refine ⟨later, laterKept, laterIn, kept.identity.trans identity, ?_, ?_, rfl, rfl⟩
    · intro known knownIn same
      rw [kept.reservationId, table.eq_of_identity knownIn member (same.trans identity.symm)]
    · intro row different
      refine ⟨fun rowIn => ?_, fun rowIn => ?_⟩
      · rcases Table.mem_replace rowIn with rfl | ⟨old, -⟩
        · exact absurd (kept.identity.trans identity) different
        · exact old
      · apply Table.mem_replace_of_ne rowIn
        intro sameId
        have isMoved := Table.eq_of_key table.numbered.distinct rowIn member (sameId.trans kept.id)
        rw [isMoved] at different
        exact different identity

theorem ensureCompletedTransaction_eq_ok
    {accounts accounts' : PaymentState} {response : Json} {late : Bool}
    (ensured : ensureCompletedTransaction env accounts provider link payment
      response late = .ok accounts') :
    accounts' = accounts ∨ ∃ row,
      accounts'.ledger.transactions = row :: accounts.ledger.transactions ∧
      row.reservationId = payment.reservationId ∧
      row.idempotencyKey = some (completedKey provider payment.externalPaymentId) ∧
      accounts.ledger.transactionByKey payment.reservationId
        (completedKey provider payment.externalPaymentId) = none := by
  unfold ensureCompletedTransaction at ensured
  split at ensured
  · exact .inl (pure_eq_ok.mp ensured).symm
  · next absent =>
    simp only [bind_eq_ok, pure_eq_ok] at ensured
    obtain ⟨base, -, ⟨_, row⟩, processed, rfl⟩ := ensured
    rcases exists_newTransaction processed with ⟨unchanged, -⟩ | ⟨⟨written⟩⟩
    · exact .inl unchanged
    · refine .inr ⟨row, ?_, written.columns.reservationId, written.columns.idempotencyKey, absent⟩
      rw [written.isDraft]
      exact written.flushed.transactions

theorem completionTransactions_eq_nil
    (keyed : ∀ row ∈ state.completionTransactions provider externalPaymentId,
      row.reservationId = payment.reservationId)
    (absent : state.accounts.ledger.transactionByKey payment.reservationId
      (completedKey provider externalPaymentId) = none) :
    state.completionTransactions provider externalPaymentId = [] := by
  rw [List.eq_nil_iff_forall_not_mem]
  intro row member
  obtain ⟨rowIn, isKey⟩ := List.mem_filter.mp member
  exact List.find?_eq_none.mp absent row rowIn
    (decide_eq_true ⟨keyed row member, of_decide_eq_true isKey⟩)

theorem ReceiptInvariant.settled (invariant : ReceiptInvariant state)
    (table : RecordedTable state provider charge payment recorded)
    (settled : SettledCharge env recorded provider webhookId link closed charge
      payment after) : ReceiptInvariant after := by
  have paymentTable : PaymentTable after :=
    ⟨by rw [settled.payments, settled.nextPaymentId]; exact table.table.numbered,
      by rw [settled.payments]; exact table.table.identities,
      by rw [settled.payments]; exact table.table.currencies⟩
  -- earlier transactions still belong to the reservation of their payment
  have earlier : ∀ other externalPaymentId,
      ∀ row ∈ state.completionTransactions other externalPaymentId, ∃ payment ∈ after.payments,
          payment.identity = (other, externalPaymentId) ∧
          row.reservationId = payment.reservationId := by
    intro other externalPaymentId row member
    obtain ⟨known, knownIn, identity, reservation⟩ :=
      invariant.keyed other externalPaymentId row member
    obtain ⟨later, laterIn, kept⟩ := table.kept known knownIn
    rw [settled.payments]
    exact ⟨later, laterIn, kept.identity.trans identity, reservation.trans kept.reservationId.symm⟩
  have unchanged (same : after.accounts = state.accounts) : ReceiptInvariant after := by
    have sameRows : ∀ other externalPaymentId,
        after.completionTransactions other externalPaymentId =
          state.completionTransactions other externalPaymentId := by
      intro other externalPaymentId
      unfold LinkState.completionTransactions
      rw [same]
    refine ⟨paymentTable, ?_, ?_⟩
    · intro other externalPaymentId row member
      rw [sameRows] at member
      exact earlier other externalPaymentId row member
    · intro other externalPaymentId
      rw [sameRows]
      exact invariant.oneTransaction other externalPaymentId
  rcases settled.accounts with same | ⟨-, ensured⟩
  · exact unchanged (same.trans table.accounts)
  rw [table.accounts] at ensured
  obtain same | ⟨row, rows, ownReservation, isKey, absent⟩ :=
    ensureCompletedTransaction_eq_ok ensured
  · exact unchanged same
  have ownId : payment.externalPaymentId = charge.externalPaymentId :=
    congrArg Prod.snd table.identity
  rw [ownId] at isKey absent
  -- the payment had no transaction under its key
  have none : state.completionTransactions provider charge.externalPaymentId = [] := by
    apply completionTransactions_eq_nil _ absent
    intro old member
    obtain ⟨known, knownIn, identity, reservation⟩ :=
      invariant.keyed provider charge.externalPaymentId old member
    rw [reservation, table.reservation known knownIn identity]
  have added : ∀ other externalPaymentId, after.completionTransactions other externalPaymentId =
        if (other, externalPaymentId) = (provider, charge.externalPaymentId)
        then [row]
        else state.completionTransactions other externalPaymentId := by
    intro other externalPaymentId
    unfold LinkState.completionTransactions
    rw [rows, List.filter_cons]
    by_cases same : (other, externalPaymentId) = (provider, charge.externalPaymentId)
    · cases same
      rw [if_pos rfl, if_pos (decide_eq_true isKey)]
      exact congrArg (row :: ·) none
    · rw [if_neg same, if_neg]
      rw [decide_eq_true_eq, isKey]
      intro sameKey
      obtain ⟨rfl, rfl⟩ := completedKey_inj (Option.some.inj sameKey)
      exact same rfl
  refine ⟨paymentTable, ?_, ?_⟩
  · intro other externalPaymentId old member
    rw [added] at member
    split_ifs at member with same
    · rw [List.mem_singleton.mp member, settled.payments]
      exact ⟨payment, table.member, table.identity.trans same.symm, ownReservation⟩
    · exact earlier other externalPaymentId old member
  · intro other externalPaymentId
    rw [added]
    split_ifs
    · exact Nat.le_refl 1
    · exact invariant.oneTransaction other externalPaymentId

theorem ReceiptInvariant.of_same (invariant : ReceiptInvariant state)
    (payments : after.payments = state.payments)
    (nextPaymentId : after.nextPaymentId = state.nextPaymentId)
    (ledger : after.accounts.ledger = state.accounts.ledger) :
    ReceiptInvariant after where
  table := invariant.table.of_same payments nextPaymentId
  keyed := by
    unfold LinkState.completionTransactions
    rw [ledger, payments]
    exact invariant.keyed
  oneTransaction := by
    unfold LinkState.completionTransactions
    rw [ledger]
    exact invariant.oneTransaction

/-- An accepted notification reports a status of a payment. -/
def Reports (env : LinkEnvironment) (state : LinkState) (call : WebhookCall)
    (provider : LinkProvider) (externalPaymentId : String)
    (status : PaymentStatus) : Prop :=
  (∃ after result, ingestWebhook env state call = .ok (after, result)) ∧
    LinkProvider.ofText call.provider = some provider ∧
    ∃ link ∈ state.links, ∃ charge, readCharge env provider link call = .ok charge ∧
      charge.externalPaymentId = externalPaymentId ∧ charge.status = status

/-- What a notification keeps, and what its new transaction needs. -/
structure ReceiptStep
    (env : LinkEnvironment)
    (state : LinkState)
    (call : WebhookCall)
    (after : LinkState) : Prop where
  invariant : ReceiptInvariant after
  kept : PaymentsKept state after
  reported : ∀ provider externalPaymentId,
    ∀ row ∈ after.completionTransactions provider externalPaymentId,
      row ∈ state.completionTransactions provider externalPaymentId ∨
        Reports env state call provider externalPaymentId .completed

theorem SettledCharge.completionTransactions
    (settled : SettledCharge env recorded provider webhookId link closed charge payment after)
    (ownId : payment.externalPaymentId = charge.externalPaymentId)
    {other : LinkProvider} {row : Transaction}
    (member : row ∈ after.completionTransactions other externalPaymentId) :
    row ∈ recorded.completionTransactions other externalPaymentId ∨
      (charge.status = .completed ∧ other = provider ∧
        externalPaymentId = charge.externalPaymentId) := by
  obtain ⟨rowIn, isKey⟩ := List.mem_filter.mp member
  rw [decide_eq_true_eq] at isKey
  have old (rows : row ∈ recorded.accounts.ledger.transactions) :
      row ∈ recorded.completionTransactions other externalPaymentId :=
    List.mem_filter.mpr ⟨rows, decide_eq_true isKey⟩
  rcases settled.accounts with same | ⟨completed, ensured⟩
  · exact .inl (old (same ▸ rowIn))
  · obtain same | ⟨added, rows, -, addedKey, -⟩ :=
      ensureCompletedTransaction_eq_ok ensured
    · exact .inl (old (same ▸ rowIn))
    · rw [rows] at rowIn
      rcases List.mem_cons.mp rowIn with rfl | earlier
      · rw [isKey, ownId] at addedKey
        obtain ⟨rfl, rfl⟩ := completedKey_inj (Option.some.inj addedKey)
        exact .inr ⟨completed, rfl, rfl⟩
      · exact .inl (old earlier)

theorem ReceiptInvariant.ingestWebhook (invariant : ReceiptInvariant state)
    (ingested : ingestWebhook env state call = .ok (after, result)) :
    ReceiptStep env state call after := by
  obtain ⟨provider, isProvider, ⟨rfl, -⟩ | ⟨-, link, charge, resolved, isRead,
    applied⟩⟩ := ingestWebhook_eq_ok ingested
  · exact ⟨invariant, .refl after, fun _ _ _ member => .inl member⟩
  obtain ⟨-, -, -, normalized⟩ := readCharge_eq_ok isRead
  obtain ⟨reservation, closed, closedLink, closedState, -, -, -, rfl, -, logged | ⟨payment,
    recorded, isRecorded, settled⟩⟩ := applyCharge_eq_ok applied
  · obtain ⟨-, -, -, logged⟩ := logged
    have sameLedger : after.accounts.ledger = state.accounts.ledger :=
      congrArg PaymentState.ledger logged.accounts
    refine ⟨invariant.of_same logged.payments logged.nextPaymentId sameLedger, ?_, ?_⟩
    · intro row member
      exact ⟨row, logged.payments ▸ member, .refl row⟩
    · intro other externalPaymentId row member
      unfold LinkState.completionTransactions at member
      rw [sameLedger] at member
      exact .inl member
  · have closedInvariant : ReceiptInvariant (state.storeLink closedLink) :=
      invariant.of_same rfl rfl rfl
    have table := isRecorded.recordedTable closedInvariant.table normalized
    refine ⟨closedInvariant.settled table settled, ?_, ?_⟩
    · intro row member
      obtain ⟨later, laterIn, kept⟩ := table.kept row member
      exact ⟨later, settled.payments ▸ laterIn, kept⟩
    · intro other externalPaymentId row member
      rcases settled.completionTransactions (congrArg Prod.snd table.identity) member with
        old | ⟨completed, rfl, rfl⟩
      · unfold LinkState.completionTransactions at old
        rw [table.accounts] at old
        exact .inl old
      · exact .inr ⟨⟨_, _, ingested⟩, isProvider, link, resolveLink_eq_ok resolved, charge, isRead,
          rfl, completed⟩

end

/-- No payment of a provider has been received. -/
structure NothingReceived (state : LinkState) : Prop where
  payments : state.payments = []
  transactions : ∀ provider externalPaymentId,
    state.completionTransactions provider externalPaymentId = []

/-- A notification of the run reported a status of a payment. -/
def Reported (start : LinkState) (events : List LinkEvent)
    (provider : LinkProvider) (externalPaymentId : String)
    (status : PaymentStatus) : Prop :=
  ∃ first last env call state, events = first ++ .ingestWebhook env call :: last ∧
    Transition.run linkStep start first = some state ∧
    Reports env state call provider externalPaymentId status

/-- What a run of links guarantees of the provider's payments. -/
structure ExactlyOnce
    (start : LinkState) (events : List LinkEvent) (finish : LinkState) :
    Prop where
  onePayment : ∀ identity, (finish.payments.filter fun payment =>
    payment.identity = identity).length ≤ 1
  oneTransaction : ∀ provider externalPaymentId,
    (finish.completionTransactions provider externalPaymentId).length ≤ 1
  transactionReported : ∀ provider externalPaymentId,
    finish.completionTransactions provider externalPaymentId ≠ [] ->
      Reported start events provider externalPaymentId .completed
  /-- From every earlier point of the run on. -/
  paymentsKept : ∀ first last middle, events = first ++ last ->
    Transition.run linkStep start first = some middle -> PaymentsKept middle finish
  redelivery : ∀ env call, ∀ event ∈ finish.events,
    LinkProvider.ofText call.provider = some event.provider ->
    event.webhookId = call.webhookId -> finish.after (.ingestWebhook env call) = finish

section

variable {start state finish : LinkState} {events : List LinkEvent}

theorem ReceiptInvariant.after (invariant : ReceiptInvariant state) (event : LinkEvent) :
    ReceiptInvariant (state.after event) ∧ PaymentsKept state (state.after event) := by
  by_cases notification : ∃ env call, event = .ingestWebhook env call
  · obtain ⟨env, call, rfl⟩ := notification
    show ReceiptInvariant (state.committed (Links.ingestWebhook env state call))
      ∧ PaymentsKept state (state.committed (Links.ingestWebhook env state call))
    rcases LinkState.committed_cases (Links.ingestWebhook env state call) with
      same | ⟨result, ingested⟩
    · rw [same]
      exact ⟨invariant, .refl state⟩
    · have step := invariant.ingestWebhook ingested
      exact ⟨step.invariant, step.kept⟩
  · have same : SameReceipts state (state.after event) :=
      LinkState.sameReceipts_after fun env call isEvent => notification ⟨env, call, isEvent⟩
    refine ⟨invariant.of_same same.payments same.nextPaymentId same.ledger, ?_⟩
    intro row member
    exact ⟨row, same.payments ▸ member, .refl row⟩

theorem ReceiptInvariant.reported (invariant : ReceiptInvariant state) (event : LinkEvent)
    {provider : LinkProvider} {externalPaymentId : String} {row : Transaction}
    (member : row ∈ (state.after event).completionTransactions provider externalPaymentId) :
    row ∈ state.completionTransactions provider externalPaymentId ∨
      ∃ env call, event = .ingestWebhook env call ∧
        Reports env state call provider externalPaymentId .completed := by
  by_cases notification : ∃ env call, event = .ingestWebhook env call
  · obtain ⟨env, call, rfl⟩ := notification
    change row ∈ (state.committed
      (Links.ingestWebhook env state call)).completionTransactions _ _ at member
    rcases LinkState.committed_cases (Links.ingestWebhook env state call) with
      same | ⟨result, ingested⟩
    · rw [same] at member
      exact .inl member
    · have step := invariant.ingestWebhook ingested
      exact (step.reported provider externalPaymentId row member).imp_right (⟨env, call, rfl, ·⟩)
  · have same : SameReceipts state (state.after event) :=
      LinkState.sameReceipts_after fun env call isEvent => notification ⟨env, call, isEvent⟩
    unfold LinkState.completionTransactions at member
    rw [same.ledger] at member
    exact .inl member

theorem receiptInvariant_of_run (invariant : ReceiptInvariant start)
    (ran : Transition.run linkStep start events = some finish) :
    ReceiptInvariant finish ∧ PaymentsKept start finish := by
  refine @Transition.run_invariant _ _ linkStep start finish
    (fun _ state => ReceiptInvariant state ∧ PaymentsKept start state)
    ⟨invariant, .refl start⟩ ?_ events ran
  intro _ before event after kept taken
  cases taken
  obtain ⟨later, laterKept⟩ := kept.1.after event
  exact ⟨later, kept.2.trans laterKept⟩

theorem reported_of_run (nothing : NothingReceived start) (invariant : ReceiptInvariant start)
    {provider : LinkProvider} {externalPaymentId : String} {row : Transaction}
    (ran : Transition.run linkStep start events = some finish)
    (member : row ∈ finish.completionTransactions provider externalPaymentId) :
    Reported start events provider externalPaymentId .completed := by
  revert member
  refine @Transition.run_invariant _ _ linkStep start finish
    (fun events state => Transition.run linkStep start events = some state ∧
      (row ∈ state.completionTransactions provider externalPaymentId ->
        Reported start events provider externalPaymentId .completed))
    ⟨rfl, ?_⟩ ?_ events ran |>.2
  · rw [nothing.transactions]
    exact (absurd · List.not_mem_nil)
  · intro events before event after ⟨before_ran, reported⟩ taken
    refine ⟨?_, fun member => ?_⟩
    · rw [Transition.run_append, before_ran, Option.bind_some, Transition.run_singleton, taken]
    · cases taken
      have kept := (receiptInvariant_of_run invariant before_ran).1
      rcases kept.reported event member with old | ⟨env, call, rfl, reports⟩
      · obtain ⟨first, last, env, call, state, rfl, ran, reports⟩ := reported old
        exact ⟨first, last ++ [event], env, call, state, by simp, ran, reports⟩
      · exact ⟨events, [], env, call, before, rfl, before_ran, reports⟩

/-- A notification that is already logged changes no row. -/
theorem after_of_logged {env : LinkEnvironment} {call : WebhookCall} {event : PaymentWebhookEvent}
    (logged : event ∈ finish.events)
    (isProvider : LinkProvider.ofText call.provider = some event.provider)
    (sameId : event.webhookId = call.webhookId) :
    finish.after (.ingestWebhook env call) = finish := by
  rcases LinkState.committed_cases (Links.ingestWebhook env finish call) with
    same | ⟨result, ingested⟩
  · exact same
  · obtain ⟨provider, named, ⟨same, -⟩ | ⟨absent, -⟩⟩ := ingestWebhook_eq_ok ingested
    · exact same
    · obtain rfl := Option.some.inj (isProvider.symm.trans named)
      exact absurd (decide_eq_true ⟨rfl, sameId⟩) (List.find?_eq_none.mp absent event logged)

theorem NothingReceived.invariant (nothing : NothingReceived start) : ReceiptInvariant start where
  table := .of_nil nothing.payments
  keyed := by
    intro provider externalPaymentId row member
    rw [nothing.transactions] at member
    cases member
  oneTransaction := by
    intro provider externalPaymentId
    rw [nothing.transactions]
    exact Nat.zero_le 1

theorem length_filter_identity_le_one {rows : List Payment}
    (distinct : (rows.map Payment.identity).Nodup)
    (identity : LinkProvider × String) :
    (rows.filter fun payment =>
      payment.identity = identity).length ≤ 1 := by
  by_cases known : ∃ payment ∈ rows, payment.identity = identity
  · obtain ⟨payment, member, rfl⟩ := known
    rw [Table.filter_key distinct member]
    exact Nat.le_refl 1
  · rw [List.filter_eq_nil_iff.mpr]
    · exact Nat.zero_le 1
    · intro payment member same
      exact known ⟨payment, member, of_decide_eq_true same⟩

/-- From a hotel that has received nothing, every run of links and
notifications leaves one row and at most one transaction for each payment of a
provider. -/
theorem ingestWebhook_exactlyOnce (nothing : NothingReceived start)
    (ran : Transition.run linkStep start events = some finish) :
    ExactlyOnce start events finish := by
  have invariant := (receiptInvariant_of_run nothing.invariant ran).1
  refine
    { onePayment := length_filter_identity_le_one invariant.table.identities
      oneTransaction := invariant.oneTransaction
      transactionReported := ?_
      paymentsKept := ?_
      redelivery := fun env call event logged isProvider sameId =>
        after_of_logged logged isProvider sameId }
  · intro provider externalPaymentId written
    obtain ⟨row, member⟩ := List.exists_mem_of_ne_nil _ written
    exact reported_of_run nothing nothing.invariant ran member
  · rintro first last middle rfl reached
    rw [Transition.run_append, reached, Option.bind_some] at ran
    have earlier := (receiptInvariant_of_run nothing.invariant reached).1
    exact (receiptInvariant_of_run earlier ran).2

end

/-- A link of fifty is paid; the approval is delivered under two ids. -/
def reportedTwice : List LinkEvent :=
  [.createLink openEnvironment (linkOf 4999 "clave-uno"), .ingestWebhook openEnvironment
      (notificationOf "aviso-1" "clave-uno" "pago-1" 50 "approved"),
    .ingestWebhook openEnvironment (notificationOf "aviso-2" "clave-uno" "pago-1" 50 "approved")]

theorem unpaidState_nothingReceived : NothingReceived unpaidState where
  payments := rfl
  transactions := fun _ _ => rfl

/-- The payment has one transaction. -/
theorem ingestWebhook_exactlyOnce_twice :
    ExactlyOnce unpaidState reportedTwice (reportedTwice.foldl LinkState.after unpaidState) ∧
      ((reportedTwice.foldl LinkState.after unpaidState).completionTransactions
        .mercadoPago "pago-1").length = 1 :=
  ⟨ingestWebhook_exactlyOnce unpaidState_nothingReceived rfl, by decide +kernel⟩

end HotelPms.Links
