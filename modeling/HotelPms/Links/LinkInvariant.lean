import HotelPms.Links.Convergence

/-!
# What links have collected, and which of them can be paid

What a link has collected is the sum of its completed payments, at most a cent
over what it asks for; a payable link is an unpaid link of its provider; and a
link that was closed stays unpayable.  A notification keeps this exactly when
the completed payments of its link, with the payment it is about as it is
reported, still fit, and do not leave a once closed link that has been paid in
full paid in part.
-/

namespace HotelPms.Links

open Checked Decimal Hotel Payments

/-- What a payment adds to the completed payments of a link. -/
def completedShare (linkId : Int) (payment : Payment) : Int :=
  if payment.paymentLinkId = some linkId ∧ payment.status = .completed then
    payment.amount
  else 0

/-- What a payment of a status counts for. -/
def collectedShare (status : Option PaymentStatus) (amount : Int) : Int :=
  if status = some .completed then amount else 0

/-- Completed payments of a link, with the payment of a charge as the charge
reports it. -/
def LinkState.collectedWith (state : LinkState) (provider : LinkProvider)
    (link : PaymentLink) (charge : Charge) : Int :=
  link.collectedAmount - collectedShare (state.recordedStatus provider charge.externalPaymentId)
        charge.amount +
    collectedShare (some charge.status) charge.amount

section

variable {env : LinkEnvironment} {state after recorded : LinkState}
  {provider : LinkProvider} {webhookId : String}
  {link final closedLink other : PaymentLink} {closed : Option LinkStatus}
  {charge : Charge} {payment : Payment} {linkId : Int}
  {result : WebhookResult} {call : WebhookCall}

theorem LinkState.completedAmount_eq_sum (state : LinkState) (linkId : Int) :
    state.completedAmount linkId = (state.payments.map (completedShare linkId)).sum := by
  unfold LinkState.completedAmount LinkState.completedPayments
  induction state.payments with
  | nil => rfl
  | cons first rest ih =>
    rw [List.map_cons, List.sum_cons, ← ih, List.filter_cons]
    unfold completedShare
    by_cases counts : first.paymentLinkId = some linkId ∧
        first.status = .completed
    · rw [if_pos counts, if_pos (decide_eq_true counts), List.map_cons, List.sum_cons]
    · rw [if_neg counts, if_neg (by simpa using counts), Int.zero_add]

theorem completedShare_foreign (foreign : payment.paymentLinkId ≠ some linkId) :
    completedShare linkId payment = 0 :=
  if_neg (foreign ·.1)

theorem completedShare_own (own : payment.paymentLinkId = some linkId) :
    completedShare linkId payment = collectedShare (some payment.status) payment.amount := by
  unfold completedShare collectedShare
  simp only [own, true_and, Option.some.injEq]

section

variable (isRecorded : Recorded state provider link closed charge payment recorded)
include isRecorded

theorem Recorded.columns : payment.paymentLinkId = some link.id ∧ payment.status = charge.status ∧
      payment.amount = charge.amount := by
  cases isRecorded with
  | added =>
    obtain ⟨kept, status, owner⟩ := @keptPayment_withProcessedAt charge
      (newPayment state provider link charge)
    exact ⟨owner, status, kept.amount⟩
  | @moved old =>
    obtain ⟨kept, status, owner⟩ := @keptPayment_withProcessedAt charge
      (updatedPayment link charge old)
    exact ⟨owner, status, kept.amount⟩

theorem Recorded.sum_payments (table : PaymentTable state) (value : Payment -> Int) :
    (recorded.payments.map value).sum = (state.payments.map value).sum -
          (match state.payment? provider charge.externalPaymentId with
            | some old => value old
            | none => 0) +
        value payment := by
  cases isRecorded with
  | added absent takesPayments fits =>
    rw [absent]
    unfold LinkState.addPayment
    rw [List.map_append, List.sum_append, List.map_singleton, List.sum_singleton, Int.sub_zero]
  | @moved old found allowed ownLink ownReservation sameAmount sameCurrency =>
    obtain ⟨member, -⟩ := payment?_eq_some found
    have kept := @keptPayment_updatedPayment link charge old
      (table.currencies old member) allowed sameAmount sameCurrency
    rw [found]
    exact Table.sum_replace Payment.id value _ table.numbered.distinct member kept.id.symm

theorem Recorded.completedAmount_own (table : PaymentTable state)
    (linked : ∀ payment ∈ state.payments, payment.paymentLinkId ≠ none) :
    recorded.completedAmount link.id = state.completedAmount link.id - collectedShare
            (state.recordedStatus provider charge.externalPaymentId)
            charge.amount +
        collectedShare (some charge.status) charge.amount := by
  obtain ⟨owner, status, amount⟩ := isRecorded.columns
  rw [LinkState.completedAmount_eq_sum, LinkState.completedAmount_eq_sum,
    isRecorded.sum_payments table, completedShare_own owner, status, amount]
  unfold LinkState.recordedStatus
  cases isRecorded with
  | added absent takesPayments fits =>
    rw [absent]
    rfl
  | @moved old found allowed ownLink ownReservation sameAmount sameCurrency =>
    obtain ⟨member, -⟩ := payment?_eq_some found
    have own : old.paymentLinkId = some link.id :=
      ownLink.resolve_left (linked old member)
    rw [found]
    show _ - completedShare link.id old + _ = _
    rw [completedShare_own own, sameAmount, Option.map_some]

theorem Recorded.completedAmount_other (table : PaymentTable state)
    (linked : ∀ payment ∈ state.payments, payment.paymentLinkId ≠ none)
    (different : linkId ≠ link.id) :
    recorded.completedAmount linkId = state.completedAmount linkId := by
  have foreign : ∀ {row : Payment}, row.paymentLinkId = some link.id ->
      completedShare linkId row = 0 := by
    intro row owner
    apply completedShare_foreign
    rw [owner]
    intro same
    exact different (Option.some.inj same).symm
  obtain ⟨owner, -⟩ := isRecorded.columns
  rw [LinkState.completedAmount_eq_sum, LinkState.completedAmount_eq_sum,
    isRecorded.sum_payments table, foreign owner, Int.add_zero]
  cases isRecorded with
  | added absent takesPayments fits =>
    rw [absent, Int.sub_zero]
  | @moved old found allowed ownLink ownReservation sameAmount sameCurrency =>
    obtain ⟨member, -⟩ := payment?_eq_some found
    have own : old.paymentLinkId = some link.id :=
      ownLink.resolve_left (linked old member)
    rw [found]
    show _ - completedShare linkId old = _
    rw [foreign own, Int.sub_zero]

end

theorem refreshLinkCollection_payable
    (isPayable : (refreshLinkCollection state link).payable = true) :
    ((refreshLinkCollection state link).status = .partiallyPaid ∧
        link.IsProviderLink ∧ 0 < state.completedAmount link.id ∧
        state.completedAmount link.id < link.requestedAmount) ∨
      (link.payable = true ∧
        (link.IsClosed ∨ (refreshLinkCollection state link).status = .pending)) := by
  unfold refreshLinkCollection at isPayable ⊢
  simp only at isPayable ⊢
  split_ifs at isPayable ⊢ with full positive isClosed
  · exact .inl ⟨rfl, of_decide_eq_true isPayable, positive, not_le.mp full⟩
  · exact .inr ⟨isPayable, .inl isClosed⟩
  · exact .inr ⟨isPayable, .inr rfl⟩

theorem refreshLinkCollection_completed
    (completed : (refreshLinkCollection state link).status = .completed) :
    (refreshLinkCollection state link).payable = false := by
  unfold refreshLinkCollection at completed ⊢
  simp only at completed ⊢
  split_ifs at completed ⊢ with full positive isClosed
  · rfl
  · rcases isClosed with cancelled | expired
    · cases cancelled.symm.trans completed
    · cases expired.symm.trans completed

theorem refreshLinkCollection_partlyPaid (isProvider : link.IsProviderLink)
    (positive : 0 < state.completedAmount link.id)
    (unpaid : state.completedAmount link.id < link.requestedAmount) :
    (refreshLinkCollection state link).payable = true := by
  have notFull : ¬link.requestedAmount ≤
      (countCollection state link).collectedAmount := not_le.mpr unpaid
  have isPositive : 0 < (countCollection state link).collectedAmount := positive
  unfold refreshLinkCollection
  simp only [if_neg notFull, if_pos isPositive]
  exact decide_eq_true isProvider

theorem payable_of_settled (isFinal : final = refreshClosedLink state closed link ∨
      final = refreshReviewedLink state closed link)
    (isPayable : final.payable = true) :
    closed = none ∧ final = refreshLinkCollection state link := by
  cases closed with
  | none =>
    refine ⟨rfl, ?_⟩
    rcases isFinal with rfl | rfl
    · rfl
    · rfl
  | some status =>
    rcases isFinal with rfl | rfl
    · unfold refreshClosedLink at isPayable
      simp only at isPayable
      split_ifs at isPayable with completed
      rw [refreshLinkCollection_completed (not_not.mp completed)] at isPayable
      cases isPayable
    · cases isPayable

end

/-- What holds of each link of a hotel; `onceClosed` are the ids of the links
that have been cancelled or have expired. -/
structure SafeLink
    (state : LinkState) (onceClosed : List Int) (link : PaymentLink) :
    Prop where
  collected : link.collectedAmount = state.completedAmount link.id
  /-- At most a cent over. -/
  fits : link.collectedAmount ≤ link.requestedAmount + 1
  payable : link.payable = true -> link.IsProviderLink ∧
      (link.status = .pending ∨ link.status = .partiallyPaid)
  closed : link.id ∈ onceClosed -> link.payable = false

def LinkState.closedIds (state : LinkState) : List Int :=
  (state.links.filter (decide ·.IsClosed)).map PaymentLink.id

/-- Tables of a hotel, and the ids of the links that have been closed. -/
structure LinkHistory where
  state : LinkState
  onceClosed : List Int := []

/-- The tables after an event, and the links closed so far. -/
def LinkHistory.after (history : LinkHistory) (event : LinkEvent) : LinkHistory where
  state := history.state.after event
  onceClosed := history.onceClosed ++ (history.state.after event).closedIds

/-- One event of a run that remembers which links have been closed. -/
def historyStep (history : LinkHistory) (event : LinkEvent) : Option LinkHistory :=
  some (history.after event)

def LinkHistory.IsSafe (history : LinkHistory) : Prop :=
  ∀ link ∈ history.state.links, SafeLink history.state history.onceClosed link

/-- What guarded runs of links keep. -/
structure LinkInvariant (history : LinkHistory) : Prop where
  numbered : Table.Numbered PaymentLink.id history.state.nextLinkId history.state.links
  table : PaymentTable history.state
  paymentLinks : ∀ payment ∈ history.state.payments, ∃ linkId,
    payment.paymentLinkId = some linkId ∧ linkId < history.state.nextLinkId
  closedKnown : ∀ linkId ∈ history.onceClosed, linkId < history.state.nextLinkId
  safe : history.IsSafe

section

variable {state after : LinkState} {onceClosed : List Int}
  {link old : PaymentLink} {history : LinkHistory}

theorem SafeLink.unpayable (safe : SafeLink state onceClosed link)
    (isClosed : link.IsClosed) : link.payable = false := by
  cases isPayable : link.payable with
  | false => rfl
  | true =>
    obtain ⟨-, pending | partlyPaid⟩ := safe.payable isPayable
    · rcases isClosed with cancelled | expired
      · cases cancelled.symm.trans pending
      · cases expired.symm.trans pending
    · rcases isClosed with cancelled | expired
      · cases cancelled.symm.trans partlyPaid
      · cases expired.symm.trans partlyPaid

theorem completedAmount_of_payments (same : after.payments = state.payments) (linkId : Int) :
    after.completedAmount linkId = state.completedAmount linkId := by
  unfold LinkState.completedAmount LinkState.completedPayments
  rw [same]

theorem SafeLink.of_payments (safe : SafeLink state onceClosed link)
    (same : after.completedAmount link.id = state.completedAmount link.id) :
    SafeLink after onceClosed link where
  collected := safe.collected.trans same.symm
  fits := safe.fits
  payable := safe.payable
  closed := safe.closed

/-- A link as it is once it has been closed. -/
structure ClosedAs (old link : PaymentLink) : Prop where
  id : link.id = old.id
  requestedAmount : link.requestedAmount = old.requestedAmount
  collectedAmount : link.collectedAmount = old.collectedAmount
  unpayable : link.payable = false

theorem SafeLink.closedAs (safe : SafeLink state onceClosed old)
    (isClosed : ClosedAs old link) : SafeLink state onceClosed link where
  collected := by
    rw [isClosed.collectedAmount, isClosed.id]
    exact safe.collected
  fits := by
    rw [isClosed.collectedAmount, isClosed.requestedAmount]
    exact safe.fits
  payable := by
    intro isPayable
    rw [isClosed.unpayable] at isPayable
    cases isPayable
  closed := fun _ => isClosed.unpayable

theorem LinkInvariant.next (numbered : Table.Numbered PaymentLink.id after.nextLinkId after.links)
    (table : PaymentTable after)
    (paymentLinks : ∀ payment ∈ after.payments, ∃ linkId,
      payment.paymentLinkId = some linkId ∧ linkId < after.nextLinkId)
    (closedKnown : ∀ linkId ∈ onceClosed, linkId < after.nextLinkId)
    (safe : ∀ link ∈ after.links, SafeLink after onceClosed link) :
    LinkInvariant ⟨after, onceClosed ++ after.closedIds⟩ where
  numbered := numbered
  table := table
  paymentLinks := paymentLinks
  closedKnown := by
    intro linkId member
    rcases List.mem_append.mp member with earlier | now
    · exact closedKnown linkId earlier
    · obtain ⟨link, isClosed, rfl⟩ := List.mem_map.mp now
      exact numbered.below link (List.mem_filter.mp isClosed).1
  safe := by
    intro link member
    have isSafe := safe link member
    refine ⟨isSafe.collected, isSafe.fits, isSafe.payable, fun listed => ?_⟩
    rcases List.mem_append.mp listed with earlier | now
    · exact isSafe.closed earlier
    · exact isSafe.unpayable (of_decide_eq_true
        ((Table.key_mem_map_filter numbered.distinct member _).mp now))

structure ClosesLinks (state after : LinkState) : Prop where
  nextLinkId : after.nextLinkId = state.nextLinkId
  ids : after.links.map PaymentLink.id = state.links.map PaymentLink.id
  links : ∀ link ∈ after.links, link ∈ state.links ∨ ∃ old ∈ state.links, ClosedAs old link

theorem ClosesLinks.refl (state : LinkState) : ClosesLinks state state :=
  ⟨rfl, rfl, fun _ member => .inl member⟩

theorem closesLinks_storeLink
    (member : old ∈ state.links) (isClosed : link = old ∨ ClosedAs old link) :
    ClosesLinks state (state.storeLink link) where
  nextLinkId := rfl
  ids := Table.map_key_replace
  links := by
    intro other otherIn
    rcases Table.mem_replace otherIn with rfl | ⟨kept, -⟩
    · rcases isClosed with rfl | isClosed
      · exact .inl member
      · exact .inr ⟨old, member, isClosed⟩
    · exact .inl kept

theorem closedAs_cancelled (now : Int) (reason : Option String) :
    ClosedAs link (cancelled now reason link) :=
  ⟨rfl, rfl, rfl, rfl⟩

theorem closesLinks_after {event : LinkEvent} (uncreated : ∀ env call, event ≠ .createLink env call)
    (unnotified : ∀ env call, event ≠ .ingestWebhook env call) :
    ClosesLinks state (state.after event) := by
  cases event with
  | createLink env call => exact absurd rfl (uncreated env call)
  | ingestWebhook env call => exact absurd rfl (unnotified env call)
  | cancelLink now linkId reason =>
    show ClosesLinks state (state.committed (state.cancelLink now linkId reason))
    rcases LinkState.committed_cases (state.cancelLink now linkId reason)
      with same | ⟨answer, accepted⟩
    · rw [same]
      exact .refl state
    · obtain same | ⟨link, member, same⟩ :=
        LinkState.cancelLink_eq_ok accepted
      · rw [same]
        exact .refl state
      · rw [same]
        exact closesLinks_storeLink member (.inr (closedAs_cancelled now reason))
  | cancelActiveLinksForReservation now reservationId reason =>
    have closed : ∀ link : PaymentLink,
        (if link.reservationId = reservationId ∧ LinkState.IsOpenStatus link.status then
          Links.cancelled now reason link else link) = link ∨
        ClosedAs link (if link.reservationId = reservationId ∧
            LinkState.IsOpenStatus link.status then
          Links.cancelled now reason link else link) := by
      intro link
      split_ifs
      · exact .inr (closedAs_cancelled now reason)
      · exact .inl rfl
    refine ⟨rfl, ?_, ?_⟩
    · show (List.map _ (List.map _ _)) = _
      rw [List.map_map]
      apply List.map_congr_left
      intro link _
      rcases closed link with same | isClosed
      · exact congrArg PaymentLink.id same
      · exact isClosed.id
    · intro link member
      obtain ⟨old, oldIn, rfl⟩ := List.mem_map.mp member
      rcases closed old with same | isClosed
      · exact .inl (by rw [same]; exact oldIn)
      · exact .inr ⟨old, oldIn, isClosed⟩
  | expireLink linkId =>
    show ClosesLinks state (state.committed (state.expireLink linkId))
    rcases LinkState.committed_cases (state.expireLink linkId) with same | ⟨answer, accepted⟩
    · rw [same]
      exact .refl state
    · obtain same | ⟨link, member, same⟩ :=
        LinkState.expireLink_eq_ok accepted
      · rw [same]
        exact .refl state
      · rw [same]
        exact closesLinks_storeLink member (.inr ⟨rfl, rfl, rfl, rfl⟩)
  | changeStatus reservationId status =>
    show ClosesLinks state (state.changeStatus reservationId status)
    unfold LinkState.changeStatus
    split
    · exact .refl state
    · exact ⟨rfl, rfl, fun _ member => .inl member⟩

theorem LinkInvariant.closes (invariant : LinkInvariant history)
    (closes : ClosesLinks history.state after)
    (samePayments : after.payments = history.state.payments)
    (sameNext : after.nextPaymentId = history.state.nextPaymentId) :
    LinkInvariant ⟨after, history.onceClosed ++ after.closedIds⟩ := by
  apply LinkInvariant.next
  · rw [closes.nextLinkId]
    exact invariant.numbered.of_map_key_eq closes.ids
  · exact invariant.table.of_same samePayments sameNext
  · rw [samePayments, closes.nextLinkId]
    exact invariant.paymentLinks
  · rw [closes.nextLinkId]
    exact invariant.closedKnown
  · intro link member
    apply SafeLink.of_payments _ (completedAmount_of_payments samePayments link.id)
    rcases closes.links link member with kept | ⟨old, oldIn, isClosed⟩
    · exact invariant.safe link kept
    · exact (invariant.safe old oldIn).closedAs isClosed

theorem LinkInvariant.completedAmount_next (invariant : LinkInvariant history) :
    history.state.completedAmount history.state.nextLinkId = 0 := by
  unfold LinkState.completedAmount LinkState.completedPayments
  rw [List.filter_eq_nil_iff.mpr]
  · rfl
  · intro payment member counts
    obtain ⟨linkId, owner, below⟩ := invariant.paymentLinks payment member
    have isNext := (of_decide_eq_true counts).1
    rw [owner] at isNext
    exact absurd (Option.some.inj isNext) (Int.ne_of_lt below)

theorem LinkInvariant.createLink (invariant : LinkInvariant history)
    (env : LinkEnvironment) (call : CreateLinkCall) :
    LinkInvariant ⟨history.state.after (.createLink env call),
      history.onceClosed ++ (history.state.after (.createLink env call)).closedIds⟩ := by
  have same : SameReceipts history.state (history.state.after (.createLink env call)) :=
    LinkState.sameReceipts_createLink env call
  revert same
  show SameReceipts history.state (history.state.committed
    (Links.createLink env history.state call)) -> LinkInvariant ⟨
      history.state.committed (Links.createLink env history.state call),
      history.onceClosed ++ (history.state.committed
        (Links.createLink env history.state call)).closedIds⟩
  intro same
  rcases LinkState.committed_cases (Links.createLink env history.state call)
    with rolledBack | ⟨link, created⟩
  · rw [rolledBack]
    exact invariant.closes (.refl _) rfl rfl
  obtain ⟨checked, -, ⟨replayed, -⟩ | ⟨isNew, added, -⟩⟩ := createLink_eq_ok created
  · rw [replayed]
    exact invariant.closes (.refl _) rfl rfl
  · rw [added] at same ⊢
    have later : ∀ {linkId : Int}, linkId < history.state.nextLinkId ->
        linkId < history.state.nextLinkId + 1 := by
      omega
    apply LinkInvariant.next
    · exact invariant.numbered.append isNew.id
    · exact invariant.table.of_same same.payments same.nextPaymentId
    · intro payment member
      obtain ⟨linkId, owner, below⟩ := invariant.paymentLinks payment member
      exact ⟨linkId, owner, later below⟩
    · intro linkId member
      exact later (invariant.closedKnown linkId member)
    · intro other otherIn
      apply SafeLink.of_payments _ (completedAmount_of_payments same.payments other.id)
      rcases List.mem_added.mp otherIn with old | new
      · exact invariant.safe other old
      · rw [new]
        refine ⟨?_, ?_, fun isPayable => ⟨isNew.payable isPayable,
          .inl isNew.status⟩, fun listed => ?_⟩
        · rw [isNew.collectedAmount, isNew.id, invariant.completedAmount_next]
        · rw [isNew.collectedAmount]
          have positive := link.requestedPositive
          omega
        · have below := invariant.closedKnown link.id listed
          rw [isNew.id] at below
          exact absurd below (Int.lt_irrefl _)

end

/-! ## Notifications -/

/-- A notification is accepted and written into the row of its payment. -/
structure Records
    (env : LinkEnvironment)
    (state : LinkState)
    (call : WebhookCall)
    (provider : LinkProvider)
    (link : PaymentLink)
    (charge : Charge)
    (reservation : ReservationFinancials) : Prop where
  accepted : ∃ after result, ingestWebhook env state call = .ok (after, result)
  named : LinkProvider.ofText call.provider = some provider
  newId : state.findExistingEvent provider call.webhookId = none
  resolved : resolveLink env state call = .ok link
  charged : readCharge env provider link call = .ok charge
  stored : state.accounts.reservations link.reservationId = some reservation
  moves : ∀ payment, state.payment? provider charge.externalPaymentId = some payment ->
      IsAllowedStatusTransition payment.status charge.status

/-- With the payment as it is reported the link has not collected too much,
and once closed it is not paid in part while it is open. -/
structure KeepsLink
    (history : LinkHistory)
    (provider : LinkProvider)
    (link : PaymentLink)
    (charge : Charge)
    (reservation : ReservationFinancials) : Prop where
  fits : history.state.collectedWith provider link charge ≤ link.requestedAmount + 1
  staysClosed : link.id ∈ history.onceClosed -> closedLinkStatus reservation link = none ->
      ¬(0 < history.state.collectedWith provider link charge ∧
        history.state.collectedWith provider link charge < link.requestedAmount)

def KeepsLinks (history : LinkHistory) : LinkEvent -> Prop
  | .ingestWebhook env call => ∀ {provider link charge reservation},
      Records env history.state call provider link charge reservation ->
        KeepsLink history provider link charge reservation
  | _ => True

section

variable {env : LinkEnvironment} {after recorded : LinkState}
  {provider : LinkProvider} {webhookId : String} {link final : PaymentLink}
  {closed : Option LinkStatus} {charge : Charge} {payment : Payment}
  {history : LinkHistory} {call : WebhookCall}
  {reservation : ReservationFinancials} {result : WebhookResult}

theorem closedAs_closeWithReservation :
    closeWithReservation closed link = link ∨ ClosedAs link (closeWithReservation closed link) := by
  unfold closeWithReservation
  split_ifs
  · exact .inr ⟨rfl, rfl, rfl, rfl⟩
  · exact .inl rfl

theorem not_isClosed_of_closedLinkStatus
    (isOpen : closedLinkStatus reservation link = none) : ¬link.IsClosed := by
  unfold closedLinkStatus at isOpen
  split_ifs at isOpen with cancelled isClosed
  exact isClosed

theorem Recorded.links {state : LinkState}
    (isRecorded : Recorded state provider link closed charge payment recorded) :
    recorded.links = state.links ∧ recorded.nextLinkId = state.nextLinkId ∧
      ∀ row ∈ recorded.payments, row ∈ state.payments ∨ row = payment := by
  cases isRecorded with
  | added =>
    refine ⟨rfl, rfl, fun row member => ?_⟩
    rcases List.mem_added.mp member with old | new
    · exact .inl old
    · exact .inr new
  | moved =>
    refine ⟨rfl, rfl, fun row member => ?_⟩
    rcases Table.mem_replace member with new | ⟨old, -⟩
    · exact .inr new
    · exact .inl old

/-- The link of a recorded notification after it. -/
structure NotifiedLink
    (history : LinkHistory)
    (provider : LinkProvider)
    (link : PaymentLink)
    (charge : Charge)
    (closed : Option LinkStatus)
    (final : PaymentLink) : Prop where
  id : final.id = link.id
  requestedAmount : final.requestedAmount = link.requestedAmount
  collectedAmount : final.collectedAmount = history.state.collectedWith provider link charge
  payable : final.payable = true -> closed = none ∧ ((final.status = .partiallyPaid ∧
          0 < history.state.collectedWith provider link charge ∧
          history.state.collectedWith provider link charge < link.requestedAmount) ∨
        (link.payable = true ∧ final.status = .pending))
  isProvider : final.IsProviderLink
  partlyPaid : closed = none -> 0 < history.state.collectedWith provider link charge ->
    history.state.collectedWith provider link charge < link.requestedAmount -> final.payable = true

theorem NotifiedLink.safe_iff (notified : NotifiedLink history provider link charge
      (closedLinkStatus reservation link) final)
    (safe : SafeLink history.state history.onceClosed link)
    (collected : final.collectedAmount = after.completedAmount final.id) :
    SafeLink after history.onceClosed final ↔
      KeepsLink history provider link charge reservation := by
  constructor
  · intro isSafe
    constructor
    · rw [← notified.collectedAmount, ← notified.requestedAmount]
      exact isSafe.fits
    · rintro listed isOpen ⟨positive, unpaid⟩
      have isPayable := notified.partlyPaid isOpen positive unpaid
      rw [isSafe.closed (notified.id ▸ listed)] at isPayable
      cases isPayable
  · intro keeps
    refine ⟨collected, ?_, ?_, ?_⟩
    · rw [notified.collectedAmount, notified.requestedAmount]
      exact keeps.fits
    · intro isPayable
      refine ⟨notified.isProvider, ?_⟩
      obtain ⟨-, ⟨partlyPaid, -⟩ | ⟨-, pending⟩⟩ := notified.payable isPayable
      · exact .inr partlyPaid
      · exact .inl pending
    · intro listed
      rw [notified.id] at listed
      cases isPayable : final.payable with
      | false => rfl
      | true =>
        obtain ⟨isOpen, ⟨-, positive, unpaid⟩ | ⟨wasPayable, -⟩⟩ := notified.payable isPayable
        · exact absurd ⟨positive, unpaid⟩ (keeps.staysClosed listed isOpen)
        · rw [safe.closed listed] at wasPayable
          cases wasPayable

theorem LinkInvariant.linked (invariant : LinkInvariant history) :
    ∀ payment ∈ history.state.payments, payment.paymentLinkId ≠ none := by
  intro payment member
  obtain ⟨linkId, owner, -⟩ := invariant.paymentLinks payment member
  rw [owner]
  exact Option.some_ne_none linkId

theorem LinkInvariant.notifiedLink (invariant : LinkInvariant history)
    (member : link ∈ history.state.links) (isProvider : link.IsProviderLink)
    (isRecorded : Recorded (history.state.storeLink (closeWithReservation closed link)) provider
      (closeWithReservation closed link) closed charge payment recorded)
    (isOpen : closed = none -> ¬link.IsClosed)
    (isFinal : final = refreshClosedLink recorded closed (closeWithReservation closed link) ∨
      final = refreshReviewedLink recorded closed (closeWithReservation closed link)) :
    NotifiedLink history provider link charge closed final ∧
      final.collectedAmount = recorded.completedAmount final.id := by
  have closedSame : SameLink (closeWithReservation closed link) link :=
    sameLink_closeWithReservation
  have same : SameLink final link := by
    refine closedSame.trans ?_
    rcases isFinal with rfl | rfl
    · exact sameLink_refreshClosedLink
    · exact sameLink_refreshReviewedLink
  have sameId : (closeWithReservation closed link).id = link.id :=
    closedSame.id
  have counted : final.collectedAmount = recorded.completedAmount link.id := by
    rw [← sameId]
    rcases isFinal with rfl | rfl
    · exact collectedAmount_refreshClosedLink
    · exact collectedAmount_refreshReviewedLink
  have collected : recorded.completedAmount link.id =
      history.state.collectedWith provider link charge := by
    have own := isRecorded.completedAmount_own (invariant.table.storeLink _) invariant.linked
    rw [sameId] at own
    unfold LinkState.collectedWith
    rw [own, (invariant.safe link member).collected]
    rfl
  refine ⟨⟨same.id, same.requestedAmount, counted.trans collected, ?_,
    same.isProviderLink.mpr isProvider, ?_⟩, ?_⟩
  · intro isPayable
    obtain ⟨rfl, rfl⟩ := payable_of_settled isFinal isPayable
    refine ⟨rfl, ?_⟩
    rw [← collected]
    rcases refreshLinkCollection_payable isPayable with ⟨partlyPaid, -, positive, unpaid⟩ |
      ⟨wasPayable, isClosed | pending⟩
    · exact .inl ⟨partlyPaid, positive, unpaid⟩
    · exact absurd isClosed (isOpen rfl)
    · exact .inr ⟨wasPayable, pending⟩
  · rintro rfl positive unpaid
    rw [← collected] at positive unpaid
    have isRefreshed : final = refreshLinkCollection recorded link := by
      rcases isFinal with rfl | rfl
      · rfl
      · rfl
    rw [isRefreshed]
    exact refreshLinkCollection_partlyPaid isProvider positive unpaid
  · rw [counted, same.id]

/-- What an accepted notification does to the links. -/
inductive NotifiedState
    (env : LinkEnvironment)
    (history : LinkHistory)
    (call : WebhookCall)
    (after : LinkState) : Prop
  /-- The payment stays as it is. -/
  | logged
      (closes : ClosesLinks history.state after)
      (payments : after.payments = history.state.payments)
      (nextPaymentId : after.nextPaymentId = history.state.nextPaymentId)
      (unrecorded : ∀ {provider link charge reservation},
        ¬Records env history.state call provider link charge reservation)
  | recorded
      {provider : LinkProvider} {link final : PaymentLink} {charge : Charge}
      {reservation : ReservationFinancials}
      (records : Records env history.state call provider link charge reservation)
      (notified : NotifiedLink history provider link charge
        (closedLinkStatus reservation link) final)
      (safe : SafeLink history.state history.onceClosed link)
      (collected : final.collectedAmount = after.completedAmount final.id)
      (links : after.links.map PaymentLink.id = history.state.links.map PaymentLink.id)
      (nextLinkId : after.nextLinkId = history.state.nextLinkId)
      (member : final ∈ after.links)
      (others : ∀ other ∈ after.links, other = final ∨ (other ∈ history.state.links ∧
          after.completedAmount other.id = history.state.completedAmount other.id))
      (table : PaymentTable after)
      (paymentLinks : ∀ payment ∈ after.payments, ∃ linkId, payment.paymentLinkId = some linkId ∧
          linkId < history.state.nextLinkId)

theorem Records.unique {state : LinkState} {provider' : LinkProvider} {link' : PaymentLink}
    {charge' : Charge} {reservation' : ReservationFinancials}
    (records : Records env state call provider link charge reservation)
    (records' : Records env state call provider' link' charge' reservation') :
    provider' = provider ∧ link' = link ∧ charge' = charge ∧ reservation' = reservation := by
  obtain rfl := Option.some.inj (records.named.symm.trans records'.named)
  obtain rfl := Except.ok.inj (records.resolved.symm.trans records'.resolved)
  obtain rfl := Except.ok.inj (records.charged.symm.trans records'.charged)
  obtain rfl := Option.some.inj (records.stored.symm.trans records'.stored)
  exact ⟨rfl, rfl, rfl, rfl⟩

theorem LinkInvariant.notifiedState (invariant : LinkInvariant history)
    (ingested : ingestWebhook env history.state call = .ok (after, result)) :
    NotifiedState env history call after := by
  obtain ⟨provider, named, ⟨rfl, event, -, found⟩ | ⟨newId, link, charge,
    resolved, charged, applied⟩⟩ := ingestWebhook_eq_ok ingested
  · refine .logged (.refl history.state) rfl rfl ?_
    intro provider' link' charge' reservation' records
    obtain rfl := Option.some.inj (named.symm.trans records.named)
    exact absurd (found.symm.trans records.newId) (by simp)
  have member := resolveLink_eq_ok resolved
  obtain ⟨-, isProvider, -, normalized⟩ := readCharge_eq_ok charged
  obtain ⟨reservation, closed, closedLink, closedState, stored, isClosed, rfl,
    rfl, -, ⟨payment, found, disallowed, logged⟩ |
      ⟨payment, recorded, isRecorded, settled⟩⟩ := applyCharge_eq_ok applied
  · refine .logged ?_ logged.payments logged.nextPaymentId ?_
    · have closes : ClosesLinks history.state
          (history.state.storeLink (closeWithReservation closed link)) :=
        closesLinks_storeLink member closedAs_closeWithReservation
      exact ⟨logged.nextLinkId.trans closes.nextLinkId, (congrArg _ logged.links).trans closes.ids,
        fun other otherIn => closes.links other (logged.links ▸ otherIn)⟩
    · intro provider' link' charge' reservation' records
      obtain rfl := Option.some.inj (named.symm.trans records.named)
      obtain rfl := Except.ok.inj (resolved.symm.trans records.resolved)
      obtain rfl := Except.ok.inj (charged.symm.trans records.charged)
      exact disallowed (records.moves payment found)
  · have moves : ∀ payment,
        history.state.payment? provider charge.externalPaymentId = some payment ->
        IsAllowedStatusTransition payment.status charge.status := by
      intro old found
      cases isRecorded with
      | added absent => exact absurd (absent.symm.trans found) (by simp)
      | moved found' allowed =>
        obtain rfl := Option.some.inj (found'.symm.trans found)
        exact allowed
    obtain ⟨final, isFinal, links⟩ := settled.links
    obtain ⟨sameLinks, sameNext, rows⟩ := isRecorded.links
    have isOpen : closed = none -> ¬link.IsClosed := by
      rintro rfl
      exact not_isClosed_of_closedLinkStatus isClosed.symm
    obtain ⟨notified, collected⟩ :=
      invariant.notifiedLink member isProvider isRecorded isOpen isFinal
    have sameAmount := completedAmount_of_payments settled.payments
    have ids : after.links.map PaymentLink.id = history.state.links.map PaymentLink.id := by
      rw [links, Table.map_key_replace, sameLinks]
      exact Table.map_key_replace
    obtain ⟨owner, -⟩ := isRecorded.columns
    have closedId : (closeWithReservation closed link).id = link.id :=
      sameLink_closeWithReservation.id
    subst isClosed
    refine .recorded ⟨⟨_, _, ingested⟩, named, newId, resolved, charged, stored,
      moves⟩ notified (invariant.safe link member)
      (collected.trans (sameAmount final.id).symm) ids
      (settled.nextLinkId.trans sameNext) ?_ ?_ ?_ ?_
    · rw [links]
      apply Table.mem_replace_self
      rw [sameLinks, notified.id]
      have stored : link.id ∈ history.state.links.map PaymentLink.id :=
        List.mem_map_of_mem member
      rw [← ids, links, Table.map_key_replace, sameLinks] at stored
      exact stored
    · intro other otherIn
      rw [links] at otherIn
      rcases Table.mem_replace otherIn with isFinal | ⟨kept, different⟩
      · exact .inl isFinal
      rw [sameLinks] at kept
      rw [notified.id, ← closedId] at different
      rcases Table.mem_replace kept with isClosed | ⟨old, -⟩
      · exact absurd (congrArg PaymentLink.id isClosed) different
      · have untouched := isRecorded.completedAmount_other
          (invariant.table.storeLink _) invariant.linked different
        exact .inr ⟨old, (sameAmount other.id).trans untouched⟩
    · exact (isRecorded.recordedTable (invariant.table.storeLink _)
        normalized).table.of_same settled.payments settled.nextPaymentId
    · intro row rowIn
      rw [settled.payments] at rowIn
      rcases rows row rowIn with old | rfl
      · exact invariant.paymentLinks row old
      · refine ⟨link.id, ?_, invariant.numbered.below link member⟩
        rw [owner, closedId]

theorem LinkInvariant.ingestWebhook (invariant : LinkInvariant history)
    (ingested : Links.ingestWebhook env history.state call = .ok (after, result)) :
    (KeepsLinks history (.ingestWebhook env call) ->
      LinkInvariant ⟨after, history.onceClosed ++ after.closedIds⟩) ∧
    ((∀ link ∈ after.links, SafeLink after (history.onceClosed ++ after.closedIds) link) ->
      KeepsLinks history (.ingestWebhook env call)) := by
  cases invariant.notifiedState ingested with
  | logged closes payments nextPaymentId unrecorded =>
    exact ⟨fun _ => invariant.closes closes payments nextPaymentId,
      fun _ _ _ _ _ records => absurd records unrecorded⟩
  | @recorded provider link final charge reservation records notified safe
      collected links nextLinkId member others table paymentLinks =>
      have safe_iff := notified.safe_iff safe collected
      refine ⟨fun keeps => ?_, fun isSafe => ?_⟩
      · have isSafe := safe_iff.mpr (keeps records)
        apply LinkInvariant.next
        · rw [nextLinkId]
          exact invariant.numbered.of_map_key_eq links
        · exact table
        · rw [nextLinkId]
          exact paymentLinks
        · rw [nextLinkId]
          exact invariant.closedKnown
        · intro other otherIn
          rcases others other otherIn with rfl | ⟨old, sameAmount⟩
          · exact isSafe
          · exact (invariant.safe other old).of_payments sameAmount
      · intro provider' link' charge' reservation' records'
        obtain ⟨rfl, rfl, rfl, rfl⟩ := records.unique records'
        apply safe_iff.mp
        have later := isSafe final member
        exact ⟨later.collected, later.fits, later.payable, fun listed =>
          later.closed (List.mem_append_left _ listed)⟩

theorem LinkInvariant.step (invariant : LinkInvariant history) {event : LinkEvent}
    {next : LinkHistory} (taken : historyStep history event = some next) :
    (KeepsLinks history event -> LinkInvariant next) ∧ (next.IsSafe -> KeepsLinks history event) := by
  cases taken
  by_cases created : ∃ env call, event = .createLink env call
  · obtain ⟨env, call, rfl⟩ := created
    exact ⟨fun _ => invariant.createLink env call, fun _ => trivial⟩
  by_cases notified : ∃ env call, event = .ingestWebhook env call
  · obtain ⟨env, call, rfl⟩ := notified
    cases ingested : Links.ingestWebhook env history.state call with
    | ok answer =>
      have isAfter : history.state.after (.ingestWebhook env call) = answer.1 := by
        show history.state.committed _ = _
        rw [ingested]
        rfl
      unfold LinkHistory.after
      rw [isAfter]
      exact invariant.ingestWebhook ingested
    | error reason =>
      have isAfter : history.state.after (.ingestWebhook env call) = history.state := by
        show history.state.committed _ = _
        rw [ingested]
        rfl
      unfold LinkHistory.after
      rw [isAfter]
      refine ⟨fun _ => invariant.closes (.refl _) rfl rfl, ?_⟩
      intro _ provider link charge reservation records
      obtain ⟨after, result, accepted⟩ := records.accepted
      rw [ingested] at accepted
      cases accepted
  · have unnotified : ∀ env call, event ≠ .ingestWebhook env call :=
      fun env call isEvent => notified ⟨env, call, isEvent⟩
    have same : SameReceipts history.state (history.state.after event) :=
      LinkState.sameReceipts_after unnotified
    have closes : ClosesLinks history.state (history.state.after event) :=
      closesLinks_after (fun env call isEvent => created ⟨env, call, isEvent⟩) unnotified
    refine ⟨fun _ => invariant.closes closes same.payments same.nextPaymentId, fun _ => ?_⟩
    cases event with
    | ingestWebhook env call => exact absurd rfl (unnotified env call)
    | _ => trivial

end

theorem keepsLinks_approvedCall {onceClosed : List Int} (none : onceClosed = []) :
    KeepsLinks ⟨linkedState, onceClosed⟩ (.ingestWebhook openEnvironment approvedCall) := by
  intro provider link charge reservation records
  have named : LinkProvider.ofText approvedCall.provider = some .mercadoPago := by decide +kernel
  obtain rfl := Option.some.inj (records.named.symm.trans named)
  have terms : ((resolveLink openEnvironment linkedState approvedCall).toOption
      |>.map fun link => (link.requestedAmount, link.collectedAmount)) =
        some (5000, 0) := by decide +kernel
  have amount : ((resolveLink openEnvironment linkedState approvedCall
      |>.bind fun link => readCharge openEnvironment .mercadoPago link
        approvedCall).toOption.map Charge.amount) = some 2000 := by
    decide +kernel
  rw [records.resolved] at terms amount
  change ((readCharge openEnvironment .mercadoPago link
    approvedCall).toOption.map Charge.amount) = some 2000 at amount
  rw [records.charged] at amount
  have isAmount : charge.amount = 2000 := Option.some.inj amount
  obtain ⟨requested, collected⟩ := Prod.mk.inj (Option.some.inj terms)
  constructor
  · unfold LinkState.collectedWith collectedShare
    split_ifs <;> omega
  · intro listed
    rw [none] at listed
    cases listed

theorem reaches_after {guard : LinkHistory -> LinkEvent -> Prop} {start history : LinkHistory}
    (reached : Transition.Reaches historyStep guard start history)
    (event : LinkEvent) (guarded : guard history event) :
    Transition.Reaches historyStep guard start (history.after event) :=
  .next reached guarded rfl

/-- A payment of twenty is received, and the rest of the link cancelled. -/
def cancelledHistory : LinkHistory :=
  [.createLink openEnvironment (linkOf 4999 "clave-uno"),
    .ingestWebhook openEnvironment approvedCall,
    .cancelLink 0 1 none].foldl LinkHistory.after ⟨unpaidState, []⟩

/-- Two payments are pending for one link when both are approved. -/
def paidTwice : LinkHistory :=
  [.createLink openEnvironment (linkOf 4999 "clave-uno"), .ingestWebhook openEnvironment
      (notificationOf "aviso-1" "clave-uno" "pago-1" 50 "pending"),
    .ingestWebhook openEnvironment (notificationOf "aviso-2" "clave-uno" "pago-2" 50 "pending"),
    .ingestWebhook openEnvironment (notificationOf "aviso-3" "clave-uno" "pago-1" 50 "approved"),
    .ingestWebhook openEnvironment
      (notificationOf "aviso-4" "clave-uno" "pago-2" 50 "approved")].foldl
    LinkHistory.after ⟨unpaidState, []⟩

/-- A cancelled link is paid in full by two late payments, and one of them is
refunded. -/
def reopened : LinkHistory :=
  [.createLink openEnvironment (linkOf 4999 "clave-uno"), .ingestWebhook openEnvironment
      (notificationOf "aviso-1" "clave-uno" "pago-1" 20 "pending"),
    .ingestWebhook openEnvironment (notificationOf "aviso-2" "clave-uno" "pago-2" 30 "pending"),
    .cancelLink 0 1 none,
    .ingestWebhook openEnvironment (notificationOf "aviso-3" "clave-uno" "pago-1" 20 "approved"),
    .ingestWebhook openEnvironment (notificationOf "aviso-4" "clave-uno" "pago-2" 30 "approved"),
    .ingestWebhook openEnvironment
      (notificationOf "aviso-5" "clave-uno" "pago-2" 30 "refunded")].foldl
    LinkHistory.after ⟨unpaidState, []⟩

theorem reaches_foldl (events : List LinkEvent) (start : LinkHistory) :
    Transition.Reaches historyStep (fun _ _ => True) start
      (events.foldl LinkHistory.after start) := by
  induction events using List.reverseRecOn with
  | nil => exact .refl
  | append_singleton events event ih =>
    rw [List.foldl_append]
    exact reaches_after ih event trivial

end HotelPms.Links
