import HotelPms.Foundation.Transition
import HotelPms.Links.Creation

/-!
# Balance promised by payable links

What the payable links of a reservation ask for, before their surcharges, is
compared with its balance on every new link, with a tolerance of one cent and
a clamp at zero.  The clamp hides an amount that is already a cent too high,
so that every further link of one cent is accepted.
-/

namespace HotelPms.Links

open Checked Decimal Hotel Payments

/-- A surcharge as the settings of the hotel accept it: a fixed amount, or a
percentage of at most a hundred. -/
def ValidSurcharge (surcharge : PaymentSurcharge) : Prop :=
  surcharge.surchargeType = "fixed" ∨
    (surcharge.surchargeType = "percentage" ∧ |surcharge.amount| ≤ 100)

/-- The terms of a quote can be applied again to an amount in a currency. -/
structure Applicable
    (quote : LinkSurchargeQuote)
    (method : PaymentMethod)
    (currencyCode : String) : Prop where
  currency : currencyWellFormed currencyCode = true
  version : quote.terms.version = 1
  sameMethod : quote.terms.paymentMethod = method
  sameCurrency : quote.terms.currencyCode.toUpper = currencyCode
  terms : quote.terms.surchargeType = none ∨
    (∃ value amount, quote.terms.surchargeType = some "fixed" ∧
      quote.terms.surchargeValue = some value ∧
      quote.terms.surchargeAmount = some amount) ∨
    ∃ value, quote.terms.surchargeType = some "percentage" ∧
      quote.terms.surchargeValue = some value ∧ |value| ≤ 100

theorem Applicable.calculatePaymentSurcharge_ok
    {quote : LinkSurchargeQuote} {method : PaymentMethod}
    {currencyCode : String} (applicable : Applicable quote method currencyCode)
    (env : PaymentEnvironment) (surcharges : List PaymentSurcharge)
    (base : Int) :
    ∃ info, calculatePaymentSurcharge env surcharges method base currencyCode
      (some quote.terms) = .ok info := by
  have wellFormed : currencyWellFormed currencyCode ≠ false := by
    rw [applicable.currency]
    decide
  have sameQuote : ¬(quote.terms.version ≠ 1 ∨ quote.terms.paymentMethod ≠ method ∨
      quote.terms.currencyCode.toUpper ≠ currencyCode) := by
    simp [applicable.version, applicable.sameMethod, applicable.sameCurrency]
  unfold calculatePaymentSurcharge quotedSurcharge
  simp only [raiseIf, if_neg wellFormed, if_neg sameQuote]
  rcases applicable.terms with untyped | ⟨value, amount, isFixed, isValue,
      isAmount⟩ | ⟨value, isPercentage, isValue, small⟩
  · rw [untyped]
    exact ⟨_, rfl⟩
  · rw [isFixed, isValue, isAmount]
    exact ⟨_, rfl⟩
  · rw [isPercentage, isValue]
    simp only [if_neg (not_lt.mpr small)]
    exact ⟨_, rfl⟩

theorem applicable_of_issueSurchargeQuote
    {env : PaymentEnvironment} {surcharges : List PaymentSurcharge}
    {method : PaymentMethod} {base : Int} {currencyCode : String}
    {quote : LinkSurchargeQuote}
    (valid : ∀ surcharge ∈ surcharges, ValidSurcharge surcharge)
    (capitals : currencyCode.toUpper = currencyCode)
    (issued : issueSurchargeQuote env surcharges method base currencyCode = .ok quote) :
    Applicable quote method currencyCode ∧ quote.baseAmount = base := by
  unfold issueSurchargeQuote calculatePaymentSurcharge at issued
  simp only [bind_eq_ok, raiseIf_eq_ok, pure_eq_ok] at issued
  obtain ⟨info, ⟨_, wellFormed, -⟩, rfl⟩ := issued
  refine ⟨⟨by simpa using wellFormed, rfl, rfl, capitals, ?_⟩, rfl⟩
  cases found : activeSurcharge surcharges method with
  | none => exact .inl rfl
  | some surcharge =>
    right
    rcases valid surcharge (List.mem_of_find?_eq_some found) with fixed | ⟨percentage, small⟩
    · exact .inl ⟨surcharge.amount, info.amount / 100, congrArg some fixed, rfl, rfl⟩
    · exact .inr ⟨surcharge.amount, congrArg some percentage, rfl, small⟩

/-- Amount a link was asked for, before its surcharge. -/
def PaymentLink.quotedBase (link : PaymentLink) : Int :=
  (link.surchargeQuote.map LinkSurchargeQuote.baseAmount).getD 0

/-- A link that has collected nothing, with the quote it was issued with. -/
structure AsIssued (link : PaymentLink) : Prop where
  uncollected : link.collectedAmount = 0
  provider : link.executionMode = .provider
  status : link.status = .pending
  currency : normalizeCurrency link.currency = link.currency
  quote : ∃ quote, link.surchargeQuote = some quote ∧ quote.finalAmount = link.requestedAmount ∧
    Applicable quote link.provider.method link.currency

theorem AsIssued.uncollectedBase_eq {link : PaymentLink} (issued : AsIssued link)
    (env : PaymentEnvironment) (surcharges : List PaymentSurcharge) :
    link.uncollectedBase env surcharges = .ok link.quotedBase := by
  obtain ⟨quote, isQuote, final, applicable⟩ := issued.quote
  obtain ⟨info, applied⟩ := applicable.calculatePaymentSurcharge_ok env surcharges 0
  have whole : link.uncollected = quote.finalAmount := by
    have positive := link.requestedPositive
    unfold PaymentLink.uncollected
    rw [issued.uncollected, final]
    omega
  have given : link.currency ≠ "" := by
    intro empty
    have wellFormed := applicable.currency
    rw [empty] at wellFormed
    revert wellFormed
    decide
  unfold PaymentLink.uncollectedBase calculateBaseAmountBeforeSurcharge PaymentLink.quotedBase
  rw [if_neg given, issued.currency, isQuote, Option.map_some, applied, whole]
  simp only [Option.filter, decide_true, if_true]
  rfl

namespace LinkState

variable (state : LinkState)

def payableLinks (reservationId : Int) : List PaymentLink :=
  state.links.filter fun link => link.reservationId = reservationId ∧ link.payable = true

/-- Sum over the payable links of a reservation of what they have not
collected, before their surcharges. -/
def promisedBase (env : PaymentEnvironment) (reservationId : Int) : Except String Int := do
  let bases ← (state.payableLinks reservationId).mapM fun link =>
    link.uncollectedBase env state.accounts.surcharges
  pure bases.sum

/-- The payable links of a reservation promise no more than its balance, up to
a cent. -/
def PromisesCovered (env : PaymentEnvironment) (reservation : ReservationFinancials) : Prop :=
  ∃ promised, state.promisedBase env reservation.id = .ok promised ∧
    promised ≤ state.balanceOf reservation + 1

/-- Every payable link of the reservation is as it was issued. -/
def FreshLinks (reservationId : Int) : Prop :=
  ∀ link ∈ state.payableLinks reservationId, AsIssued link

/-- What the payable links of a reservation were asked for. -/
def quotedTotal (reservationId : Int) : Int :=
  ((state.payableLinks reservationId).map PaymentLink.quotedBase).sum

variable {state} {reservationId : Int}

theorem FreshLinks.promisedBase_eq
    (fresh : state.FreshLinks reservationId) (env : PaymentEnvironment) :
    state.promisedBase env reservationId = .ok (state.quotedTotal reservationId) := by
  have bases : (state.payableLinks reservationId).mapM (fun link =>
      link.uncollectedBase env state.accounts.surcharges) =
        .ok ((state.payableLinks reservationId).map PaymentLink.quotedBase) :=
    mapM_eq_ok_map fun link member => (fresh link member).uncollectedBase_eq env _
  unfold promisedBase
  rw [bases]
  rfl

theorem FreshLinks.activeLinks_eq (fresh : state.FreshLinks reservationId) :
    state.activeLinks reservationId = state.payableLinks reservationId := by
  apply List.filter_congr
  intro link member
  rw [decide_eq_decide]
  constructor
  · rintro ⟨own, -, payable, -⟩
    exact ⟨own, payable⟩
  · rintro ⟨own, payable⟩
    have issued := fresh link (List.mem_filter.mpr ⟨member, decide_eq_true ⟨own, payable⟩⟩)
    refine ⟨own, issued.provider, payable, ?_⟩
    rw [issued.status]
    decide

theorem FreshLinks.availableProviderBalance_eq {reservation : ReservationFinancials}
    (fresh : state.FreshLinks reservation.id) (env : PaymentEnvironment) :
    state.availableProviderBalance env reservation =
      .ok (max 0 (state.balanceOf reservation - state.quotedTotal reservation.id)) := by
  have bases : (state.payableLinks reservation.id).mapM (fun link =>
      link.uncollectedBase env state.accounts.surcharges) =
        .ok ((state.payableLinks reservation.id).map PaymentLink.quotedBase) :=
    mapM_eq_ok_map fun link member => (fresh link member).uncollectedBase_eq env _
  unfold availableProviderBalance
  rw [fresh.activeLinks_eq, bases]
  rfl

theorem FreshLinks.promisesCovered_iff {reservation : ReservationFinancials}
    (fresh : state.FreshLinks reservation.id) (env : PaymentEnvironment) :
    state.PromisesCovered env reservation ↔
      state.quotedTotal reservation.id ≤ state.balanceOf reservation + 1 := by
  unfold PromisesCovered
  rw [fresh.promisedBase_eq env]
  constructor
  · rintro ⟨_, same, covered⟩
    rwa [Except.ok.inj same]
  · intro covered
    exact ⟨_, rfl, covered⟩

end LinkState

/-! ## One call -/

section

variable {env : LinkEnvironment} {state after : LinkState}
  {call : CreateLinkCall} {link : PaymentLink} {checked : CheckedLinkRequest}
  {reservationId : Int}

def CreateLinkCall.askedAmount (call : CreateLinkCall) : Int :=
  quantize 0 call.payload.requestedAmount

theorem IsNewLink.asIssued
    (valid : ∀ surcharge ∈ state.accounts.surcharges, ValidSurcharge surcharge)
    (isChecked : checkLinkRequest env state call = .ok checked)
    (isNew : IsNewLink env state checked link) (payable : link.payable = true) :
    AsIssued link ∧ link.quotedBase = call.askedAmount := by
  obtain ⟨-, currency, issued, -⟩ := checkLinkRequest_eq_ok isChecked
  have capitals : checked.currency.toUpper = checked.currency := by
    rw [currency]
    exact toUpper_normalizeCurrency _
  obtain ⟨applicable, isBase⟩ := applicable_of_issueSurchargeQuote valid capitals issued
  constructor
  · exact
      { uncollected := isNew.collectedAmount
        provider := (isNew.payable payable).1
        status := isNew.status
        currency := by
          rw [isNew.currency, currency]
          exact normalizeCurrency_normalizeCurrency _
        quote := by
          refine ⟨checked.quote, isNew.surchargeQuote, isNew.requestedAmount.symm, ?_⟩
          rw [isNew.provider, isNew.currency]
          exact applicable }
  · unfold PaymentLink.quotedBase
    rw [isNew.surchargeQuote]
    exact isBase

theorem payableLinks_addLink :
    (state.addLink link).payableLinks reservationId = state.payableLinks reservationId ++
        if link.reservationId = reservationId ∧ link.payable = true
        then [link] else [] := by
  unfold LinkState.payableLinks LinkState.addLink
  rw [List.filter_append]
  by_cases payable : link.reservationId = reservationId ∧ link.payable = true
  · rw [if_pos payable, List.filter_cons, if_pos (decide_eq_true payable), List.filter_nil]
  · rw [if_neg payable, List.filter_cons, if_neg (by rwa [decide_eq_true_eq]), List.filter_nil]

theorem freshLinks_addLink (fresh : state.FreshLinks reservationId)
    (issued : link.reservationId = reservationId -> link.payable = true -> AsIssued link) :
    (state.addLink link).FreshLinks reservationId := by
  intro other member
  rw [payableLinks_addLink] at member
  rcases List.mem_append.mp member with old | new
  · exact fresh other old
  · split_ifs at new with payable
    · obtain rfl := List.mem_singleton.mp new
      exact issued payable.1 payable.2
    · cases new

theorem quotedTotal_addLink :
    (state.addLink link).quotedTotal reservationId = state.quotedTotal reservationId +
        if link.reservationId = reservationId ∧ link.payable = true
        then link.quotedBase else 0 := by
  unfold LinkState.quotedTotal
  rw [payableLinks_addLink, List.map_append, List.sum_append]
  split_ifs
  · rw [List.map_singleton, List.sum_singleton]
  · rfl

end

/-- The clamp at zero hides a missing cent: a new key asks for one cent while
the payable links already promise more than the balance. -/
structure HidesMissingCent
    (reservation : ReservationFinancials)
    (env : LinkEnvironment)
    (state : LinkState)
    (call : CreateLinkCall) : Prop where
  own : call.payload.reservationId = reservation.id
  cent : call.askedAmount = 1
  newKey : ∃ key, normalizedIdempotencyKey call.idempotencyKey = .ok key ∧
    state.findIdempotentLink key = none
  overPromised : ∃ promised, state.promisedBase env.toPaymentEnvironment reservation.id =
      .ok promised ∧ state.balanceOf reservation < promised

/-- State after a call. -/
def afterCreateLink (env : LinkEnvironment) (state : LinkState) (call : CreateLinkCall) :
    LinkState :=
  state.committed (createLink env state call)

/-- One call of a run. -/
def createStep (state : LinkState) (event : LinkEnvironment × CreateLinkCall) : Option LinkState :=
  some (afterCreateLink event.1 state event.2)

/-- What every run of calls keeps. -/
structure PromiseInvariant
    (accounts : PaymentState)
    (reservation : ReservationFinancials)
    (state : LinkState) : Prop where
  accounts : state.accounts = accounts
  fresh : state.FreshLinks reservation.id
  covered : state.quotedTotal reservation.id ≤ state.balanceOf reservation + 1

section

variable {accounts : PaymentState} {reservation : ReservationFinancials}
  {env : LinkEnvironment} {state after : LinkState} {call : CreateLinkCall}
  {link : PaymentLink} {checked : CheckedLinkRequest}

theorem IsNewLink.covered (invariant : PromiseInvariant accounts reservation state)
    (isNew : IsNewLink env state checked link)
    (own : checked.reservation = reservation) (payable : link.payable = true) :
    checked.quote.baseAmount ≤
      max 0 (state.balanceOf reservation - state.quotedTotal reservation.id) + 1 := by
  have providerMode := isNew.providerMode
  unfold LinkState.checkProviderMode at providerMode
  rw [if_pos (isNew.enabled payable), own,
    invariant.fresh.availableProviderBalance_eq] at providerMode
  simp only [bind_eq_ok, raiseIf_eq_ok] at providerMode
  obtain ⟨-, -, available, same, within⟩ := providerMode
  rw [← Except.ok.inj same] at within
  omega

theorem PromiseInvariant.createLink
    (valid : ∀ surcharge ∈ accounts.surcharges, ValidSurcharge surcharge)
    (stored : accounts.reservations reservation.id = some reservation)
    (invariant : PromiseInvariant accounts reservation state)
    (visible : ¬HidesMissingCent reservation env state call)
    (created : createLink env state call = .ok (after, link)) :
    PromiseInvariant accounts reservation after := by
  obtain ⟨checked, isChecked, ⟨rfl, -⟩ | ⟨isNew, rfl, newKey⟩⟩ := createLink_eq_ok created
  · exact invariant
  obtain ⟨found, -, issued, isKey⟩ := checkLinkRequest_eq_ok isChecked
  rw [← invariant.accounts] at valid stored
  have requested : checked.reservation.id = call.payload.reservationId :=
    state.accounts.ownIds _ _ found
  constructor
  · exact invariant.accounts
  · exact freshLinks_addLink invariant.fresh fun _ payable =>
      (isNew.asIssued valid isChecked payable).1
  · rw [quotedTotal_addLink]
    have covered := invariant.covered
    split_ifs with payable
    · -- the call is one on this reservation
      have sameId : call.payload.reservationId = reservation.id := by
        rw [← requested, ← isNew.reservationId]
        exact payable.1
      have own : checked.reservation = reservation := by
        rw [sameId, stored] at found
        exact (Option.some.inj found).symm
      obtain ⟨-, isBase⟩ := isNew.asIssued valid isChecked payable.2
      have within := isNew.covered invariant own payable.2
      have asked : checked.quote.baseAmount = call.askedAmount := by
        rw [← isBase]
        unfold PaymentLink.quotedBase
        rw [isNew.surchargeQuote]
        rfl
      have sameBalance : (state.addLink link).balanceOf reservation =
          state.balanceOf reservation := rfl
      by_contra exceeds
      apply visible
      refine ⟨sameId, by omega, ⟨_, isKey, newKey⟩, _, invariant.fresh.promisedBase_eq _, by omega⟩
    · rw [add_zero]
      exact covered

/-- From a reservation without payable links, in every run of calls none of
which hides a missing cent, the payable links promise no more than the balance
of the reservation, up to a cent. -/
theorem createLink_promisesCovered {start finish : LinkState} {reservation : ReservationFinancials}
    (valid : ∀ surcharge ∈ start.accounts.surcharges, ValidSurcharge surcharge)
    (stored : start.accounts.reservations reservation.id = some reservation)
    (unpromised : ∀ link ∈ start.links, link.reservationId = reservation.id -> link.payable = false)
    (reached : Transition.Reaches createStep
      (fun state event => ¬HidesMissingCent reservation event.1 state event.2)
      start finish)
    (env : PaymentEnvironment) : finish.PromisesCovered env reservation := by
  have nothing : start.payableLinks reservation.id = [] := by
    apply List.filter_eq_nil_iff.mpr
    intro link member isPayable
    obtain ⟨own, payable⟩ := of_decide_eq_true isPayable
    rw [unpromised link member own] at payable
    cases payable
  have initial : PromiseInvariant start.accounts reservation start :=
    { accounts := rfl
      fresh := by
        intro link member
        rw [nothing] at member
        cases member
      covered := by
        have nonneg : 0 ≤ start.balanceOf reservation := le_max_left 0 _
        unfold LinkState.quotedTotal
        rw [nothing, List.map_nil, List.sum_nil]
        omega }
  have invariant : PromiseInvariant start.accounts reservation finish := by
    apply reached.invariant initial
    intro before event after invariant visible taken
    cases taken
    unfold afterCreateLink LinkState.committed
    split
    · next created =>
      exact invariant.createLink valid stored visible created
    · exact invariant
  exact (invariant.fresh.promisesCovered_iff env).mpr invariant.covered

end

theorem unpaidState_valid :
    ∀ surcharge ∈ unpaidState.accounts.surcharges, ValidSurcharge surcharge := by
  intro surcharge member
  cases member

theorem unpaidState_unpromised : ∀ link ∈ unpaidState.links,
    link.reservationId = unpaidReservation.id -> link.payable = false := by
  intro link member
  cases member

/-- A link of half the balance is covered. -/
theorem createLink_promisesCovered_half :
    (afterCreateLink openEnvironment unpaidState (linkOf 4999 "clave-uno")).PromisesCovered
        openEnvironment.toPaymentEnvironment unpaidReservation := by
  apply createLink_promisesCovered unpaidState_valid rfl unpaidState_unpromised
  refine .next .refl ?_ (rfl : createStep unpaidState
    (openEnvironment, linkOf 4999 "clave-uno") = some _)
  intro hidden
  have cent := hidden.cent
  revert cent
  decide +kernel

/-- A link for a cent more than the balance and another one for a cent are
both accepted. -/
theorem createLink_not_promisesCovered :
    ¬∀ (start finish : LinkState) (reservation : ReservationFinancials),
      (∀ surcharge ∈ start.accounts.surcharges, ValidSurcharge surcharge) ->
      start.accounts.reservations reservation.id = some reservation ->
      (∀ link ∈ start.links, link.reservationId = reservation.id -> link.payable = false) ->
      Transition.Reaches createStep (fun _ _ => True) start finish ->
      ∀ env, finish.PromisesCovered env reservation := by
  intro claim
  let overrun := afterCreateLink openEnvironment
    (afterCreateLink openEnvironment unpaidState (linkOf 10000 "clave-uno"))
    (linkOf 0 "clave-dos")
  obtain ⟨total, isTotal, covered⟩ := claim unpaidState overrun
    unpaidReservation unpaidState_valid rfl unpaidState_unpromised
    (.next (.next .refl trivial (rfl : createStep unpaidState
        (openEnvironment, linkOf 10000 "clave-uno") = some _)) trivial
      (rfl : createStep _ (openEnvironment, linkOf 0 "clave-dos") = some _))
    openEnvironment.toPaymentEnvironment
  have promised : (overrun.promisedBase openEnvironment.toPaymentEnvironment
      unpaidReservation.id).toOption = some 10002 := by
    decide +kernel
  have balance : overrun.balanceOf unpaidReservation = 10000 := by
    decide +kernel
  rw [isTotal] at promised
  have isTotal : total = 10002 := Option.some.inj promised
  rw [isTotal, balance] at covered
  cases covered

end HotelPms.Links
