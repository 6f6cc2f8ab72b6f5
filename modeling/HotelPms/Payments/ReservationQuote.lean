import HotelPms.Payments.Surcharges

/-!
# Quoting the whole balance

Without an amount, a quote looks for the largest tender that converts to no
more than the balance.  It starts from the balance divided by the rate, cut to
a cent, and only goes down from there: when the next cent of tender still
rounds to the balance, the quote misses it.
-/

namespace HotelPms.Payments

open Checked Decimal

/-- Request for a quote; the amount is in cents. -/
structure QuoteRequest where
  reservationId : Int
  paymentMethod : PaymentMethod
  currencyCode : String
  baseAmount : Option ℚ := none
  manualRate : Option FrozenRate := none
  manualFxQuoteId : Option Int := none
  surchargeQuoteSnapshotOverride : Option SurchargeQuoteSnapshot := none

/-- A quote, before its token. -/
structure ReservationQuote where
  reservationId : Int
  paymentMethod : PaymentMethod
  currencyCode : String
  reservationCurrencyCode : String
  baseAmount : Int
  applied : AppliedAmount
  paymentRate : FrozenRate
  reservationBalance : Int
  surcharge : SurchargeInfo
  finalAmount : Int
  remainingBalance : Int
  cashChangeCurrencyCode : String
  cashChangeFxRate : Option ℚ
  cashTenderSuggestion : Option Int
  manualFxQuoteId : Option Int

/-- The hotel's rounding policy for cash, and the signing of quotes. -/
structure QuoteServices where
  roundingTenderAmount : Int -> Except String (Option Int)
  issueQuoteToken : ReservationQuote -> Except String String

/-- Cash the drawer can give change for. -/
def QuoteServices.suggestion (services : QuoteServices) (paymentMethod : PaymentMethod)
    (finalAmount : Int) : Except String (Option Int) :=
  if paymentMethod = .cash then services.roundingTenderAmount finalAmount else pure none

/-- Rate from the tender to the reservation, manual or configured. -/
def quoteRate (env : PaymentEnvironment) (reservation : ReservationFinancials)
    (tenderCurrency : String) (manualRate : Option FrozenRate) :
    Except String FrozenRate := do
  if tenderCurrency ≠ reservation.currency then
    raiseIf ((manualRate.any (·.rate ≤ 0)) = true)
      "La cotización manual de conversión no es válida."
    directRate env reservation tenderCurrency manualRate
  else
    raiseIf manualRate.isSome "Un importe FX manual requiere una moneda distinta de la reserva."
    pure { rate := 1, details := none }

/-- Rate from the tender to the currency of the hotel, for cash change. -/
def quoteCashChangeRate (env : PaymentEnvironment) (reservation : ReservationFinancials)
    (request : QuoteRequest) (tenderCurrency hotelCurrency : String)
    (rate : FrozenRate) : Option ℚ :=
  if request.paymentMethod ≠ .cash then none
  else if tenderCurrency = hotelCurrency then some 1
  else if hotelCurrency = reservation.currency then some rate.rate
  else (paymentConversionRate env tenderCurrency hotelCurrency).toOption.map Prod.fst

section

variable (env : PaymentEnvironment) (reservation : ReservationFinancials)
  (tenderCurrency : String) (rate : FrozenRate) (balance : Int)

/-- Go down by cents while the tender converts to more than the balance. -/
def lowerBase : Nat -> Except String (Int × AppliedAmount)
  | 0 => .error "El saldo es demasiado bajo para cotizar en esta moneda."
  | tender + 1 => do
    let applied ← resolveAppliedPaymentAmount env reservation (tender + 1 : Nat) tenderCurrency
      none (some rate)
    if balance < applied.amount then lowerBase tender
    else pure ((tender + 1 : Nat), applied)

/-- Amount of a quote, and what it applies to the reservation. -/
def quoteBase (baseAmount : Option ℚ) : Except String (Int × AppliedAmount) := do
  let resolved := match baseAmount with
    | some asked => quantize 0 asked
    | none =>
      if tenderCurrency = reservation.currency then balance
      else truncate (inContext (balance / rate.rate))
  raiseIf (resolved ≤ 0) "El importe del pago debe ser mayor que cero."
  if baseAmount = none then
    lowerBase env reservation tenderCurrency rate balance resolved.toNat
  else
    let applied ← resolveAppliedPaymentAmount env reservation resolved tenderCurrency none
      (some rate)
    raiseIf (balance < applied.amount)
      ("El pago convertiría a " ++ formatAmount applied.amount ++ " " ++
        reservation.currencyCode ++ ", por encima del saldo pendiente de " ++
        formatAmount balance ++ " " ++ reservation.currencyCode ++ ".")
    pure (resolved, applied)

end

/-- A manual rate also converts a fixed surcharge from the currency of the
reservation. -/
def PaymentEnvironment.withManualRate (env : PaymentEnvironment)
    (reservationCurrency : String) (manualRate : Option FrozenRate) : PaymentEnvironment :=
  match manualRate with
  | none => env
  | some frozen =>
    { env with
      conversionRate := fun fromCurrency toCurrency =>
        if fromCurrency = reservationCurrency then
          .ok (inContext (1 / frozen.rate), some [("source", "authorized_manual_reservation_fx")])
        else env.conversionRate fromCurrency toCurrency }

/-- Quote a reservation payment without rounding its ledger principal. -/
def quoteReservationPaymentSurcharge (env : PaymentEnvironment) (services : QuoteServices)
    (state : PaymentState) (request : QuoteRequest) :
    Except String (ReservationQuote × String) := do
  let reservation ← match state.reservations request.reservationId with
    | none => .error "No se encontró la reserva para cotizar el pago."
    | some reservation => .ok reservation
  let currency ← resolvePaymentCurrency reservation (some request.currencyCode)
  let balance := reservation.operationalBalanceDue state.adjustments
    (reservation.paidAmountWithLegacyFallback state.ledger)
  raiseIf (balance ≤ 0) "La reserva no tiene saldo pendiente para cotizar."
  let rate ← quoteRate env reservation currency request.manualRate
  let hotelCurrency := normalizeCurrency state.config.defaultCurrency
  let (base, applied) ← quoteBase env reservation currency rate balance request.baseAmount
  let surcharge ← calculatePaymentSurcharge
    (env.withManualRate reservation.currency request.manualRate) state.surcharges
    request.paymentMethod base currency request.surchargeQuoteSnapshotOverride
  let suggestion ← services.suggestion request.paymentMethod (surcharge.finalAmount base)
  let quote : ReservationQuote :=
    { reservationId := reservation.id
      paymentMethod := request.paymentMethod
      currencyCode := currency
      reservationCurrencyCode := reservation.currency
      baseAmount := base
      applied := applied
      paymentRate := rate
      reservationBalance := balance
      surcharge := surcharge
      finalAmount := surcharge.finalAmount base
      remainingBalance := max 0 (balance - applied.amount)
      cashChangeCurrencyCode := hotelCurrency
      cashChangeFxRate :=
        quoteCashChangeRate env reservation request currency hotelCurrency rate
      cashTenderSuggestion := suggestion
      manualFxQuoteId := request.manualFxQuoteId }
  let token ← services.issueQuoteToken quote
  pure (quote, token)

/-! ## The largest tender -/

/-- What a tender converts to. -/
def converted (rate : ℚ) (tender : Int) : Int :=
  quantize 0 (inContext (tender * rate))

theorem converted_mono {rate : ℚ} {low high : Int} (positive : 0 < rate) (above : 0 < low)
    (ordered : low ≤ high) : converted rate low ≤ converted rate high := by
  have lowest : (0 : ℚ) < low * rate := mul_pos (by exact_mod_cast above) positive
  have products : (low : ℚ) * rate ≤ high * rate :=
    mul_le_mul_of_nonneg_right (by exact_mod_cast ordered) positive.le
  unfold converted quantize
  simp only [pow_zero, mul_one]
  exact roundHalfEven_mono (inContext_mono lowest products)

variable {env : PaymentEnvironment} {reservation : ReservationFinancials}
  {tenderCurrency : String} {rate : FrozenRate} {balance base : Int}
  {applied : AppliedAmount}

theorem resolveAppliedPaymentAmount_converts {tender : Int}
    (converts : tenderCurrency ≠ reservation.currency)
    (resolved : resolveAppliedPaymentAmount env reservation tender tenderCurrency none
      (some rate) = .ok applied) : applied.amount = converted rate.rate tender := by
  unfold resolveAppliedPaymentAmount resolvePaymentAmount directRate at resolved
  rw [if_neg converts] at resolved
  simp only [bind_eq_ok, pure_eq_ok] at resolved
  obtain ⟨_, rfl, _, -, rfl⟩ := resolved
  rfl

/-- The loop stops at the largest tender it may reach. -/
theorem lowerBase_eq_ok {tender : Nat} (converts : tenderCurrency ≠ reservation.currency)
    (lowered : lowerBase env reservation tenderCurrency rate balance tender = .ok (base, applied)) :
    0 < base ∧ base ≤ tender ∧ converted rate.rate base ≤ balance ∧
      applied.amount = converted rate.rate base ∧
      ∀ other : Int, base < other -> other ≤ tender -> balance < converted rate.rate other := by
  induction tender with
  | zero => cases lowered
  | succ tender ih =>
    simp only [lowerBase, bind_eq_ok] at lowered
    obtain ⟨first, resolved, lowered⟩ := lowered
    have amount := resolveAppliedPaymentAmount_converts converts resolved
    split_ifs at lowered with exceeds
    · obtain ⟨positive, within, covered, isAmount, largest⟩ := ih lowered
      refine ⟨positive, by omega, covered, isAmount, fun other more bounded => ?_⟩
      rcases eq_or_ne other (tender + 1 : Nat) with rfl | less
      · rwa [← amount]
      · exact largest other more (by omega)
    · cases lowered
      exact ⟨by omega, le_rfl, by omega, amount, fun other more bounded => by omega⟩

theorem quoteRate_pos (converts : tenderCurrency ≠ reservation.currency)
    {manualRate : Option FrozenRate}
    (isRate : quoteRate env reservation tenderCurrency manualRate = .ok rate) :
    0 < rate.rate := by
  unfold quoteRate directRate paymentConversionRate at isRate
  rw [if_pos converts] at isRate
  simp only [bind_eq_ok, raiseIf_eq_ok] at isRate
  obtain ⟨_, manual, isRate⟩ := isRate
  cases manualRate with
  | none =>
    simp only [bind_eq_ok, raiseIf_eq_ok, pure_eq_ok, not_le] at isRate
    obtain ⟨_, ⟨market, -, _, positive, rfl⟩, rfl⟩ := isRate
    exact positive
  | some frozen =>
    cases isRate
    simpa using manual

/-- The cent after the quotient of a balance and a rate is worth over half a
cent more than the balance, or exactly half a cent more than an odd one. -/
def NextCentExceeds (balance : Int) (rate : ℚ) : Prop :=
  let worth := inContext ((truncate (inContext (balance / rate)) + 1 : Int) * rate)
  balance + 1 / 2 < worth ∨ (worth = balance + 1 / 2 ∧ balance % 2 = 1)
deriving Decidable

/-- The quote of a whole balance in another currency covers no more than the
balance, and is the largest such tender exactly when the next cent after the
quotient exceeds the balance. -/
theorem quoteReservationPaymentSurcharge_largest_iff {services : QuoteServices}
    {state : PaymentState} {request : QuoteRequest} {quote : ReservationQuote} {token : String}
    (found : state.reservations request.reservationId = some reservation)
    (currency : resolvePaymentCurrency reservation (some request.currencyCode) = .ok tenderCurrency)
    (converts : tenderCurrency ≠ reservation.currency)
    (isRate : quoteRate env reservation tenderCurrency request.manualRate = .ok rate)
    (isBalance : balance = reservation.operationalBalanceDue state.adjustments
      (reservation.paidAmountWithLegacyFallback state.ledger))
    (whole : request.baseAmount = none)
    (quoted : quoteReservationPaymentSurcharge env services state request = .ok (quote, token)) :
    converted rate.rate quote.baseAmount ≤ balance ∧
      quote.applied.amount = converted rate.rate quote.baseAmount ∧
      ((∀ tender, quote.baseAmount < tender → balance < converted rate.rate tender) ↔
        NextCentExceeds balance rate.rate) := by
  have positive := quoteRate_pos converts isRate
  unfold quoteReservationPaymentSurcharge at quoted
  simp only [found, currency, isRate, ← isBalance, bind_eq_ok, raiseIf_eq_ok, pure_eq_ok,
    Except.ok.injEq, exists_eq_left', not_le] at quoted
  obtain ⟨_, -, ⟨base, applied⟩, isBase, surcharge, -, suggestion, -, _, -, pair⟩ := quoted
  cases pair
  unfold quoteBase at isBase
  rw [whole] at isBase
  simp only [if_neg converts, if_true, bind_eq_ok, raiseIf_eq_ok, not_le] at isBase
  obtain ⟨_, started, lowered⟩ := isBase
  obtain ⟨above, within, covered, amount, largest⟩ := lowerBase_eq_ok converts lowered
  refine ⟨covered, amount, ?_⟩
  unfold NextCentExceeds
  rw [← lt_roundHalfEven_iff]
  have next : roundHalfEven (inContext
      (((truncate (inContext (balance / rate.rate)) + 1 : Int) : ℚ) * rate.rate)) =
        converted rate.rate (truncate (inContext (balance / rate.rate)) + 1) := by
    unfold converted quantize
    rw [pow_zero, mul_one]
  rw [next]
  constructor
  · intro all
    apply all
    show base < _
    omega
  · intro exceeds tender more
    rcases le_or_gt tender (truncate (inContext (balance / rate.rate))) with less | beyond
    · exact largest tender more (by omega)
    · exact exceeds.trans_le (converted_mono positive (by omega) (by omega))

/-- A quote of 100.00 in dollars, at a manual rate. -/
def dollarQuote (rate : ℚ) : QuoteRequest where
  reservationId := 7
  paymentMethod := .creditCard
  currencyCode := "USD"
  manualRate := some { rate := rate, details := none }

def unsignedQuotes : QuoteServices where
  roundingTenderAmount := fun _ => .ok none
  issueQuoteToken := fun _ => .ok ""

/-- At 30.00 a dollar the quote is the largest tender: 3.33. -/
theorem quoteReservationPaymentSurcharge_largest_iff_dollars :
    ∃ quote token, quoteReservationPaymentSurcharge quietEnvironment unsignedQuotes
        (directState 0 (by decide)) (dollarQuote 30) = .ok (quote, token) ∧
      quote.baseAmount = 333 ∧
      ∀ tender, quote.baseAmount < tender -> 10000 < converted 30 tender := by
  have ran : (quoteReservationPaymentSurcharge quietEnvironment unsignedQuotes
      (directState 0 (by decide)) (dollarQuote 30)).toOption.map (·.1.baseAmount) = some 333 := by
    decide +kernel
  obtain ⟨⟨quote, token⟩, accepted, base⟩ := Option.map_eq_some_iff.mp ran
  have quoted := toOption_eq_some accepted
  let reservation : ReservationFinancials := { id := 7, totalAmount := 10000 }
  have found : (directState 0 (by decide)).reservations (dollarQuote 30).reservationId =
      some reservation := rfl
  have converts : "USD" ≠ reservation.currency := by decide +kernel
  have currency : resolvePaymentCurrency reservation (some (dollarQuote 30).currencyCode) =
      .ok "USD" := toOption_eq_some (by decide +kernel)
  have isRate : quoteRate quietEnvironment reservation "USD" (dollarQuote 30).manualRate =
      .ok { rate := 30, details := none } := by
    unfold quoteRate
    rw [if_pos converts]
    rfl
  have isBalance : 10000 = reservation.operationalBalanceDue (directState 0 (by decide)).adjustments
      (reservation.paidAmountWithLegacyFallback (directState 0 (by decide)).ledger) := by
    decide +kernel
  obtain ⟨-, -, largest⟩ := quoteReservationPaymentSurcharge_largest_iff found currency
    converts isRate isBalance rfl quoted
  exact ⟨quote, token, quoted, base, largest.mpr (by decide +kernel)⟩

/-- At 0.10 a dollar and a cent due, 0.10 is quoted, and 0.14 also converts to a
cent. -/
theorem quote_not_largest : (quoteReservationPaymentSurcharge quietEnvironment unsignedQuotes
      (directState 9999 (by decide)) (dollarQuote (1 / 10))).toOption.map
        (fun quote => (quote.1.reservationBalance, quote.1.baseAmount)) = some (1, 10) ∧
      converted (1 / 10) 14 ≤ 1 := by
  constructor
  · decide +kernel
  · decide +kernel

end HotelPms.Payments
