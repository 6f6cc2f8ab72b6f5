import HotelPms.Ota.WebhookFacts

/-!
# Terms written twice

The terms of a payload are a fixed point: written over a reservation that has
them they change nothing.  A credit that the payload does not mention is read
back from the row, where the amount is in cents and the currency is kept; an
empty currency would not be.
-/

namespace HotelPms.Ota

open Hotel Payments FloatFormat

variable {F : Type} [FloatFormat F]

/-- Money and status of a reservation. -/
structure FinancialTerms where
  status : ReservationStatus
  totalAmount : Int
  amountPaid : Int
  externalPaidAmount : Int
  externalPaidCurrency : Option String
  externalPaidReference : Option String
  externalPaidConfirmed : Bool
  externalPaidEverConfirmed : Bool
  externalCredit : Int
  paymentCollectionModel : String
  settlementStatus : String

/-- Stay, room, guest and money of a reservation. -/
structure BookingTerms where
  stay : Int × Int
  roomId : Option Int
  categoryId : Int
  guestId : Int
  financial : FinancialTerms

/-- Money and status of a row. -/
def OtaReservation.financialTerms (reservation : OtaReservation) : FinancialTerms where
  status := reservation.status
  totalAmount := reservation.money.totalAmount
  amountPaid := reservation.money.amountPaid
  externalPaidAmount := reservation.money.externalPaidAmount
  externalPaidCurrency := reservation.money.externalPaidCurrency
  externalPaidReference := reservation.money.externalPaidReference
  externalPaidConfirmed := reservation.money.externalPaidConfirmed
  externalPaidEverConfirmed := reservation.money.externalPaidEverConfirmed
  externalCredit := reservation.money.externalCredit
  paymentCollectionModel := reservation.paymentCollectionModel
  settlementStatus := reservation.settlementStatus

/-- Stay, room, guest and money of a row. -/
def OtaReservation.terms (reservation : OtaReservation) : BookingTerms where
  stay := reservation.stay
  roomId := reservation.roomId
  categoryId := reservation.categoryId
  guestId := reservation.guestId
  financial := reservation.financialTerms

/-- The payload states what was paid, or its currency is not blank. -/
def NormalizedReservation.NamesCurrency
    (normalized : NormalizedReservation F) (desk : Desk) : Prop :=
  normalized.paidAmount ≠ none ∨ reservationCurrency desk normalized ≠ ""

section

variable {normalized : NormalizedReservation F} {desk again : Desk} {money later : MoneyColumns}

/-- A credit that is kept is the one of the row. -/
theorem externalPaid_of_preserves [PrintsCents F] (fits : money.Fit)
    (preserved : normalized.PreservesExternalPayment money) :
    normalized.externalPaid money = money.externalPaidAmount := by
  obtain ⟨nonneg, below⟩ := fits.externalPaid
  unfold NormalizedReservation.externalPaid NormalizedReservation.amountPaid
  rw [if_pos preserved, PrintsCents.toRat_ofCents _ nonneg below, Decimal.quantize_cents]

/-- A credit that is not kept follows from the payload. -/
theorem externalPaid_of_not_preserves (replaced : ¬normalized.PreservesExternalPayment money)
    (laterReplaced : ¬normalized.PreservesExternalPayment later) :
    normalized.externalPaid later = normalized.externalPaid money := by
  unfold NormalizedReservation.externalPaid NormalizedReservation.amountPaid
  rw [if_neg replaced, if_neg laterReplaced]

/-- The credit that a payload has left is left again. -/
theorem externalPaid_again [PrintsCents F] (fits : money.Fit) (laterFits : later.Fit)
    (sameAmount : later.externalPaidAmount = normalized.externalPaid money) :
    normalized.externalPaid later = normalized.externalPaid money := by
  by_cases preservedLater : normalized.PreservesExternalPayment later
  · rw [externalPaid_of_preserves laterFits preservedLater, sameAmount]
  · by_cases preserved : normalized.PreservesExternalPayment money
    · exfalso
      apply preservedLater
      refine ⟨preserved.1, ?_⟩
      rw [sameAmount, externalPaid_of_preserves fits preserved]
      exact preserved.2
    · exact externalPaid_of_not_preserves preserved preservedLater

theorem given_getD_ne {text : Option String} {fallback : String}
    (stated : fallback ≠ "") : (given text).getD fallback ≠ "" := by
  cases isGiven : given text with
  | none => exact stated
  | some value =>
    have kept := (Option.filter_eq_some_iff.mp isGiven).2
    simpa using kept

/-- The currency of the credit stays, unless it is blank. -/
theorem externalPaidCurrency_again (stated : normalized.NamesCurrency desk)
    (sameDefault : again.defaultCurrency = desk.defaultCurrency)
    (sameAmount : later.externalPaidAmount = normalized.externalPaid money)
    (samePaid : normalized.externalPaid later = normalized.externalPaid money)
    (sameCurrency : later.externalPaidCurrency = normalized.externalPaidCurrency desk money) :
    normalized.externalPaidCurrency again later = normalized.externalPaidCurrency desk money := by
  have sameReservationCurrency : reservationCurrency again normalized =
      reservationCurrency desk normalized := by
    unfold reservationCurrency hotelDefaultCurrency
    rw [sameDefault]
  unfold NormalizedReservation.externalPaidCurrency
  rw [samePaid, sameReservationCurrency]
  by_cases nothing : normalized.externalPaid money ≤ 0
  · rw [if_pos nothing, if_pos nothing]
  by_cases preservedLater : normalized.PreservesExternalPayment later
  · -- the payload says nothing of a payment, so that its currency is named
    have named : reservationCurrency desk normalized ≠ "" := by
      rcases stated with paid | named
      · exact absurd preservedLater.1 paid
      · exact named
    rw [if_pos preservedLater, sameCurrency]
    unfold NormalizedReservation.externalPaidCurrency
    split_ifs
    · have kept := @given_getD_ne money.externalPaidCurrency _
        (@given_getD_ne (some money.currencyCode) _ named)
      rw [given, Option.filter_some_pos (by simpa using kept)]
      rfl
    · rw [given, Option.filter_some_pos (by simpa using named)]
      rfl
  · rw [if_neg preservedLater]
    by_cases preserved : normalized.PreservesExternalPayment money
    · exfalso
      apply preservedLater
      refine ⟨preserved.1, ?_⟩
      rw [sameAmount]
      exact not_le.mp nothing
    · rw [if_neg preserved]

structure HoldsCredit (written later : MoneyColumns) : Prop where
  amount : later.externalPaidAmount = written.externalPaidAmount
  currency : later.externalPaidCurrency = written.externalPaidCurrency
  everConfirmed : later.externalPaidEverConfirmed = written.externalPaidEverConfirmed

/-- Two rows have one credit, in one currency of the reservation. -/
structure SameCredit (first second : MoneyColumns) : Prop extends
    HoldsCredit first second where
  reference : second.externalPaidReference = first.externalPaidReference
  confirmed : second.externalPaidConfirmed = first.externalPaidConfirmed
  currencyCode : second.currencyCode = first.currencyCode

theorem SameCredit.externalCredit {first second : MoneyColumns} (same : SameCredit first second) :
    second.externalCredit = first.externalCredit := by
  unfold MoneyColumns.externalCredit ReservationFinancials.externalPaidBalanceCredit
    ReservationFinancials.currency
  simp only [same.amount, same.currency, same.confirmed, same.currencyCode]

theorem creditColumns_again [PrintsCents F] (fits : money.Fit) (laterFits : later.Fit)
    (stated : normalized.NamesCurrency desk)
    (sameDefault : again.defaultCurrency = desk.defaultCurrency)
    {receivedAt receivedAgain : Int}
    (holds : HoldsCredit (normalized.creditColumns desk money receivedAt) later) :
    SameCredit (normalized.creditColumns desk money receivedAt)
      (normalized.creditColumns again later receivedAgain) := by
  have samePaid := externalPaid_again fits laterFits holds.amount
  have sameCurrency := externalPaidCurrency_again stated sameDefault
    holds.amount samePaid holds.currency
  have sameReservationCurrency : reservationCurrency again normalized =
      reservationCurrency desk normalized := by
    unfold reservationCurrency hotelDefaultCurrency
    rw [sameDefault]
  have ever := holds.everConfirmed
  unfold NormalizedReservation.creditColumns at ever ⊢
  constructor
  · constructor
    · exact samePaid
    · exact sameCurrency
    · simp only [samePaid, ever, Bool.or_assoc, Bool.or_self]
  · simp only [samePaid]
  · simp only [samePaid]
  · exact sameReservationCurrency

end

section

variable [PrintsCents F] {normalized : NormalizedReservation F}
  {desk again : Desk} {first written second rewritten : OtaReservation}
  {receivedAt receivedAgain : Int} {preserve : Bool}

theorem Settled.financialTerms_again
    (settled : Settled desk first normalized receivedAt preserve written)
    (resettled : Settled again second normalized receivedAgain preserve rewritten)
    (stated : normalized.NamesCurrency desk)
    (sameDefault : again.defaultCurrency = desk.defaultCurrency)
    (sameLedger : again.ledger = desk.ledger) (sameId : second.id = written.id)
    (sameStatus : second.status = written.status)
    (holds : HoldsCredit written.money second.money) :
    rewritten.financialTerms = written.financialTerms := by
  have credit : SameCredit written.money rewritten.money := by
    rw [settled.money] at holds
    have same : SameCredit (normalized.creditColumns desk first.money receivedAt)
        (normalized.creditColumns again second.money receivedAgain) :=
      creditColumns_again first.moneyFits second.moneyFits stated sameDefault
        ⟨holds.amount, holds.currency, holds.everConfirmed⟩
    rw [settled.money, resettled.money]
    exact ⟨⟨same.amount, same.currency, same.everConfirmed⟩,
      same.reference, same.confirmed, same.currencyCode⟩
  have sameCredit := credit.externalCredit
  have sameTotal : rewritten.money.totalAmount = written.money.totalAmount := by
    rw [settled.money, resettled.money]
    rfl
  have paid : written.money.amountPaid = written.money.externalCredit +
      desk.ledger.completedPaidAmount written.id := by
    rw [settled.id]
    nth_rewrite 1 [settled.money]
    nth_rewrite 1 [settled.money]
    rfl
  have repaid : rewritten.money.amountPaid = rewritten.money.externalCredit +
      again.ledger.completedPaidAmount rewritten.id := by
    rw [resettled.id]
    nth_rewrite 1 [resettled.money]
    nth_rewrite 1 [resettled.money]
    rfl
  have samePaid : rewritten.money.amountPaid = written.money.amountPaid := by
    rw [paid, repaid, sameCredit, sameLedger, resettled.id, sameId]
  unfold OtaReservation.financialTerms
  rw [FinancialTerms.mk.injEq]
  refine ⟨?_, sameTotal, samePaid, credit.amount, credit.currency,
    credit.reference, credit.confirmed, credit.everConfirmed, sameCredit,
    ?_, ?_⟩
  · rw [resettled.status, samePaid, sameStatus, settled.status]
    split_ifs <;> rfl
  · rw [resettled.collectionModel, settled.collectionModel]
  · rw [resettled.settlement, settled.settlement, sameCredit]

end

end HotelPms.Ota
