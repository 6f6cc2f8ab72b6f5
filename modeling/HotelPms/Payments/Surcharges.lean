import HotelPms.Payments.PaidAmount

/-!
# Quoted and collected amounts

A quote shows the amount with its surcharge, never below zero; a payment
records the amount and the surcharge as they add up.
-/

namespace HotelPms.Payments

open Checked

/-- Final amount of a quote: a discount does not ask for less than nothing. -/
def SurchargeInfo.finalAmount (surcharge : SurchargeInfo) (base : Int) : Int :=
  max 0 (base + surcharge.amount)

variable {env : PaymentEnvironment} {state after : PaymentState}
  {call : PaymentCall} {transaction : Transaction}

theorem NewTransaction.gross (written : NewTransaction env state call after transaction)
    (live : call.applySurcharge = true ∧ ¬call.request.IsRefund ∧
      call.request.collectedBefore = false) :
    ∃ surcharge, calculatePaymentSurcharge env state.surcharges
        call.request.paymentMethod call.request.amount
        written.checked.currency (frozenSurcharge call written.checked) = .ok surcharge ∧
      transaction.grossAmount = some (call.request.amount + surcharge.amount) := by
  have drafted := written.drafted
  unfold draftPayment at drafted
  simp only [bind_eq_ok, pure_eq_ok] at drafted
  obtain ⟨manual, -, source, -, applied, -, ⟨amount, nights⟩, -, -, -,
    surcharge, isSurcharge, -, -, receipt, -, -, -, isDraft⟩ := drafted
  unfold surchargeOfCall at isSurcharge
  rw [if_pos live] at isSurcharge
  refine ⟨surcharge, isSurcharge, ?_⟩
  rw [written.isDraft, ← isDraft]
  rfl

/-- A new payment records the final amount of its quote, and no negative one,
exactly when its surcharge is not a discount larger than its amount. -/
theorem processPayment_collects_quoted_iff
    (processed : processPayment env state call = .ok (after, transaction))
    (isNew : transaction ∉ state.ledger.transactions)
    (live : call.applySurcharge = true ∧ ¬call.request.IsRefund ∧
      call.request.collectedBefore = false) :
    ∃ checked surcharge, checkRequest env state call = .ok checked ∧
      calculatePaymentSurcharge env state.surcharges
        call.request.paymentMethod call.request.amount checked.currency
        (frozenSurcharge call checked) = .ok surcharge ∧
      ((∃ gross, transaction.grossAmount = some gross ∧
          gross = surcharge.finalAmount call.request.amount ∧ 0 ≤ gross) ↔
        -call.request.amount ≤ surcharge.amount) := by
  rcases exists_newTransaction processed with ⟨-, old⟩ | ⟨⟨written⟩⟩
  · exact absurd old isNew
  · obtain ⟨surcharge, isSurcharge, gross⟩ := written.gross live
    refine ⟨written.checked, surcharge, written.isChecked, isSurcharge, ?_⟩
    unfold SurchargeInfo.finalAmount
    constructor
    · rintro ⟨recorded, isRecorded, -, nonneg⟩
      rw [gross] at isRecorded
      have same := Option.some.inj isRecorded
      omega
    · intro bounded
      exact ⟨_, gross, by omega, by omega⟩

/-- The hotel grants a fixed discount, in pesos, on card payments. -/
def discountedState (pesos : ℚ) : PaymentState :=
  { directState 0 (by decide) with
    surcharges :=
      [{ id := 1, paymentMethod := .creditCard, surchargeType := "fixed", amount := -pesos }] }

/-- A discount of five pesos leaves something to pay, and both paths agree. -/
theorem processPayment_collects_quoted_iff_five :
    ∃ after transaction checked, ∃ surcharge : SurchargeInfo,
      processPayment quietEnvironment (discountedState 5) cardPayment = .ok (after, transaction) ∧
        checkRequest quietEnvironment (discountedState 5) cardPayment = .ok checked ∧
        ((∃ gross, transaction.grossAmount = some gross ∧
            gross = surcharge.finalAmount 2000 ∧ 0 ≤ gross) ↔
          -2000 ≤ surcharge.amount) := by
  have ran : (processPayment quietEnvironment (discountedState 5)
      cardPayment).toOption.isSome = true := by
    decide +kernel
  obtain ⟨⟨after, transaction⟩, accepted⟩ := Option.isSome_iff_exists.mp ran
  have processed := toOption_eq_some accepted
  obtain ⟨checked, surcharge, isChecked, -, agrees⟩ :=
    processPayment_collects_quoted_iff processed List.not_mem_nil (by decide)
  exact ⟨after, transaction, checked, surcharge, processed, isChecked, agrees⟩

/-- A discount of 30.00 on a payment of 20.00 is quoted as nothing to pay and
recorded as -10.00. -/
theorem discount_recorded_negative :
    ∃ after transaction, processPayment quietEnvironment (discountedState 30)
        cardPayment = .ok (after, transaction) ∧
      transaction ∉ (discountedState 30).ledger.transactions ∧
      transaction.grossAmount = some (-1000) ∧
      ((calculatePaymentSurcharge quietEnvironment
          (discountedState 30).surcharges .creditCard 2000 "ARS" none).toOption.map fun surcharge =>
              surcharge.finalAmount 2000) = some 0 := by
  have ran : ((processPayment quietEnvironment (discountedState 30)
      cardPayment).toOption.map (·.2.grossAmount)) = some (some (-1000)) := by
    decide +kernel
  obtain ⟨⟨after, transaction⟩, accepted, gross⟩ := Option.map_eq_some_iff.mp ran
  exact ⟨after, transaction, toOption_eq_some accepted, List.not_mem_nil, gross, by decide +kernel⟩

end HotelPms.Payments
