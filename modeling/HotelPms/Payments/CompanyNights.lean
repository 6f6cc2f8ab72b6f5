import HotelPms.Payments.Ledger
import Mathlib.Data.List.Sort

/-!
# Extra nights billed to companies

A company reservation can carry extra charges for single nights.  A payment
selects nights and covers exactly what is due on them; a refund names what it
returns of each night its source payment covered.
-/

namespace HotelPms.Payments

open Checked

structure CompanyNightCharge where
  id : Int
  reservationId : Int
  stayDate : Int
  amount : Int
  currencyCode : String

section Paid

variable (ledger : Ledger)

/-- The transaction names its nights itself. -/
def explicitlyAllocated (transactionId : Int) : Bool :=
  ledger.allocations.any (·.transactionId = transactionId)

/-- Completed refunds of a source payment that name no nights. -/
def unallocatedRefunds (sourceId : Int) : Int :=
  ((ledger.transactions.filter fun row =>
    decide (row.refundOfTransactionId = some sourceId ∧ row.IsRefund ∧
      row.status = .completed) && !explicitlyAllocated ledger row.id).map Transaction.amount).sum

/-- What one allocation leaves paid on its night: refunds without nights of
their own reduce it in proportion. -/
def addAllocation (paid : ℚ) (row : NightAllocation) : ℚ :=
  match ledger.transaction? row.transactionId with
  | none => paid
  | some transaction =>
    if transaction.status ≠ .completed then paid
    else if transaction.IsRefund then
      Decimal.inContext (paid - row.amount)
    else
      let refunded : ℚ :=
        min (unallocatedRefunds ledger transaction.id) transaction.amount
      let fraction : ℚ :=
        if 0 < transaction.amount then
          Decimal.inContext (refunded / transaction.amount)
        else 0
      Decimal.inContext (paid + Decimal.inContext (row.amount * Decimal.inContext (1 - fraction)))

def allocationsOfCharge (chargeId : Int) : List NightAllocation :=
  ledger.allocations.filter (·.companyNightChargeId = chargeId)

/-- Net amount paid on a night. -/
def paidOnCharge (chargeId : Int) : Int :=
  Decimal.quantizeHalfUp 0 ((allocationsOfCharge ledger chargeId).foldl (addAllocation ledger) 0)

/-- A pending transaction is assigned to the night. -/
def chargePending (chargeId : Int) : Bool :=
  (allocationsOfCharge ledger chargeId).any fun row =>
    (ledger.transaction? row.transactionId).any (·.status = .pending)

end Paid

section Prepare

variable (ledger : Ledger) (charges : List CompanyNightCharge) (reservation : ReservationFinancials)

def chargesOfReservation : List CompanyNightCharge :=
  charges.filter (·.reservationId = reservation.id)

def dueOnCharge (charge : CompanyNightCharge) : Int :=
  max 0 (charge.amount - paidOnCharge ledger charge.id)

/-- Nights with something due. -/
def outstandingCharges : List CompanyNightCharge :=
  (chargesOfReservation charges reservation).filter (0 < dueOnCharge ledger ·)

def dueById (chargeId : Int) : Int :=
  (((chargesOfReservation charges reservation).find? fun charge =>
    charge.id = chargeId).map (dueOnCharge ledger)).getD 0

/-- What a payment may take of the accommodation itself. -/
def baseDue : Int :=
  let allocatedPaid := ((chargesOfReservation charges reservation).map
    (paidOnCharge ledger ·.id)).sum
  let basePaid := max 0 (reservation.paidAmountWithLegacyFallback ledger - allocatedPaid)
  max 0 (reservation.totalAmount - basePaid)

def checkSelectedNights (today amount : Int) (paymentCurrency : String)
    (chargeIds : List Int) : Except String Unit := do
  raiseIf (¬chargeIds.Nodup) "No repitas noches en un mismo pago."
  raiseIf (∃ id ∈ chargeIds, id ∉
      (outstandingCharges ledger charges reservation).map CompanyNightCharge.id)
    "La selección incluye una noche ajena a la reserva o ya pagada."
  let overdue := (chargesOfReservation charges reservation).filter
    fun charge => charge.id ∈ chargeIds ∧ charge.stayDate < today
  raiseIf (overdue ≠ [] ∧ (normalizeCurrency paymentCurrency = "" ∨
        normalizeCurrency paymentCurrency ≠ reservation.currency ∨
        ∃ charge ∈ overdue, normalizeCurrency charge.currencyCode ≠ reservation.currency))
    ("Las noches vencidas solo se cobran en la moneda original del cargo; " ++
      "no hay una cotización histórica guardada para convertirlas.")
  raiseIf (∃ id ∈ chargeIds, chargePending ledger id = true)
    "Ya hay un pago pendiente de confirmación para alguna noche seleccionada."
  raiseIf (amount ≠ (chargeIds.map (dueById ledger charges reservation)).sum)
    ("El importe debe coincidir con las noches seleccionadas: $" ++
      formatAmount (chargeIds.map (dueById ledger charges reservation)).sum ++ ".")

/-- Validate selected per-night dues before a payment is created.  The plan
lists the nights with what each takes. -/
def prepareCompanyNightChargePayment (today amount : Int) (paymentCurrency : String)
    (chargeIds : List Int) : Except String (List (Int × Int)) := do
  raiseIf (reservation.deletedAt ≠ none) "La reserva no pertenece a este hotel."
  if reservation.companyId = none then
    raiseIf (chargeIds ≠ []) "Los adicionales por noche solo se usan en reservas de empresas."
    pure []
  else if chargesOfReservation charges reservation = [] then
    raiseIf (chargeIds ≠ []) "La reserva no tiene noches adicionales para cobrar."
    pure []
  else if chargeIds = [] ∧ amount ≤ baseDue ledger charges reservation then
    pure []
  else
    raiseIf (outstandingCharges ledger charges reservation = [] ∧ chargeIds ≠ [])
      "No quedan noches adicionales pendientes de pago."
    raiseIf (outstandingCharges ledger charges reservation = [])
      ("El importe supera el saldo base de la empresa y no hay adicionales " ++ "pendientes.")
    raiseIf (chargeIds = []) "Seleccioná las noches adicionales que se están pagando."
    checkSelectedNights ledger charges reservation today amount paymentCurrency chargeIds
    pure ((chargeIds.insertionSort (· ≤ ·)).map fun id =>
      (id, dueById ledger charges reservation id))

def sourceNights (sourceId : Int) : List (Int × Int) :=
  (ledger.nightAllocations sourceId).filter fun night =>
    night.1 ∈ (chargesOfReservation charges reservation).map CompanyNightCharge.id

def completedRefunds (sourceId : Int) : List Transaction :=
  (ledger.forReservation reservation.id).filter fun row =>
    row.refundOfTransactionId = some sourceId ∧ row.IsRefund ∧ row.status = .completed

/-- Part of the source payment refunded without nights. -/
def legacyRatio (sourceId sourceAmount : Int) : ℚ :=
  let legacyAmount := (((completedRefunds ledger reservation sourceId).filter
    (!explicitlyAllocated ledger ·.id)).map Transaction.amount).sum
  if 0 < sourceAmount then
    min 1 (Decimal.inContext ((legacyAmount : ℚ) / sourceAmount))
  else 0

/-- Already refunded on a night of the source payment. -/
def refundedOnCharge (sourceId chargeId : Int) : Int :=
  (((completedRefunds ledger reservation sourceId).flatMap fun row =>
    ledger.nightAllocations row.id).filter fun night =>
      night.1 = chargeId).foldl (fun total night => total + night.2) 0

/-- What can still be refunded of a night. -/
def refundableOnCharge (sourceId sourceAmount chargeId original : Int) : Int :=
  let legacyRefund := Decimal.quantizeHalfUp 0
    (Decimal.inContext (original * legacyRatio ledger reservation sourceId sourceAmount))
  max 0 (original - refundedOnCharge ledger reservation sourceId chargeId - legacyRefund)

/-- Validate explicit refund amounts against the nights of the source payment;
`none` for a source payment without nights. -/
def prepareCompanyNightChargeRefund (source : Transaction) (amount : Int)
    (refundAllocations : List (Int × Int)) :
    Except String (Option (List (Int × Int))) := do
  let nights := sourceNights ledger charges reservation source.id
  if nights = [] then
    raiseIf (refundAllocations ≠ [])
      "El pago original no contiene adicionales por noche para devolver."
    pure none
  else
    raiseIf ((nights.map Prod.snd).sum ≠ source.amount)
      "El pago original no tiene una asignación completa y válida por noche."
    raiseIf (refundAllocations = [])
      "Seleccioná la noche empresarial a la que corresponde la devolución."
    raiseIf (1 < |(refundAllocations.map Prod.snd).sum - amount|)
      ("La suma asignada a las noches debe coincidir con el importe " ++
        "aplicado de la devolución.")
    raiseIf (∃ night ∈ refundAllocations, night.1 ∉ nights.map Prod.fst)
      "La noche seleccionada no pertenece al pago original."
    refundAllocations.forM fun night =>
      let remaining := refundableOnCharge ledger reservation source.id
        source.amount night.1 ((nights.lookup night.1).getD 0)
      raiseIf (remaining < night.2) ("La devolución para la noche " ++ toString night.1 ++
          " supera el saldo disponible de " ++ formatAmount remaining ++ ".")
    pure (some (refundAllocations.insertionSort fun first second => first.1 ≤ second.1))

variable {ledger charges reservation}

theorem prepareCompanyNightChargePayment_nights {today amount : Int} {paymentCurrency : String}
    {chargeIds : List Int} {plan : List (Int × Int)}
    (prepared : prepareCompanyNightChargePayment ledger charges reservation
      today amount paymentCurrency chargeIds = .ok plan) :
    (plan.map Prod.fst).Perm chargeIds := by
  obtain ⟨-, -, prepared⟩ := bind_eq_ok.mp prepared
  split_ifs at prepared with direct noNights onlyBase
  · obtain ⟨_, unselected, rest⟩ := bind_eq_ok.mp prepared
    cases rest
    rw [not_not.mp (raiseIf_eq_ok.mp unselected)]
    rfl
  · obtain ⟨_, unselected, rest⟩ := bind_eq_ok.mp prepared
    cases rest
    rw [not_not.mp (raiseIf_eq_ok.mp unselected)]
    rfl
  · cases prepared
    rw [onlyBase.1]
    rfl
  · simp only [bind_eq_ok, pure_eq_ok] at prepared
    obtain ⟨-, -, -, -, -, -, -, -, rfl⟩ := prepared
    rw [List.map_map]
    have identity : (Prod.fst ∘ fun id => (id, dueById ledger charges reservation id)) = id := rfl
    rw [identity, List.map_id]
    exact List.perm_insertionSort _ chargeIds

theorem prepareCompanyNightChargeRefund_nights
    {source : Transaction} {amount : Int} {refundAllocations : List (Int × Int)}
    {plan : Option (List (Int × Int))}
    (prepared : prepareCompanyNightChargeRefund ledger charges reservation
      source amount refundAllocations = .ok plan) :
    (plan.getD []).Perm refundAllocations := by
  unfold prepareCompanyNightChargeRefund at prepared
  simp only at prepared
  split_ifs at prepared with noNights
  · obtain ⟨_, unselected, rest⟩ := bind_eq_ok.mp prepared
    cases rest
    rw [not_not.mp (raiseIf_eq_ok.mp unselected)]
    rfl
  · simp only [bind_eq_ok, pure_eq_ok] at prepared
    obtain ⟨-, -, -, -, -, -, -, -, -, -, rfl⟩ := prepared
    exact List.perm_insertionSort _ refundAllocations

end Prepare

end HotelPms.Payments
