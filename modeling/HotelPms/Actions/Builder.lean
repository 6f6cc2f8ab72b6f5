import HotelPms.Payments.Summary

/-!
# Pending actions of one reservation

What a reservation still needs from the hotel: reviews, a room, collections,
settlements, refunds and the follow-up of its channel.  The rules read the
reservation, its latest channel link, its adjustments and four financial
facts, and each action names what it refers to.
-/

namespace HotelPms.Actions

open Hotel Payments

/-- Where a reservation comes from. -/
inductive ReservationSource
  | direct
  | booking
  | expedia
  | otherOta
  deriving DecidableEq

def ReservationSource.value : ReservationSource -> String
  | .direct => "direct"
  | .booking => "booking"
  | .expedia => "expedia"
  | .otherOta => "other_ota"

/-- State of a reservation in its channel. -/
inductive OtaReservationLifecycle
  | new
  | confirmed
  | modified
  | cancelRequested
  | cancelled
  | hold
  | expired
  | manualResolutionRequired
  deriving DecidableEq

structure OtaReservationLink where
  id : Int
  reservationId : Option Int
  providerState : OtaReservationLifecycle := .new
  updatedAt : Int
  deriving DecidableEq

inductive ReservationAdjustmentKind
  | upgrade
  | downgrade
  | dateChange
  | otaCancelAndRebook
  | manualRateOverride
  | refund
  | other

def ReservationAdjustmentKind.value : ReservationAdjustmentKind -> String
  | .upgrade => "upgrade"
  | .downgrade => "downgrade"
  | .dateChange => "date_change"
  | .otaCancelAndRebook => "ota_cancel_and_rebook"
  | .manualRateOverride => "manual_rate_override"
  | .refund => "refund"
  | .other => "other"

inductive ReservationAdjustmentStatus
  | draft
  | pending
  | applied
  | failed
  | cancelled
  deriving DecidableEq

def ReservationAdjustmentStatus.value : ReservationAdjustmentStatus -> String
  | .draft => "draft"
  | .pending => "pending"
  | .applied => "applied"
  | .failed => "failed"
  | .cancelled => "cancelled"

/-- An operational adjustment, which may have led to another reservation. -/
structure ReservationAdjustment where
  id : Int
  reservationId : Int
  resultingReservationId : Option Int := none
  kind : ReservationAdjustmentKind := .other
  status : ReservationAdjustmentStatus := .draft
  externalResolutionStatus : Option String := none
  requestedAt : Int

structure ActionColumns where
  source : ReservationSource := .direct
  allocationStatus : String := "unassigned"
  paymentCollectionModel : String := "hotel_collect"
  deriving DecidableEq

structure ActionReservation extends StoredReservation, ActionColumns
  deriving DecidableEq

def refundReviewStatuses : List ReservationStatus := [.cancelled, .noShow]

def terminalStatuses : List ReservationStatus :=
  [.cancelled, .checkedOut, .noShow]

def problemAllocationStatuses : List String :=
  ["manual_review", "unassigned", "error"]

def problemSettlementStatuses : List String :=
  ["manual_resolution_required", "pending_hotel_action", "review_cancellation"]

def pendingAdjustmentStatuses : List ReservationAdjustmentStatus :=
  [.draft, .pending]

def pendingAdjustmentExternalStatuses : List String :=
  ["manual_resolution_required", "pending_hotel_action"]

def awaitedSettlementStatuses : List String := ["pending", "unknown"]

/-- The next step the financial summary recommends. -/
inductive FinancialAction
  | manualReviewRequired
  | reviewCancellationSettlement
  | resolveExternalChannel
  | collectFromGuest
  | awaitChannelSettlement
  deriving DecidableEq

/-- The first step that applies; amounts are in cents. -/
def recommendedFinancialAction (reservation : ActionReservation)
    (operationalBalanceDue : ℚ) : Option FinancialAction :=
  if reservation.requiresManualReview = true then some .manualReviewRequired
  else if reservation.status = .cancelled ∧ reservation.source ≠ .direct then
    some .reviewCancellationSettlement
  else if reservation.settlementStatus ∈ pendingAdjustmentExternalStatuses then
    some .resolveExternalChannel
  else if 1 < operationalBalanceDue ∧ reservation.paymentCollectionModel = "hotel_collect" then
    some .collectFromGuest
  else if reservation.paymentCollectionModel = "ota_prepaid" ∧
      reservation.settlementStatus ∈ awaitedSettlementStatuses then
    some .awaitChannelSettlement
  else none

/-- Nothing is collected for a cancelled reservation. -/
def withoutCancelledCollection (status : ReservationStatus)
    (recommended : Option FinancialAction) : Option FinancialAction :=
  if status = .cancelled ∧ recommended = some .collectFromGuest then none
  else recommended

/-- The financial facts the rules read. -/
structure ActionFinancials where
  amountPaid : Option ℚ
  companyBillingDeferred : Bool
  recommendedNextAction : Option FinancialAction
  hasFinancialReconciliationGap : Bool

/-! ## Rules -/

inductive Priority
  | critical
  | high
  | medium
  | low

def Priority.score : Priority -> Int
  | .critical => 4
  | .high => 3
  | .medium => 2
  | .low => 1

structure ActionCandidate where
  actionKey : String
  code : String
  priority : Priority
  title : String
  detail : String
  referenceType : Option String := none
  referenceId : Option Int := none

section Rules

variable (formatDate : Int -> String) (reservation : ActionReservation)
  (guestName : String) (financial : ActionFinancials)

def arriving : String := " — llega " ++ formatDate reservation.checkInDate

def leaving : String := " — sale " ++ formatDate reservation.checkOutDate

/-- Not cancelled, not checked out and not a no-show. -/
def IsActive : Prop := reservation.status ∉ terminalStatuses
deriving Decidable

/-- In the house after its last day. -/
def IsOverdue (today : Int) : Prop :=
  reservation.status = .checkedIn ∧ reservation.checkOutDate < today
deriving Decidable

def reviewCandidates : List ActionCandidate :=
  if reservation.requiresManualReview = true then
    [{ actionKey := "manual_review_required", code := "manual_review_required"
       priority := .critical
       title := "Revisar reserva de " ++ guestName ++ arriving formatDate reservation
       detail := "La reserva quedo marcada para revision manual antes de seguir operando." }]
  else []

def overdueCandidates (today : Int) : List ActionCandidate :=
  if IsOverdue reservation today then
    [{ actionKey := "overdue_stay_review"
       code := "overdue_stay_review"
       priority := .high
       title := "Revisar estadía vencida de " ++ guestName ++
         " — check-out " ++ formatDate reservation.checkOutDate
       detail := "La fecha prevista de check-out ya pasó y la reserva sigue en curso. Abrí la ficha para que un operador revise la situación." }]
  else []

def roomCandidates : List ActionCandidate :=
  if IsActive reservation ∧ reservation.roomId = none then
    [{ actionKey := "assign_room"
       code := "assign_room"
       priority := if reservation.checkInDate ≤ reservation.checkOutDate
         then .high else .medium
       title := "Asignar habitación a " ++ guestName ++ arriving formatDate reservation
       detail := "La reserva sigue sin habitacion asignada y requiere confirmacion operativa." }]
  else []

def allocationCandidates : List ActionCandidate :=
  if IsActive reservation ∧ reservation.allocationStatus ∈ problemAllocationStatuses then
    [{ actionKey := "allocation:" ++ reservation.allocationStatus
       code := "allocation_follow_up"
       priority := if reservation.allocationStatus = "error" then .critical
         else .high
       title := "Revisar asignación de habitación de " ++ guestName ++
         arriving formatDate reservation
       detail := "El motor de asignacion dejo la reserva en estado '" ++
         reservation.allocationStatus ++ "'." }]
  else []

variable (otaLink : Option OtaReservationLink)

/-- Action of the recommended step, if it has one. -/
def recommendedCandidates : List ActionCandidate :=
  match financial.recommendedNextAction with
  | some .resolveExternalChannel =>
    [{ actionKey := "resolve_external_channel"
       code := "resolve_external_channel"
       priority := .critical
       title := "Resolver pago pendiente con el canal de " ++ guestName ++
         leaving formatDate reservation
       detail := "La reserva requiere una accion pendiente contra la OTA o una resolucion manual del settlement."
       referenceType := otaLink.map fun _ => "ota_link"
       referenceId := otaLink.map OtaReservationLink.id }]
  | some .collectFromGuest =>
    if reservation.status ≠ .cancelled then
      [{ actionKey := "collect_from_guest", code := "collect_from_guest", priority := .high
         title := "Cobrar saldo pendiente a " ++ guestName ++ leaving formatDate reservation
         detail := "Queda saldo operativo por cobrar directamente en el hotel." }]
    else []
  | some .awaitChannelSettlement =>
    [{ actionKey := "await_channel_settlement"
       code := "await_channel_settlement"
       priority := .medium
       title := "Esperar liquidación del canal de " ++ guestName ++ leaving formatDate reservation
       detail := "La reserva esta marcada como OTA prepaga y todavia falta confirmar el settlement del canal." }]
  | some .reviewCancellationSettlement =>
    [{ actionKey := "review_cancellation_settlement"
       code := "review_cancellation_settlement"
       priority := .high
       title := "Revisar cancelación y liquidación de " ++ guestName ++
         leaving formatDate reservation
       detail := "La reserva fue cancelada pero todavia requiere revisar el settlement o devolucion con el canal." }]
  | some .manualReviewRequired => []
  | none => []

/-- A cancelled or missed direct booking whose payments were kept. -/
def RefundDue : Prop :=
  reservation.status ∈ refundReviewStatuses ∧
    reservation.source = .direct ∧ reservation.isOta = false ∧
    financial.companyBillingDeferred = false ∧
    ∃ paid ∈ financial.amountPaid, 0 < paid
deriving Decidable

def refundCandidates : List ActionCandidate :=
  if RefundDue reservation financial then
    [{ actionKey := "refund_deposit"
       code := "refund_deposit"
       priority := .high
       title := "Revisar devolución pendiente de " ++ guestName ++ leaving formatDate reservation
       detail := "Hay " ++ reservation.currency ++ " " ++
         formatAmount (cents (financial.amountPaid.getD 0)).floor ++
         " de pagos netos registrados. Revisá las condiciones de cancelación o no-show y definí manualmente si corresponde devolver el depósito; esta alerta no ejecuta ningún movimiento." }]
  else []

def gapCandidates : List ActionCandidate :=
  if financial.hasFinancialReconciliationGap = true then
    [{ actionKey := "financial_reconciliation_gap"
       code := "financial_reconciliation_gap"
       priority := .critical
       title := "Conciliar diferencia de pagos de " ++ guestName ++ leaving formatDate reservation
       detail := "El monto pagado en la reserva no coincide con la suma de transacciones registradas." }]
  else []

def linkCandidates : List ActionCandidate :=
  match otaLink with
  | none => []
  | some link =>
    if link.providerState = .manualResolutionRequired then
      [{ actionKey := "ota_link:" ++ toString link.id ++ ":manual_resolution_required"
         code := "resolve_external_channel"
         priority := .critical
         title := "Cerrar estado en el canal externo de " ++ guestName ++
           leaving formatDate reservation
         detail := "El vinculo OTA quedo en resolucion manual requerida y necesita cierre operativo."
         referenceType := some "ota_link"
         referenceId := some link.id }]
    else []

/-- The channel still waits for an adjustment. -/
def AwaitsChannel (adjustment : ReservationAdjustment) : Prop :=
  ∃ status ∈ adjustment.externalResolutionStatus, status ∈ pendingAdjustmentExternalStatuses
deriving Decidable

def adjustmentCandidates (adjustment : ReservationAdjustment) : List ActionCandidate :=
  (if adjustment.status ∈ pendingAdjustmentStatuses then
    [{ actionKey := "adjustment:" ++ toString adjustment.id ++ ":review"
       code := "review_adjustment"
       priority := .high
       title := "Revisar ajuste operativo de " ++ guestName ++ leaving formatDate reservation
       detail := "Hay un ajuste '" ++ adjustment.kind.value ++
         "' todavia en estado '" ++ adjustment.status.value ++ "'."
       referenceType := some "reservation_adjustment"
       referenceId := some adjustment.id }]
  else []) ++
  (if AwaitsChannel adjustment then
    [{ actionKey := "adjustment:" ++ toString adjustment.id ++ ":external_resolution"
       code := "resolve_adjustment_external_action"
       priority := .high
       title := "Resolver acción externa del ajuste de " ++ guestName ++
         leaving formatDate reservation
       detail := "El ajuste operativo requiere una accion pendiente sobre el canal o una confirmacion manual del hotel."
       referenceType := some "reservation_adjustment"
       referenceId := some adjustment.id }]
  else [])

/-- What the rules find, in their order. -/
def actionCandidates (relatedAdjustments : List ReservationAdjustment) (today : Int) :
    List ActionCandidate :=
  reviewCandidates formatDate reservation guestName ++
  overdueCandidates formatDate reservation guestName today ++
  roomCandidates formatDate reservation guestName ++
  allocationCandidates formatDate reservation guestName ++
  recommendedCandidates formatDate reservation guestName financial otaLink ++
  refundCandidates formatDate reservation guestName financial ++
  gapCandidates formatDate reservation guestName financial ++
  linkCandidates formatDate reservation guestName otaLink ++
  relatedAdjustments.flatMap (adjustmentCandidates formatDate reservation guestName)

end Rules

def keepCandidate (kept : List ActionCandidate)
    (candidate : ActionCandidate) : List ActionCandidate :=
  match kept.find? fun other => other.actionKey = candidate.actionKey with
  | none => kept ++ [candidate]
  | some existing =>
    if existing.priority.score < candidate.priority.score then
      kept.map fun other =>
        if other.actionKey = candidate.actionKey then candidate else other
    else kept

def dedupeCandidates (candidates : List ActionCandidate) : List ActionCandidate :=
  candidates.foldl keepCandidate []

structure PendingAction extends ActionCandidate where
  reservationId : Int
  confirmationCode : String
  guestName : String
  reservationStatus : ReservationStatus
  source : ReservationSource
  sourceProviderCode : Option String
  paymentCollectionModel : String
  settlementStatus : String
  checkInDate : Int
  checkOutDate : Int

def decorateAction (reservation : ActionReservation) (guestName : String)
    (candidate : ActionCandidate) : PendingAction where
  toActionCandidate := candidate
  reservationId := reservation.id
  confirmationCode := reservation.confirmationCode
  guestName := guestName
  reservationStatus := reservation.status
  source := reservation.source
  sourceProviderCode := reservation.sourceProviderCode
  paymentCollectionModel := reservation.paymentCollectionModel
  settlementStatus := reservation.settlementStatus
  checkInDate := reservation.checkInDate
  checkOutDate := reservation.checkOutDate

def guestDisplayName (guest : Option Guest) (reservation : ActionReservation) : String :=
  match guest with
  | some guest => guest.firstName ++ " " ++ guest.lastName
  | none => "Huésped #" ++ toString reservation.guestId

def buildPendingActions (formatDate : Int → String) (reservation : ActionReservation)
    (guest : Option Guest) (otaLink : Option OtaReservationLink)
    (relatedAdjustments : List ReservationAdjustment)
    (financial : ActionFinancials) (today : Int) : List PendingAction :=
  let guestName := guestDisplayName guest reservation
  (dedupeCandidates (actionCandidates formatDate reservation guestName
    financial otaLink relatedAdjustments today)).map (decorateAction reservation guestName)

end HotelPms.Actions
