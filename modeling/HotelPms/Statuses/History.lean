import HotelPms.Foundation.Replay
import HotelPms.Ota.Webhooks
import HotelPms.Stays.Arrivals

/-!
# Status history

Services that change the status of a reservation, with the history rows they
add and the outcome column they write.  A transition adds a row and writes the
outcome, and so does a no-show that is marked by hand.  The nightly detection
of no-shows and the webhooks of the agencies write the status alone.
-/

namespace HotelPms.Statuses

open Hotel Payments Booking Checked FloatFormat Ota Stays

inductive ReservationOutcome
  | pending
  | checkedIn
  | completed
  | cancelled
  | noShow

def reservationStatusToOutcome : ReservationStatus -> ReservationOutcome
  | .pending | .depositPaid | .fullyPaid | .preCheckIn => .pending
  | .partialCheckIn | .checkedIn => .checkedIn
  | .checkedOut => .completed
  | .cancelled => .cancelled
  | .noShow => .noShow

structure ReservationStatusHistory where
  reservationId : Int
  fromStatus : ReservationStatus
  toStatus : ReservationStatus
  reasonCode : Option String := none
  notes : Option String := none
  changedByUserId : Option Int := none

/-- The outcome column and the history table, oldest row first. -/
structure StatusLog where
  outcomes : Int -> ReservationOutcome := fun _ => .pending
  history : List ReservationStatusHistory := []

namespace StatusLog

variable (log : StatusLog)

def rowsOf (reservationId : Int) : List ReservationStatusHistory :=
  log.history.filter (·.reservationId = reservationId)

def writeOutcome (reservationId : Int) (outcome : ReservationOutcome) : StatusLog :=
  { log with outcomes := Function.update log.outcomes reservationId outcome }

def addRow (row : ReservationStatusHistory) : StatusLog :=
  { log with history := log.history ++ [row] }

end StatusLog

/-- The front desk with the status log, and the guests who have arrived. -/
structure StatusSystem where
  tables : OtaTables
  log : StatusLog := {}
  arrivals : List (Int × Int) := []

namespace StatusSystem

variable (system : StatusSystem)

variable (cutoffHours : Int) (now : Int) (reservationId : Int) (reservation : OtaReservation)

def writeStatus (status : ReservationStatus) : StatusSystem :=
  { system with
    tables :=
      { system.tables with
        desk := system.tables.desk.writeReservation { reservation with
            datesOrdered := reservation.stayOrdered
            status := status } } }

def activeReservation : Except String OtaReservation :=
  match (system.tables.desk.reservation? reservationId).filter fun row => row.deletedAt = none with
  | none => .error ("No se encontró la reserva " ++ toString reservationId ++ ".")
  | some reservation => .ok reservation

/-- Move a reservation to a status, with the outcome and a history row. -/
def recordStatus (newStatus : ReservationStatus) (reasonCode notes : Option String)
    (changedByUserId : Option Int) : StatusSystem :=
  { system.writeStatus reservation newStatus with
    log := (system.log.writeOutcome reservation.id (reservationStatusToOutcome newStatus)).addRow
        { reservationId := reservation.id, fromStatus := reservation.status, toStatus := newStatus
          reasonCode := reasonCode, notes := notes, changedByUserId := changedByUserId } }

def transitionReservationStatus (newStatus : ReservationStatus) (reasonCode : Option String := none)
    (notes : Option String := none) (changedByUserId : Option Int := none) :
    Except String StatusSystem := do
  raiseIf (¬newStatus ∈ reservation.status.validTransitions)
    ("No se puede cambiar la reserva del estado " ++
      reservation.status.value ++ " al estado " ++ newStatus.value)
  pure (system.recordStatus reservation newStatus reasonCode notes changedByUserId)

def markReservationNoShow (clientVersion : Int) (notes : Option String)
    (changedByUserId : Option Int) : Except String StatusSystem := do
  raiseIf (clientVersion ≠ reservation.version) "La reserva fue modificada por otro usuario"
  raiseIf (reservation.Operational ∨ reservation.status = .cancelled ∨ reservation.status = .noShow)
    ("No se puede registrar la ausencia desde el estado '" ++ reservation.status.value ++ "'")
  pure (system.recordStatus { reservation with
      datesOrdered := reservation.stayOrdered
      notes :=
        match given notes with
        | none => reservation.notes
        | some text => some (Text.strip (reservation.notes.getD "" ++ "\n[NO-SHOW] " ++ text))
      version := reservation.version + 1 }
    .noShow (some "no_show")
    (some "Marcada como no-show sin cargo automático") changedByUserId)

/-- Billing adjustments of a reservation, in cents. -/
def adjustmentTotal : Int :=
  ((system.tables.desk.adjustments.filter fun row =>
    row.reservationId = reservation.id).map BillingAdjustment.totalAmount).sum

/-- Status that follows from what is paid, to a cent. -/
def financialTarget : ReservationStatus :=
  let paid := reservation.money.amountPaid
  if reservation.money.totalAmount + system.adjustmentTotal reservation - 1 ≤ paid then .fullyPaid
  else if reservation.money.depositAmount - 1 ≤ paid ∧ 0 < paid then
    .depositPaid
  else .pending

/-- Statuses that payments change. -/
def Unsettled (status : ReservationStatus) : Prop :=
  status = .pending ∨ status = .depositPaid ∨ status = .fullyPaid
deriving Decidable

/-- Bring the status of a reservation in line with what is paid.  A step back
is written with a history row of its own, outside the state machine. -/
def syncReservationFinancialStatus (reasonCode : String) : Except String StatusSystem :=
  let target := system.financialTarget reservation
  if ¬Unsettled reservation.status then .ok system
  else if reservation.status = target then .ok system
  else if target ∈ reservation.status.validTransitions then
    system.transitionReservationStatus reservation target (some reasonCode)
  else
    .ok { system.writeStatus reservation target with
      log := system.log.addRow
        { reservationId := reservation.id
          fromStatus := reservation.status
          toStatus := target
          reasonCode := some reasonCode
          notes := some ("Financial reconciliation adjusted reservation " ++
            "status outside the forward-only state machine") } }

/-- A reservation whose guest should have come by now, on the clock of the
hotel. -/
def Due : Prop :=
  reservation.deletedAt = none ∧ Unsettled reservation.status ∧
    reservation.checkInDate ≤ now / 86400 ∧
    reservation.checkInDate * 86400 + cutoffHours * 3600 ≤ now
deriving Decidable

/-- Reservations that the detection marks. -/
def dueReservations : List OtaReservation :=
  system.tables.desk.reservations.filter (Due cutoffHours now ·)

/-- Mark what is due, status and outcome alone. -/
def detectNoShows : StatusSystem :=
  (system.dueReservations cutoffHours now).foldl (fun marked reservation =>
      { marked.writeStatus reservation .noShow with
        log := marked.log.writeOutcome reservation.id .noShow })
    system

/-- What the rest of the application answers when a guest arrives. -/
structure ArrivalAnswers where
  registered : Bool := true
  participants : Int := 1
  policy : String := "partial_checkin"
  /-- Payment, room, restrictions and documents. -/
  checks : Except String Unit := .ok ()

/-- Enough guests have arrived, and enough are registered. -/
def PartyComplete (answers : ArrivalAnswers) (arrived : Int) : Prop :=
  let expected := max 1 (reservation.numAdults + reservation.numChildren)
  expected ≤ arrived ∧ expected ≤ answers.participants
deriving Decidable

/-- Guests of a reservation who have arrived. -/
def arrivedCount : Int :=
  (system.arrivals.filter (·.1 = reservationId)).length

local instance arrivalsLawful : LawfulBEq (Int × Int) := inferInstance

/-- Record the arrival of a guest; a repeated one changes nothing. -/
def performGuestCheckin (guestId : Int) (answers : ArrivalAnswers) (actorUserId : Option Int) :
    Except String StatusSystem := do
  let reservation ← system.activeReservation reservationId
  if (reservation.id, guestId) ∈ system.arrivals then pure system
  else
    raiseIf (answers.registered = false) "El huésped no está registrado en esta reserva."
    raiseIf (¬reservation.status ∈ arrivalStatuses)
      ("No se puede registrar la llegada: la reserva está en estado '" ++
        reservation.status.value ++ "'.")
    answers.checks
    let prior := system.arrivedCount reservation.id
    let arrived : StatusSystem :=
      { system with arrivals := (reservation.id, guestId) :: system.arrivals }
    match arrivalTarget answers.policy (prior = 0) (PartyComplete reservation answers (prior + 1))
        reservation.status with
    | none => pure arrived
    | some target =>
      if reservation.status = target then pure arrived
      else
        arrived.transitionReservationStatus reservation target none none actorUserId

/-- Check a stay out. -/
def performCheckout (checks : Except String Unit)
    (actorUserId : Option Int) : Except String StatusSystem := do
  let reservation ← system.activeReservation reservationId
  raiseIf (¬(reservation.status = .partialCheckIn ∨ reservation.status = .checkedIn))
    ("No se puede realizar el check-out: la reserva está en estado '" ++
      reservation.status.value ++ "'.")
  raiseIf (reservation.roomId.isNone = true)
    ("No se puede realizar el check-out: la reserva no tiene una " ++ "habitación asignada.")
  checks
  system.transitionReservationStatus reservation .checkedOut none none actorUserId

end StatusSystem

section

variable {F : Type} [FloatFormat F]

def linkedReservation? (tables : OtaTables) (key : String × String) : Option OtaReservation :=
  ((tables.mapping? key).bind OtaMapping.reservationId).bind tables.desk.reservation?

/-- What a webhook adds to the log: a cancelled reservation is moved by a
transition, and a new one has the default outcome. -/
def logWebhook (log : StatusLog) (tables : OtaTables)
    (normalized : NormalizedReservation F) : StatusLog :=
  match linkedReservation? tables normalized.key with
  | none => log.writeOutcome tables.desk.nextReservationId .pending
  | some reservation =>
    if normalized.IsCancellation ∧ ¬reservation.Operational ∧ reservation.status ≠ .cancelled then
      (log.writeOutcome reservation.id .cancelled).addRow
        { reservationId := reservation.id, fromStatus := reservation.status
          toStatus := .cancelled }
    else log

def StatusSystem.processWebhook (system : StatusSystem)
    (env : OtaEnvironment F) (normalized : NormalizedReservation F)
    (receivedAt : Int) : Except OtaError StatusSystem := do
  let after ← processNormalizedWebhook env system.tables normalized receivedAt
  pure { system with tables := after, log := logWebhook system.log system.tables normalized }

end

end HotelPms.Statuses
