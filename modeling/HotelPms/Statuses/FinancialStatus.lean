import HotelPms.Statuses.HistorySafety

/-!
# Financial status

The status that payments change follows the balance, up to a cent: what is
paid may miss the total, or the deposit, by one.  A call that changes the
status adds one history row, and a second call changes nothing.
-/

namespace HotelPms.Statuses

open Hotel Booking Checked Ota

namespace StatusSystem

/-- Balance still to be collected, given what the ledger reports as paid. -/
def operationalBalanceDue (system : StatusSystem)
    (reservation : OtaReservation) (paid : Int) : Int :=
  max 0 (reservation.money.totalAmount + system.adjustmentTotal reservation - paid)

variable {system after : StatusSystem} {reservation row : OtaReservation}

/-- Effect of a call on a reservation: nothing, or a new status with one
history row. -/
inductive Synced (system : StatusSystem) (reservation : OtaReservation)
    (reasonCode : String) : StatusSystem -> OtaReservation -> Prop
  | unchanged (same : reservation.status = system.financialTarget reservation) :
    Synced system reservation reasonCode system reservation
  | changed {after : StatusSystem} (notes : Option String)
    (apart : reservation.status ≠ system.financialTarget reservation)
    (tables : after.tables = (system.writeStatus reservation
      (system.financialTarget reservation)).tables)
    (history : after.log.history = system.log.history ++
      [{ reservationId := reservation.id, fromStatus := reservation.status
         toStatus := system.financialTarget reservation, reasonCode := some reasonCode
         notes := notes }]) :
    Synced system reservation reasonCode after { reservation with
        datesOrdered := reservation.stayOrdered
        status := system.financialTarget reservation }

theorem exists_synced (system : StatusSystem)
    (unsettled : Unsettled reservation.status) (reasonCode : String) :
    ∃ after row, system.syncReservationFinancialStatus reservation reasonCode = .ok after ∧
      Synced system reservation reasonCode after row := by
  unfold syncReservationFinancialStatus
  rw [if_neg (not_not.mpr unsettled)]
  by_cases same : reservation.status = system.financialTarget reservation
  · rw [if_pos same]
    exact ⟨_, _, rfl, .unchanged same⟩
  · rw [if_neg same]
    by_cases forward : system.financialTarget reservation ∈ reservation.status.validTransitions
    · rw [if_pos forward]
      unfold transitionReservationStatus raiseIf
      rw [if_neg (not_not.mpr forward)]
      exact ⟨_, _, rfl, .changed none same rfl rfl⟩
    · rw [if_neg forward]
      exact ⟨_, _, rfl, .changed _ same rfl rfl⟩

namespace Synced

variable {reasonCode : String} (synced : Synced system reservation reasonCode after row)
include synced

theorem status : row.status = system.financialTarget reservation := by
  cases synced with
  | unchanged same => exact same
  | changed => rfl

theorem money : row.money = reservation.money := by
  cases synced <;> rfl

theorem adjustmentTotal : after.adjustmentTotal row = system.adjustmentTotal reservation := by
  cases synced with
  | unchanged => rfl
  | changed notes apart tables history =>
    unfold StatusSystem.adjustmentTotal
    rw [tables]
    rfl

theorem stored (isStored : system.tables.desk.reservation? reservation.id = some reservation) :
    after.tables.desk.reservation? reservation.id = some row := by
  cases synced with
  | unchanged => exact isStored
  | changed notes apart tables history =>
    rw [tables]
    exact (Desk.reservation?_writeReservation _ _ _).trans (if_pos rfl)

/-- A second call finds the status in line. -/
theorem again (otherReason : String) :
    after.syncReservationFinancialStatus row otherReason = .ok after := by
  have target : row.status = after.financialTarget row := by
    unfold financialTarget
    rw [synced.status, synced.money, synced.adjustmentTotal]
    rfl
  unfold syncReservationFinancialStatus
  simp only
  rw [if_pos target, ite_self]

/-- One row per change. -/
theorem history :
    if row.status = reservation.status then after = system
    else ∃ entry, after.log.history = system.log.history ++ [entry] ∧
      entry.reservationId = reservation.id ∧
      entry.fromStatus = reservation.status ∧ entry.toStatus = row.status := by
  cases synced with
  | unchanged => rw [if_pos rfl]
  | changed notes apart tables history =>
    rw [if_neg (Ne.symm apart)]
    exact ⟨_, history, rfl, rfl, rfl⟩

end Synced

/-- What a status says about a balance, up to a cent. -/
structure ReflectsBalance (status : ReservationStatus)
    (balance deposit paid : Int) : Prop where
  fullyPaid : status = .fullyPaid ↔ balance ≤ 1
  depositPaid : status = .depositPaid ↔ 1 < balance ∧ 0 < paid ∧ deposit - 1 ≤ paid
  pending : status = .pending ↔ 1 < balance ∧ ¬(0 < paid ∧ deposit - 1 ≤ paid)

theorem reflectsBalance_financialTarget {paid : Int}
    (reported : reservation.money.amountPaid = paid) :
    ReflectsBalance (system.financialTarget reservation)
      (system.operationalBalanceDue reservation paid)
      reservation.money.depositAmount paid := by
  unfold financialTarget operationalBalanceDue
  simp only [reported]
  constructor <;> split_ifs <;> simp <;> omega

/-- A pending reservation of 1.00 with all but a cent paid. -/
def centOwed : OtaReservation :=
  { bookedRow .pending with
    money := { totalAmount := 100, amountPaid := 99 }
    moneyFits := by decide }

def centOwedSystem : StatusSystem :=
  bookedSystem.writeStatus centOwed .pending

theorem stored_centOwed : centOwedSystem.tables.desk.reservation? centOwed.id = some centOwed :=
  rfl

end StatusSystem

end HotelPms.Statuses
