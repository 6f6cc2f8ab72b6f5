import HotelPms.Foundation.Checked
import HotelPms.Foundation.Decimal
import HotelPms.Links.Payloads

/-!
# Cancellation policy

A cancellation is evaluated against the terms that were saved with the booking
and the check-in schedule of the hotel.  Nothing is owed up to the cutoff of a
refundable booking; afterwards the saved penalty is proposed, and terms that
cannot be read go to a manager.  Instants are microseconds of the UTC calendar
and amounts are cents.
-/

namespace HotelPms.Cancellations

open Checked Decimal
open Links (Json)

inductive CancellationDecision
  | cancelWithoutPenalty
  | managerApprovalRequired
  | managerReviewRequired
  | hotelConfigurationRequired
  deriving DecidableEq

structure CancellationEvaluation where
  decision : CancellationDecision
  penaltyAmount : Option Int := none
  currencyCode : Option String := none
  cutoffAt : Option Int := none
  reason : String

inductive DecimalReading
  | invalid
  | nonFinite
  | finite (value : ℚ)

/-- Instant of a local day and minute of the day. -/
abbrev Zone := Int -> Int -> Except String Int

/-- Functions of the standard library: texts, conversions of decoded values
and time zones, of which an unknown one is missing. -/
structure PolicyEnvironment where
  strip : String → String
  lower : String → String
  upper : String → String
  str : Json → String
  int : Json → Option Int
  decimal : String → DecimalReading
  zoneInfo : String → Except String (Option Zone)

structure BookingTerms where
  checkInDate : Int
  totalAmount : Option Int
  currencyCode : Option String
  cancellationPolicySnapshot : Option Json

structure CheckInSchedule where
  checkInTime : Option String := none
  hotelTimezone : Option String := none

def microsecondsPerHour : Int := 3600 * 1000000

/-- Evaluation that sends a cancellation to a manager. -/
def review (reason : String) (cutoffAt : Option Int) : CancellationEvaluation where
  decision := .managerReviewRequired
  cutoffAt := cutoffAt
  reason := reason

/-- Evaluation that waits for the hotel to be configured. -/
def configurationRequired (reason : String) : CancellationEvaluation where
  decision := .hotelConfigurationRequired
  reason := reason

def withoutPenalty (currencyCode : Option String) (cutoffAt : Int)
    (reason : String) : CancellationEvaluation where
  decision := .cancelWithoutPenalty
  penaltyAmount := some 0
  currencyCode := currencyCode
  cutoffAt := some cutoffAt
  reason := reason

/-- What the saved penalty comes to, or why it cannot be read. -/
inductive PenaltyReading
  | review (reason : String)
  | proposed (penalty : Int) (currencyCode : Option String)

/-- An amount of money that is stored and not negative. -/
def decimalAmount (value : Option Int) : Option Int :=
  value.filter (0 ≤ ·)

section

variable (env : PolicyEnvironment)

/-- Text of a saved value; missing, empty and zero values have none. -/
def textOf (value : Option Json) : String :=
  match value.filter Json.isTruthy with
  | some given => env.str given
  | none => ""

/-- Three letters, in capitals. -/
def currency (text : String) : Option String :=
  some (env.upper (env.strip text)) |>.filter fun code =>
    code.length = 3 ∧ code.toList.all Char.isAlpha = true

/-- Minute of the day that a time such as `14:30` names. -/
def parseHotelTime (value : Option String) : Option Int :=
  match value.map fun text => (env.strip text).toList with
  | some [hourTens, hourUnits, ':', minuteTens, minuteUnits] =>
    if [hourTens, hourUnits, minuteTens, minuteUnits].all Char.isDigit then
      let hours := (hourTens.toNat - 48) * 10 + (hourUnits.toNat - 48)
      let minutes := (minuteTens.toNat - 48) * 10 + (minuteUnits.toNat - 48)
      if hours < 24 ∧ minutes < 60 then some (hours * 60 + minutes)
      else none
    else none
  | _ => none

variable (terms : BookingTerms) (snapshot : Json)

def freeCancellationHours : Option Int :=
  match snapshot.get? "free_cancellation_hours" with
  | none => none
  | some (.bool _) => none
  | some raw =>
    (env.int raw).filter fun hours => 0 ≤ hours ∧ toString hours = env.strip (env.str raw)

/-- The booking was sold without a refund. -/
def nonRefundable : Bool :=
  (match snapshot.get? "is_refundable" with
    | some (.bool false) => true
    | _ => false) ||
  decide (env.lower (env.strip
    (textOf env (snapshot.get? "cancellation_model"))) = "non_refundable")

/-- Kind of the saved penalty. -/
def penaltyType : String :=
  env.lower (env.strip (textOf env (snapshot.get? "penalty_type")))

def penaltyCurrency : Option String :=
  match (snapshot.get? "currency").filter Json.isTruthy with
  | some given => currency env (env.str given)
  | none => currency env (terms.currencyCode.getD "")

/-- Penalty in cents; the context holds twenty-eight digits. -/
def penaltyCents (value : ℚ) : Except String Int := do
  raiseIf (10 ^ 28 ≤ |quantizeHalfUp 2 value|) "decimal.InvalidOperation"
  pure (quantizeHalfUp 2 value)

def penaltyOfKind (amount : Int) (value : ℚ) : Except String PenaltyReading :=
  if penaltyType env snapshot = "percentage" then
    if 100 < value then pure (.review "cancellation_penalty_invalid")
    else do
      let penalty ← penaltyCents (inContext (inContext ((amount : ℚ) / 100 * value) / 100))
      pure (.proposed penalty (currency env (terms.currencyCode.getD "")))
  else if penaltyType env snapshot = "fixed" then do
    let penalty ← penaltyCents value
    pure (.proposed penalty (penaltyCurrency env terms snapshot))
  else pure (.review "cancellation_penalty_not_configured")

/-- Penalty of a booking after its cutoff. -/
def proposedPenalty (amount : Int) : Except String PenaltyReading :=
  let rawValue := (snapshot.get? "penalty_value").getD .null
  if nonRefundable env snapshot = true ∧
      (penaltyType env snapshot = "" ∨ rawValue.isGiven = false) then
    pure (.proposed amount (currency env (terms.currencyCode.getD "")))
  else
    match env.decimal (env.str rawValue) with
    | .invalid => pure (.review "cancellation_penalty_not_configured")
    | .nonFinite => pure (.review "cancellation_penalty_invalid")
    | .finite value =>
      if value < 0 then pure (.review "cancellation_penalty_invalid")
      else penaltyOfKind env terms snapshot amount value

/-- Evaluation of a penalty that was read. -/
def proposal (cutoffAt : Int) : PenaltyReading -> CancellationEvaluation
  | .review reason => review reason (some cutoffAt)
  | .proposed _ none =>
    review "cancellation_penalty_currency_invalid" (some cutoffAt)
  | .proposed penalty (some code) =>
    if penalty = 0 then
      withoutPenalty (some code) cutoffAt "policy_penalty_is_zero"
    else
      { decision := .managerApprovalRequired, penaltyAmount := some penalty
        currencyCode := some code, cutoffAt := some cutoffAt
        reason := "penalty_requires_manager_approval" }

/-- Evaluation once the cutoff is known. -/
def evaluateAtCutoff (cutoffAt requestedAt : Int) : Except String CancellationEvaluation :=
  if requestedAt ≤ cutoffAt ∧ nonRefundable env snapshot = false then
    pure (withoutPenalty (currency env (terms.currencyCode.getD "")) cutoffAt
      "within_free_cancellation_window")
  else
    match decimalAmount terms.totalAmount with
    | none => pure (review "reservation_total_invalid" (some cutoffAt))
    | some amount => do
      let penalty ← proposedPenalty env terms snapshot amount
      pure (proposal cutoffAt penalty)

/-- Evaluation once the zone of the hotel is known. -/
def evaluateInZone (zone : Zone)
    (minutes requestedAt : Int) : Except String CancellationEvaluation :=
  match freeCancellationHours env snapshot with
  | none => pure (review "invalid_free_cancellation_window" none)
  | some hours => do
    let checkIn ← zone terms.checkInDate minutes
    raiseIf (checkIn < hours * microsecondsPerHour) "OverflowError"
    evaluateAtCutoff env terms snapshot (checkIn - hours * microsecondsPerHour) requestedAt

/-- Name of the zone of the hotel. -/
def timezoneName (schedule : CheckInSchedule) : String :=
  env.strip (schedule.hotelTimezone.getD "")

/-- Calculate a proposed cancellation penalty without applying it. -/
def evaluateCancellationPolicy (schedule : CheckInSchedule) (requestedAt : Int) :
    Except String CancellationEvaluation :=
  match terms.cancellationPolicySnapshot.filter Json.isObject with
  | none => pure (review "missing_booking_policy_snapshot" none)
  | some snapshot =>
    match parseHotelTime env schedule.checkInTime with
    | none =>
      pure (configurationRequired "check_in_schedule_not_configured")
    | some minutes =>
      if timezoneName env schedule = "" then
        pure (configurationRequired "check_in_schedule_not_configured")
      else do
        match ← env.zoneInfo (timezoneName env schedule) with
        | none => pure (configurationRequired "hotel_timezone_invalid")
        | some zone =>
          evaluateInZone env terms snapshot zone minutes requestedAt

end

section

variable (env : PolicyEnvironment) (terms : BookingTerms)

/-- The request comes before the cutoff of a refundable booking. -/
structure InsideFreeWindow (schedule : CheckInSchedule) (requestedAt : Int)
    (snapshot : Json) (zone : Zone) (minutes hours checkIn : Int) :
    Prop where
  saved : terms.cancellationPolicySnapshot = some snapshot
  refundable : nonRefundable env snapshot = false
  checkInTime : parseHotelTime env schedule.checkInTime = some minutes
  hotelZone : env.zoneInfo (timezoneName env schedule) = .ok (some zone)
  freeHours : freeCancellationHours env snapshot = some hours
  localCheckIn : zone terms.checkInDate minutes = .ok checkIn
  inTime : requestedAt + hours * microsecondsPerHour ≤ checkIn

/-- The saved penalty of the booking comes to nothing. -/
def HasZeroPenalty : Prop :=
  ∃ snapshot amount code, terms.cancellationPolicySnapshot = some snapshot ∧
      decimalAmount terms.totalAmount = some amount ∧
      proposedPenalty env terms snapshot amount = .ok (.proposed 0 code)

/-- Nothing is owed for a cancellation that is requested now. -/
def FreeOfPenalty (schedule : CheckInSchedule) (requestedAt : Int) : Prop :=
  (∃ snapshot zone minutes hours checkIn,
    InsideFreeWindow env terms schedule requestedAt snapshot zone minutes hours checkIn) ∨
    HasZeroPenalty env terms

end

section

variable {env : PolicyEnvironment} {terms : BookingTerms}

theorem proposal_free {cutoffAt : Int} {penalty : PenaltyReading}
    (free : (proposal cutoffAt penalty).decision = .cancelWithoutPenalty) :
    ∃ code, penalty = .proposed 0 code := by
  cases penalty with
  | review reason => cases free
  | proposed penalty code =>
    cases code with
    | none => cases free
    | some code =>
      simp only [proposal] at free
      split_ifs at free with zero
      exact ⟨some code, by rw [zero]⟩

theorem evaluateAtCutoff_free {snapshot : Json} {cutoffAt requestedAt : Int}
    {evaluation : CancellationEvaluation}
    (evaluated : evaluateAtCutoff env terms snapshot cutoffAt requestedAt = .ok evaluation)
    (free : evaluation.decision = .cancelWithoutPenalty) :
    (requestedAt ≤ cutoffAt ∧ nonRefundable env snapshot = false) ∨
      ∃ amount code, decimalAmount terms.totalAmount = some amount ∧
        proposedPenalty env terms snapshot amount = .ok (.proposed 0 code) := by
  unfold evaluateAtCutoff at evaluated
  split_ifs at evaluated with inTime
  · exact .inl inTime
  · cases stored : decimalAmount terms.totalAmount with
    | none =>
      simp only [stored, pure_eq_ok] at evaluated
      subst evaluated
      cases free
    | some amount =>
      simp only [stored, bind_eq_ok, pure_eq_ok] at evaluated
      obtain ⟨penalty, isPenalty, rfl⟩ := evaluated
      obtain ⟨code, rfl⟩ := proposal_free free
      exact .inr ⟨amount, code, rfl, isPenalty⟩

theorem evaluateCancellationPolicy_free {schedule : CheckInSchedule}
    {requestedAt : Int} {evaluation : CancellationEvaluation}
    (evaluated : evaluateCancellationPolicy env terms schedule requestedAt = .ok evaluation)
    (free : evaluation.decision = .cancelWithoutPenalty) :
    FreeOfPenalty env terms schedule requestedAt := by
  unfold evaluateCancellationPolicy at evaluated
  split at evaluated
  · cases evaluated
    cases free
  · next snapshot isSaved =>
    obtain ⟨saved, -⟩ := Option.filter_eq_some_iff.mp isSaved
    split at evaluated
    · cases evaluated
      cases free
    · next minutes checkInTime =>
      split_ifs at evaluated with unnamed
      · cases evaluated
        cases free
      · obtain ⟨reading, hotelZone, evaluated⟩ := bind_eq_ok.mp evaluated
        cases reading with
        | none =>
          cases evaluated
          cases free
        | some zone =>
          simp only at evaluated
          unfold evaluateInZone at evaluated
          split at evaluated
          · cases evaluated
            cases free
          · next hours freeHours =>
            simp only [bind_eq_ok, raiseIf_eq_ok] at evaluated
            obtain ⟨checkIn, localCheckIn, -, -, evaluated⟩ := evaluated
            rcases evaluateAtCutoff_free evaluated free with
              ⟨inTime, refundable⟩ | ⟨amount, code, stored, zero⟩
            · exact .inl ⟨snapshot, zone, minutes, hours, checkIn, saved,
                refundable, checkInTime, hotelZone, freeHours, localCheckIn,
                by omega⟩
            · exact .inr ⟨snapshot, amount, code, saved, stored, zero⟩

end

end HotelPms.Cancellations
