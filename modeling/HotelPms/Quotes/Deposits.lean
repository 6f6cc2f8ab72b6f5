import HotelPms.Foundation.Checked
import HotelPms.Foundation.ContextSum
import HotelPms.Foundation.FloatFormat

/-!
# Deposits

What a hotel asks to be paid in advance: a percentage of the total, or the
price of the first nights.  The rules of a hotel are ordered by the longest
stay they are for; the first one that a stay fits is its rule, and the last one
is for every longer stay.  A hotel without rules asks for its old percentage.
-/

namespace HotelPms.Quotes

open Checked Decimal FloatFormat

/-- How a deposit is calculated. -/
inductive DepositCalculation
  | percentage
  | nights
  deriving DecidableEq

structure StoredDepositRule (F : Type) where
  maxNights : Option Int
  calculation : String
  value : F

structure DepositRule (F : Type) where
  maxNights : Option Int
  calculation : DepositCalculation
  value : F

variable {F : Type} [FloatFormat F]

/-- Rule whose fields are valid. -/
structure DepositPolicyRule (F : Type) [FloatFormat F]
    extends DepositRule F where
  maxNightsRange : ∀ bound ∈ maxNights, 1 ≤ bound ∧ bound ≤ 3650
  valueRange : 0 ≤ toRat value ∧ toRat value ≤ 100
  wholeNights : calculation = .nights -> (toRat value).isInt = true ∧ 1 ≤ toRat value

def DepositCalculation.ofText : String -> Option DepositCalculation
  | "percentage" => some .percentage
  | "nights" => some .nights
  | _ => none

def DepositPolicyRule.modelValidate (stored : StoredDepositRule F) :
    Except String (DepositPolicyRule F) :=
  match DepositCalculation.ofText stored.calculation with
  | none => .error "calculation: Input should be 'percentage' or 'nights'"
  | some calculation =>
    if bounds : ∀ bound ∈ stored.maxNights, 1 ≤ bound ∧ bound ≤ 3650 then
      if range : 0 ≤ toRat stored.value ∧ toRat stored.value ≤ 100 then
        if whole : calculation = .nights ->
            (toRat stored.value).isInt = true ∧ 1 ≤ toRat stored.value then
          .ok {
            maxNights := stored.maxNights
            calculation := calculation
            value := stored.value
            maxNightsRange := bounds
            valueRange := range
            wholeNights := whole }
        else
          .error "La cantidad de noches de seña debe ser un entero positivo"
      else .error "value: Input should be between 0 and 100"
    else .error "max_nights: Input should be between 1 and 3650"

/-- The rules cover every stay, each from where the one before it ends. -/
def validateDepositPolicyRules (rules : List (DepositPolicyRule F)) : Except String Unit := do
  raiseIf (¬(1 ≤ rules.length ∧ rules.length ≤ 10)) "Configurá entre una y diez reglas de seña"
  let bounds := rules.map (·.maxNights)
  raiseIf (bounds.getLast? ≠ some none) "La última regla de seña debe cubrir las estadías restantes"
  raiseIf (bounds.dropLast.any Option.isNone = true)
    "Solo la última regla puede no tener límite de noches"
  let finiteBounds := bounds.reduceOption
  raiseIf (∃ pair ∈ finiteBounds.zip finiteBounds.tail, pair.2 ≤ pair.1)
    "Los límites de noches deben aumentar en orden"

def normalizeDepositPolicyRules (rules : Option (List (StoredDepositRule F)))
    (legacyPercentage : F) : Except String (List (DepositRule F)) :=
  match rules with
  | none | some [] => pure [{
      maxNights := none
      calculation := .percentage
      value := legacyPercentage }]
  | some stored => do
    let validated ← stored.mapM DepositPolicyRule.modelValidate
    validateDepositPolicyRules validated
    pure (validated.map DepositPolicyRule.toDepositRule)

/-- The first rule that the nights of a stay fit, or else the last rule. -/
def applicableDepositRule (rules : List (DepositRule F)) (nights : Int) : Option (DepositRule F) :=
  (rules.find? fun rule => rule.maxNights.all (nights ≤ ·)) <|> rules.getLast?

structure DepositSettings (F : Type) where
  depositPolicyConfigured : Bool := false
  depositPolicyRules : Option (List (StoredDepositRule F)) := none
  depositPercentage : F

/-- The hotel has confirmed its deposit and cancellation rules. -/
def requireDepositPolicyConfigured (settings : Option (DepositSettings F)) :
    Except String (DepositSettings F) :=
  match settings.filter DepositSettings.depositPolicyConfigured with
  | some configured => .ok configured
  | none => .error ("Antes de cotizar o crear reservas, el hotel debe " ++
      "configurar y confirmar sus reglas de depósito y cancelación en " ++
      "Configuración del hotel.")

def nightsShare (total : ℚ) (requestedNights nights : Int) (prices : List F) : Except String ℚ :=
  if prices ≠ [] ∧ (prices.length : Int) = nights ∧ ofRat 0 < FloatFormat.sum prices then
    let baseTotal := contextSum (prices.map toRat)
    let selectedBase :=
      contextSum ((prices.take requestedNights.toNat).map toRat)
    if baseTotal = 0 then .error "decimal.DivisionByZero"
    else .ok (inContext (inContext (total * selectedBase) / baseTotal))
  else
    .ok (inContext (inContext (total * requestedNights) / (max nights 1 : Int)))

def ruleDeposit (rule : DepositRule F) (total : ℚ) (nights : Int)
    (nightlyAmounts : List F) : Except String ℚ :=
  match rule.calculation with
  | .percentage => .ok (inContext (inContext (total * toRat rule.value) / 100))
  | .nights =>
    nightsShare total (min ⌊toRat rule.value⌋ (max nights 0)) nights nightlyAmounts

def computeDepositAmount (settings : Option (DepositSettings F))
    (grossTotal : F) (nights : Int) (nightlyAmounts : List F) :
    Except String F := do
  let configured ← requireDepositPolicyConfigured settings
  let rules ← normalizeDepositPolicyRules configured.depositPolicyRules configured.depositPercentage
  match applicableDepositRule rules nights with
  | none => throw "list index out of range"
  | some rule => do
    let total := toRat grossTotal
    let amount ← ruleDeposit rule total nights nightlyAmounts
    pure (ofCents (quantize 2 (min (max amount 0) total)))

end HotelPms.Quotes
