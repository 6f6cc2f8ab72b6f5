import HotelPms.Foundation.FloatFormat
import HotelPms.Foundation.KeySort
import HotelPms.Payments.Ledger

/-!
# Taxes of a quote

A hotel has tax policies with rules.  A quote takes the policy that is asked
for, or the first active one, and adds up the amounts of the rules that apply
to its channel and guests; without any, it takes the rate of the policy itself.
Amounts that are quoted with taxes included are taken apart.
-/

namespace HotelPms.Quotes

open Checked FloatFormat KeySort

structure TaxPolicy (F : Type) where
  id : Int
  code : String := ""
  name : String := ""
  taxesIncluded : Bool := true
  applyVatByDefault : Bool := true
  vatRate : Option F := none
  foreignGuestTaxExempt : Bool := false
  isActive : Bool := true
  deriving DecidableEq

structure TaxRule (F : Type) where
  id : Int
  taxPolicyId : Int
  channelCode : Option String := none
  guestScope : String := "all"
  taxCode : String
  taxName : String := ""
  taxType : String := "percentage"
  amount : F
  currencyCode : Option String := none
  priority : Int := 100
  appliesWhenJson : Option String := none
  isActive : Bool := true
  deriving DecidableEq

/-- The tax tables of one hotel, in the order the database returns rows. -/
structure TaxTables (F : Type) where
  policies : List (TaxPolicy F) := []
  rules : List (TaxRule F) := []
  distinctPolicies : (policies.map TaxPolicy.id).Nodup
  distinctRules : (rules.map TaxRule.id).Nodup

variable {F : Type}

namespace TaxTables

variable (tables : TaxTables F)

def policyRules (taxPolicyId : Int) : List (TaxRule F) :=
  tables.rules.filter (·.taxPolicyId = taxPolicyId)

def activePolicy? : Option Int → Option (TaxPolicy F)
  | some taxPolicyId => tables.policies.find? fun policy =>
    policy.isActive && decide (policy.id = taxPolicyId)
  | none =>
    (sortByKey TaxPolicy.id (tables.policies.filter TaxPolicy.isActive)).head?

/-- The policy applies a rate by default, and has neither the rate nor an
active rule. -/
def lacksRate (policy : TaxPolicy F) : Bool :=
  policy.applyVatByDefault && policy.vatRate.isNone &&
    !(tables.policyRules policy.id).any TaxRule.isActive

/-- What is said of a policy that is not found. -/
def missingPolicy : Option Int -> String
  | some _ => "Tax policy not found for hotel"
  | none => "El hotel debe configurar y activar una política impositiva " ++ "antes de cotizar."

def selectTaxPolicy (taxPolicyId : Option Int) : Except String (TaxPolicy F) :=
  match tables.activePolicy? taxPolicyId with
  | none => .error (missingPolicy taxPolicyId)
  | some policy => do
    raiseIf (tables.lacksRate policy = true)
      ("Completá la tasa de IVA o desactivá el IVA por defecto para " ++
        "indicar explícitamente que no aplica.")
    pure policy

end TaxTables

/-- Line of a tax breakdown. -/
structure TaxEntry (F : Type) where
  taxCode : String
  kind : String
  amount : F

/-- What a breakdown adds up to. -/
structure TaxTotals (F : Type) where
  tax : F
  fee : F
  breakdown : List (TaxEntry F) := []

namespace TaxRule

variable (rule : TaxRule F)

/-- The rule is active for a channel and a kind of guest. -/
def appliesTo (guestScope : String) (channelCode : Option String) : Bool :=
  rule.isActive &&
    decide (rule.channelCode = none ∨ rule.channelCode = some "" ∨
      rule.channelCode = channelCode) &&
    decide (rule.guestScope = "all" ∨ rule.guestScope = guestScope)

/-- The rule is a percentage, and not a fixed amount. -/
def isPercentage : Bool := decide (rule.taxType = "percentage")

/-- A fixed amount is in another currency than the quote. -/
def mismatches (currencyCode : String) : Bool :=
  !rule.isPercentage && rule.currencyCode.any fun code =>
    code ≠ "" ∧ Payments.normalizeCurrency code ≠ Payments.normalizeCurrency currencyCode

/-- A fixed amount is charged for every night, as the conditions of the rule
say. -/
def perNight (readPerNight : String → Bool) : Bool :=
  rule.appliesWhenJson.any fun conditions => decide (conditions ≠ "") && readPerNight conditions

/-- Kind of a line: codes that start with the word are fees. -/
def kind : String :=
  if "fee".toList.isPrefixOf rule.taxCode.toLower.toList then "fee" else "tax"

end TaxRule

section Amounts

variable [FloatFormat F]

variable (readPerNight : String -> Bool)

def calculateRuleAmount (rule : TaxRule F) (quotedAmount : F) (nights : Int) : F :=
  if rule.isPercentage then
    round2 (quotedAmount * (rule.amount / ofRat 100))
  else
    round2 (rule.amount * ofRat (if rule.perNight readPerNight then nights else 1))

/-- Add a line to a breakdown. -/
def TaxTotals.addEntry (totals : TaxTotals F) (entry : TaxEntry F) : TaxTotals F :=
  { tax := if entry.kind = "fee" then totals.tax
      else totals.tax + entry.amount
    fee := if entry.kind = "fee" then totals.fee + entry.amount
      else totals.fee
    breakdown := totals.breakdown ++ [entry] }

/-- Amount that the percentages of the rules are of: the quoted amount, or
what is left of it without the taxes that it includes. -/
def includedBase (applicableRules : List (TaxRule F)) (quotedAmount : F) (nights : Int)
    (taxesIncluded : Bool) : Except String F :=
  if taxesIncluded then do
    let fixedTotal := FloatFormat.sum ((applicableRules.filter (!·.isPercentage)).map fun rule =>
        calculateRuleAmount readPerNight rule quotedAmount nights)
    raiseIf (quotedAmount < fixedTotal)
      ("Los importes fijos de impuestos superan el precio con impuestos " ++ "incluidos.")
    let percentageRate := FloatFormat.sum
      ((applicableRules.filter TaxRule.isPercentage).map TaxRule.amount)
    raiseIf (¬ofRat (-100) < percentageRate)
      ("La tasa impositiva configurada no permite calcular un precio " ++ "inclusivo.")
    divide (quotedAmount - fixedTotal) (ofRat 1 + percentageRate / ofRat 100)
  else pure quotedAmount

def ruleEntry (quotedAmount base : F)
    (nights : Int) (taxesIncluded : Bool) (rule : TaxRule F) : TaxEntry F where
  taxCode := rule.taxCode
  kind := rule.kind
  amount :=
    if taxesIncluded && rule.isPercentage then
      round2 (base * (rule.amount / ofRat 100))
    else calculateRuleAmount readPerNight rule quotedAmount nights

/-- Rules by priority and number. -/
def rankRules (rules : List (TaxRule F)) : List (TaxRule F) :=
  sortByKey TaxRule.priority (sortByKey TaxRule.id rules)

/-- Rate that a policy applies without rules. -/
def defaultRate? (policy : TaxPolicy F) (applicableRules : List (TaxRule F)) : Option F :=
  if applicableRules.isEmpty && policy.applyVatByDefault then
    policy.vatRate.filter (toRat · ≠ 0)
  else none

/-- Taxes, fees and breakdown of a quoted amount under a policy and its
rules. -/
def applyTaxPolicy (quotedAmount : F)
    (nights : Int) (policy : TaxPolicy F) (rules : List (TaxRule F))
    (guestScope : String) (channelCode : Option String)
    (taxesIncluded : Bool) (currencyCode : String) :
    Except String (TaxTotals F) := do
  let effectiveGuestScope := guestScope.toLower
  if effectiveGuestScope = "foreign" ∧ policy.foreignGuestTaxExempt = true then
    pure { tax := ofRat 0, fee := ofRat 0 }
  else do
    let applicableRules := rules.filter (·.appliesTo effectiveGuestScope channelCode)
    raiseIf (currencyCode ≠ "" ∧ (applicableRules.any (·.mismatches currencyCode)) = true)
      ("La moneda de los importes fijos debe coincidir con la moneda de la " ++
        "tarifa; no se convierte automáticamente.")
    match defaultRate? policy applicableRules with
    | some vatRate => do
      let share ← divide vatRate (if taxesIncluded then ofRat 100 + vatRate else ofRat 100)
      let vatAmount := round2 (quotedAmount * share)
      pure {
        tax := vatAmount
        fee := ofRat 0
        breakdown := [{
          taxCode := "VAT_DEFAULT"
          kind := "tax"
          amount := vatAmount }] }
    | none => do
      let base ← includedBase readPerNight applicableRules quotedAmount nights taxesIncluded
      let totals := ((rankRules applicableRules).map
          (ruleEntry readPerNight quotedAmount base nights taxesIncluded)).foldl
        TaxTotals.addEntry { tax := ofRat 0, fee := ofRat 0 }
      pure {
        tax := round2 totals.tax
        fee := round2 totals.fee
        breakdown := totals.breakdown }

end Amounts

end HotelPms.Quotes
