import HotelPms.Foundation.TwoRuns
import HotelPms.Quotes.PinnedRows
import HotelPms.Rates.ShownPrice

/-!
# What a stay is sold as

The product and the plan of a stay, read from the tables alone, and the quote
of the plan.  Two states in which these rows agree sell the stay alike.
-/

namespace HotelPms.Quotes

open Checked FloatFormat KeySort Promotions Rates RowOrder

variable {F : Type}

namespace PricingTables

variable (tables : PricingTables F) (stay : StayRequest)

def planNamed : Option RatePlan :=
  stay.ratePlanId.bind (activePlan? tables.rates)

/-- Product that a stay is sold as: the active one that it names, the one of
its plan, or the only one of its category. -/
def soldProduct : Option RateProduct :=
  match stay.sellableProductId with
  | some sellableProductId => tables.activeProduct? sellableProductId
  | none => tables.inferredProduct
      ((tables.planNamed stay).bind tables.productOfPlan) stay.categoryId

/-- Plan that a stay is sold under: the active one that it names, or the only
one of its product. -/
def soldPlan : Option RatePlan :=
  tables.inferredPlan (tables.planNamed stay) (tables.soldProduct stay)

def NightlyPriced : Prop :=
  ∀ plan ∈ tables.soldPlan stay, stay.isInferred = true ∧
    stayPrices tables.rates plan.id stay.checkIn stay.checkOut = []

variable {tables stay}

theorem namedPlan_eq_ok {plan : Option RatePlan}
    (found : tables.namedPlan stay.ratePlanId = .ok plan) :
    plan = tables.planNamed stay ∧ (stay.ratePlanId ≠ none -> plan ≠ none) := by
  unfold namedPlan at found
  unfold planNamed
  split at found
  · next unnamed =>
    rw [unnamed]
    exact ⟨(Except.ok.inj found).symm, absurd rfl⟩
  · next ratePlanId named =>
    rw [named]
    split at found
    · next row isRow =>
      cases found
      exact ⟨isRow.symm, fun _ => Option.some_ne_none row⟩
    · cases found

theorem namedProduct_eq_ok {product : Option RateProduct}
    (found : tables.namedProduct (tables.planNamed stay) stay.sellableProductId = .ok product) :
    tables.inferredProduct product stay.categoryId = tables.soldProduct stay := by
  unfold namedProduct at found
  unfold soldProduct
  split at found
  · next unnamed =>
    rw [unnamed, ← Except.ok.inj found]
  · next sellableProductId named =>
    rw [named]
    split at found
    · cases found
    · next row isRow =>
      simp only [bind_eq_ok, pure_eq_ok] at found
      obtain ⟨-, -, rfl⟩ := found
      exact isRow.symm

theorem resolveReservationCommercialContext_eq_ok {context : CommercialContext F}
    (found : tables.resolveReservationCommercialContext stay.categoryId
      stay.sellableProductId stay.ratePlanId stay.taxPolicyId = .ok context) :
    context.plan = tables.soldPlan stay ∧ (stay.ratePlanId ≠ none -> tables.planNamed stay ≠ none) ∧
      tables.taxes.activePolicy? stay.taxPolicyId = some context.taxPolicy := by
  unfold resolveReservationCommercialContext at found
  simp only [bind_eq_ok, raiseIf_eq_ok, pure_eq_ok] at found
  obtain ⟨plan, isPlan, product, isProduct, -, -, policy, isPolicy, rfl⟩ := found
  obtain ⟨rfl, isFound⟩ := namedPlan_eq_ok isPlan
  have sold := namedProduct_eq_ok isProduct
  refine ⟨?_, isFound, activePolicy?_of_selectTaxPolicy isPolicy⟩
  rw [sold]
  rfl

theorem id_of_soldPlan {ratePlanId : Int} {plan : RatePlan}
    (named : stay.ratePlanId = some ratePlanId)
    (isFound : tables.planNamed stay ≠ none)
    (sold : tables.soldPlan stay = some plan) : plan.id = ratePlanId := by
  obtain ⟨row, isRow⟩ := Option.ne_none_iff_exists'.mp isFound
  unfold soldPlan at sold
  rw [isRow] at sold
  obtain rfl : row = plan := Option.some.inj sold
  unfold planNamed at isRow
  rw [named] at isRow
  have kept := List.find?_some isRow
  rw [decide_eq_true_eq] at kept
  exact kept.1

theorem mem_of_onlyRow {α : Type} {rows : List α} {row : α}
    (single : onlyRow rows = some row) : row ∈ rows := by
  unfold onlyRow at single
  split at single
  · cases single
    exact List.mem_singleton_self _
  · cases single

theorem activePlan?_of_soldPlan {plan : RatePlan} (sold : tables.soldPlan stay = some plan) :
    activePlan? tables.rates plan.id = some plan := by
  have stored : plan ∈ tables.rates.plans ∧ plan.isActive = true := by
    unfold soldPlan at sold
    cases isNamed : tables.planNamed stay with
    | some named =>
      rw [isNamed] at sold
      obtain rfl : named = plan := Option.some.inj sold
      obtain ⟨ratePlanId, -, found⟩ := Option.bind_eq_some_iff.mp isNamed
      have kept := List.find?_some found
      rw [decide_eq_true_eq] at kept
      exact ⟨List.mem_of_find?_eq_some found, kept.2⟩
    | none =>
      rw [isNamed] at sold
      obtain ⟨product, -, single⟩ := Option.bind_eq_some_iff.mp sold
      have listed := mem_of_onlyRow single
      unfold productPlans at listed
      rw [mem_sortByKey, List.mem_filter, Bool.and_eq_true] at listed
      exact ⟨listed.1, listed.2.2⟩
  obtain ⟨member, active⟩ := stored
  apply find?_of_distinct tables.rates.distinctPlans member
  · exact decide_eq_true ⟨rfl, active⟩
  · intro other _ kept
    rw [decide_eq_true_eq] at kept
    exact kept.1

end PricingTables

/-- Two states have the same rows for what a stay is sold as. -/
structure SameSale (first second : PricingTables F) (stay : StayRequest) :
    Prop where
  product : first.soldProduct stay = second.soldProduct stay
  compatible : ∀ product ∈ first.soldProduct stay,
    first.compatible product stay.categoryId = second.compatible product stay.categoryId
  inferredPlan : stay.ratePlanId = none ->
    first.soldPlan stay = second.soldPlan stay
  productOfPlan : ∀ plan ∈ first.soldPlan stay,
    first.productOfPlan plan = second.productOfPlan plan

variable {first second : PricingTables F} {stay : StayRequest}

namespace SameSale

variable (same : SameSale first second stay)
include same

/-- A plan that is the same in two states is the one both sell under. -/
theorem soldPlan_eq (samePlan : first.planNamed stay = second.planNamed stay)
    (isFound : stay.ratePlanId ≠ none -> first.planNamed stay ≠ none) :
    first.soldPlan stay = second.soldPlan stay := by
  by_cases unnamed : stay.ratePlanId = none
  · exact same.inferredPlan unnamed
  · obtain ⟨plan, isPlan⟩ := Option.ne_none_iff_exists'.mp (isFound unnamed)
    unfold PricingTables.soldPlan
    rw [← samePlan, isPlan]
    rfl

theorem namedProduct_eq :
    first.namedProduct (first.planNamed stay) stay.sellableProductId =
      second.namedProduct (first.planNamed stay) stay.sellableProductId := by
  have sameProduct := same.product
  unfold PricingTables.soldProduct at sameProduct
  unfold PricingTables.namedProduct
  cases named : stay.sellableProductId with
  | some sellableProductId =>
    rw [named] at sameProduct
    simp only at sameProduct ⊢
    rw [sameProduct]
  | none =>
    cases isPlan : first.planNamed stay with
    | none => rfl
    | some plan =>
      have sold : first.soldPlan stay = some plan := by
        unfold PricingTables.soldPlan
        rw [isPlan]
        rfl
      simp only [Option.bind_some]
      rw [same.productOfPlan plan sold]

theorem refused_eq : ((first.soldProduct stay).any (!second.compatible · stay.categoryId)) =
      (first.soldProduct stay).any fun product =>
        !first.compatible product stay.categoryId := by
  cases sold : first.soldProduct stay with
  | none => rfl
  | some product =>
    show (!second.compatible product stay.categoryId) = !first.compatible product stay.categoryId
    rw [same.compatible product sold]

theorem context_eq (samePlan :
      first.namedPlan stay.ratePlanId = second.namedPlan stay.ratePlanId)
    (sameTaxes : SameTaxes first.taxes second.taxes stay.taxPolicyId) :
    first.resolveReservationCommercialContext stay.categoryId
        stay.sellableProductId stay.ratePlanId stay.taxPolicyId =
      second.resolveReservationCommercialContext stay.categoryId
        stay.sellableProductId stay.ratePlanId stay.taxPolicyId := by
  refine bind_congr_ok samePlan fun plan isPlan => ?_
  obtain ⟨rfl, isFound⟩ := PricingTables.namedPlan_eq_ok isPlan
  obtain ⟨sameNamed, -⟩ := PricingTables.namedPlan_eq_ok (samePlan ▸ isPlan)
  refine bind_congr_ok same.namedProduct_eq fun product isProduct => ?_
  have sold := PricingTables.namedProduct_eq_ok isProduct
  have soldOther : second.inferredProduct product stay.categoryId = second.soldProduct stay :=
    PricingTables.namedProduct_eq_ok (sameNamed ▸ same.namedProduct_eq ▸ isProduct)
  have samePlans : second.inferredPlan (first.planNamed stay) (first.soldProduct stay) =
      first.inferredPlan (first.planNamed stay) (first.soldProduct stay) := by
    have soldPlans := same.soldPlan_eq sameNamed isFound
    unfold PricingTables.soldPlan at soldPlans
    rw [soldPlans, ← sameNamed, ← same.product]
  simp only [sold, soldOther, ← same.product, samePlans, same.refused_eq,
    sameTaxes.selectTaxPolicy_eq]

end SameSale

end HotelPms.Quotes
