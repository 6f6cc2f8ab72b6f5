import HotelPms.Quotes.Tables

/-!
# Product, plan and tax policy of a stay

A stay is sold as the product and the rate plan that it names.  Without them
the only active product of its category is taken, and the only active plan of
that product; if there are several, none.
-/

namespace HotelPms.Quotes

open Checked KeySort Rates

variable {F : Type}

namespace PricingTables

variable (tables : PricingTables F)

/-- Active plan of a number. -/
def namedPlan : Option Int -> Except String (Option RatePlan)
  | none => .ok none
  | some ratePlanId =>
    match activePlan? tables.rates ratePlanId with
    | some plan => .ok (some plan)
    | none => .error "El plan tarifario no pertenece al hotel activo"

def productOfPlan (plan : RatePlan) : Option RateProduct :=
  tables.rates.products.find? (·.id = plan.sellableProductId)

def activeProduct? (sellableProductId : Int) : Option RateProduct :=
  tables.rates.products.find? fun product =>
    decide (product.id = sellableProductId) && product.isActive

/-- Active product of a number, or else the product of the plan. -/
def namedProduct (plan : Option RatePlan) : Option Int -> Except String (Option RateProduct)
  | none => .ok (plan.bind tables.productOfPlan)
  | some sellableProductId =>
    match tables.activeProduct? sellableProductId with
    | none =>
      .error "El producto comercializable no pertenece al hotel activo"
    | some product => do
      raiseIf (∃ named ∈ plan, named.sellableProductId ≠ product.id)
        ("El plan tarifario no pertenece al producto comercializable " ++ "seleccionado")
      pure (some product)

/-- Active products whose first category is the one of the stay. -/
def categorySales (categoryId : Int) : List RateProduct :=
  sortByKey RateProduct.sortOrder (sortByKey (·.id) (tables.rates.products.filter fun product =>
        decide (product.primaryRoomCategoryId = some categoryId) && product.isActive))

/-- The row of a list that has no other. -/
def onlyRow {α : Type} : List α -> Option α
  | [row] => some row
  | _ => none

/-- Product of a stay: the named one, or the only one of the category. -/
def inferredProduct (named : Option RateProduct) (categoryId : Int) : Option RateProduct :=
  named <|> onlyRow (tables.categorySales categoryId)

def productPlans (sellableProductId : Int) : List RatePlan :=
  sortByKey RatePlan.id (tables.rates.plans.filter fun plan =>
    decide (plan.sellableProductId = sellableProductId) && plan.isActive)

/-- Plan of a stay: the named one, or the only one of the product. -/
def inferredPlan (named : Option RatePlan) (product : Option RateProduct) : Option RatePlan :=
  named <|> product.bind fun product => onlyRow (tables.productPlans product.id)

/-- A product can be sold from a category. -/
def compatible (product : RateProduct) (categoryId : Int) : Bool :=
  decide (product.primaryRoomCategoryId = none ∨ product.primaryRoomCategoryId = some categoryId) ||
    tables.rates.compatibilities.any fun row =>
      row.sellableProductId = product.id ∧ row.roomCategoryId = categoryId

/-- What a stay is sold as. -/
structure CommercialContext (F : Type) where
  product : Option RateProduct
  plan : Option RatePlan
  taxPolicy : TaxPolicy F

/-- Product, plan and tax policy of a stay. -/
def resolveReservationCommercialContext (categoryId : Int)
    (sellableProductId ratePlanId taxPolicyId : Option Int) :
    Except String (CommercialContext F) := do
  let namedPlan ← tables.namedPlan ratePlanId
  let namedProduct ← tables.namedProduct namedPlan sellableProductId
  let product := tables.inferredProduct namedProduct categoryId
  let plan := tables.inferredPlan namedPlan product
  raiseIf ((product.any (!tables.compatible · categoryId)) = true)
    ("El producto comercializable no es compatible con la categoría " ++ "solicitada")
  let taxPolicy ← tables.taxes.selectTaxPolicy taxPolicyId
  pure { product, plan, taxPolicy }

end PricingTables

end HotelPms.Quotes
