import HotelPms.Quotes.ReservationPricing

/-!
# Revision of a quote

A revision is a digest of rows that the price of a stay may be computed from,
so that a quote can be refused when they have changed.
-/

namespace HotelPms.Quotes

open Checked FloatFormat KeySort Rates

/-- What a quote was asked with. -/
structure RevisionInputs where
  hotelId : Int
  categoryId : Int
  checkIn : Int
  checkOut : Int
  sellableProductId : Option Int
  ratePlanId : Option Int
  taxPolicyId : Option Int
  pricingChannelCode : Option String
  pricingPaymentMethod : Option String
  guestScope : String
  targetCurrency : Option String
  occupancy : Option Int
  companyId : Option Int
  deriving DecidableEq

/-- Settings of the hotel that enter a revision. -/
structure RevisionPolicy (F : Type) where
  updatedAt : Option Int
  depositPercentage : Option F
  defaultCurrency : Option String
  deriving DecidableEq

structure RevisionCategory where
  id : Int
  basePricePerNight : Option Int
  maxOccupancy : Int
  name : String
  code : String
  deriving DecidableEq

structure RevisionDailyRate extends MethodPrices where
  id : Int
  date : Int
  price : Int
  updatedAt : Int
  deriving DecidableEq

structure RevisionCompany where
  id : Int
  basePrice : Option Int
  paymentDeferred : Bool
  deferredDays : Option Int
  requiresVoucher : Bool
  requiresSignature : Bool
  updatedAt : Int
  deriving DecidableEq

structure RevisionPeriod where
  id : Int
  name : String
  startDate : Int
  endDate : Int
  pricePerNight : Int
  priority : Int
  isActive : Bool
  /-- The time of creation is taken for the one of the last change. -/
  updatedAt : Int
  deriving DecidableEq

/-- Row of a rate plan, and its prices with whether they include taxes. -/
structure RevisionPlan (F : Type) where
  ratePlan : Option RatePlan
  prices : List (RatePlanPrice F × Bool)
  deriving DecidableEq

/-- Row of a tax policy, and its rules. -/
structure RevisionTaxes (F : Type) where
  taxPolicy : Option (TaxPolicy F)
  taxRules : List (TaxRule F)
  deriving DecidableEq

structure RevisionSource (F : Type) where
  inputs : RevisionInputs
  hotelPolicy : RevisionPolicy F
  category : RevisionCategory
  dailyRates : List RevisionDailyRate
  company : Option RevisionCompany
  pricePeriods : List RevisionPeriod
  ratePlan : Option (RevisionPlan F)
  taxes : Option (RevisionTaxes F)
  deriving DecidableEq

variable {F : Type}

variable (tables : PricingTables F) (stay : StayRequest)

def revisionInputs : RevisionInputs where
  hotelId := tables.hotelId
  categoryId := stay.categoryId
  checkIn := stay.checkIn
  checkOut := stay.checkOut
  sellableProductId := stay.sellableProductId
  ratePlanId := stay.ratePlanId
  taxPolicyId := stay.taxPolicyId
  pricingChannelCode := stay.pricingChannelCode
  pricingPaymentMethod := stay.pricingPaymentMethod
  guestScope := stay.guestScope
  targetCurrency := stay.targetCurrency
  occupancy := stay.occupancy
  companyId := stay.companyId

def revisionPolicy : RevisionPolicy F where
  updatedAt := tables.config.bind HotelConfiguration.updatedAt
  depositPercentage := tables.config.map (·.depositPercentage)
  defaultCurrency := tables.config.bind HotelConfiguration.defaultCurrency

def revisionCategory (category : PricedCategory) : RevisionCategory where
  id := category.id
  basePricePerNight := category.basePricePerNight
  maxOccupancy := category.maxOccupancy
  name := category.name
  code := category.code

def revisionDailyRate (row : DailyRate) : RevisionDailyRate :=
  { row.toMethodPrices with
    id := row.id
    date := row.date
    price := row.price
    updatedAt := tables.dailyUpdatedAt row.id }

/-- Daily rates of the nights of a stay, by day and number. -/
def revisionDailyRates : List RevisionDailyRate :=
  (sortByKey DailyRate.date (sortByKey DailyRate.id
    (tables.dailyRatesWithin tables.hotelId stay.categoryId stay.checkIn
      (stay.checkOut - 1)))).map (revisionDailyRate tables)

/-- The active company of a stay. -/
def revisionCompany : Option RevisionCompany :=
  stay.companyId.bind fun companyId =>
    (tables.companies.find? fun row =>
        decide (row.id = companyId) && row.isActive).map fun row =>
      { id := row.id, basePrice := row.basePrice, paymentDeferred := row.paymentDeferred
        deferredDays := row.deferredDays, requiresVoucher := row.requiresVoucher
        requiresSignature := row.requiresSignature, updatedAt := row.updatedAt }

def revisionPeriod (row : PricePeriod) : RevisionPeriod where
  id := row.id
  name := row.name
  startDate := row.startDate
  endDate := row.endDate
  pricePerNight := row.pricePerNight
  priority := row.priority
  isActive := row.isActive
  updatedAt := tables.periodCreatedAt row.id

/-- Active periods that meet a stay, in the order they are looked up. -/
def revisionPeriods : List RevisionPeriod :=
  (rankPeriods (tables.activePeriods tables.hotelId stay.categoryId
    stay.checkIn (stay.checkOut - 1))).map (revisionPeriod tables)

def meetingPrices (ratePlanId : Int) : List (RatePlanPrice F) :=
  tables.rates.prices.filter fun price => price.isActive && decide (price.ratePlanId = ratePlanId ∧
      (∀ start ∈ price.validFrom, start < stay.checkOut) ∧
      ∀ finish ∈ price.validTo, stay.checkIn ≤ finish)

/-- The plan that a stay names, with the active prices that meet the stay. -/
def revisionPlan : Option (RevisionPlan F) :=
  stay.ratePlanId.map fun ratePlanId =>
    { ratePlan := tables.rates.plans.find? fun plan => plan.id = ratePlanId
      prices := (sortByKey RatePlanPrice.id (meetingPrices tables stay ratePlanId)).map fun price =>
          (price, tables.taxInclusive price.id) }

/-- The tax policy that a stay names, with its rules. -/
def revisionTaxes : Option (RevisionTaxes F) :=
  stay.taxPolicyId.map fun taxPolicyId =>
    { taxPolicy := tables.taxes.policies.find? fun policy => policy.id = taxPolicyId
      taxRules := sortByKey TaxRule.id (tables.taxes.policyRules taxPolicyId) }

def revisionStayCategory : Except String PricedCategory :=
  match stay.category with
  | some category => do
    raiseIf (category.id ≠ stay.categoryId ∨ category.hotelId ≠ tables.hotelId)
      "Category does not match the requested hotel and category"
    pure category
  | none =>
    match tables.pricedCategory? stay.categoryId with
    | some category => .ok category
    | none => .error "Category not found for hotel"

/-- Rows that a revision is the digest of. -/
def revisionSource (category : PricedCategory) : RevisionSource F where
  inputs := revisionInputs tables stay
  hotelPolicy := revisionPolicy tables
  category := revisionCategory category
  dailyRates := revisionDailyRates tables stay
  company := revisionCompany tables stay
  pricePeriods := revisionPeriods tables stay
  ratePlan := revisionPlan tables stay
  taxes := revisionTaxes tables stay

/-- Revision of a quote for a stay. -/
def buildPricingRevision {Revision : Type}
    (digest : RevisionSource F -> Revision) (tables : PricingTables F)
    (stay : StayRequest) : Except String Revision := do
  let category ← revisionStayCategory tables stay
  pure (digest (revisionSource tables stay category))

end HotelPms.Quotes
