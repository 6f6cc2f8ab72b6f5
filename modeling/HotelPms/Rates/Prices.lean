import HotelPms.Foundation.Checked
import HotelPms.Foundation.KeySort
import HotelPms.Hotel.State
import Mathlib.Data.List.MinMax
import Mathlib.Data.Prod.Lex

/-!
# The price shown and the price quoted

The rate calendar and the quote of a stay each select one of the prices of a
rate plan.  The calendar ranks the prices of a day by channel, start and
number; the quote ranks them by channel, occupancy and whether they are dated
at all, and among equals keeps the one the database returns first.  Amounts
are of any type, with the rounding to cents as a function on it.
-/

namespace HotelPms.Rates

open Hotel Checked KeySort

structure RatePlanPrice (α : Type) where
  id : Int
  ratePlanId : Int
  salesChannelCode : Option String := none
  occupancy : Option Int := none
  currencyCode : String := "ARS"
  baseAmount : α
  validFrom : Option Int := none
  validTo : Option Int := none
  isActive : Bool := true
  deriving DecidableEq

/-- A product that is sold, with the category it is sold from. -/
structure RateProduct extends SellableProduct where
  minOccupancy : Int := 1
  maxOccupancy : Int := 1
  isActive : Bool := true
  sortOrder : Int := 0
  deriving DecidableEq

structure RatePlan where
  id : Int
  sellableProductId : Int
  code : String := ""
  name : String := ""
  currencyCode : String := "ARS"
  isActive : Bool := true
  minNightsDefault : Int := 1
  maxNightsDefault : Option Int := none
  deriving DecidableEq

/-- The rate tables of one hotel, in the order the database returns rows. -/
structure RateTables (α : Type) where
  products : List RateProduct := []
  compatibilities : List ProductRoomCompatibility := []
  plans : List RatePlan := []
  distinctPlans : (plans.map RatePlan.id).Nodup
  prices : List (RatePlanPrice α) := []
  distinctPrices : (prices.map RatePlanPrice.id).Nodup
  defaultCurrency : Option String := none

variable {α : Type}

/-- Python's `text or fallback`. -/
def orElse (text fallback : String) : String :=
  if text = "" then fallback else text

namespace RatePlanPrice

variable (price : RatePlanPrice α)

/-- The price is valid from a day on, and until a day. -/
def ValidOver (first last : Int) : Prop :=
  (∀ start ∈ price.validFrom, start ≤ first) ∧ ∀ finish ∈ price.validTo, last ≤ finish
deriving Decidable

/-- First day of the calendar. -/
def dateMin : Int := 1

end RatePlanPrice

section Calendar

def calendarChannelScore (preferredChannel : String) (price : RatePlanPrice α) : Nat :=
  if price.salesChannelCode = some preferredChannel then 2
  else if price.salesChannelCode = none ∨ price.salesChannelCode = some "" then 1
  else 0

def CalendarRank : Type := Lex (Nat × Lex (Nat × Lex (Int × Int)))

instance : LinearOrder CalendarRank :=
  @Prod.Lex.instLinearOrder _ _ Nat.instLinearOrder
    (@Prod.Lex.instLinearOrder _ _ Nat.instLinearOrder
      (@Prod.Lex.instLinearOrder _ _ Int.instLinearOrder Int.instLinearOrder))

/-- Rank of a price in the calendar: channel, occupancy, start, number. -/
def calendarScore (preferredChannel : String) (price : RatePlanPrice α) : CalendarRank :=
  toLex (calendarChannelScore preferredChannel price,
    toLex (if price.occupancy = none then 0 else 1,
      toLex (price.validFrom.getD RatePlanPrice.dateMin, price.id)))

def selectCalendarPrice (prices : List (RatePlanPrice α)) (day : Int)
    (preferredChannel : String) : Option (RatePlanPrice α) :=
  ((prices.filter (·.ValidOver day day)).argmax
    (calendarScore preferredChannel)).filter fun selected =>
      calendarChannelScore preferredChannel selected ≠ 0

/-- Entry of the direct channel for one plan. -/
structure DirectPrice (α : Type) where
  ratePlanId : Int
  ratePlanCode : String
  ratePlanName : String
  baseAmount : α
  salesChannelCode : Option String
  currencyCode : String

/-- Entry of a plan on a day, if it has a price. -/
def directPrice (prices : List (RatePlanPrice α)) (day : Int)
    (hotelCurrency : String) (plan : RatePlan) : Option (DirectPrice α) :=
  (selectCalendarPrice (prices.filter fun price =>
      price.ratePlanId = plan.id) day "direct").map fun selected =>
    { ratePlanId := plan.id, ratePlanCode := plan.code, ratePlanName := plan.name
      baseAmount := selected.baseAmount, salesChannelCode := selected.salesChannelCode
      currencyCode := orElse selected.currencyCode hotelCurrency }

def buildDirectPrices (plans : List RatePlan)
    (prices : List (RatePlanPrice α)) (day : Int) (hotelCurrency : String) :
    List (DirectPrice α) :=
  plans.filterMap (directPrice prices day hotelCurrency)

variable (tables : RateTables α)

def hotelCurrency : String := orElse (tables.defaultCurrency.getD "") "ARS"

variable (categoryId : Int) (dateFrom : Int)

def categoryProducts : List Int :=
  (tables.products.filter fun product => product.isActive &&
      decide (product.primaryRoomCategoryId = some categoryId ∨ ∃ row ∈ tables.compatibilities,
          row.sellableProductId = product.id ∧ row.roomCategoryId = categoryId)).map (·.id)

/-- Active plans of these products, by number. -/
def categoryPlans : List RatePlan :=
  sortByKey RatePlan.id (tables.plans.filter fun plan => plan.isActive &&
      decide (plan.sellableProductId ∈ categoryProducts tables categoryId))

/-- Active prices of the plans that meet the days of the calendar. -/
def calendarPrices (dateTo : Int) : List (RatePlanPrice α) :=
  tables.prices.filter fun price => price.isActive &&
      decide (price.ratePlanId ∈ (categoryPlans tables categoryId).map RatePlan.id ∧
        (∀ start ∈ price.validFrom, start ≤ dateTo) ∧
        ∀ finish ∈ price.validTo, dateFrom ≤ finish)

def calendarDirectPrices (dateTo day : Int) : List (DirectPrice α) :=
  buildDirectPrices (categoryPlans tables categoryId)
    (calendarPrices tables categoryId dateFrom dateTo) day
    (hotelCurrency tables)

/-- What the calendar shows for a plan on a day. -/
def shownPrice (dateTo day : Int) (plan : RatePlan) : Option (α × String) :=
  ((calendarDirectPrices tables categoryId dateFrom dateTo day).find?
    (·.ratePlanId = plan.id)).map fun entry => (entry.baseAmount, entry.currencyCode)

end Calendar

inductive PricingPolicyError
  | dates
  | planNotFound
  | fewerNights (minNights : Int)
  | moreNights (maxNights : Int)
  | occupancy (minOccupancy maxOccupancy : Int)
  | noActivePrices
  | noChannelPrice
  | noOccupancyPrice
  deriving DecidableEq

/-- No price applies to the stay. -/
def PricingPolicyError.LacksPrice : PricingPolicyError -> Prop
  | .noActivePrices | .noChannelPrice | .noOccupancyPrice => True
  | _ => False

section Quote

def quoteChannelScore (channelCode : Option String) (price : RatePlanPrice α) : Nat :=
  if price.salesChannelCode = channelCode then 2
  else if price.salesChannelCode = none then 1
  else 0

def quoteOccupancyScore (occupancy : Option Int) (price : RatePlanPrice α) : Nat :=
  if occupancy ≠ none ∧ price.occupancy = occupancy then 2
  else if price.occupancy = none then 1
  else 0

def QuoteRank : Type := Lex (Nat × Lex (Nat × Nat))

instance : LinearOrder QuoteRank :=
  @Prod.Lex.instLinearOrder _ _ Nat.instLinearOrder
    (@Prod.Lex.instLinearOrder _ _ Nat.instLinearOrder Nat.instLinearOrder)

/-- Rank of a price in a quote: channel, occupancy, dated or not. -/
def quoteScore (occupancy : Option Int) (channelCode : Option String)
    (price : RatePlanPrice α) : QuoteRank :=
  toLex (quoteChannelScore channelCode price, toLex (quoteOccupancyScore occupancy price,
      if price.validFrom ≠ none ∨ price.validTo ≠ none then 1 else 0))

variable (tables : RateTables α)

variable (ratePlanId : Int)

def stayPrices (checkIn checkOut : Int) : List (RatePlanPrice α) :=
  tables.prices.filter fun price => price.isActive &&
      decide (price.ratePlanId = ratePlanId ∧ price.ValidOver checkIn (checkOut - 1))

def selectRatePlanPrice (occupancy : Option Int)
    (channelCode : Option String) (checkIn checkOut : Int) :
    Except PricingPolicyError (RatePlanPrice α) :=
  match (stayPrices tables ratePlanId checkIn checkOut).argmax
      (quoteScore occupancy channelCode) with
  | none => .error .noActivePrices
  | some selected => do
    raiseIf (quoteChannelScore channelCode selected = 0) PricingPolicyError.noChannelPrice
    raiseIf (occupancy ≠ none ∧ quoteOccupancyScore occupancy selected = 0)
      PricingPolicyError.noOccupancyPrice
    pure selected

def activePlan? : Option RatePlan :=
  tables.plans.find? fun plan => plan.id = ratePlanId ∧ plan.isActive = true

/-- The guests fit the product of the plan. -/
def checkProductOccupancy (plan : RatePlan) (occupancy : Option Int) :
    Except PricingPolicyError Unit :=
  match occupancy, tables.products.find? fun product =>
      product.id = plan.sellableProductId with
  | some guests, some product =>
    raiseIf (¬(product.minOccupancy ≤ guests ∧ guests ≤ product.maxOccupancy))
      (.occupancy product.minOccupancy product.maxOccupancy)
  | _, _ => .ok ()

/-- Checks of a quote before it looks at prices. -/
def checkStay (checkIn checkOut : Int)
    (occupancy : Option Int) : Except PricingPolicyError RatePlan := do
  raiseIf (checkOut ≤ checkIn) PricingPolicyError.dates
  match activePlan? tables ratePlanId with
  | none => throw .planNotFound
  | some plan => do
    raiseIf (checkOut - checkIn < plan.minNightsDefault)
      (PricingPolicyError.fewerNights plan.minNightsDefault)
    raiseIf (∃ most ∈ plan.maxNightsDefault, most < checkOut - checkIn)
      (PricingPolicyError.moreNights (plan.maxNightsDefault.getD 0))
    checkProductOccupancy tables plan occupancy
    pure plan

/-- Nightly amount and currency of the quote of a stay; taxes, commission and
conversion are computed from them. -/
def quoteRatePlanStay (roundCents : α → α)
    (ratePlanId checkIn checkOut : Int) (occupancy : Option Int)
    (channelCode : Option String) : Except PricingPolicyError (α × String) := do
  let plan ← checkStay tables ratePlanId checkIn checkOut occupancy
  let price ← selectRatePlanPrice tables ratePlanId occupancy channelCode checkIn checkOut
  pure (roundCents price.baseAmount, orElse price.currencyCode plan.currencyCode)

end Quote

end HotelPms.Rates
