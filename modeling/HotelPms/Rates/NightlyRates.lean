import HotelPms.Foundation.Checked
import HotelPms.Foundation.DayCounts
import HotelPms.Foundation.KeySort
import Mathlib.Algebra.Order.Ring.Int

/-!
# Nightly rates of a category

The price of a night is that of its daily rate; without one, that of the best
active period over the day, by priority and number; without one, the base
price of the category.  A row may carry other prices for some payment
methods.  Five readers resolve the price on their own: one night, a calendar,
a stay, the categories of a hotel on one day, and the preview of a season.

Amounts are in cents: the price columns have two decimals, which conversion to
a float and rounding to two decimals leave as they are.  Days are ordinals.
-/

namespace HotelPms.Rates

open Checked DayCounts KeySort

/-- Price columns for payment methods that both kinds of rows have. -/
structure MethodPrices where
  priceCash : Option Int := none
  priceTransfer : Option Int := none
  priceMercadopago : Option Int := none
  pricePaypal : Option Int := none
  priceCreditCard : Option Int := none
  deriving DecidableEq

/-- Explicit price of a night. -/
structure DailyRate extends MethodPrices where
  id : Int
  hotelId : Int
  categoryId : Int
  date : Int
  price : Int
  deriving DecidableEq

structure PeriodPrices extends MethodPrices where
  priceDebitCard : Option Int := none
  priceBooking : Option Int := none
  priceExpedia : Option Int := none
  deriving DecidableEq

/-- What a season says: its days, both included, and its prices. -/
structure PeriodValues extends PeriodPrices where
  name : String := ""
  startDate : Int
  endDate : Int
  pricePerNight : Int
  priority : Int := 0
  isActive : Bool := true
  comparableSeasonKey : Option String := none
  isHighDemandEvent : Bool := false
  deriving DecidableEq

/-- A season under its number, as a snapshot keeps it. -/
structure NumberedPeriod extends PeriodValues where
  id : Int
  deriving DecidableEq

/-- Row of a season. -/
structure PricePeriod extends NumberedPeriod where
  hotelId : Int
  categoryId : Int
  deletedAt : Option Int := none
  deletedByUserId : Option Int := none

/-- Row of a category, with the price it falls back to. -/
structure RateCategory where
  id : Int
  hotelId : Int
  basePricePerNight : Option Int

def DailyRate.key (row : DailyRate) : Int × Int × Int :=
  (row.hotelId, row.categoryId, row.date)

/-- The rate tables, in the order the database returns rows. -/
structure NightlyRates where
  dailyRates : List DailyRate := []
  pricePeriods : List PricePeriod := []
  categories : List RateCategory := []
  /-- `uq_daily_rate`. -/
  distinctDays : (dailyRates.map DailyRate.key).Nodup
  distinctPeriods : (pricePeriods.map (·.id)).Nodup
  distinctCategories : (categories.map RateCategory.id).Nodup

def methodColumn : String -> Option (MethodPrices -> Option Int)
  | "cash" => some MethodPrices.priceCash
  | "transfer" => some MethodPrices.priceTransfer
  | "mercadopago" => some MethodPrices.priceMercadopago
  | "paypal" => some MethodPrices.pricePaypal
  | "credit_card" => some MethodPrices.priceCreditCard
  | _ => none

def priceWithPaymentMethodOverride (row : MethodPrices) (basePrice : Int)
    (paymentMethod : Option String) : Int :=
  match paymentMethod with
  | none => basePrice
  | some method =>
    match methodColumn method with
    | none => basePrice
    | some column => (column row).getD basePrice

def periodPrice (period : PricePeriod) (paymentMethod : Option String) : Int :=
  priceWithPaymentMethodOverride period.toMethodPrices period.pricePerNight paymentMethod

/-- A day is within a period. -/
def PeriodValues.Covers (period : PeriodValues) (day : Int) : Prop :=
  period.startDate ≤ day ∧ day ≤ period.endDate
deriving Decidable

/-- Rows by the priority and number of their periods, the greater ones
first. -/
def rankBy {α : Type} (period : α → NumberedPeriod) (rows : List α) : List α :=
  sortByKey (fun row => -(period row).priority) (sortByKey (fun row => -(period row).id) rows)

def rankPeriods (periods : List PricePeriod) : List PricePeriod :=
  rankBy PricePeriod.toNumberedPeriod periods

namespace NightlyRates

variable (rates : NightlyRates) (hotelId categoryId : Int)

def category? : Option RateCategory :=
  rates.categories.find? fun row => row.id = categoryId ∧ row.hotelId = hotelId

/-- Active periods of a category that meet some days, both included. -/
def activePeriods (first last : Int) : List PricePeriod :=
  rates.pricePeriods.filter fun row => row.hotelId = hotelId ∧ row.categoryId = categoryId ∧
      row.deletedAt = none ∧ row.isActive = true ∧ row.startDate ≤ last ∧
      first ≤ row.endDate

/-- Daily rates of a category on some days, both included. -/
def dailyRatesWithin (first last : Int) : List DailyRate :=
  rates.dailyRates.filter fun row => row.hotelId = hotelId ∧ row.categoryId = categoryId ∧
      first ≤ row.date ∧ row.date ≤ last

/-- Periods of a category that meet some days, both included, active or not,
by number. -/
def periodsWithin (first last : Int) : List PricePeriod :=
  sortByKey (·.id) (rates.pricePeriods.filter fun row =>
    row.hotelId = hotelId ∧ row.categoryId = categoryId ∧
      row.deletedAt = none ∧ row.startDate ≤ last ∧ first ≤ row.endDate)

/-- Price of a single night. -/
def getPriceForDate (targetDate : Int) (paymentMethod : Option String) : Int :=
  match rates.dailyRates.find? fun row =>
      decide (row.hotelId = hotelId ∧ row.categoryId = categoryId ∧ row.date = targetDate) with
  | some daily =>
    priceWithPaymentMethodOverride daily.toMethodPrices daily.price paymentMethod
  | none =>
    match (rankPeriods (rates.activePeriods hotelId categoryId targetDate targetDate)).head? with
    | some period => periodPrice period paymentMethod
    | none =>
      ((rates.category? hotelId categoryId).bind RateCategory.basePricePerNight).getD 0

/-- Resolved rate of a day.  Rows of daily rates have no columns for the
methods that only periods have. -/
structure ResolvedRate where
  date : Int
  price : Int
  columns : MethodPrices
  periodColumns : Option PeriodPrices
  source : String
  dailyRateId : Option Int

/-- Daily rate of a day: a later row of the same day would take its place. -/
def dailyRateOn (rows : List DailyRate) (day : Int) : Option DailyRate :=
  rows.reverse.find? (·.date = day)

/-- Resolved rate of a day from the rows read for the whole calendar. -/
def resolveDay (dailyRows : List DailyRate) (periods : List PricePeriod)
    (basePrice : Option Int) (paymentMethod : Option String)
    (current : Int) : ResolvedRate :=
  match dailyRateOn dailyRows current with
  | some row =>
    { date := current
      price := priceWithPaymentMethodOverride row.toMethodPrices row.price paymentMethod
      columns := row.toMethodPrices, periodColumns := none, source := "daily_rate"
      dailyRateId := some row.id }
  | none =>
    match periods.find? fun period => decide (period.Covers current) with
    | some period =>
      { date := current, price := periodPrice period paymentMethod, columns := period.toMethodPrices
        periodColumns := some period.toPeriodPrices, source := "price_period", dailyRateId := none }
    | none =>
      { date := current
        price := basePrice.getD 0
        columns := {}
        periodColumns := some {}
        source := if basePrice = none then "none" else "category_base"
        dailyRateId := none }

/-- Rate of each day from a first to a last one, with a category that the
caller may have read. -/
def resolveRateCalendar (fromDate toDate : Int)
    (paymentMethod : Option String) (category : Option RateCategory) :
    Except String (List ResolvedRate) := do
  let dailyRows := rates.dailyRatesWithin hotelId categoryId fromDate toDate
  let periods := rankPeriods (rates.activePeriods hotelId categoryId fromDate toDate)
  raiseIf (∃ given ∈ category, given.id ≠ categoryId ∨ given.hotelId ≠ hotelId)
    "Category does not match the requested hotel and category"
  let read := category <|> rates.category? hotelId categoryId
  let basePrice := read.bind RateCategory.basePricePerNight
  pure ((loopDays fromDate (toDate + 1)).map (resolveDay dailyRows periods basePrice paymentMethod))

/-- Prices of the nights of a stay. -/
structure RangePrices where
  total : Int
  nights : Nat
  breakdown : List (Int × Int)

def getPricesForRange (checkIn checkOut : Int)
    (paymentMethod : Option String) : Except String RangePrices := do
  raiseIf (checkOut ≤ checkIn) "check_out must be after check_in"
  let breakdown := (loopDays checkIn checkOut).map fun current =>
    (current, rates.getPriceForDate hotelId categoryId current paymentMethod)
  pure {
    total := (breakdown.map Prod.snd).sum
    nights := breakdown.length
    breakdown := breakdown }

def firstByCategory (periods : List PricePeriod) : List (Int × PricePeriod) :=
  periods.foldl (fun first period =>
    if period.categoryId ∈ first.map Prod.fst then first
    else first ++ [(period.categoryId, period)]) []

/-- Effective base rate of some categories on one day, with its source. -/
def resolveCurrentRatesForCategories (categories : List RateCategory)
    (targetDate : Int) : List (Int × Int × String) :=
  let hotelCategories := categories.filter (·.hotelId = hotelId)
  let categoryIds := hotelCategories.map RateCategory.id
  let dailyRows := rates.dailyRates.filter fun row =>
    row.hotelId = hotelId ∧ row.categoryId ∈ categoryIds ∧ row.date = targetDate
  let periods := sortByKey (·.categoryId) (rankPeriods
    (rates.pricePeriods.filter fun row => row.hotelId = hotelId ∧ row.categoryId ∈ categoryIds ∧
        row.deletedAt = none ∧ row.isActive = true ∧
        row.startDate ≤ targetDate ∧ targetDate ≤ row.endDate))
  hotelCategories.map fun category => (category.id,
      match dailyRows.reverse.find? fun row =>
          decide (row.categoryId = category.id) with
      | some daily => (daily.price, "daily_rate")
      | none =>
        match (firstByCategory periods).lookup category.id with
        | some period => (period.pricePerNight, "price_period")
        | none =>
          match category.basePricePerNight with
          | some base => (base, "category_base")
          | none => (0, "none"))

end NightlyRates

/-- Prices of a night under every method a period may price. -/
structure EffectivePrices where
  price : Int
  cash : Int
  transfer : Int
  mercadopago : Int
  paypal : Int
  creditCard : Int
  debitCard : Int
  booking : Int
  expedia : Int
  deriving DecidableEq

def effectivePrices (basePrice : Int) (columns : PeriodPrices) : EffectivePrices where
  price := basePrice
  cash := columns.priceCash.getD basePrice
  transfer := columns.priceTransfer.getD basePrice
  mercadopago := columns.priceMercadopago.getD basePrice
  paypal := columns.pricePaypal.getD basePrice
  creditCard := columns.priceCreditCard.getD basePrice
  debitCard := columns.priceDebitCard.getD basePrice
  booking := columns.priceBooking.getD basePrice
  expedia := columns.priceExpedia.getD basePrice

/-- Prices and source of a day over some periods, active or not. -/
def effectivePeriodPrices (targetDate : Int) (dailyRate : Option DailyRate)
    (periods : List NumberedPeriod) (categoryBase : Option Int) :
    EffectivePrices × String :=
  match dailyRate with
  | some daily =>
    (effectivePrices daily.price { daily.toMethodPrices with }, "daily_rate")
  | none =>
    match (rankBy id (periods.filter fun period =>
        period.isActive = true ∧ period.Covers targetDate)).head?
      with
    | some winner =>
      (effectivePrices winner.pricePerNight winner.toPeriodPrices, "price_period")
    | none =>
      (effectivePrices (categoryBase.getD 0) {},
        if categoryBase = none then "none" else "category_base")

end HotelPms.Rates
