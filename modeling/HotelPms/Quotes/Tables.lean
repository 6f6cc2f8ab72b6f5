import HotelPms.Promotions.Matching
import HotelPms.Quotes.Deposits
import HotelPms.Quotes.Taxes
import HotelPms.Rates.NightlyRates
import HotelPms.Rates.Prices

/-!
# What a quote reads

The tables that the price of a stay is computed from, the world around them,
and the stay that is asked about.
-/

namespace HotelPms.Quotes

open FloatFormat Promotions Rates

/-- Row of a category, with the guests it takes. -/
structure PricedCategory extends RateCategory where
  maxOccupancy : Int
  name : String := ""
  code : String := ""

structure PricingCompany where
  id : Int
  basePrice : Option Int := none
  paymentDeferred : Bool := false
  deferredDays : Option Int := none
  requiresVoucher : Bool := false
  requiresSignature : Bool := false
  updatedAt : Int := 0
  isActive : Bool := true

structure HotelConfiguration (F : Type) extends DepositSettings F where
  defaultCurrency : Option String := some "ARS"
  updatedAt : Option Int := none

/-- The tables of a hotel, in the order the database returns rows.  The
columns that only some functions read are given by the number of their row. -/
structure PricingTables (F : Type) extends NightlyRates where
  hotelId : Int
  config : Option (HotelConfiguration F) := none
  pricedCategories : List PricedCategory := []
  sameCategories : categories = pricedCategories.map PricedCategory.toRateCategory
  rates : RateTables F
  sameCurrency : rates.defaultCurrency = config.bind HotelConfiguration.defaultCurrency
  /-- Column `tax_inclusive` of the prices of rate plans. -/
  taxInclusive : Int -> Bool := fun _ => true
  taxes : TaxTables F
  promotions : List Promotion := []
  guestTags : List GuestTag := []
  companies : List PricingCompany := []
  /-- Column `created_at` of the periods. -/
  periodCreatedAt : Int -> Int := fun _ => 0
  /-- Column `updated_at` of the daily rates. -/
  dailyUpdatedAt : Int -> Int := fun _ => 0

/-- The calendar day, the reader of JSON conditions, and the conversion rate
between two currencies, which is in force or refused. -/
structure PricingEnvironment (F : Type) where
  today : Int
  readPerNight : String -> Bool
  conversionRate : String -> String -> Except String F

/-- A stay that is quoted, with the category if the caller has read it. -/
structure StayRequest where
  categoryId : Int
  checkIn : Int
  checkOut : Int
  sellableProductId : Option Int := none
  ratePlanId : Option Int := none
  taxPolicyId : Option Int := none
  pricingChannelCode : Option String := none
  pricingPaymentMethod : Option String := none
  guestScope : String := "all"
  targetCurrency : Option String := none
  occupancy : Option Int := none
  guestId : Option Int := none
  companyId : Option Int := none
  category : Option PricedCategory := none

def StayRequest.nights (stay : StayRequest) : Int :=
  stay.checkOut - stay.checkIn

/-- Python's `value or fallback` for a text that may be missing. -/
def givenOr (text : Option String) (fallback : String) : String :=
  orElse (text.getD "") fallback

namespace PricingTables

variable {F : Type} (tables : PricingTables F)

def depositSettings : Option (DepositSettings F) :=
  tables.config.map HotelConfiguration.toDepositSettings

def hotelDefaultCurrency : String :=
  orElse (String.ofList ((Payments.normalizeCurrency
      (givenOr (tables.config.bind HotelConfiguration.defaultCurrency) "ARS")).toList.take 3))
    "ARS"

/-- Row of a category of the hotel. -/
def pricedCategory? (categoryId : Int) : Option PricedCategory :=
  tables.pricedCategories.find? fun row => row.id = categoryId ∧ row.hotelId = tables.hotelId

end PricingTables

section Conversion

variable {F : Type} [FloatFormat F]

/-- Amount in another currency, with the rate. -/
def convertAmount (env : PricingEnvironment F) (amount : F)
    (fromCurrency toCurrency : String) : Except String (F × F) := do
  let fromCode := Payments.normalizeCurrency fromCurrency
  let toCode := Payments.normalizeCurrency toCurrency
  if fromCode = toCode then pure (round2 amount, ofRat 1)
  else do
    let rate ← env.conversionRate fromCode toCode
    pure (round2 (amount * rate), rate)

def nightCents (price : Int) : Int :=
  centsOf (round2 (ofCents price : F))

end Conversion

end HotelPms.Quotes
