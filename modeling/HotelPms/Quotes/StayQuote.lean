import HotelPms.Quotes.CommercialContext

/-!
# Quote of a stay under a rate plan

The nightly amount of the plan over the nights of the stay, with the taxes of
the policy, in the currency of the price or in the one that is asked for.  No
provider is asked about, so there is no commission.
-/

namespace HotelPms.Quotes

open Checked FloatFormat Rates

/-- Why there is no quote: the plan and its prices, or another policy. -/
inductive StayQuoteError
  | plan (reason : PricingPolicyError)
  | policy (text : String)
  deriving DecidableEq

def planErrorText : PricingPolicyError -> String
  | .dates => "Checkout must be after check-in"
  | .planNotFound => "Rate plan not found for hotel"
  | .fewerNights minNights =>
    s!"Rate plan requires at least {minNights} nights"
  | .moreNights maxNights =>
    s!"Rate plan allows at most {maxNights} nights"
  | .occupancy minOccupancy maxOccupancy =>
    s!"Sellable product accepts between {minOccupancy} and " ++ s!"{maxOccupancy} guests"
  | .noActivePrices => "No active prices found for rate plan"
  | .noChannelPrice =>
    "No matching price found for the selected sales channel"
  | .noOccupancyPrice =>
    "No matching price found for the selected occupancy"

def StayQuoteError.text : StayQuoteError -> String
  | .plan reason => planErrorText reason
  | .policy text => text

variable {F : Type} [FloatFormat F]

structure StayAmounts (F : Type) where
  subtotal : F
  tax : F
  fee : F
  gross : F
  breakdown : List (TaxEntry F)

/-- Subtotal and total of a quoted amount with its taxes. -/
def stayAmounts (quoted : F) (totals : TaxTotals F) (taxesIncluded : Bool) : StayAmounts F where
  subtotal := if taxesIncluded then
      round2 (atLeastZero (quoted - totals.tax - totals.fee))
    else quoted
  tax := totals.tax
  fee := totals.fee
  gross := if taxesIncluded then quoted
    else round2 (quoted + totals.tax + totals.fee)
  breakdown := totals.breakdown

/-- Amounts at a conversion rate, with a total that is converted already. -/
def StayAmounts.converted (amounts : StayAmounts F) (gross rate : F) : StayAmounts F where
  subtotal := round2 (amounts.subtotal * rate)
  tax := round2 (amounts.tax * rate)
  fee := round2 (amounts.fee * rate)
  gross := gross
  breakdown := amounts.breakdown.map fun entry =>
    { entry with amount := round2 (entry.amount * rate) }

structure StayPricingQuote (F : Type) where
  ratePlanId : Int
  nights : Int
  baseCurrency : String
  outputCurrency : String
  nightlyAmount : F
  amounts : StayAmounts F
  commissionAmount : F
  netAmount : F
  fxRateSnapshot : Option F

/-- Plan and price of a stay, and its taxes before conversion. -/
structure PlannedStay (F : Type) where
  currencyCode : String
  nightlyAmount : F
  amounts : StayAmounts F

def priceRatePlanStay (tables : PricingTables F) (env : PricingEnvironment F)
    (ratePlanId checkIn checkOut : Int) (occupancy : Option Int)
    (channelCode : Option String) (guestScope : String)
    (taxPolicyId : Option Int) : Except StayQuoteError (PlannedStay F) := do
  let plan ← (checkStay tables.rates ratePlanId checkIn checkOut occupancy).mapError .plan
  let price ← (selectRatePlanPrice tables.rates ratePlanId occupancy
    channelCode checkIn checkOut).mapError .plan
  let nights := checkOut - checkIn
  let currencyCode := orElse price.currencyCode plan.currencyCode
  let nightlyAmount := round2 price.baseAmount
  let quotedBaseTotal := round2 (nightlyAmount * ofRat nights)
  let taxPolicy ← (tables.taxes.selectTaxPolicy taxPolicyId).mapError .policy
  let totals ← (applyTaxPolicy env.readPerNight quotedBaseTotal nights
    taxPolicy (tables.taxes.policyRules taxPolicy.id) guestScope channelCode
    (tables.taxInclusive price.id) currencyCode).mapError .policy
  pure {
    currencyCode
    nightlyAmount
    amounts := stayAmounts quotedBaseTotal totals (tables.taxInclusive price.id) }

def PlannedStay.quoted (planned : PlannedStay F) (ratePlanId nights : Int)
    (outputCurrency : String) (amounts : StayAmounts F) (commission : F)
    (fxRateSnapshot : Option F) : StayPricingQuote F where
  ratePlanId := ratePlanId
  nights := nights
  baseCurrency := planned.currencyCode
  outputCurrency := outputCurrency
  nightlyAmount := planned.nightlyAmount
  amounts := amounts
  commissionAmount := commission
  netAmount := round2 (amounts.gross - commission)
  fxRateSnapshot := fxRateSnapshot

def quoteRatePlanStay (tables : PricingTables F) (env : PricingEnvironment F)
    (ratePlanId checkIn checkOut : Int) (occupancy : Option Int)
    (channelCode : Option String) (guestScope : String)
    (targetCurrency : Option String) (taxPolicyId : Option Int) :
    Except StayQuoteError (StayPricingQuote F) := do
  let planned ← priceRatePlanStay tables env ratePlanId checkIn checkOut
    occupancy channelCode guestScope taxPolicyId
  let nights := checkOut - checkIn
  let output := givenOr targetCurrency planned.currencyCode
  if output = planned.currencyCode then
    pure (planned.quoted ratePlanId nights output planned.amounts (ofRat 0) none)
  else do
    let (gross, rate) ← (convertAmount env planned.amounts.gross
      planned.currencyCode output).mapError .policy
    pure (planned.quoted ratePlanId nights output
      (planned.amounts.converted gross rate) (round2 (ofRat 0 * rate))
      (some rate))

end HotelPms.Quotes
