import HotelPms.Quotes.SoldAs

/-!
# Does a revision pin the price?

A revision is meant to change with every row that affects a quote.  It does not
read all of them: two states with one revision price a stay alike when they
also agree on the deposit rules, on the product, plan and tax policy that the
stay does not name, on the order of the rows that it names, on the prices of
periods for the payment method, and on the promotions of each night.
-/

namespace HotelPms.Quotes

open Checked DayCounts FloatFormat KeySort Promotions Rates

variable {F : Type} {first second : PricingTables F} {stay : StayRequest}

/-- Two states have the same prices of a plan for a stay. -/
structure SamePrices (first second : PricingTables F) (stay : StayRequest)
    (ratePlanId : Int) : Prop where
  prices : stayPrices first.rates ratePlanId stay.checkIn stay.checkOut =
    stayPrices second.rates ratePlanId stay.checkIn stay.checkOut
  taxInclusive : ∀ price ∈ stayPrices first.rates ratePlanId stay.checkIn stay.checkOut,
      first.taxInclusive price.id = second.taxInclusive price.id

variable {ratePlanId checkIn checkOut : Int} {occupancy : Option Int}
  {channelCode : Option String} {tables : PricingTables F}

theorem mem_of_selectRatePlanPrice {tables : RateTables F} {price : RatePlanPrice F}
    (selected : selectRatePlanPrice tables ratePlanId occupancy channelCode
      checkIn checkOut = .ok price) :
    price ∈ stayPrices tables ratePlanId checkIn checkOut := by
  unfold selectRatePlanPrice at selected
  split at selected
  · cases selected
  · next best isBest =>
    simp only [bind_eq_ok, pure_eq_ok] at selected
    obtain ⟨-, -, -, -, rfl⟩ := selected
    exact List.argmax_mem (Option.mem_def.mpr isBest)

theorem checkStay_congr (stay : StayRequest) (occupancy : Option Int)
    {plan : RatePlan} (isActive : activePlan? first.rates plan.id = some plan)
    (isActiveToo : activePlan? second.rates plan.id = some plan)
    (sameProduct : first.productOfPlan plan = second.productOfPlan plan) :
    checkStay first.rates plan.id stay.checkIn stay.checkOut occupancy =
      checkStay second.rates plan.id stay.checkIn stay.checkOut occupancy := by
  have sameGuests : checkProductOccupancy first.rates plan occupancy =
      checkProductOccupancy second.rates plan occupancy := by
    unfold PricingTables.productOfPlan at sameProduct
    unfold checkProductOccupancy
    rw [sameProduct]
  unfold checkStay
  rw [isActive, isActiveToo]
  simp only
  rw [sameGuests]

section Quote

variable [FloatFormat F] {env : PricingEnvironment F}

theorem priceRatePlanStay_congr {plan : RatePlan} {occupancy taxPolicyId : Option Int}
    {channelCode : Option String} {guestScope : String}
    (isActive : activePlan? first.rates plan.id = some plan)
    (isActiveToo : activePlan? second.rates plan.id = some plan)
    (sameProduct : first.productOfPlan plan = second.productOfPlan plan)
    (samePrices : SamePrices first second stay plan.id)
    (sameTaxes : SameTaxes first.taxes second.taxes taxPolicyId) :
    priceRatePlanStay first env plan.id stay.checkIn stay.checkOut occupancy
        channelCode guestScope taxPolicyId =
      priceRatePlanStay second env plan.id stay.checkIn stay.checkOut
        occupancy channelCode guestScope taxPolicyId := by
  have sameSelection : selectRatePlanPrice first.rates plan.id occupancy
        channelCode stay.checkIn stay.checkOut =
      selectRatePlanPrice second.rates plan.id occupancy channelCode
        stay.checkIn stay.checkOut := by
    unfold selectRatePlanPrice
    rw [samePrices.prices]
  have sameChecks := checkStay_congr stay occupancy isActive isActiveToo sameProduct
  refine bind_congr_ok (by rw [sameChecks]) fun _ _ => ?_
  refine bind_congr_ok (by rw [sameSelection]) fun price selects => ?_
  have sameFlag := samePrices.taxInclusive price
    (mem_of_selectRatePlanPrice (mapError_eq_ok.mp selects))
  refine bind_congr_ok (by rw [sameTaxes.selectTaxPolicy_eq]) fun policy selectsPolicy => ?_
  have sameRules := sameTaxes.rules policy
    (activePolicy?_of_selectTaxPolicy (mapError_eq_ok.mp selectsPolicy))
  rw [sameRules, sameFlag]

theorem quoteRatePlanStay_congr (env : PricingEnvironment F) (stay : StayRequest)
    (occupancy : Option Int) (channelCode : Option String)
    (guestScope : String) (targetCurrency : Option String)
    {plan : RatePlan} {taxPolicyId : Option Int}
    (isActive : activePlan? first.rates plan.id = some plan)
    (isActiveToo : activePlan? second.rates plan.id = some plan)
    (sameProduct : first.productOfPlan plan = second.productOfPlan plan)
    (samePrices : SamePrices first second stay plan.id)
    (sameTaxes : SameTaxes first.taxes second.taxes taxPolicyId) :
    quoteRatePlanStay first env plan.id stay.checkIn stay.checkOut occupancy
        channelCode guestScope targetCurrency taxPolicyId =
      quoteRatePlanStay second env plan.id stay.checkIn stay.checkOut
        occupancy channelCode guestScope targetCurrency taxPolicyId :=
  bind_congr_ok (priceRatePlanStay_congr isActive isActiveToo sameProduct samePrices sameTaxes)
    fun _ _ => rfl

end Quote

/-- A refusal for lack of prices finds none over the stay. -/
def LacksPrices (tables : RateTables F) (ratePlanId checkIn checkOut : Int)
    (error : StayQuoteError) : Prop :=
  error = .plan .noActivePrices -> stayPrices tables ratePlanId checkIn checkOut = []

theorem selectRatePlanPrice_failsWith {tables : RateTables F} :
    FailsWith (fun reason => LacksPrices tables ratePlanId checkIn checkOut (.plan reason))
      (selectRatePlanPrice tables ratePlanId occupancy channelCode checkIn checkOut) := by
  unfold selectRatePlanPrice
  split
  · next empty => exact .error fun _ => List.argmax_eq_none.mp empty
  · refine .bind (.raiseIf ?_) fun _ => .bind (.raiseIf ?_) fun _ => .ok
    · intro isLack
      cases isLack
    · intro isLack
      cases isLack

theorem quoteRatePlanStay_failsWith [FloatFormat F] {env : PricingEnvironment F}
    {taxPolicyId : Option Int}
    {targetCurrency : Option String} {guestScope : String} :
    FailsWith (LacksPrices tables.rates ratePlanId checkIn checkOut)
      (quoteRatePlanStay tables env ratePlanId checkIn checkOut occupancy
        channelCode guestScope targetCurrency taxPolicyId) := by
  have ofPolicy {α : Type} (computation : Except String α) :
      FailsWith (LacksPrices tables.rates ratePlanId checkIn checkOut)
        (computation.mapError .policy) := by
    refine .mapError fun text _ isLack => ?_
    cases isLack
  have ofChecks : FailsWith (LacksPrices tables.rates ratePlanId checkIn checkOut)
      ((checkStay tables.rates ratePlanId checkIn checkOut occupancy).mapError .plan) := by
    refine .mapError fun reason failed isLack => ?_
    have kind := checkStay_failsWith reason failed
    rw [StayQuoteError.plan.inj isLack] at kind
    exact absurd trivial kind
  refine .bind ?_ fun planned => ?_
  · exact .bind ofChecks fun _ => .bind (.mapError selectRatePlanPrice_failsWith)
      fun _ => .bind (ofPolicy _) fun _ => .bind (ofPolicy _) fun _ => .ok
  · simp only
    split
    · exact .ok
    · exact .bind (ofPolicy _) fun _ => .ok

/-- A night without a daily rate has the same price for the payment method in
two states, and meets the same promotions. -/
structure SameNight (today : Int) (first second : PricingTables F)
    (stay : StayRequest) (paymentMethod : Option String) (day : Int) :
    Prop where
  periodPrice : first.dailyRate? first.hotelId stay.categoryId day = none ->
    ∀ period ∈ first.winner? first.hotelId stay.categoryId day,
      ∀ other ∈ second.winner? second.hotelId stay.categoryId day,
        periodPrice period paymentMethod = periodPrice other paymentMethod
  promotions : promotionsMet first.promotions first.guestTags
        (promotionContext first.hotelId today stay.categoryId stay paymentMethod day) =
      promotionsMet second.promotions second.guestTags
        (promotionContext second.hotelId today stay.categoryId stay paymentMethod day)

/-- Two states agree on the rows that price a stay and are not in its
revision. -/
structure SameUnpinned (today : Int) (first second : PricingTables F)
    (stay : StayRequest) : Prop where
  depositRules :
    first.config.map depositRules = second.config.map depositRules
  sale : SameSale first second stay
  inferredPrices : stay.ratePlanId = none ->
    ∀ plan ∈ first.soldPlan stay, SamePrices first second stay plan.id
  priceOrder : ∀ ratePlanId ∈ stay.ratePlanId,
    (stayPrices first.rates ratePlanId stay.checkIn stay.checkOut).map RatePlanPrice.id =
      (stayPrices second.rates ratePlanId stay.checkIn stay.checkOut).map RatePlanPrice.id
  inferredTaxes : stay.taxPolicyId = none -> SameTaxes first.taxes second.taxes none
  ruleOrder : ∀ taxPolicyId ∈ stay.taxPolicyId,
    (first.taxes.policyRules taxPolicyId).map TaxRule.id =
      (second.taxes.policyRules taxPolicyId).map TaxRule.id
  nights : first.NightlyPriced stay -> ∀ paymentMethod,
    normalizePricingPaymentMethod stay.pricingPaymentMethod = .ok paymentMethod ->
      ∀ day ∈ loopDays stay.checkIn stay.checkOut,
        SameNight today first second stay paymentMethod day

/-! ## One revision, one price -/

/-- The rows that two states have in one revision. -/
structure SamePinned (first second : PricingTables F) (stay : StayRequest) :
    Prop where
  hotelId : first.hotelId = second.hotelId
  policy : revisionPolicy first = revisionPolicy second
  dailyRates : revisionDailyRates first stay = revisionDailyRates second stay
  periods : revisionPeriods first stay = revisionPeriods second stay
  plan : revisionPlan first stay = revisionPlan second stay
  taxes : revisionTaxes first stay = revisionTaxes second stay

theorem samePinned_of_revision {Revision : Type}
    {digest : RevisionSource F -> Revision} {revision : Revision}
    (injective : Function.Injective digest)
    (taken : buildPricingRevision digest first stay = .ok revision)
    (takenToo : buildPricingRevision digest second stay = .ok revision) :
    SamePinned first second stay ∧ ∃ category, category.id = stay.categoryId ∧
        category.hotelId = first.hotelId ∧
        stayCategory first stay = .ok category ∧
        stayCategory second stay = .ok category := by
  unfold buildPricingRevision at taken takenToo
  simp only [bind_eq_ok, pure_eq_ok] at taken takenToo
  obtain ⟨category, isCategory, rfl⟩ := taken
  obtain ⟨other, isOther, sameDigest⟩ := takenToo
  have sources := (injective sameDigest).symm
  have sameHotel : first.hotelId = second.hotelId :=
    congrArg (·.inputs.hotelId) sources
  obtain ⟨found, sameId, ofHotel⟩ := stayCategory_of_revision isCategory
  obtain ⟨foundToo, -, ofHotelToo⟩ := stayCategory_of_revision isOther
  have sameCategory : category = other :=
    category_eq_of_revisionCategory (ofHotel.trans (sameHotel.trans ofHotelToo.symm))
      (congrArg RevisionSource.category sources)
  refine ⟨?_, category, sameId, ofHotel, found, sameCategory ▸ foundToo⟩
  exact {
    hotelId := sameHotel
    policy := congrArg RevisionSource.hotelPolicy sources
    dailyRates := congrArg RevisionSource.dailyRates sources
    periods := congrArg RevisionSource.pricePeriods sources
    plan := congrArg RevisionSource.ratePlan sources
    taxes := congrArg RevisionSource.taxes sources }

namespace SamePinned

section Rows

variable {today : Int} (pinned : SamePinned first second stay)
  (unpinned : SameUnpinned today first second stay)
include pinned

theorem namedPlan_eq :
    first.namedPlan stay.ratePlanId = second.namedPlan stay.ratePlanId := by
  cases named : stay.ratePlanId with
  | none => rfl
  | some ratePlanId =>
    unfold PricingTables.namedPlan
    simp only
    rw [activePlan?_pinned named pinned.plan]

include unpinned

theorem depositSettings_eq : first.depositSettings = second.depositSettings :=
  depositSettings_pinned pinned.policy unpinned.depositRules

theorem sameTaxes : SameTaxes first.taxes second.taxes stay.taxPolicyId := by
  cases named : stay.taxPolicyId with
  | none => exact unpinned.inferredTaxes named
  | some taxPolicyId =>
    rw [← named]
    exact sameTaxes_pinned named pinned.taxes (unpinned.ruleOrder taxPolicyId named)

theorem samePrices {plan : RatePlan} (nights : 0 < stay.nights)
    (isFound : stay.ratePlanId ≠ none -> first.planNamed stay ≠ none)
    (sold : first.soldPlan stay = some plan) :
    SamePrices first second stay plan.id := by
  cases named : stay.ratePlanId with
  | none => exact unpinned.inferredPrices named plan sold
  | some ratePlanId =>
    have found := isFound (named ▸ Option.some_ne_none ratePlanId)
    rw [PricingTables.id_of_soldPlan named found sold]
    obtain ⟨prices, taxInclusive⟩ := stayPrices_pinned nights named
      pinned.plan (unpinned.priceOrder ratePlanId named)
    exact ⟨prices, taxInclusive⟩

end Rows

section Prices

variable [FloatFormat F] {env : PricingEnvironment F} (pinned : SamePinned first second stay)
  (unpinned : SameUnpinned env.today first second stay)
include pinned unpinned

variable {paymentMethod : Option String}

variable {category : PricedCategory}

theorem nightPrices_congr (ofStay : category.id = stay.categoryId)
    (ofHotel : category.hotelId = first.hotelId)
    (normalized : normalizePricingPaymentMethod stay.pricingPaymentMethod = .ok paymentMethod)
    (nightly : first.NightlyPriced stay) :
    nightPrices first env category stay paymentMethod =
      nightPrices second env category stay paymentMethod := by
  rw [nightPrices_eq first env ofHotel, nightPrices_eq second env (ofHotel.trans pinned.hotelId)]
  congr 1
  apply List.map_congr_left
  intro day member
  have same := unpinned.nights nightly paymentMethod normalized day member
  have within : stay.checkIn ≤ day ∧ day ≤ stay.checkOut - 1 := by
    rw [mem_loopDays] at member
    omega
  unfold stayNight
  rw [nightRate_pinned ofStay pinned.dailyRates pinned.periods within
    same.periodPrice, ofStay, same.promotions]

theorem dailyRatePricingResult_congr {context : PricingTables.CommercialContext F}
    (ofStay : category.id = stay.categoryId)
    (ofHotel : category.hotelId = first.hotelId)
    (normalized : normalizePricingPaymentMethod stay.pricingPaymentMethod = .ok paymentMethod)
    (nightly : first.NightlyPriced stay)
    (sameRules : first.taxes.policyRules context.taxPolicy.id =
      second.taxes.policyRules context.taxPolicy.id) :
    dailyRatePricingResult first env category stay paymentMethod context =
      dailyRatePricingResult second env category stay paymentMethod
        context := by
  unfold dailyRatePricingResult
  rw [pinned.nightPrices_congr unpinned ofStay ofHotel normalized nightly,
    hotelDefaultCurrency_pinned pinned.policy, sameRules, pinned.depositSettings_eq unpinned]

theorem planPricingResult_congr {plan : RatePlan}
    {context : PricingTables.CommercialContext F} (nights : 0 < stay.nights)
    (ofStay : category.id = stay.categoryId)
    (ofHotel : category.hotelId = first.hotelId)
    (normalized : normalizePricingPaymentMethod stay.pricingPaymentMethod = .ok paymentMethod)
    (isContext : first.resolveReservationCommercialContext stay.categoryId
      stay.sellableProductId stay.ratePlanId stay.taxPolicyId = .ok context)
    (isPlan : context.plan = some plan) :
    planPricingResult first env category stay paymentMethod context plan =
      planPricingResult second env category stay paymentMethod context
        plan := by
  obtain ⟨sold, isFound, isPolicy⟩ :=
    PricingTables.resolveReservationCommercialContext_eq_ok isContext
  have isContextToo := isContext
  rw [unpinned.sale.context_eq pinned.namedPlan_eq (pinned.sameTaxes unpinned)] at isContextToo
  obtain ⟨soldToo, -, -⟩ := PricingTables.resolveReservationCommercialContext_eq_ok isContextToo
  rw [isPlan] at sold soldToo
  have sameQuote := quoteRatePlanStay_congr env stay
    (some (stay.occupancy.getD (max category.maxOccupancy 1)))
    (some (givenOr stay.pricingChannelCode "direct")) stay.guestScope
    stay.targetCurrency
    (PricingTables.activePlan?_of_soldPlan sold.symm)
    (PricingTables.activePlan?_of_soldPlan soldToo.symm)
    (unpinned.sale.productOfPlan plan sold.symm)
    (pinned.samePrices unpinned nights isFound sold.symm)
    ((pinned.sameTaxes unpinned).some_id isPolicy)
  unfold planPricingResult
  rw [sameQuote]
  cases quoted : quoteRatePlanStay second env plan.id stay.checkIn stay.checkOut
      (some (stay.occupancy.getD (max category.maxOccupancy 1)))
      (some (givenOr stay.pricingChannelCode "direct")) stay.guestScope
      stay.targetCurrency (some context.taxPolicy.id) with
  | ok quote =>
    unfold pricingResultFromQuote
    rw [pinned.depositSettings_eq unpinned]
  | error error =>
    simp only
    by_cases fallsBack : error = .plan .noActivePrices ∧ stay.isInferred = true
    · rw [if_pos fallsBack, if_pos fallsBack]
      have nightly : first.NightlyPriced stay := by
        intro other isOther
        obtain rfl : plan = other :=
          Option.some.inj (sold.trans isOther)
        refine ⟨fallsBack.2, ?_⟩
        rw [← sameQuote] at quoted
        exact quoteRatePlanStay_failsWith error quoted fallsBack.1
      exact pinned.dailyRatePricingResult_congr unpinned ofStay ofHotel normalized nightly
        ((pinned.sameTaxes unpinned).rules _ isPolicy)
    · rw [if_neg fallsBack, if_neg fallsBack]

end Prices

end SamePinned

theorem unconfirmed_currency : tables.rates.defaultCurrency = (tables.config.map fun config =>
        { config with depositPolicyConfigured := false }).bind
        HotelConfiguration.defaultCurrency := by
  rw [tables.sameCurrency]
  cases tables.config <;> rfl

/-- The hotel has withdrawn its deposit rules. -/
def PricingTables.unconfirmed (tables : PricingTables F) : PricingTables F :=
  { tables with
    config := tables.config.map fun config =>
      { config with depositPolicyConfigured := false }
    sameCurrency := unconfirmed_currency }

theorem unconfirmed_config (tables : PricingTables F) :
    tables.unconfirmed.config = tables.config.map fun config =>
      { config with depositPolicyConfigured := false } := rfl

theorem exists_unpriced [FloatFormat F] {Revision : Type}
    {digest : RevisionSource F -> Revision} {env : PricingEnvironment F}
    :
    buildPricingRevision digest tables.unconfirmed stay = buildPricingRevision digest tables stay ∧
      ∀ result, calculateReservationPricing tables.unconfirmed env stay ≠ .ok result := by
  have samePolicy : revisionPolicy tables.unconfirmed = revisionPolicy tables := by
    unfold revisionPolicy
    rw [unconfirmed_config]
    cases tables.config <;> rfl
  constructor
  · unfold buildPricingRevision
    unfold revisionSource
    rw [samePolicy]
    rfl
  · intro result priced
    unfold calculateReservationPricing at priced
    simp only [bind_eq_ok] at priced
    obtain ⟨-, -, settings, isConfigured, -⟩ := priced
    unfold PricingTables.depositSettings at isConfigured
    rw [unconfirmed_config] at isConfigured
    cases isConfig : tables.config with
    | none =>
      rw [isConfig] at isConfigured
      cases isConfigured
    | some config =>
      rw [isConfig] at isConfigured
      cases isConfigured

/-- What the claim of a revision compares: total, deposit and nights. -/
def ReservationPricingResult.prices (result : ReservationPricingResult F) : F × F × List F :=
  (result.totalAmount, result.depositAmount, result.breakdown.map NightPrice.price)

def oneCurrency : PricingEnvironment ℚ where
  today := 90
  readPerNight := fun _ => false
  conversionRate := fun fromCode toCode =>
    .error s!"Conversión no soportada de {fromCode} a {toCode}"

/-- The season of a category with a base price of eighty. -/
def summer (prices : PeriodPrices) : PricePeriod :=
  { prices with
    id := 1, hotelId := 1, categoryId := 1, name := "Verano"
    startDate := 100, endDate := 130, pricePerNight := 10000 }

def doubleRoom : PricedCategory :=
  { id := 1, hotelId := 1, basePricePerNight := some 8000, maxOccupancy := 2 }

def settingsWith (depositPolicyRules : Option (List (StoredDepositRule ℚ))) :
    HotelConfiguration ℚ :=
  { depositPolicyConfigured := true
    depositPolicyRules
    depositPercentage := 30
    updatedAt := some 7 }

theorem summer_noDays : (([] : List DailyRate).map DailyRate.key).Nodup :=
  List.nodup_nil

theorem summer_distinct (prices : PeriodPrices) : ([summer prices].map (·.id)).Nodup :=
  List.nodup_singleton _

theorem doubleRoom_distinct : ([doubleRoom.toRateCategory].map RateCategory.id).Nodup :=
  List.nodup_singleton _

theorem doubleRoom_same : [doubleRoom.toRateCategory] =
    [doubleRoom].map PricedCategory.toRateCategory := rfl

theorem noPlans_distinct : (([] : List RatePlan).map RatePlan.id).Nodup :=
  List.nodup_nil

theorem noPrices_distinct : (([] : List (RatePlanPrice ℚ)).map RatePlanPrice.id).Nodup :=
  List.nodup_nil

/-- Rate tables without products. -/
def noPlans : RateTables ℚ where
  plans := []
  distinctPlans := noPlans_distinct
  prices := []
  distinctPrices := noPrices_distinct
  defaultCurrency := some "ARS"

theorem settingsWith_currency (depositPolicyRules : Option (List (StoredDepositRule ℚ))) :
    noPlans.defaultCurrency = (some (settingsWith depositPolicyRules)).bind
        HotelConfiguration.defaultCurrency := rfl

theorem onePolicy_distinct (taxPolicy : TaxPolicy ℚ) :
    ([taxPolicy].map TaxPolicy.id).Nodup := List.nodup_singleton _

theorem noRules_distinct : (([] : List (TaxRule ℚ)).map TaxRule.id).Nodup := List.nodup_nil

def seasonHotel (prices : PeriodPrices) (promotions : List Promotion) (taxPolicy : TaxPolicy ℚ)
    (depositPolicyRules : Option (List (StoredDepositRule ℚ))) :
    PricingTables ℚ where
  hotelId := 1
  config := some (settingsWith depositPolicyRules)
  pricePeriods := [summer prices]
  categories := [doubleRoom.toRateCategory]
  pricedCategories := [doubleRoom]
  distinctDays := summer_noDays
  distinctPeriods := summer_distinct prices
  distinctCategories := doubleRoom_distinct
  sameCategories := doubleRoom_same
  rates := noPlans
  sameCurrency := settingsWith_currency depositPolicyRules
  taxes := {
    policies := [taxPolicy]
    distinctPolicies := onePolicy_distinct taxPolicy
    distinctRules := noRules_distinct }
  promotions

/-- A policy without taxes. -/
def untaxed : TaxPolicy ℚ :=
  { id := 1, applyVatByDefault := false }

def cashPrices : PeriodPrices :=
  { priceCash := some 9000 }

def cashHotel : PricingTables ℚ := seasonHotel cashPrices [] untaxed none

/-- The price in cash is kept, and one for transfers added. -/
def transferHotel : PricingTables ℚ :=
  seasonHotel { priceCash := some 9000, priceTransfer := some 9500 } [] untaxed none

/-- Two nights paid in cash. -/
def cashStay : StayRequest :=
  { categoryId := 1, checkIn := 110, checkOut := 112, pricingPaymentMethod := some "cash" }

theorem onePlan_distinct : ([{ id := 1, sellableProductId := 1 }].map RatePlan.id).Nodup :=
  List.nodup_singleton _

theorem onePrice_distinct : ([{ id := 1, ratePlanId := 1, baseAmount := (110 : ℚ) }].map
      RatePlanPrice.id).Nodup :=
  List.nodup_singleton _

/-- Rate tables with one product of the category, one plan and one price. -/
def onePlan : RateTables ℚ where
  products := [{ id := 1, primaryRoomCategoryId := some 1, maxOccupancy := 2 }]
  plans := [{ id := 1, sellableProductId := 1 }]
  distinctPlans := onePlan_distinct
  prices := [{ id := 1, ratePlanId := 1, baseAmount := (110 : ℚ) }]
  distinctPrices := onePrice_distinct
  defaultCurrency := some "ARS"

theorem onePlan_currency : onePlan.defaultCurrency =
    cashHotel.config.bind HotelConfiguration.defaultCurrency := rfl

/-- States that reprice the stay without a change to its revision: another
price in cash, a promotion, another tax rate, other deposit rules, and the only
plan of the only product. -/
def repricedHotels : List (PricingTables ℚ) :=
  [seasonHotel { priceCash := some 12000 } [] untaxed none, seasonHotel cashPrices
      [{ id := 1, hotelId := 1, code := "EFECTIVO", name := "Efectivo"
         benefitType := .percentage, benefitValue := 10
         conditions := { paymentMethod := some "cash" } }] untaxed none,
    seasonHotel cashPrices [] { id := 1, taxesIncluded := false, vatRate := some 21 } none,
    seasonHotel cashPrices [] untaxed
      (some [{ maxNights := none, calculation := "nights", value := 1 }]),
    { cashHotel with rates := onePlan, sameCurrency := onePlan_currency }]

end HotelPms.Quotes
