import HotelPms.Foundation.RowOrder
import HotelPms.Quotes.Revision
import HotelPms.Quotes.StayNights

/-!
# What a revision pins

Two states in which the digest of a stay was taken of the same rows have the
same category, deposit percentage, currency and daily rates for the stay, the
same days and base prices of its periods, and the same rows of the plan and of
the tax policy that it names, up to their order.
-/

namespace HotelPms.Quotes

open Checked DayCounts FloatFormat KeySort Promotions Rates RowOrder

variable {F : Type} {first second : PricingTables F} {stay : StayRequest}

variable {category : PricedCategory} {day ratePlanId : Int}
  {tables : TaxTables F} {taxPolicyId : Option Int} {policy : TaxPolicy F}

theorem stayCategory_of_revision (found : revisionStayCategory first stay = .ok category) :
    stayCategory first stay = .ok category ∧
      category.id = stay.categoryId ∧ category.hotelId = first.hotelId := by
  unfold revisionStayCategory at found
  unfold stayCategory
  cases given : stay.category with
  | some row =>
    rw [given] at found
    simp only [bind_eq_ok, raiseIf_eq_ok, pure_eq_ok, not_or, not_not] at found
    obtain ⟨-, ⟨sameId, sameHotel⟩, rfl⟩ := found
    refine ⟨?_, sameId, sameHotel⟩
    simp [raiseIf, sameId, sameHotel]
  | none =>
    rw [given] at found
    simp only at found
    split at found
    · next row stored =>
      cases found
      have matched := List.find?_some stored
      rw [decide_eq_true_eq] at matched
      obtain ⟨sameId, sameHotel⟩ := matched
      refine ⟨?_, sameId, sameHotel⟩
      rw [stored]
      simp [raiseIf, sameId, sameHotel]
    · cases found

theorem category_eq_of_revisionCategory {other : PricedCategory}
    (sameHotel : category.hotelId = other.hotelId)
    (same : revisionCategory category = revisionCategory other) :
    category = other := by
  obtain ⟨⟨id, hotelId, base⟩, maxOccupancy, name, code⟩ := category
  obtain ⟨rfl, rfl, rfl, rfl, rfl⟩ := same
  simp only at sameHotel
  rw [sameHotel]

theorem dailyRate?_eq_find_sorted (within : stay.checkIn ≤ day ∧ day ≤ stay.checkOut - 1) :
    first.dailyRate? first.hotelId stay.categoryId day =
      (sortByKey DailyRate.date (sortByKey DailyRate.id
        (first.dailyRatesWithin first.hotelId stay.categoryId stay.checkIn
          (stay.checkOut - 1)))).find? fun row => decide (row.date = day) := by
  apply find?_eq_of_unique
  · intro row
    simp only [mem_sortByKey, NightlyRates.dailyRatesWithin, List.mem_filter, decide_eq_true_eq]
    constructor
    · rintro ⟨member, sameHotel, sameCategory, rfl⟩
      exact ⟨⟨member, sameHotel, sameCategory, within⟩, rfl⟩
    · rintro ⟨⟨member, sameHotel, sameCategory, -⟩, sameDay⟩
      exact ⟨member, sameHotel, sameCategory, sameDay⟩
  · intro row member other otherIn kept keptOther
    rw [decide_eq_true_eq] at kept keptOther
    apply first.eq_of_dailyRate_key member otherIn
    unfold DailyRate.key
    rw [kept.1, kept.2.1, kept.2.2, keptOther.1, keptOther.2.1, keptOther.2.2]

theorem dailyRate?_pinned
    (sameRows : revisionDailyRates first stay = revisionDailyRates second stay)
    (within : stay.checkIn ≤ day ∧ day ≤ stay.checkOut - 1) :
    (first.dailyRate? first.hotelId stay.categoryId day).map (revisionDailyRate first) =
      (second.dailyRate? second.hotelId stay.categoryId day).map (revisionDailyRate second) := by
  rw [dailyRate?_eq_find_sorted within, dailyRate?_eq_find_sorted within]
  exact find?_image_congr sameRows fun row => decide (row.date = day)

theorem winner?_pinned (sameRows : revisionPeriods first stay = revisionPeriods second stay)
    (within : stay.checkIn ≤ day ∧ day ≤ stay.checkOut - 1) :
    (first.winner? first.hotelId stay.categoryId day).map (revisionPeriod first) =
      (second.winner? second.hotelId stay.categoryId day).map (revisionPeriod second) := by
  rw [← first.find?_activePeriods first.hotelId stay.categoryId within,
    ← second.find?_activePeriods second.hotelId stay.categoryId within]
  exact find?_image_congr sameRows fun row => decide (row.startDate ≤ day ∧ day ≤ row.endDate)

theorem nightRate_pinned {paymentMethod : Option String} (ofStay : category.id = stay.categoryId)
    (sameDaily : revisionDailyRates first stay = revisionDailyRates second stay)
    (samePeriods : revisionPeriods first stay = revisionPeriods second stay)
    (within : stay.checkIn ≤ day ∧ day ≤ stay.checkOut - 1)
    (samePrices :
      first.dailyRate? first.hotelId stay.categoryId day = none ->
      ∀ period ∈ first.winner? first.hotelId stay.categoryId day,
        ∀ other ∈ second.winner? second.hotelId stay.categoryId day,
          periodPrice period paymentMethod = periodPrice other paymentMethod) :
    nightRate first.toNightlyRates first.hotelId category.toRateCategory paymentMethod day =
      nightRate second.toNightlyRates second.hotelId category.toRateCategory paymentMethod day := by
  have daily := dailyRate?_pinned sameDaily within
  have period := winner?_pinned samePeriods within
  rw [← ofStay] at daily period samePrices
  unfold nightRate
  cases found : first.dailyRate? first.hotelId category.id day with
  | some row =>
    rw [found, Option.map_some] at daily
    obtain ⟨other, isOther, same⟩ := Option.map_eq_some_iff.mp daily.symm
    rw [isOther]
    have sameColumns : row.toMethodPrices = other.toMethodPrices :=
      (congrArg RevisionDailyRate.toMethodPrices same).symm
    have samePrice : row.price = other.price :=
      (congrArg RevisionDailyRate.price same).symm
    simp only
    rw [sameColumns, samePrice]
  | none =>
    rw [found, Option.map_none] at daily
    rw [Option.map_eq_none_iff.mp daily.symm]
    cases won : first.winner? first.hotelId category.id day with
    | some row =>
      rw [won, Option.map_some] at period
      obtain ⟨other, isOther, -⟩ := Option.map_eq_some_iff.mp period.symm
      rw [isOther]
      simp only
      rw [samePrices found row won other isOther]
    | none =>
      rw [won, Option.map_none] at period
      rw [Option.map_eq_none_iff.mp period.symm]

/-- The deposit settings of a hotel but for its percentage. -/
def depositRules (config : HotelConfiguration F) : Bool × Option (List (StoredDepositRule F)) :=
  (config.depositPolicyConfigured, config.depositPolicyRules)

theorem depositSettings_pinned (samePolicy : revisionPolicy first = revisionPolicy second)
    (sameRules : first.config.map depositRules = second.config.map depositRules) :
    first.depositSettings = second.depositSettings := by
  have samePercentage :
      first.config.map (·.depositPercentage) = second.config.map (·.depositPercentage) :=
    congrArg RevisionPolicy.depositPercentage samePolicy
  unfold PricingTables.depositSettings
  cases isFirst : first.config with
  | none =>
    rw [isFirst] at samePercentage
    rw [Option.map_eq_none_iff.mp samePercentage.symm]
  | some config =>
    rw [isFirst] at samePercentage sameRules
    obtain ⟨other, isOther, same⟩ := Option.map_eq_some_iff.mp samePercentage.symm
    rw [isOther] at sameRules ⊢
    obtain ⟨sameConfigured, sameStored⟩ := Prod.mk.inj (Option.some.inj sameRules)
    obtain ⟨⟨configured, rules, percentage⟩, currency, updated⟩ := config
    obtain ⟨⟨configured', rules', percentage'⟩, currency', updated'⟩ := other
    have fields : configured = configured' ∧ rules = rules' ∧
        percentage' = percentage := ⟨sameConfigured, sameStored, same⟩
    obtain ⟨rfl, rfl, rfl⟩ := fields
    rfl

theorem hotelDefaultCurrency_pinned (samePolicy : revisionPolicy first = revisionPolicy second) :
    first.hotelDefaultCurrency = second.hotelDefaultCurrency := by
  have same : first.config.bind HotelConfiguration.defaultCurrency =
      second.config.bind HotelConfiguration.defaultCurrency :=
    congrArg RevisionPolicy.defaultCurrency samePolicy
  unfold PricingTables.hotelDefaultCurrency
  rw [same]

theorem activePlan?_eq_filter (tables : RateTables F) (ratePlanId : Int) :
    activePlan? tables ratePlanId = (tables.plans.find? (·.id = ratePlanId)).filter
        RatePlan.isActive := by
  apply find?_eq_filter ratePlanId tables.distinctPlans
  intro plan
  rw [decide_eq_true_eq]

theorem activePlan?_pinned (named : stay.ratePlanId = some ratePlanId)
    (samePlan : revisionPlan first stay = revisionPlan second stay) :
    activePlan? first.rates ratePlanId = activePlan? second.rates ratePlanId := by
  unfold revisionPlan at samePlan
  rw [named, Option.map_some, Option.map_some] at samePlan
  have sameRow := congrArg RevisionPlan.ratePlan (Option.some.inj samePlan)
  rw [activePlan?_eq_filter, activePlan?_eq_filter]
  exact congrArg (Option.filter RatePlan.isActive) sameRow

theorem stayPrices_eq_filter (tables : PricingTables F) (nights : 0 < stay.nights) :
    stayPrices tables.rates ratePlanId stay.checkIn stay.checkOut =
      (meetingPrices tables stay ratePlanId).filter fun price =>
        decide (price.ValidOver stay.checkIn (stay.checkOut - 1)) := by
  unfold meetingPrices
  rw [List.filter_filter]
  apply List.filter_congr
  intro price _
  unfold StayRequest.nights at nights
  rw [Bool.eq_iff_iff]
  simp only [Bool.and_eq_true, decide_eq_true_eq]
  constructor
  · rintro ⟨active, ofPlan, valid⟩
    refine ⟨valid, active, ofPlan, fun start isStart => ?_, fun finish isFinish => ?_⟩
    · have := valid.1 start isStart
      omega
    · have := valid.2 finish isFinish
      omega
  · rintro ⟨valid, active, ofPlan, -⟩
    exact ⟨active, ofPlan, valid⟩

theorem stayPrices_pinned (nights : 0 < stay.nights) (named : stay.ratePlanId = some ratePlanId)
    (samePlan : revisionPlan first stay = revisionPlan second stay)
    (sameOrder :
      (stayPrices first.rates ratePlanId stay.checkIn stay.checkOut).map RatePlanPrice.id =
        (stayPrices second.rates ratePlanId stay.checkIn stay.checkOut).map RatePlanPrice.id) :
    stayPrices first.rates ratePlanId stay.checkIn stay.checkOut =
        stayPrices second.rates ratePlanId stay.checkIn stay.checkOut ∧
      ∀ price ∈ stayPrices first.rates ratePlanId stay.checkIn stay.checkOut,
        first.taxInclusive price.id = second.taxInclusive price.id := by
  unfold revisionPlan at samePlan
  rw [named, Option.map_some, Option.map_some] at samePlan
  have samePrices := congrArg RevisionPlan.prices (Option.some.inj samePlan)
  have sameSorted : sortByKey RatePlanPrice.id (meetingPrices first stay ratePlanId) =
      sortByKey RatePlanPrice.id (meetingPrices second stay ratePlanId) := by
    have firsts := congrArg (List.map Prod.fst) samePrices
    simpa [List.map_map, Function.comp_def] using firsts
  rw [stayPrices_eq_filter first nights, stayPrices_eq_filter second nights] at sameOrder ⊢
  constructor
  · apply eq_of_sortByKey_eq _ (sortByKey_filter_congr _ sameSorted) sameOrder
    rw [← stayPrices_eq_filter first nights]
    exact first.rates.distinctPrices.sublist (List.filter_sublist.map _)
  · intro price member
    have listed : price ∈ sortByKey RatePlanPrice.id (meetingPrices first stay ratePlanId) := by
      rw [mem_sortByKey]
      exact (List.mem_filter.mp member).1
    rw [← sameSorted, List.map_inj_left] at samePrices
    exact (Prod.mk.inj (samePrices price listed)).2

/-- Two states have the same tax policy for a number, with the same rules. -/
structure SameTaxes (first second : TaxTables F) (taxPolicyId : Option Int) :
    Prop where
  policy : first.activePolicy? taxPolicyId = second.activePolicy? taxPolicyId
  rules : ∀ policy ∈ first.activePolicy? taxPolicyId,
    first.policyRules policy.id = second.policyRules policy.id

namespace SameTaxes

variable {tables others : TaxTables F} {taxPolicyId : Option Int}

theorem selectTaxPolicy_eq (same : SameTaxes tables others taxPolicyId) :
    tables.selectTaxPolicy taxPolicyId = others.selectTaxPolicy taxPolicyId := by
  unfold TaxTables.selectTaxPolicy
  rw [← same.policy]
  cases found : tables.activePolicy? taxPolicyId with
  | none => rfl
  | some policy =>
    have sameLack : tables.lacksRate policy = others.lacksRate policy := by
      unfold TaxTables.lacksRate
      rw [same.rules policy found]
    simp only
    rw [sameLack]

end SameTaxes

theorem activePolicy?_of_selectTaxPolicy
    (selected : tables.selectTaxPolicy taxPolicyId = .ok policy) :
    tables.activePolicy? taxPolicyId = some policy := by
  unfold TaxTables.selectTaxPolicy at selected
  split at selected
  · cases selected
  · next found isFound =>
    simp only [bind_eq_ok, pure_eq_ok] at selected
    obtain ⟨-, -, rfl⟩ := selected
    exact isFound

theorem activePolicy?_some_id (found : tables.activePolicy? taxPolicyId = some policy) :
    tables.activePolicy? (some policy.id) = some policy := by
  have stored : policy ∈ tables.policies ∧ policy.isActive = true := by
    cases taxPolicyId with
    | some taxPolicyId =>
      have kept := List.find?_some found
      rw [Bool.and_eq_true] at kept
      exact ⟨List.mem_of_find?_eq_some found, kept.1⟩
    | none =>
      have listed := List.mem_of_mem_head? (Option.mem_def.mpr found)
      rw [mem_sortByKey, List.mem_filter] at listed
      exact listed
  obtain ⟨member, active⟩ := stored
  apply find?_of_distinct tables.distinctPolicies member
  · rw [active]
    simp
  · intro other _ kept
    rw [Bool.and_eq_true, decide_eq_true_eq] at kept
    exact kept.2

/-- A policy that is the same in two states is the same under its number. -/
theorem SameTaxes.some_id {others : TaxTables F} (same : SameTaxes tables others taxPolicyId)
    (found : tables.activePolicy? taxPolicyId = some policy) :
    SameTaxes tables others (some policy.id) := by
  have isPolicy := activePolicy?_some_id found
  have isOther := activePolicy?_some_id (same.policy ▸ found)
  refine ⟨isPolicy.trans isOther.symm, fun other isFound => ?_⟩
  obtain rfl := Option.some.inj (isPolicy.symm.trans isFound)
  exact same.rules _ found

theorem activePolicy?_eq_filter (tables : TaxTables F) (taxPolicyId : Int) :
    tables.activePolicy? (some taxPolicyId) = (tables.policies.find? fun policy =>
        policy.id = taxPolicyId).filter TaxPolicy.isActive := by
  apply find?_eq_filter taxPolicyId tables.distinctPolicies
  intro policy
  rw [Bool.and_eq_true, decide_eq_true_eq, and_comm]

theorem sameTaxes_pinned {taxPolicyId : Int} (named : stay.taxPolicyId = some taxPolicyId)
    (same : revisionTaxes first stay = revisionTaxes second stay)
    (sameOrder : (first.taxes.policyRules taxPolicyId).map TaxRule.id =
      (second.taxes.policyRules taxPolicyId).map TaxRule.id) :
    SameTaxes first.taxes second.taxes stay.taxPolicyId := by
  rw [named]
  unfold revisionTaxes at same
  rw [named, Option.map_some, Option.map_some] at same
  have sameRow := congrArg RevisionTaxes.taxPolicy (Option.some.inj same)
  have sameRules := congrArg RevisionTaxes.taxRules (Option.some.inj same)
  refine ⟨?_, fun policy isFound => ?_⟩
  · rw [activePolicy?_eq_filter, activePolicy?_eq_filter]
    exact congrArg (Option.filter TaxPolicy.isActive) sameRow
  · have kept := List.find?_some isFound
    rw [Bool.and_eq_true, decide_eq_true_eq] at kept
    rw [kept.2]
    apply eq_of_sortByKey_eq _ sameRules sameOrder
    exact first.taxes.distinctRules.sublist (List.filter_sublist.map _)

end HotelPms.Quotes
