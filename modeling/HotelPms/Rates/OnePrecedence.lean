import HotelPms.Rates.NightlyRates

/-!
# One precedence in every reader

The ordered scan, the first row of each category and the sorted snapshots find
the same period as the query for a single night, since selecting rows and
sorting them commute.
-/

namespace HotelPms.Rates

open Checked DayCounts KeySort

variable {α : Type}

theorem find?_eq_of_unique {rows others : List α} {keep keepOther : α -> Bool}
    (sameRows : ∀ row, row ∈ rows ∧ keep row = true ↔ row ∈ others ∧ keepOther row = true)
    (unique : ∀ row ∈ rows, ∀ other ∈ rows, keep row = true -> keep other = true -> row = other) :
    rows.find? keep = others.find? keepOther := by
  cases found : rows.find? keep with
  | none =>
    rw [List.find?_eq_none] at found
    symm
    rw [List.find?_eq_none]
    intro row member kept
    have mine := (sameRows row).mpr ⟨member, kept⟩
    exact found row mine.1 mine.2
  | some row =>
    have kept := List.find?_some found
    have member := List.mem_of_find?_eq_some found
    have theirs := (sameRows row).mp ⟨member, kept⟩
    cases foundOther : others.find? keepOther with
    | none =>
      rw [List.find?_eq_none] at foundOther
      exact absurd theirs.2 (foundOther row theirs.1)
    | some other =>
      have mine := (sameRows other).mpr
        ⟨List.mem_of_find?_eq_some foundOther, List.find?_some foundOther⟩
      rw [unique row member other mine.1 kept mine.2]

theorem rankBy_filter (period : α -> NumberedPeriod) (keep : α -> Bool) (rows : List α) :
    rankBy period (rows.filter keep) = (rankBy period rows).filter keep := by
  unfold rankBy
  rw [sortByKey_filter, sortByKey_filter]

theorem rankBy_map {β : Type} (period : α -> NumberedPeriod) (image : β -> α) (rows : List β) :
    rankBy period (rows.map image) = (rankBy (fun row => period (image row)) rows).map image := by
  unfold rankBy
  rw [sortByKey_map, sortByKey_map]

theorem find?_rankPeriods (periods : List PricePeriod) (keep : PricePeriod -> Bool) :
    (rankPeriods periods).find? keep = (rankPeriods (periods.filter keep)).head? := by
  rw [← List.head?_filter]
  unfold rankPeriods
  rw [rankBy_filter]

theorem sortByKey_of_same_key {key : α -> Int} {rows : List α}
    (shared : Int) (same : ∀ row ∈ rows, key row = shared) :
    sortByKey key rows = rows := by
  apply List.Pairwise.insertionSort_eq
  rw [List.pairwise_iff_forall_sublist]
  intro first second found
  have both := found.subset
  rw [same first (both (by simp)), same second (both (by simp))]

theorem head?_rankBy {period : α -> NumberedPeriod} {rows : List α}
    (distinct : (rows.map fun row => (period row).id).Nodup) {best : α} :
    (rankBy period rows).head? = some best ↔ best ∈ rows ∧ ∀ row ∈ rows,
        (period row).priority < (period best).priority ∨
          (period best).priority = (period row).priority ∧ (period row).id ≤ (period best).id := by
  have negated : (rows.map fun row => -(period row).id).Nodup := by
    have images := distinct.map fun _ _ => Int.neg_inj.mp
    rwa [List.map_map] at images
  unfold rankBy
  rw [head?_sortByKey_sortByKey negated]
  simp only [Int.neg_lt_neg_iff, Int.neg_inj, Int.neg_le_neg_iff]

theorem head?_rankBy_congr {period : α -> NumberedPeriod} {rows others : List α}
    (distinct : (rows.map fun row => (period row).id).Nodup)
    (distinctOthers : (others.map fun row => (period row).id).Nodup)
    (sameRows : ∀ row, row ∈ rows ↔ row ∈ others) :
    (rankBy period rows).head? = (rankBy period others).head? := by
  ext best
  rw [head?_rankBy distinct, head?_rankBy distinctOthers]
  simp only [sameRows]

theorem lookup_foldl_firstByCategory (categoryId : Int)
    (periods : List PricePeriod) (first : List (Int × PricePeriod)) :
    (periods.foldl (fun first period =>
        if period.categoryId ∈ first.map Prod.fst then first
        else first ++ [(period.categoryId, period)]) first).lookup
        categoryId = (first.lookup categoryId).or
        (periods.find? fun period =>
          period.categoryId = categoryId) := by
  induction periods generalizing first with
  | nil => simp
  | cons period periods ih =>
    rw [List.foldl_cons, ih, List.find?_cons]
    by_cases met : period.categoryId ∈ first.map Prod.fst
    · rw [if_pos met]
      by_cases same : period.categoryId = categoryId
      · subst same
        obtain ⟨entry, found⟩ : ∃ entry,
            first.lookup period.categoryId = some entry := by
          obtain ⟨entry, member, same⟩ := List.mem_map.mp met
          rw [← Option.isSome_iff_exists, List.lookup_isSome_iff]
          exact ⟨entry, member, beq_iff_eq.mpr same.symm⟩
        rw [found]
        rfl
      · simp [same]
    · rw [if_neg met, List.lookup_append]
      by_cases same : period.categoryId = categoryId
      · subst same
        simp
      · have other : (categoryId == period.categoryId) = false :=
          beq_eq_false_iff_ne.mpr (same ·.symm)
        simp [same, other, List.lookup_cons]

theorem lookup_firstByCategory (categoryId : Int) (periods : List PricePeriod) :
    (NightlyRates.firstByCategory periods).lookup categoryId =
      periods.find? fun period => decide (period.categoryId = categoryId) := by
  unfold NightlyRates.firstByCategory
  rw [lookup_foldl_firstByCategory]
  rfl

namespace NightlyRates

variable (rates : NightlyRates) (hotelId categoryId : Int)

def dailyRate? (day : Int) : Option DailyRate :=
  rates.dailyRates.find? fun row =>
    row.hotelId = hotelId ∧ row.categoryId = categoryId ∧ row.date = day

/-- Period that sets the price of a day. -/
def winner? (day : Int) : Option PricePeriod :=
  (rankPeriods (rates.activePeriods hotelId categoryId day day)).head?

/-- Price a category falls back to. -/
def categoryBase? : Option Int :=
  (rates.category? hotelId categoryId).bind RateCategory.basePricePerNight

/-- Where the price of a day comes from. -/
def rateSource (day : Int) : String :=
  if (rates.dailyRate? hotelId categoryId day).isSome then "daily_rate"
  else if (rates.winner? hotelId categoryId day).isSome then "price_period"
  else if rates.categoryBase? hotelId categoryId = none then "none"
  else "category_base"

theorem eq_of_dailyRate_key {row other : DailyRate}
    (member : row ∈ rates.dailyRates) (memberOther : other ∈ rates.dailyRates)
    (same : row.key = other.key) : row = other :=
  List.inj_on_of_nodup_map rates.distinctDays member memberOther same

/-- The periods read for a range have different numbers. -/
theorem distinct_periodsWithin (first last : Int) :
    ((rates.periodsWithin hotelId categoryId first last).map (·.id)).Nodup :=
  nodup_map_sortByKey _ _ (rates.distinctPeriods.sublist (List.filter_sublist.map _))

variable {first last day : Int}

theorem dailyRateOn_dailyRatesWithin (within : first ≤ day ∧ day ≤ last) :
    dailyRateOn (rates.dailyRatesWithin hotelId categoryId first last) day =
      rates.dailyRate? hotelId categoryId day := by
  unfold dailyRatesWithin
  apply find?_eq_of_unique
  · intro row
    simp only [List.mem_reverse, List.mem_filter, decide_eq_true_eq]
    constructor
    · rintro ⟨⟨member, hotel, category, -⟩, sameDay⟩
      exact ⟨member, hotel, category, sameDay⟩
    · rintro ⟨member, hotel, category, rfl⟩
      exact ⟨⟨member, hotel, category, within⟩, rfl⟩
  · intro row member other memberOther sameDay otherDay
    simp only [List.mem_reverse, List.mem_filter, decide_eq_true_eq]
      at member memberOther sameDay otherDay
    apply rates.eq_of_dailyRate_key member.1 memberOther.1
    unfold DailyRate.key
    rw [member.2.1, memberOther.2.1, member.2.2.1, memberOther.2.2.1, sameDay, otherDay]

theorem find?_dailyRates_onDay {categoryIds : List Int} {day : Int}
    (listed : categoryId ∈ categoryIds) :
    ((rates.dailyRates.filter fun row => row.hotelId = hotelId ∧ row.categoryId ∈ categoryIds ∧
          row.date = day).reverse.find? fun row =>
        row.categoryId = categoryId) =
      rates.dailyRate? hotelId categoryId day := by
  apply find?_eq_of_unique
  · intro row
    simp only [List.mem_reverse, List.mem_filter, decide_eq_true_eq]
    constructor
    · rintro ⟨⟨member, hotel, -, sameDay⟩, category⟩
      exact ⟨member, hotel, category, sameDay⟩
    · rintro ⟨member, hotel, rfl, sameDay⟩
      exact ⟨⟨member, hotel, listed, sameDay⟩, rfl⟩
  · intro row member other memberOther category otherCategory
    simp only [List.mem_reverse, List.mem_filter, decide_eq_true_eq]
      at member memberOther category otherCategory
    apply rates.eq_of_dailyRate_key member.1 memberOther.1
    unfold DailyRate.key
    rw [member.2.1, memberOther.2.1, category, otherCategory, member.2.2.2, memberOther.2.2.2]

theorem find?_activePeriods (within : first ≤ day ∧ day ≤ last) :
    ((rankPeriods (rates.activePeriods hotelId categoryId first last)).find? (·.Covers day)) =
      rates.winner? hotelId categoryId day := by
  rw [find?_rankPeriods]
  unfold activePeriods
  rw [List.filter_filter]
  congr 3
  funext row
  rw [← Bool.decide_and, decide_eq_decide]
  constructor
  · rintro ⟨⟨started, ended⟩, hotel, category, kept, active, -⟩
    exact ⟨hotel, category, kept, active, started, ended⟩
  · rintro ⟨hotel, category, kept, active, started, ended⟩
    exact ⟨⟨started, ended⟩, hotel, category, kept, active,
      started.trans within.2, within.1.trans ended⟩

theorem lookup_firstByCategory_winner {categoryIds : List Int} {day : Int}
    (listed : categoryId ∈ categoryIds) :
    (firstByCategory (sortByKey (·.categoryId) (rankPeriods
        (rates.pricePeriods.filter fun row => row.hotelId = hotelId ∧ row.categoryId ∈ categoryIds ∧
            row.deletedAt = none ∧ row.isActive = true ∧
            row.startDate ≤ day ∧ day ≤ row.endDate)))).lookup categoryId =
      rates.winner? hotelId categoryId day := by
  rw [lookup_firstByCategory, ← List.head?_filter, ← sortByKey_filter,
    sortByKey_of_same_key categoryId]
  · unfold rankPeriods
    rw [← rankBy_filter, List.filter_filter]
    congr 3
    funext row
    rw [← Bool.decide_and, decide_eq_decide]
    constructor
    · rintro ⟨category, hotel, -, rest⟩
      exact ⟨hotel, category, rest⟩
    · rintro ⟨hotel, category, rest⟩
      exact ⟨category, hotel, category ▸ listed, rest⟩
  · intro row member
    exact of_decide_eq_true (List.mem_filter.mp member).2

theorem head?_rankBy_periodsWithin (within : first ≤ day ∧ day ≤ last) :
    (rankBy id (((rates.periodsWithin hotelId categoryId first last).map
        PricePeriod.toNumberedPeriod).filter fun period =>
          period.isActive = true ∧ period.Covers day)).head? =
      (rates.winner? hotelId categoryId day).map PricePeriod.toNumberedPeriod := by
  rw [List.filter_map, rankBy_map, List.head?_map]
  congr 1
  refine head?_rankBy_congr ?_ ?_ ?_
  · exact (rates.distinct_periodsWithin hotelId categoryId first last).sublist
      (List.filter_sublist.map _)
  · exact rates.distinctPeriods.sublist (List.filter_sublist.map _)
  · intro row
    unfold periodsWithin activePeriods
    simp only [List.mem_filter, mem_sortByKey, decide_eq_true_eq, Function.comp_apply]
    constructor
    · rintro ⟨⟨member, hotel, category, kept, -⟩, active, started, ended⟩
      exact ⟨member, hotel, category, kept, active, started, ended⟩
    · rintro ⟨member, hotel, category, kept, active, started, ended⟩
      exact ⟨⟨member, hotel, category, kept, started.trans within.2,
        within.1.trans ended⟩, active, started, ended⟩

/-! ## What each reader returns -/

/-- A single night under the rows of its day. -/
theorem getPriceForDate_eq (day : Int) (paymentMethod : Option String) :
    rates.getPriceForDate hotelId categoryId day paymentMethod =
      match rates.dailyRate? hotelId categoryId day with
      | some daily =>
        priceWithPaymentMethodOverride daily.toMethodPrices daily.price paymentMethod
      | none =>
        match rates.winner? hotelId categoryId day with
        | some period => periodPrice period paymentMethod
        | none => (rates.categoryBase? hotelId categoryId).getD 0 := rfl

theorem resolveDay_date (dailyRows : List DailyRate) (periods : List PricePeriod)
    (basePrice : Option Int) (paymentMethod : Option String) (day : Int) :
    (resolveDay dailyRows periods basePrice paymentMethod day).date = day := by
  unfold resolveDay
  cases dailyRateOn dailyRows day with
  | some row => rfl
  | none => cases periods.find? fun period => decide (period.Covers day) <;> rfl

/-- A day of a calendar has the price of the single night. -/
theorem resolveDay_agrees (within : first ≤ day ∧ day ≤ last) (paymentMethod : Option String) :
    let resolved := resolveDay (rates.dailyRatesWithin hotelId categoryId first last)
      (rankPeriods (rates.activePeriods hotelId categoryId first last))
      (rates.categoryBase? hotelId categoryId) paymentMethod day
    resolved.price = rates.getPriceForDate hotelId categoryId day paymentMethod ∧
      resolved.source = rates.rateSource hotelId categoryId day := by
  intro resolved
  rw [getPriceForDate_eq]
  unfold rateSource
  have unfolded : resolved = resolveDay (rates.dailyRatesWithin hotelId categoryId first last)
      (rankPeriods (rates.activePeriods hotelId categoryId first last))
      (rates.categoryBase? hotelId categoryId) paymentMethod day := rfl
  unfold resolveDay at unfolded
  rw [rates.dailyRateOn_dailyRatesWithin hotelId categoryId within,
    rates.find?_activePeriods hotelId categoryId within] at unfolded
  rw [unfolded]
  cases rates.dailyRate? hotelId categoryId day with
  | some daily => exact ⟨rfl, rfl⟩
  | none =>
    cases rates.winner? hotelId categoryId day with
    | some period => exact ⟨rfl, rfl⟩
    | none => exact ⟨rfl, rfl⟩

/-- The preview of a season starts from the price of the single night. -/
theorem effectivePeriodPrices_agrees (within : first ≤ day ∧ day ≤ last) :
    let effective := effectivePeriodPrices day
      (dailyRateOn (rates.dailyRatesWithin hotelId categoryId first last) day)
      ((rates.periodsWithin hotelId categoryId first last).map PricePeriod.toNumberedPeriod)
      (rates.categoryBase? hotelId categoryId)
    effective.1.price = rates.getPriceForDate hotelId categoryId day none ∧
      effective.2 = rates.rateSource hotelId categoryId day := by
  intro effective
  rw [getPriceForDate_eq]
  unfold rateSource
  have unfolded : effective = effectivePeriodPrices day
      (dailyRateOn (rates.dailyRatesWithin hotelId categoryId first last) day)
      ((rates.periodsWithin hotelId categoryId first last).map PricePeriod.toNumberedPeriod)
      (rates.categoryBase? hotelId categoryId) := rfl
  unfold effectivePeriodPrices at unfolded
  rw [rates.dailyRateOn_dailyRatesWithin hotelId categoryId within,
    rates.head?_rankBy_periodsWithin hotelId categoryId within] at unfolded
  rw [unfolded]
  cases rates.dailyRate? hotelId categoryId day with
  | some daily => exact ⟨rfl, rfl⟩
  | none =>
    cases rates.winner? hotelId categoryId day with
    | some period => exact ⟨rfl, rfl⟩
    | none => exact ⟨rfl, rfl⟩

theorem eq_of_category_id {row other : RateCategory}
    (member : row ∈ rates.categories) (memberOther : other ∈ rates.categories)
    (same : row.id = other.id) : row = other :=
  List.inj_on_of_nodup_map rates.distinctCategories member memberOther same

variable {category : RateCategory}

theorem category?_of_mem
    (member : category ∈ rates.categories) (mine : category.hotelId = hotelId) :
    rates.category? hotelId category.id = some category := by
  unfold category?
  cases search : rates.categories.find? fun row =>
      decide (row.id = category.id ∧ row.hotelId = hotelId) with
  | none =>
    rw [List.find?_eq_none] at search
    exact absurd (decide_eq_true ⟨rfl, mine⟩) (search category member)
  | some row =>
    have same := List.find?_some search
    rw [decide_eq_true_eq] at same
    rw [rates.eq_of_category_id (List.mem_of_find?_eq_some search) member same.1]

theorem lookup_map_categories {β : Type} {categories : List RateCategory} (value : RateCategory -> β)
    (listed : category ∈ categories)
    (only : ∀ other ∈ categories, other.id = category.id -> other = category) :
    (categories.map fun row => (row.id, value row)).lookup category.id = some (value category) := by
  induction categories with
  | nil => cases listed
  | cons head rest ih =>
    rw [List.map_cons, List.lookup_cons]
    by_cases same : category.id = head.id
    · rw [only head List.mem_cons_self same.symm, beq_self_eq_true]
    · rw [beq_eq_false_iff_ne.mpr same]
      refine ih ?_ (List.forall_mem_cons.mp only).2
      rcases List.mem_cons.mp listed with rfl | later
      · exact absurd rfl same
      · exact later

theorem resolveCurrentRates_agrees {categories : List RateCategory} {day : Int}
    (rows : ∀ row ∈ categories, row ∈ rates.categories)
    (listed : category ∈ categories) (mine : category.hotelId = hotelId) :
    (rates.resolveCurrentRatesForCategories hotelId categories day).lookup category.id =
      some (rates.getPriceForDate hotelId category.id day none,
        rates.rateSource hotelId category.id day) := by
  have found := rates.category?_of_mem hotelId (rows category listed) mine
  have listedHere : category ∈ categories.filter fun row =>
      decide (row.hotelId = hotelId) :=
    List.mem_filter.mpr ⟨listed, decide_eq_true mine⟩
  have listedId := List.mem_map_of_mem (f := RateCategory.id) listedHere
  unfold resolveCurrentRatesForCategories
  rw [lookup_map_categories _ listedHere fun other member =>
      rates.eq_of_category_id (rows other (List.mem_of_mem_filter member)) (rows category listed),
    rates.find?_dailyRates_onDay hotelId category.id listedId,
    rates.lookup_firstByCategory_winner hotelId category.id listedId,
    getPriceForDate_eq]
  unfold rateSource categoryBase?
  rw [found]
  cases rates.dailyRate? hotelId category.id day with
  | some daily => rfl
  | none =>
    cases rates.winner? hotelId category.id day with
    | some period => rfl
    | none => cases base : category.basePricePerNight <;> simp [base]

/-- A category that has two overlapping seasons and a daily rate. -/
def doubleCategory : RateCategory where
  id := 1
  hotelId := 1
  basePricePerNight := some 8000

def summerPeriod : PricePeriod where
  id := 1
  hotelId := 1
  categoryId := 1
  startDate := 101
  endDate := 104
  pricePerNight := 12000
  priceCash := some 11000

def carnivalPeriod : PricePeriod where
  id := 2
  hotelId := 1
  categoryId := 1
  startDate := 102
  endDate := 103
  pricePerNight := 15000
  priority := 1

def holidayRate : DailyRate where
  id := 1
  hotelId := 1
  categoryId := 1
  date := 103
  price := 20000

theorem summer_distinctPeriods : ([summerPeriod, carnivalPeriod].map (·.id)).Nodup := by
  decide

def summerRates : NightlyRates where
  dailyRates := [holidayRate]
  pricePeriods := [summerPeriod, carnivalPeriod]
  categories := [doubleCategory]
  distinctDays := List.nodup_singleton _
  distinctPeriods := summer_distinctPeriods
  distinctCategories := List.nodup_singleton _

end NightlyRates
end HotelPms.Rates
