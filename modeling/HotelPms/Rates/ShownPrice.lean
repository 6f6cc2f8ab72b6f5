import HotelPms.Foundation.Decimal
import HotelPms.Rates.Prices

/-!
# When the shown price is the quoted price

Both selections choose among the same prices of a day.  They agree exactly
when the price that the calendar ranks best and the first price that the quote
ranks best have one amount in whole cents and one currency.
-/

namespace HotelPms.Rates

open Checked KeySort

variable {α : Type}

theorem find?_buildDirectPrices
    {plans : List RatePlan} {prices : List (RatePlanPrice α)} {day : Int}
    {currency : String} {plan : RatePlan}
    (distinct : (plans.map RatePlan.id).Nodup) (member : plan ∈ plans) :
    (buildDirectPrices plans prices day currency).find? (·.ratePlanId = plan.id) =
      directPrice prices day currency plan := by
  have ofPlan : ∀ (other : RatePlan) (entry : DirectPrice α),
      directPrice prices day currency other = some entry -> entry.ratePlanId = other.id := by
    intro other entry shown
    obtain ⟨selected, -, rfl⟩ := Option.map_eq_some_iff.mp shown
    rfl
  unfold buildDirectPrices
  induction plans with
  | nil => cases member
  | cons first plans ih =>
    obtain ⟨fresh, distinct⟩ := List.nodup_cons.mp distinct
    rcases List.mem_cons.mp member with rfl | later
    · have elsewhere : ∀ entry ∈ plans.filterMap (directPrice prices day currency),
          ¬decide (entry.ratePlanId = plan.id) = true := by
        intro entry entryIn same
        obtain ⟨other, otherIn, shown⟩ := List.mem_filterMap.mp entryIn
        rw [decide_eq_true_iff, ofPlan other entry shown] at same
        exact fresh (same ▸ List.mem_map_of_mem otherIn)
      cases shown : directPrice prices day currency plan with
      | none =>
        rw [List.filterMap_cons_none shown]
        exact List.find?_eq_none.mpr elsewhere
      | some entry =>
        rw [List.filterMap_cons_some shown, List.find?_cons_of_pos]
        exact decide_eq_true (ofPlan plan entry shown)
    · have different : first.id ≠ plan.id := fun same => fresh (same ▸ List.mem_map_of_mem later)
      cases shown : directPrice prices day currency first with
      | none =>
        rw [List.filterMap_cons_none shown]
        exact ih distinct later
      | some entry =>
        rw [List.filterMap_cons_some shown, List.find?_cons_of_neg]
        · exact ih distinct later
        · rw [decide_eq_true_iff, ofPlan first entry shown]
          exact different

section Tables

variable {tables : RateTables α} {categoryId dateFrom dateTo day : Int} {plan : RatePlan}

theorem mem_categoryPlans (member : plan ∈ categoryPlans tables categoryId) :
    plan ∈ tables.plans ∧ plan.isActive = true := by
  unfold categoryPlans at member
  rw [mem_sortByKey, List.mem_filter] at member
  exact ⟨member.1, (Bool.and_eq_true_iff.mp member.2).1⟩

theorem categoryPlans_distinct : ((categoryPlans tables categoryId).map RatePlan.id).Nodup :=
  nodup_map_sortByKey _ _ (tables.distinctPlans.sublist (List.Sublist.map _ List.filter_sublist))

theorem filter_calendarPrices (inWindow : dateFrom ≤ day ∧ day ≤ dateTo)
    (member : plan ∈ categoryPlans tables categoryId) :
    ((calendarPrices tables categoryId dateFrom dateTo).filter (·.ratePlanId = plan.id)).filter
        (·.ValidOver day day) =
      stayPrices tables plan.id day (day + 1) := by
  unfold calendarPrices
  rw [List.filter_filter, List.filter_filter]
  refine List.filter_congr fun price _ => ?_
  have oneNight : day + 1 - 1 = day := by omega
  rw [oneNight]
  apply Bool.eq_iff_iff.mpr
  simp only [Bool.and_eq_true, decide_eq_true_eq]
  constructor
  · rintro ⟨⟨valid, ofPlan⟩, active, -⟩
    exact ⟨active, ofPlan, valid⟩
  · rintro ⟨active, ofPlan, valid⟩
    refine ⟨⟨valid, ofPlan⟩, active, ?_, ?_, ?_⟩
    · rw [ofPlan]
      exact List.mem_map_of_mem member
    · exact fun start started => (valid.1 start started).trans inWindow.2
    · exact fun finish finished => inWindow.1.trans (valid.2 finish finished)

theorem shownPrice_eq (inWindow : dateFrom ≤ day ∧ day ≤ dateTo)
    (member : plan ∈ categoryPlans tables categoryId) :
    shownPrice tables categoryId dateFrom dateTo day plan =
      (((stayPrices tables plan.id day (day + 1)).argmax
        (calendarScore "direct")).filter fun selected =>
          calendarChannelScore "direct" selected ≠ 0).map fun selected =>
            (selected.baseAmount, orElse selected.currencyCode (hotelCurrency tables)) := by
  unfold shownPrice calendarDirectPrices
  rw [find?_buildDirectPrices categoryPlans_distinct member]
  unfold directPrice selectCalendarPrice
  rw [filter_calendarPrices inWindow member, Option.map_map]
  rfl

theorem activePlan?_eq (member : plan ∈ categoryPlans tables categoryId) :
    activePlan? tables plan.id = some plan := by
  obtain ⟨stored, active⟩ := mem_categoryPlans member
  unfold activePlan?
  cases found : tables.plans.find? fun other =>
      other.id = plan.id ∧ other.isActive = true with
  | none =>
    have absent := List.find?_eq_none.mp found plan stored
    simp [active] at absent
  | some other =>
    have matched := List.find?_some found
    rw [decide_eq_true_iff] at matched
    exact congrArg some (List.inj_on_of_nodup_map tables.distinctPlans
      (List.mem_of_find?_eq_some found) stored matched.1)

end Tables

/-! ## The two rankings -/

section Rankings

variable {price : RatePlanPrice α}

theorem quoteChannelScore_le :
    quoteChannelScore (some "direct") price ≤ calendarChannelScore "direct" price := by
  unfold quoteChannelScore calendarChannelScore
  split_ifs with direct general empty <;> simp_all

theorem quoteOccupancyScore_ne_zero {occupancy : Option Int}
    (unrestricted : price.occupancy = none) :
    quoteOccupancyScore occupancy price ≠ 0 := by
  unfold quoteOccupancyScore
  split_ifs <;> decide

theorem calendarChannelScore_le_of_calendarScore_le {other : RatePlanPrice α}
    (better : calendarScore "direct" other ≤ calendarScore "direct" price) :
    calendarChannelScore "direct" other ≤ calendarChannelScore "direct" price :=
  Prod.Lex.monotone_fst _ _ better

end Rankings

def RanksBest {κ : Type} [LinearOrder κ]
    (score : RatePlanPrice α -> κ) (prices : List (RatePlanPrice α))
    (price : RatePlanPrice α) : Prop :=
  price ∈ prices ∧ ∀ other ∈ prices, score other ≤ score price

/-- No price of the day is direct or general; or the best one in the calendar
and the first of the best ones in the quote, which is not one with an empty
channel, have one amount in whole cents and one currency. -/
def RankingsAgree [DecidableEq α] (roundCents : α -> α) (hotelCurrency : String)
    (plan : RatePlan) (occupancy : Option Int)
    (prices : List (RatePlanPrice α)) : Prop :=
  (∀ price ∈ prices, calendarChannelScore "direct" price = 0) ∨ ∃ shown quoted,
      RanksBest (calendarScore "direct") prices shown ∧
      RanksBest (quoteScore occupancy (some "direct")) prices quoted ∧
      (∀ other ∈ prices, RanksBest (quoteScore occupancy (some "direct")) prices other ->
          prices.idxOf quoted ≤ prices.idxOf other) ∧
      quoteChannelScore (some "direct") quoted ≠ 0 ∧
      shown.baseAmount = roundCents quoted.baseAmount ∧
      orElse shown.currencyCode hotelCurrency = orElse quoted.currencyCode plan.currencyCode

/-- The shown price is the quoted one, and there is none exactly when the
quote fails for lack of a price. -/
structure ShownIsQuoted (shown : Option (α × String))
    (quote : Except PricingPolicyError (α × String)) : Prop where
  equal : ∀ quoted, quote = .ok quoted -> shown = some quoted
  absent : shown = none ↔ ∃ reason, quote = .error reason ∧ reason.LacksPrice

section Selection

variable [DecidableEq α] {prices : List (RatePlanPrice α)} {price : RatePlanPrice α}

theorem argmax_eq_some_iff_ranksBest {κ : Type} [LinearOrder κ] {score : RatePlanPrice α -> κ} :
    prices.argmax score = some price ↔ RanksBest score prices price ∧
        ∀ other ∈ prices, RanksBest score prices other ->
          prices.idxOf price ≤ prices.idxOf other := by
  rw [List.argmax_eq_some_iff]
  constructor
  · rintro ⟨member, best, first⟩
    exact ⟨⟨member, best⟩, fun other otherIn otherBest =>
      first other otherIn (otherBest.2 price member)⟩
  · rintro ⟨⟨member, best⟩, first⟩
    exact ⟨member, best, fun other otherIn asGood => first other otherIn
      ⟨otherIn, fun another anotherIn => (best another anotherIn).trans asGood⟩⟩

omit [DecidableEq α] in
theorem eq_of_ranksBest_calendar
    (distinct : (prices.map RatePlanPrice.id).Nodup) {other : RatePlanPrice α}
    (best : RanksBest (calendarScore "direct") prices price)
    (otherBest : RanksBest (calendarScore "direct") prices other) :
    price = other := by
  have same := le_antisymm (otherBest.2 price best.1) (best.2 other otherBest.1)
  refine List.inj_on_of_nodup_map distinct best.1 otherBest.1 ?_
  have parts := Prod.mk.inj (toLex.injective same)
  have rest := Prod.mk.inj (toLex.injective parts.2)
  exact (Prod.mk.inj (toLex.injective rest.2)).2

end Selection

section Main

variable {tables : RateTables α} {categoryId dateFrom dateTo day : Int} {plan : RatePlan}
  {roundCents : α -> α} {occupancy : Option Int}

/-- The plan admits the one-night stay of a day. -/
def Admits (tables : RateTables α) (plan : RatePlan) (day : Int) (occupancy : Option Int) : Prop :=
  ∃ admitted, checkStay tables plan.id day (day + 1) occupancy = .ok admitted

theorem quoteRatePlanStay_eq (member : plan ∈ categoryPlans tables categoryId)
    (admits : Admits tables plan day occupancy) :
    quoteRatePlanStay tables roundCents plan.id day (day + 1) occupancy (some "direct") =
      (selectRatePlanPrice tables plan.id occupancy (some "direct") day (day + 1)).map fun price =>
          (roundCents price.baseAmount, orElse price.currencyCode plan.currencyCode) := by
  obtain ⟨admitted, admits⟩ := admits
  have samePlan : admitted = plan := by
    obtain ⟨-, -, admits⟩ := bind_eq_ok.mp admits
    rw [activePlan?_eq member] at admits
    obtain ⟨-, -, admits⟩ := bind_eq_ok.mp admits
    obtain ⟨-, -, admits⟩ := bind_eq_ok.mp admits
    obtain ⟨-, -, admits⟩ := bind_eq_ok.mp admits
    exact (pure_eq_ok.mp admits).symm
  unfold quoteRatePlanStay
  rw [admits, samePlan]
  cases selectRatePlanPrice tables plan.id occupancy (some "direct") day (day + 1) with
  | error reason => rfl
  | ok price => rfl

/-- The price a quote takes from the selected one, by its channel alone. -/
def takeSelected (selected : Option (RatePlanPrice α)) :
    Except PricingPolicyError (RatePlanPrice α) :=
  match selected with
  | none => .error .noActivePrices
  | some price =>
    if quoteChannelScore (some "direct") price = 0 then
      .error .noChannelPrice
    else .ok price

theorem selectRatePlanPrice_eq (unrestricted : ∀ price ∈ tables.prices, price.occupancy = none) :
    selectRatePlanPrice tables plan.id occupancy (some "direct") day (day + 1) =
      takeSelected ((stayPrices tables plan.id day (day + 1)).argmax
        (quoteScore occupancy (some "direct"))) := by
  unfold selectRatePlanPrice takeSelected
  cases chosen : (stayPrices tables plan.id day (day + 1)).argmax
      (quoteScore occupancy (some "direct")) with
  | none => rfl
  | some selected =>
    have member := List.argmax_mem (Option.mem_def.mpr chosen)
    have noOccupancy := unrestricted selected (List.mem_of_mem_filter member)
    have fits : ¬(occupancy ≠ none ∧ quoteOccupancyScore occupancy selected = 0) := fun fails =>
      quoteOccupancyScore_ne_zero noOccupancy fails.2
    unfold raiseIf
    dsimp only
    split_ifs
    · rfl
    · rfl

theorem takeSelected_lacking {price : RatePlanPrice α}
    (lacking : quoteChannelScore (some "direct") price = 0) :
    takeSelected (some price) = .error .noChannelPrice :=
  if_pos lacking

theorem takeSelected_taken {price : RatePlanPrice α}
    (offered : quoteChannelScore (some "direct") price ≠ 0) :
    takeSelected (some price) = .ok price :=
  if_neg offered

theorem rankingsAgree_iff [DecidableEq α] {prices : List (RatePlanPrice α)} {currency : String}
    {shown quoted : RatePlanPrice α}
    (distinct : (prices.map RatePlanPrice.id).Nodup)
    (chosenShown : prices.argmax (calendarScore "direct") = some shown)
    (chosenQuoted : prices.argmax (quoteScore occupancy (some "direct")) = some quoted)
    (offered : calendarChannelScore "direct" shown ≠ 0) :
    RankingsAgree roundCents currency plan occupancy prices ↔
      quoteChannelScore (some "direct") quoted ≠ 0 ∧
        shown.baseAmount = roundCents quoted.baseAmount ∧
        orElse shown.currencyCode currency = orElse quoted.currencyCode plan.currencyCode := by
  obtain ⟨bestShown, -⟩ := argmax_eq_some_iff_ranksBest.mp chosenShown
  obtain ⟨bestQuoted, first⟩ := argmax_eq_some_iff_ranksBest.mp chosenQuoted
  constructor
  · rintro (none | ⟨other, another, otherBest, anotherBest, isFirst, agree⟩)
    · exact absurd (none shown bestShown.1) offered
    · have sameQuoted := argmax_eq_some_iff_ranksBest.mpr ⟨anotherBest, isFirst⟩
      rw [chosenQuoted] at sameQuoted
      cases sameQuoted
      obtain rfl := eq_of_ranksBest_calendar distinct bestShown otherBest
      exact agree
  · exact (.inr ⟨shown, quoted, bestShown, bestQuoted, first, ·⟩)

theorem selections_agree_iff [DecidableEq α] {prices : List (RatePlanPrice α)} {currency : String}
    (distinct : (prices.map RatePlanPrice.id).Nodup) :
    ShownIsQuoted (((prices.argmax (calendarScore "direct")).filter fun selected =>
          calendarChannelScore "direct" selected ≠ 0).map fun selected =>
            (selected.baseAmount, orElse selected.currencyCode currency))
        ((takeSelected (prices.argmax (quoteScore occupancy (some "direct")))).map fun price =>
            (roundCents price.baseAmount, orElse price.currencyCode plan.currencyCode)) ↔
      RankingsAgree roundCents currency plan occupancy prices := by
  cases chosenShown : prices.argmax (calendarScore "direct") with
  | none =>
    obtain rfl := List.argmax_eq_none.mp chosenShown
    refine ⟨fun _ => .inl (by simp), fun _ => ⟨?_, ?_⟩⟩
    · intro quoted made
      cases made
    · exact ⟨fun _ => ⟨.noActivePrices, rfl, trivial⟩, fun _ => rfl⟩
  | some shown =>
    have bestShown := (argmax_eq_some_iff_ranksBest.mp chosenShown).1
    cases chosenQuoted : prices.argmax (quoteScore occupancy (some "direct")) with
    | none =>
      rw [List.argmax_eq_none.mp chosenQuoted] at chosenShown
      cases chosenShown
    | some quoted =>
      have quotedIn := (argmax_eq_some_iff_ranksBest.mp chosenQuoted).1.1
      by_cases offered : calendarChannelScore "direct" shown = 0
      · have nothing : ∀ price ∈ prices, calendarChannelScore "direct" price = 0 :=
          fun price member => Nat.le_zero.mp (offered ▸
            calendarChannelScore_le_of_calendarScore_le (bestShown.2 price member))
        have lacking : quoteChannelScore (some "direct") quoted = 0 :=
          Nat.le_zero.mp (nothing quoted quotedIn ▸ quoteChannelScore_le)
        rw [takeSelected_lacking lacking, Option.filter_some, if_neg (by simpa using offered)]
        refine ⟨fun _ => .inl nothing, fun _ => ⟨?_, ?_⟩⟩
        · intro price made
          cases made
        · exact ⟨fun _ => ⟨.noChannelPrice, rfl, trivial⟩, fun _ => rfl⟩
      · rw [rankingsAgree_iff distinct chosenShown chosenQuoted offered,
          Option.filter_some, if_pos (by simpa using offered)]
        by_cases lacking : quoteChannelScore (some "direct") quoted = 0
        · rw [takeSelected_lacking lacking]
          constructor
          · intro same
            have absent := same.absent.mpr ⟨.noChannelPrice, rfl, trivial⟩
            cases absent
          · exact (absurd lacking ·.1)
        · rw [takeSelected_taken lacking]
          constructor
          · intro same
            have equal := Option.some.inj (same.equal _ rfl)
            exact ⟨lacking, Prod.mk.inj equal⟩
          · rintro ⟨-, amount, code⟩
            refine ⟨fun price made => ?_, ?_⟩
            · rw [← Except.ok.inj made]
              exact congrArg some (Prod.ext amount code)
            · constructor
              · intro nothing
                cases nothing
              · rintro ⟨reason, failed, -⟩
                cases failed

theorem checkStay_failsWith {ratePlanId checkIn checkOut : Int} : FailsWith (¬·.LacksPrice)
      (checkStay tables ratePlanId checkIn checkOut occupancy) := by
  refine .bind (.raiseIf id) fun _ => ?_
  cases activePlan? tables ratePlanId with
  | none => exact .error id
  | some plan =>
    refine .bind (.raiseIf id) fun _ => .bind (.raiseIf id) fun _ => .bind ?_ fun _ => .ok
    unfold checkProductOccupancy
    split
    · exact .raiseIf id
    · exact .ok

theorem quoteRatePlanStay_refused (roundCents : α -> α)
    (refuses : ¬Admits tables plan day occupancy) :
    ∃ reason, ¬reason.LacksPrice ∧
      quoteRatePlanStay tables roundCents plan.id day (day + 1) occupancy
        (some "direct") = .error reason := by
  unfold quoteRatePlanStay
  cases checked : checkStay tables plan.id day (day + 1) occupancy with
  | error reason =>
    exact ⟨reason, checkStay_failsWith reason checked, rfl⟩
  | ok admitted => exact absurd ⟨admitted, checked⟩ refuses

theorem shownPrice_ne_none (inWindow : dateFrom ≤ day ∧ day ≤ dateTo)
    (member : plan ∈ categoryPlans tables categoryId) :
    shownPrice tables categoryId dateFrom dateTo day plan ≠ none ↔
      ∃ price ∈ stayPrices tables plan.id day (day + 1),
        calendarChannelScore "direct" price ≠ 0 := by
  rw [shownPrice_eq inWindow member]
  generalize stayPrices tables plan.id day (day + 1) = prices
  cases chosen : prices.argmax (calendarScore "direct") with
  | none =>
    rw [List.argmax_eq_none.mp chosen]
    simp
  | some shown =>
    have shownIn := List.argmax_mem (Option.mem_def.mpr chosen)
    rw [Option.filter_some, Ne, Option.map_eq_none_iff]
    constructor
    · intro present
      by_contra noneOffered
      push Not at noneOffered
      rw [if_neg (by simpa using noneOffered shown shownIn)] at present
      exact present rfl
    · rintro ⟨price, priceIn, offered⟩ absent
      have better := calendarChannelScore_le_of_calendarScore_le
        (List.le_of_mem_argmax priceIn (Option.mem_def.mpr chosen))
      have shownOffered : calendarChannelScore "direct" shown ≠ 0 := by
        omega
      rw [if_pos (by simpa using shownOffered)] at absent
      cases absent

/-- For a plan of the calendar whose prices have no occupancy, the shown price
of a day is the quoted one exactly when the plan admits the one-night stay and
the rankings agree, or it refuses the stay and some price of the day is direct
or general. -/
theorem shownPrice_isQuoted_iff [DecidableEq α]
    (unrestricted : ∀ price ∈ tables.prices, price.occupancy = none)
    (inWindow : dateFrom ≤ day ∧ day ≤ dateTo)
    (member : plan ∈ categoryPlans tables categoryId) :
    ShownIsQuoted (shownPrice tables categoryId dateFrom dateTo day plan)
        (quoteRatePlanStay tables roundCents plan.id day (day + 1) occupancy (some "direct")) ↔
      (Admits tables plan day occupancy ->
        RankingsAgree roundCents (hotelCurrency tables) plan occupancy
          (stayPrices tables plan.id day (day + 1))) ∧
      (¬Admits tables plan day occupancy -> ∃ price ∈ stayPrices tables plan.id day (day + 1),
          calendarChannelScore "direct" price ≠ 0) := by
  have distinct : ((stayPrices tables plan.id day (day + 1)).map RatePlanPrice.id).Nodup :=
    tables.distinctPrices.sublist (List.Sublist.map _ List.filter_sublist)
  by_cases admits : Admits tables plan day occupancy
  · rw [shownPrice_eq inWindow member, quoteRatePlanStay_eq member admits,
      selectRatePlanPrice_eq unrestricted, selections_agree_iff distinct]
    simp only [admits, true_implies, not_true_eq_false, false_implies, and_true]
  · obtain ⟨reason, otherwise, failed⟩ := quoteRatePlanStay_refused roundCents admits
    simp only [admits, false_implies, not_false_eq_true, true_implies, true_and]
    rw [failed, ← shownPrice_ne_none inWindow member]
    constructor
    · rintro ⟨-, absent⟩ none
      obtain ⟨other, same, lacks⟩ := absent.mp none
      exact otherwise (Except.error.inj same ▸ lacks)
    · intro present
      refine ⟨fun quoted made => ?_, ⟨(absurd · present), ?_⟩⟩
      · cases made
      · rintro ⟨other, same, lacks⟩
        exact absurd (Except.error.inj same ▸ lacks) otherwise

end Main

section Example

/-- A product of category 1. -/
def doubleRoom : RateProduct where
  id := 1
  primaryRoomCategoryId := some 1
  maxOccupancy := 2

def flexiblePlan : RatePlan where
  id := 1
  sellableProductId := 1

def yearPrice : RatePlanPrice ℚ where
  id := 1
  ratePlanId := 1
  baseAmount := 100
  validFrom := some 1

/-- A higher price from day 152 on. -/
def seasonPrice : RatePlanPrice ℚ where
  id := 2
  ratePlanId := 1
  baseAmount := 150
  validFrom := some 152

theorem seasonPrices_distinct : ([yearPrice, seasonPrice].map RatePlanPrice.id).Nodup := by
  decide

def seasonTables : RateTables ℚ where
  products := [doubleRoom]
  plans := [flexiblePlan]
  distinctPlans := List.nodup_singleton _
  prices := [yearPrice, seasonPrice]
  distinctPrices := seasonPrices_distinct

def yearTables : RateTables ℚ where
  products := [doubleRoom]
  plans := [flexiblePlan]
  distinctPlans := List.nodup_singleton _
  prices := [yearPrice]
  distinctPrices := List.nodup_singleton _

def roundToCents (amount : ℚ) : ℚ := Decimal.quantize 2 amount / 100

/-- With the price of the year alone, the shown price of day 161 is the quoted
one. -/
theorem shownPrice_isQuoted_yearPrice :
    ShownIsQuoted (shownPrice yearTables 1 150 170 161 flexiblePlan)
      (quoteRatePlanStay yearTables roundToCents 1 161 162 none (some "direct")) := by
  have member : flexiblePlan ∈ categoryPlans yearTables 1 := by
    decide +kernel
  have only : stayPrices yearTables flexiblePlan.id 161 (161 + 1) = [yearPrice] := by
    decide +kernel
  refine (shownPrice_isQuoted_iff (by decide) (by decide) member).mpr ?_
  rw [only]
  constructor
  · refine fun _ => .inr ⟨yearPrice, yearPrice, ?_, ?_, ?_, ?_, ?_, rfl⟩
    · simp [RanksBest]
    · simp [RanksBest]
    · simp
    · decide
    · decide +kernel
  · exact fun _ => ⟨yearPrice, by simp, by decide⟩

/-- From day 152 on the calendar shows the price of the season and the quote
takes the price of the year. -/
theorem not_shownIsQuoted_season :
    ¬ShownIsQuoted (shownPrice seasonTables 1 150 170 161 flexiblePlan)
      (quoteRatePlanStay seasonTables roundToCents 1 161 162 none (some "direct")) := by
  have quoted : quoteRatePlanStay seasonTables roundToCents 1 161 162 none
      (some "direct") = .ok (100, "ARS") := by
    decide +kernel
  have shown : shownPrice seasonTables 1 150 170 161 flexiblePlan = some (150, "ARS") := by
    decide +kernel
  intro same
  have equal := same.equal _ quoted
  cases equal

end Example

end HotelPms.Rates
