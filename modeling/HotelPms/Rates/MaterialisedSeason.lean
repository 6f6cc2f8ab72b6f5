import HotelPms.Foundation.Table
import HotelPms.Rates.OnePrecedence
import HotelPms.Rates.SeasonDrafts

/-!
# A season written into daily rates

Applying a season gives every day of it a daily rate with its base price.  The
rate of a day keeps the prices by payment method it had, and a new one has
none, so the prices stay what the season says where these agree with its own.
-/

namespace HotelPms.Rates

open DayCounts

namespace NightlyRates

variable (rates : NightlyRates) (hotelId categoryId : Int)

/-- Daily rate of a day with the base price of a season. -/
def seasonRate (period : PricePeriod) (newId : Int -> Int) (day : Int) : DailyRate :=
  match rates.dailyRate? hotelId categoryId day with
  | none =>
    { id := newId day, hotelId := hotelId, categoryId := categoryId, date := day
      price := period.pricePerNight }
  | some existing => { existing with price := period.pricePerNight }

/-- Daily rates with a season written into some days. -/
def materialisedRows (period : PricePeriod) (newId : Int -> Int) (days : List Int) :
    List DailyRate :=
  days.foldl (fun rows day =>
    Table.upsert DailyRate.key (rates.seasonRate hotelId categoryId period newId day) rows)
    rates.dailyRates

/-- Prices by payment method that the daily rate of a day carries. -/
def methodPricesOn (day : Int) : MethodPrices :=
  match rates.dailyRate? hotelId categoryId day with
  | some row => row.toMethodPrices
  | none => {}

/-- The prices a season sets are its own, as they were where it won, and those
of other days stay. -/
structure KeepsSeasonPrices (after : NightlyRates) (period : PricePeriod) : Prop where
  keeps : ∀ day method, period.Covers day -> rates.dailyRate? hotelId categoryId day = none ->
    rates.winner? hotelId categoryId day = some period ->
    after.getPriceForDate hotelId categoryId day method =
      rates.getPriceForDate hotelId categoryId day method
  sets : ∀ day method, period.Covers day ->
    after.getPriceForDate hotelId categoryId day method = periodPrice period method
  frame : ∀ day method, ¬period.Covers day -> after.getPriceForDate hotelId categoryId day method =
      rates.getPriceForDate hotelId categoryId day method

/-- On the days of a season, what the daily rate carries for each payment
method comes to what the season says. -/
def CarriesSeasonPrices (period : PricePeriod) : Prop :=
  ∀ day method, period.Covers day ->
    priceWithPaymentMethodOverride (rates.methodPricesOn hotelId categoryId day)
      period.pricePerNight method = periodPrice period method

variable {hotelId categoryId} {period : PricePeriod} {newId : Int -> Int}

theorem seasonRate_key (day : Int) :
    (rates.seasonRate hotelId categoryId period newId day).key = (hotelId, categoryId, day) := by
  unfold seasonRate
  cases stored : rates.dailyRate? hotelId categoryId day with
  | none => rfl
  | some existing =>
    have isKey := List.find?_some stored
    simp_all [DailyRate.key]

theorem find_dailyRates (day : Int) :
    Table.find DailyRate.key (hotelId, categoryId, day) rates.dailyRates =
      rates.dailyRate? hotelId categoryId day := by
  simp [Table.find, dailyRate?, DailyRate.key]

theorem materialisedRows_distinct (days : List Int) :
    ((rates.materialisedRows hotelId categoryId period newId days).map DailyRate.key).Nodup := by
  induction days using List.reverseRecOn with
  | nil => exact rates.distinctDays
  | append_singleton days day ih =>
    unfold materialisedRows at ih ⊢
    rw [List.foldl_concat]
    exact Table.nodup_upsert _ _ ih

theorem find_materialisedRows (days : List Int) (day : Int) :
    Table.find DailyRate.key (hotelId, categoryId, day)
        (rates.materialisedRows hotelId categoryId period newId days) =
      if day ∈ days then some (rates.seasonRate hotelId categoryId period newId day)
      else rates.dailyRate? hotelId categoryId day := by
  induction days using List.reverseRecOn with
  | nil => exact rates.find_dailyRates day
  | append_singleton days last ih =>
    have distinct := @materialisedRows_distinct rates hotelId categoryId period newId days
    unfold materialisedRows at ih distinct ⊢
    rw [List.foldl_concat]
    by_cases same : last = day
    · rw [if_pos (by simp [same]), same, ← rates.seasonRate_key day]
      exact Table.find_upsert_self _ _ distinct
    · rw [Table.find_upsert_of_ne (by simp [seasonRate_key, same]), ih]
      simp [Ne.symm same]

/-- Write a season into the daily rates of its days. -/
def applyPricePeriod (hotelId categoryId periodId : Int) (newId : Int -> Int) :
    Except String (NightlyRates × Nat) :=
  match rates.period? hotelId categoryId periodId with
  | none => .error ("PricePeriod " ++ toString periodId ++ " not found for hotel=" ++
      toString hotelId ++ " category=" ++ toString categoryId)
  | some period =>
    let days := loopDays period.startDate (period.endDate + 1)
    .ok ({ rates with
      dailyRates := rates.materialisedRows hotelId categoryId period newId days
      distinctDays := rates.materialisedRows_distinct days }, days.length)

/-- The prices stay what the season says exactly when the daily rates of its
days carry them. -/
theorem applyPricePeriod_keepsSeasonPrices_iff {periodId : Int} {after : NightlyRates} {count : Nat}
    (applied : rates.applyPricePeriod hotelId categoryId periodId newId = .ok (after, count)) :
    ∃ period, rates.period? hotelId categoryId periodId = some period ∧
      (rates.KeepsSeasonPrices hotelId categoryId after period ↔
        rates.CarriesSeasonPrices hotelId categoryId period) := by
  unfold applyPricePeriod at applied
  split at applied
  · cases applied
  next period found =>
  refine ⟨period, found, ?_⟩
  have price (day : Int) (method : Option String) :
      after.getPriceForDate hotelId categoryId day method =
        if period.Covers day then priceWithPaymentMethodOverride
          (rates.methodPricesOn hotelId categoryId day) period.pricePerNight method
        else rates.getPriceForDate hotelId categoryId day method := by
    rw [getPriceForDate_eq, ← find_dailyRates]
    cases applied
    rw [find_materialisedRows]
    have ofSeason : day ∈ loopDays period.startDate (period.endDate + 1) ↔ period.Covers day :=
      mem_loopDays.trans (and_congr_right' Int.lt_add_one_iff)
    unfold methodPricesOn seasonRate
    by_cases covers : period.Covers day
    · rw [if_pos (ofSeason.mpr covers), if_pos covers]
      cases rates.dailyRate? hotelId categoryId day <;> rfl
    · rw [if_neg (ofSeason.not.mpr covers), if_neg covers]
      rfl
  constructor
  · intro kept day method covers
    rw [← kept.sets day method covers, price, if_pos covers]
  · intro carried
    have sets (day : Int) (method : Option String) (covers : period.Covers day) :
        after.getPriceForDate hotelId categoryId day method = periodPrice period method := by
      rw [price, if_pos covers, carried day method covers]
    refine ⟨fun day method covers missing wins => ?_, sets, fun day method outside => ?_⟩
    · rw [sets day method covers, getPriceForDate_eq, missing, wins]
    · rw [price, if_neg outside]

/-- The carnival and the holiday in it have no prices by payment method. -/
theorem applyPricePeriod_keepsSeasonPrices_iff_carnival :
    ∃ after, summerRates.applyPricePeriod 1 1 2 id = .ok (after, 2) ∧
      summerRates.KeepsSeasonPrices 1 1 after carnivalPeriod := by
  obtain ⟨after, applied⟩ :
      ∃ after, summerRates.applyPricePeriod 1 1 2 id = .ok (after, 2) := ⟨_, rfl⟩
  obtain ⟨period, found, kept⟩ := summerRates.applyPricePeriod_keepsSeasonPrices_iff applied
  have carnival : summerRates.period? 1 1 2 = some carnivalPeriod := rfl
  cases carnival.symm.trans found
  refine ⟨after, applied, kept.mpr fun day method _ => ?_⟩
  have nothing : summerRates.methodPricesOn 1 1 day = {} := by
    unfold methodPricesOn
    cases stored : summerRates.dailyRate? 1 1 day with
    | none => rfl
    | some row => rw [List.mem_singleton.mp (List.mem_of_find?_eq_some stored)]; rfl
  rw [nothing]
  rfl

/-- The cash price of the summer is lost. -/
theorem not_keepsSeasonPrices_summer :
    ∃ after, summerRates.applyPricePeriod 1 1 1 id = .ok (after, 4) ∧
      ¬summerRates.KeepsSeasonPrices 1 1 after summerPeriod := by
  refine ⟨_, rfl, fun kept => ?_⟩
  have cash := kept.sets 101 (some "cash") (by decide)
  revert cash
  decide +kernel

end NightlyRates

end HotelPms.Rates
