import HotelPms.Rates.OnePrecedence
import HotelPms.Rates.SeasonDrafts
import Mathlib.Logic.Relation

/-!
# Confirmed drafts do what their preview said

The price of a day depends on the best active season over it.  A confirmation
that finds the rows of its preview leads each day of its range to the same
best season as the preview did, although the preview numbered a new season on
its own, and leaves the other days as it finds them.
-/

namespace HotelPms.Rates

open Checked DayCounts KeySort

/-- Values of the best season of a day. -/
def winnerValues (periods : List NumberedPeriod) (day : Int) : Option PeriodValues :=
  (rankBy id (periods.filter fun period =>
    period.isActive = true ∧ period.Covers day)).head?.map NumberedPeriod.toPeriodValues

theorem effectivePeriodPrices_eq
    (day : Int) (daily : Option DailyRate) (periods : List NumberedPeriod)
    (base : Option Int) :
    effectivePeriodPrices day daily periods base =
      match daily with
      | some row =>
        (effectivePrices row.price { row.toMethodPrices with }, "daily_rate")
      | none =>
        match winnerValues periods day with
        | some winner =>
          (effectivePrices winner.pricePerNight winner.toPeriodPrices, "price_period")
        | none =>
          (effectivePrices (base.getD 0) {},
            if base = none then "none" else "category_base") := by
  unfold effectivePeriodPrices winnerValues
  cases daily with
  | some row => rfl
  | none =>
    cases (rankBy id (periods.filter fun period =>
      period.isActive = true ∧ period.Covers day)).head? <;> rfl

variable {day : Int} {periods others : List NumberedPeriod}

theorem effectivePeriodPrices_congr (same : winnerValues periods day = winnerValues others day)
    (daily : Option DailyRate) (base : Option Int) :
    effectivePeriodPrices day daily periods base = effectivePeriodPrices day daily others base := by
  rw [effectivePeriodPrices_eq, effectivePeriodPrices_eq, same]

theorem winnerValues_congr (distinct : (periods.map NumberedPeriod.id).Nodup)
    (distinctOthers : (others.map NumberedPeriod.id).Nodup)
    (sameRows : ∀ period : NumberedPeriod,
      period.isActive = true -> period.Covers day -> (period ∈ periods ↔ period ∈ others)) :
    winnerValues periods day = winnerValues others day := by
  unfold winnerValues
  congr 1
  refine head?_rankBy_congr (distinct.sublist (List.filter_sublist.map _))
    (distinctOthers.sublist (List.filter_sublist.map _)) ?_
  intro period
  rw [List.mem_filter, List.mem_filter, decide_eq_true_eq]
  constructor
  · rintro ⟨member, active, covers⟩
    exact ⟨(sameRows period active covers).mp member, active, covers⟩
  · rintro ⟨member, active, covers⟩
    exact ⟨(sameRows period active covers).mpr member, active, covers⟩

theorem head?_rankBy_newest {newest : NumberedPeriod}
    (distinct : (periods.map NumberedPeriod.id).Nodup)
    (newer : ∀ period ∈ periods, period.id < newest.id) :
    (rankBy id (periods ++ [newest])).head? =
      match (rankBy id periods).head? with
      | none => some newest
      | some best =>
        if best.priority ≤ newest.priority then some newest
        else some best := by
  have distinctAll : ((periods ++ [newest]).map fun period => (id period).id).Nodup := by
    rw [List.map_append]
    refine distinct.append (List.nodup_singleton _) ?_
    intro number member isNewest
    obtain ⟨period, listed, rfl⟩ := List.mem_map.mp member
    have smaller := newer period listed
    rw [List.mem_singleton.mp isNewest] at smaller
    exact smaller.false
  cases found : (rankBy id periods).head? with
  | none =>
    have empty : periods = [] := by
      rw [List.head?_eq_none_iff] at found
      cases periods with
      | nil => rfl
      | cons period rest =>
        have member : period ∈ rankBy id (period :: rest) := by
          unfold rankBy
          rw [mem_sortByKey, mem_sortByKey]
          exact List.mem_cons_self
        rw [found] at member
        cases member
    rw [empty]
    rfl
  | some best =>
    have isBest := (head?_rankBy distinct).mp found
    show (rankBy id (periods ++ [newest])).head? =
      if best.priority ≤ newest.priority then some newest else some best
    split_ifs with wins
    · rw [head?_rankBy distinctAll]
      refine ⟨List.mem_concat_self, ?_⟩
      intro period member
      rcases List.mem_append.mp member with old | new
      · have below := isBest.2 period old
        have smaller := newer period old
        simp only [id] at below ⊢
        omega
      · rw [List.mem_singleton.mp new]
        exact .inr ⟨rfl, le_rfl⟩
    · rw [head?_rankBy distinctAll]
      refine ⟨List.mem_append_left _ isBest.1, ?_⟩
      intro period member
      rcases List.mem_append.mp member with old | new
      · exact isBest.2 period old
      · rw [List.mem_singleton.mp new]
        exact .inl (not_le.mp wins)

theorem winnerValues_newest {values : PeriodValues}
    {number other : Int} (distinct : (periods.map NumberedPeriod.id).Nodup)
    (newer : ∀ period ∈ periods, period.id < number)
    (newerOther : ∀ period ∈ periods, period.id < other) :
    winnerValues (periods ++ [{ values with id := number }]) day =
      winnerValues (periods ++ [{ values with id := other }]) day := by
  unfold winnerValues
  rw [List.filter_append, List.filter_append]
  by_cases concerns : values.isActive = true ∧ values.Covers day
  · have kept (number : Int) : [({ values with id := number } : NumberedPeriod)].filter
            (fun period => period.isActive = true ∧ period.Covers day) =
          [{ values with id := number }] := by
      simp [concerns]
    have selected := distinct.sublist ((List.filter_sublist (p := fun period : NumberedPeriod =>
        decide (period.isActive = true ∧ period.Covers day))).map NumberedPeriod.id)
    rw [kept number, kept other, head?_rankBy_newest selected fun period member =>
        newer period (List.mem_of_mem_filter member),
      head?_rankBy_newest selected fun period member =>
        newerOther period (List.mem_of_mem_filter member)]
    cases (rankBy id (periods.filter fun period =>
        period.isActive = true ∧ period.Covers day)).head? with
    | none => rfl
    | some best =>
      simp only
      split_ifs <;> rfl
  · have ignored (number : Int) : [({ values with id := number } : NumberedPeriod)].filter
            (fun period =>
              period.isActive = true ∧ period.Covers day) = [] := by
      simp only [List.filter_cons, decide_eq_false concerns]
      rfl
    rw [ignored number, ignored other]

/-- A change names its season, or its new season has the greatest number. -/
structure WellNumbered (action : PeriodAction) (periodId : Option Int)
    (newId : Int) (live : List NumberedPeriod) : Prop where
  named : action ≠ .create -> ∃ id, periodId = some id
  newer : action = .create -> ∀ period ∈ live, period.id < newId

variable {action : PeriodAction} {periodId : Option Int}
    {after : Option PeriodValues} {newId : Int} {live : List NumberedPeriod}

theorem mem_changePeriods {period : NumberedPeriod} :
    period ∈ changePeriods action periodId after newId live ↔
      (period ∈ live ∧ (action = .create ∨ some period.id ≠ periodId)) ∨
        action ≠ .delete ∧ ∃ values ∈ after, period = { values with
            id := if action = .create then newId else periodId.getD 0 } := by
  unfold changePeriods
  cases action <;> cases after <;> simp

section

variable (distinct : (live.map NumberedPeriod.id).Nodup)
include distinct

/-- Seasons keep different numbers. -/
theorem distinct_changePeriods (numbered : WellNumbered action periodId newId live) :
    ((changePeriods action periodId after newId live).map NumberedPeriod.id).Nodup := by
  have others := distinct.sublist ((List.filter_sublist (p := fun period : NumberedPeriod =>
      decide (some period.id ≠ periodId))).map NumberedPeriod.id)
  unfold changePeriods
  cases action with
  | delete => exact others
  | create =>
    cases after with
    | none => exact distinct
    | some values =>
      rw [List.map_append]
      refine distinct.append (List.nodup_singleton _) ?_
      intro number member isNew
      obtain ⟨period, listed, rfl⟩ := List.mem_map.mp member
      have smaller := numbered.newer rfl period listed
      rw [List.mem_singleton.mp isNew] at smaller
      exact smaller.false
  | update =>
    cases after with
    | none => exact others
    | some values =>
      obtain ⟨id, rfl⟩ := numbered.named (by decide)
      rw [List.map_append]
      refine others.append (List.nodup_singleton _) ?_
      intro number member isNew
      obtain ⟨period, listed, rfl⟩ := List.mem_map.mp member
      have other := of_decide_eq_true (List.mem_filter.mp listed).2
      exact other (congrArg some (List.mem_singleton.mp isNew))

theorem winnerValues_changePeriods_congr (distinctOthers : (others.map NumberedPeriod.id).Nodup)
    (numbered : WellNumbered action periodId newId live)
    (numberedOthers : WellNumbered action periodId newId others)
    (sameRows : ∀ period : NumberedPeriod, period.Covers day -> (period ∈ live ↔ period ∈ others)) :
    winnerValues (changePeriods action periodId after newId live) day =
      winnerValues (changePeriods action periodId after newId others) day := by
  refine winnerValues_congr (distinct_changePeriods distinct numbered)
    (distinct_changePeriods distinctOthers numberedOthers) ?_
  intro period _ covers
  rw [mem_changePeriods, mem_changePeriods, sameRows period covers]

theorem winnerValues_changePeriods_newest {other : Int}
    (numbered : WellNumbered action periodId newId live)
    (numberedOther : WellNumbered action periodId other live) :
    winnerValues (changePeriods action periodId after newId live) day =
      winnerValues (changePeriods action periodId after other live) day := by
  cases action with
  | create =>
    cases after with
    | none => rfl
    | some values =>
      exact winnerValues_newest distinct (numbered.newer rfl) (numberedOther.newer rfl)
  | update => cases after <;> rfl
  | delete => rfl

theorem winnerValues_changePeriods_outside (numbered : WellNumbered action periodId newId live)
    (valuesElsewhere : ∀ values ∈ after, ¬values.Covers day)
    (namedElsewhere : ∀ period ∈ live, some period.id = periodId -> ¬period.Covers day) :
    winnerValues (changePeriods action periodId after newId live) day = winnerValues live day := by
  refine winnerValues_congr (distinct_changePeriods distinct numbered) distinct ?_
  intro period _ covers
  rw [mem_changePeriods]
  constructor
  · rintro (⟨member, -⟩ | ⟨-, values, given, rfl⟩)
    · exact member
    · exact absurd covers (valuesElsewhere values given)
  · intro member
    exact .inl ⟨member, .inr (namedElsewhere period member · covers)⟩

end

namespace NightlyRates

variable (rates : NightlyRates) (hotelId categoryId : Int)

/-- Seasons of a category that are not removed. -/
def livePeriods : List NumberedPeriod :=
  (rates.pricePeriods.filter fun row => row.hotelId = hotelId ∧ row.categoryId = categoryId ∧
      row.deletedAt = none).map PricePeriod.toNumberedPeriod

/-- Prices and source of a day over all the rows of a category. -/
def effectiveOn (day : Int) : EffectivePrices × String :=
  effectivePeriodPrices day (rates.dailyRate? hotelId categoryId day)
    (rates.livePeriods hotelId categoryId)
    (rates.categoryBase? hotelId categoryId)

variable {period : NumberedPeriod}

theorem mem_livePeriods : period ∈ rates.livePeriods hotelId categoryId ↔
      ∃ row ∈ rates.pricePeriods, row.hotelId = hotelId ∧
        row.categoryId = categoryId ∧ row.deletedAt = none ∧ row.toNumberedPeriod = period := by
  unfold livePeriods
  simp only [List.mem_map, List.mem_filter, decide_eq_true_eq, and_assoc]

theorem distinct_livePeriods :
    ((rates.livePeriods hotelId categoryId).map NumberedPeriod.id).Nodup := by
  unfold livePeriods
  rw [List.map_map]
  exact rates.distinctPeriods.sublist (List.filter_sublist.map _)

variable {first last day : Int} {values : PeriodValues}

/-- Snapshots of a range hold the seasons that meet it. -/
theorem mem_periodsWithin :
    period ∈ (rates.periodsWithin hotelId categoryId first last).map PricePeriod.toNumberedPeriod ↔
      period ∈ rates.livePeriods hotelId categoryId ∧
        period.startDate ≤ last ∧ first ≤ period.endDate := by
  unfold periodsWithin
  rw [mem_livePeriods]
  simp only [List.mem_map, mem_sortByKey, List.mem_filter, decide_eq_true_eq]
  constructor
  · rintro ⟨row, ⟨member, hotel, category, kept, started, ended⟩, rfl⟩
    exact ⟨⟨row, member, hotel, category, kept, rfl⟩, started, ended⟩
  · rintro ⟨⟨row, member, hotel, category, kept, rfl⟩, started, ended⟩
    exact ⟨row, ⟨member, hotel, category, kept, started, ended⟩, rfl⟩

theorem distinct_snapshots (first last : Int) :
    (((rates.periodsWithin hotelId categoryId first last).map
      PricePeriod.toNumberedPeriod).map NumberedPeriod.id).Nodup := by
  rw [List.map_map]
  exact rates.distinct_periodsWithin hotelId categoryId first last

/-- The best season of a day is among the seasons of a range around it. -/
theorem winnerValues_periodsWithin (within : first ≤ day ∧ day ≤ last) :
    winnerValues ((rates.periodsWithin hotelId categoryId first last).map
        PricePeriod.toNumberedPeriod) day =
      winnerValues (rates.livePeriods hotelId categoryId) day := by
  refine winnerValues_congr (rates.distinct_snapshots hotelId categoryId first last)
    (rates.distinct_livePeriods hotelId categoryId) ?_
  intro period _ covers
  rw [mem_periodsWithin]
  exact ⟨(·.1), fun member => ⟨member, covers.1.trans within.2, within.1.trans covers.2⟩⟩

variable {row : PricePeriod}

theorem mem_livePeriods_of_period? {id : Int}
    (found : rates.period? hotelId categoryId id = some row) :
    row ∈ rates.pricePeriods ∧ row.id = id ∧ row.hotelId = hotelId ∧
      row.categoryId = categoryId ∧ row.deletedAt = none := by
  have accepted := List.find?_some found
  rw [decide_eq_true_eq] at accepted
  exact ⟨List.mem_of_find?_eq_some found, accepted.2.2.1, accepted.1, accepted.2.1, accepted.2.2.2⟩

theorem periodValues_eq_ok
    (kept : periodValues row = .ok values) : values = row.toPeriodValues := by
  unfold periodValues at kept
  simp only [bind_eq_ok, pure_eq_ok] at kept
  obtain ⟨_, _, rfl⟩ := kept
  rfl

theorem snapshotPeriod_eq_ok {kept : NumberedPeriod} (snapshot : snapshotPeriod row = .ok kept) :
    kept = row.toNumberedPeriod := by
  unfold snapshotPeriod at snapshot
  simp only [bind_eq_ok, pure_eq_ok] at snapshot
  obtain ⟨values, isValues, rfl⟩ := snapshot
  rw [periodValues_eq_ok isValues]

theorem periodSnapshotRows_eq_ok {snapshots : List NumberedPeriod}
    (read : rates.periodSnapshotRows hotelId categoryId first last = .ok snapshots) :
    snapshots = (rates.periodsWithin hotelId categoryId first last).map
      PricePeriod.toNumberedPeriod :=
  eq_map_of_mapM_eq_ok read snapshotPeriod_eq_ok

theorem snapshotDailyRate_eq_ok {row kept : DailyRate}
    (snapshot : snapshotDailyRate row = .ok kept) : kept = id row := by
  unfold snapshotDailyRate at snapshot
  simp only [bind_eq_ok, pure_eq_ok] at snapshot
  obtain ⟨_, _, rfl⟩ := snapshot
  rfl

theorem mem_dailyRateScopeSnapshot {snapshots : List DailyRate}
    (read : rates.dailyRateScopeSnapshot hotelId categoryId first last =
      .ok snapshots) {row : DailyRate} :
    row ∈ snapshots ↔ row ∈ rates.dailyRatesWithin hotelId categoryId first last := by
  rw [eq_map_of_mapM_eq_ok read snapshotDailyRate_eq_ok, List.map_id, mem_sortByKey, mem_sortByKey]

theorem dailyRate?_of_same_snapshot {other : NightlyRates} {snapshots : List DailyRate}
    (read : rates.dailyRateScopeSnapshot hotelId categoryId first last = .ok snapshots)
    (readOther : other.dailyRateScopeSnapshot hotelId categoryId first last = .ok snapshots)
    (within : first ≤ day ∧ day ≤ last) :
    rates.dailyRate? hotelId categoryId day = other.dailyRate? hotelId categoryId day := by
  rw [← dailyRateOn_dailyRatesWithin _ _ _ within, ← dailyRateOn_dailyRatesWithin _ _ _ within]
  apply find?_eq_of_unique
  · intro row
    rw [List.mem_reverse, List.mem_reverse, ← rates.mem_dailyRateScopeSnapshot hotelId categoryId
      read, ← other.mem_dailyRateScopeSnapshot hotelId categoryId readOther]
  · intro row member another memberAnother sameDay anotherDay
    rw [List.mem_reverse] at member memberAnother
    unfold dailyRatesWithin at member memberAnother
    simp only [List.mem_filter, decide_eq_true_eq] at member memberAnother sameDay anotherDay
    apply rates.eq_of_dailyRate_key member.1 memberAnother.1
    unfold DailyRate.key
    rw [member.2.1, memberAnother.2.1, member.2.2.1, memberAnother.2.2.1, sameDay, anotherDay]

/-- A change leads to the seasons that it describes. -/
structure Applies (after : NightlyRates) (operation : PeriodOperation)
    (newPeriodId : Int) : Prop where
  sameDailyRates : after.dailyRates = rates.dailyRates
  sameCategories : after.categories = rates.categories
  seasons : ∀ period, period ∈ after.livePeriods hotelId categoryId ↔
    period ∈ changePeriods operation.action operation.periodId
      operation.after newPeriodId (rates.livePeriods hotelId categoryId)

theorem mem_livePeriods_update {id : Int} (found : rates.period? hotelId categoryId id = some row) :
    period ∈ (rates.updatePeriod id (fun row => { row with toPeriodValues := values })
        fun _ => rfl).livePeriods hotelId categoryId ↔
      (period ∈ rates.livePeriods hotelId categoryId ∧ period.id ≠ id) ∨
        period = { values with id := id } := by
  rw [mem_livePeriods, mem_livePeriods]
  unfold updatePeriod
  simp only [List.mem_map]
  constructor
  · rintro ⟨_, ⟨old, member, rfl⟩, kept⟩
    by_cases changed : old.id = id
    · rw [if_pos changed] at kept
      exact .inr (by rw [← kept.2.2.2, ← changed])
    · rw [if_neg changed] at kept
      exact .inl ⟨⟨old, member, kept⟩, kept.2.2.2 ▸ changed⟩
  · rintro (⟨⟨old, member, kept⟩, other⟩ | rfl)
    · have unchanged : old.id ≠ id := kept.2.2.2 ▸ other
      exact ⟨old, ⟨old, member, if_neg unchanged⟩, kept⟩
    · obtain ⟨member, rfl, hotel, category, live⟩ :=
        rates.mem_livePeriods_of_period? hotelId categoryId found
      exact ⟨_, ⟨row, member, if_pos rfl⟩, hotel, category, live, rfl⟩

/-- Seasons after one of them is removed. -/
theorem mem_livePeriods_delete {id now : Int} {userId : Option Int} :
    period ∈ (rates.updatePeriod id (fun row => { row with
          deletedAt := some now
          deletedByUserId := userId })
        fun _ => rfl).livePeriods hotelId categoryId ↔
      period ∈ rates.livePeriods hotelId categoryId ∧ period.id ≠ id := by
  rw [mem_livePeriods, mem_livePeriods]
  unfold updatePeriod
  simp only [List.mem_map]
  constructor
  · rintro ⟨_, ⟨old, member, rfl⟩, kept⟩
    by_cases changed : old.id = id
    · rw [if_pos changed] at kept
      cases kept.2.2.1
    · rw [if_neg changed] at kept
      exact ⟨⟨old, member, kept⟩, kept.2.2.2 ▸ changed⟩
  · rintro ⟨⟨old, member, kept⟩, other⟩
    have unchanged : old.id ≠ id := kept.2.2.2 ▸ other
    exact ⟨old, ⟨old, member, if_neg unchanged⟩, kept⟩

/-- Seasons after a new one. -/
theorem mem_livePeriods_add {id : Int} {added : NightlyRates}
    (isAdded : rates.addPeriod { values with
      id := id
      hotelId := hotelId
      categoryId := categoryId } = .ok added)
    :
    period ∈ added.livePeriods hotelId categoryId ↔
      period ∈ rates.livePeriods hotelId categoryId ∨ period = { values with id := id } := by
  unfold addPeriod at isAdded
  split_ifs at isAdded with fresh
  cases isAdded
  rw [mem_livePeriods, mem_livePeriods]
  simp only [List.mem_append, List.mem_singleton]
  constructor
  · rintro ⟨row, member | rfl, kept⟩
    · exact .inl ⟨row, member, kept⟩
    · exact .inr kept.2.2.2.symm
  · rintro (⟨row, member, kept⟩ | rfl)
    · exact ⟨row, .inl member, kept⟩
    · exact ⟨_, .inr rfl, rfl, rfl, rfl, rfl⟩

theorem addPeriod_eq_ok {added : NightlyRates} (isAdded : rates.addPeriod row = .ok added) :
    added.dailyRates = rates.dailyRates ∧ added.categories = rates.categories := by
  unfold addPeriod at isAdded
  split_ifs at isAdded with fresh
  cases isAdded
  exact ⟨rfl, rfl⟩

variable {operation : PeriodOperation}

theorem applyOperation_applies
    {newPeriodId now : Int} {userId : Option Int} {changed : NightlyRates}
    (applied : applyOperation rates hotelId categoryId operation newPeriodId
      now userId = .ok changed)
    (named : operation.action ≠ .create -> ∃ id, operation.periodId = some id)
    (found : ∀ id ∈ operation.periodId, ∃ row, rates.period? hotelId categoryId id = some row) :
    rates.Applies hotelId categoryId changed operation newPeriodId := by
  unfold applyOperation at applied
  cases action : operation.action with
  | create =>
    cases after : operation.after with
    | none => rw [action, after] at applied; cases applied
    | some values =>
      rw [action, after] at applied
      obtain ⟨sameDailyRates, sameCategories⟩ := rates.addPeriod_eq_ok applied
      refine ⟨sameDailyRates, sameCategories, fun period => ?_⟩
      rw [rates.mem_livePeriods_add hotelId categoryId applied, mem_changePeriods, action, after]
      simp
  | update =>
    obtain ⟨id, isNamed⟩ := named (by rw [action]; decide)
    obtain ⟨row, isRow⟩ := found id isNamed
    cases after : operation.after with
    | none => rw [action, after] at applied; cases applied
    | some values =>
      rw [action, after, isNamed, pure_eq_ok] at applied
      subst applied
      refine ⟨rfl, rfl, fun period => ?_⟩
      rw [Option.getD_some, rates.mem_livePeriods_update hotelId
        categoryId isRow, mem_changePeriods, action, after, isNamed]
      simp
  | delete =>
    obtain ⟨id, isNamed⟩ := named (by rw [action]; decide)
    rw [action, isNamed, pure_eq_ok] at applied
    subst applied
    refine ⟨rfl, rfl, fun period => ?_⟩
    rw [Option.getD_some, rates.mem_livePeriods_delete hotelId categoryId,
      mem_changePeriods, action, isNamed]
    simp

/-- What a preview records of the tables. -/
structure Previewed (operation : PeriodOperation) : Prop where
  samePeriods : operation.periodsBefore =
    (rates.periodsWithin hotelId categoryId operation.scopeStart
      operation.scopeEnd).map PricePeriod.toNumberedPeriod
  sameDailyRates : rates.dailyRateScopeSnapshot hotelId categoryId
    operation.scopeStart operation.scopeEnd = .ok operation.dailyRatesBefore
  sameBase : operation.categoryBaseBefore = rates.categoryBase? hotelId categoryId
  named : operation.action ≠ .create -> ∃ id, operation.periodId = some id
  valuesInside : ∀ values ∈ operation.after, operation.scopeStart ≤ values.startDate ∧
      values.endDate ≤ operation.scopeEnd
  namedInside : ∀ id ∈ operation.periodId, ∃ period ∈ operation.periodsBefore, period.id = id ∧
      operation.scopeStart ≤ period.startDate ∧ period.endDate ≤ operation.scopeEnd
  changes : operation.effectiveChanges =
    (loopDays operation.scopeStart (operation.scopeEnd + 1)).filterMap (effectiveChange
        (rates.dailyRatesWithin hotelId categoryId operation.scopeStart operation.scopeEnd)
        operation.periodsBefore
        (simulatedAfter operation.action operation.periodId operation.after operation.periodsBefore)
        operation.categoryBaseBefore)

/-- Prices of a day that a preview expects. -/
def previewedOn (operation : PeriodOperation) (day : Int) : EffectivePrices × String :=
  effectivePeriodPrices day (rates.dailyRate? hotelId categoryId day)
    (simulatedAfter operation.action operation.periodId operation.after operation.periodsBefore)
    (rates.categoryBase? hotelId categoryId)

variable {rates hotelId categoryId}

theorem Previewed.before_eq (previewed : rates.Previewed hotelId categoryId operation)
    (within : operation.scopeStart ≤ day ∧ day ≤ operation.scopeEnd) :
    effectivePeriodPrices day (dailyRateOn (rates.dailyRatesWithin hotelId categoryId
          operation.scopeStart operation.scopeEnd) day)
        operation.periodsBefore operation.categoryBaseBefore =
      rates.effectiveOn hotelId categoryId day := by
  rw [rates.dailyRateOn_dailyRatesWithin hotelId categoryId within,
    previewed.sameBase, previewed.samePeriods]
  exact effectivePeriodPrices_congr (rates.winnerValues_periodsWithin hotelId categoryId within) _ _

theorem Previewed.after_of_listed (previewed : rates.Previewed hotelId categoryId operation)
    {change : EffectiveChange} (listed : change ∈ operation.effectiveChanges) :
    (operation.scopeStart ≤ change.date ∧
        change.date ≤ operation.scopeEnd) ∧
      change.before = (rates.effectiveOn hotelId categoryId change.date).1 ∧
      change.after = (rates.previewedOn hotelId categoryId operation change.date).1 ∧
      change.before ≠ change.after := by
  rw [previewed.changes, List.mem_filterMap] at listed
  obtain ⟨day, visited, computed⟩ := listed
  have days := mem_loopDays.mp visited
  have within : operation.scopeStart ≤ day ∧ day ≤ operation.scopeEnd :=
    ⟨days.1, by omega⟩
  unfold effectiveChange at computed
  simp only [previewed.before_eq within] at computed
  split_ifs at computed with changes
  cases computed
  refine ⟨within, rfl, ?_, changes⟩
  unfold previewedOn
  rw [← rates.dailyRateOn_dailyRatesWithin hotelId categoryId within, ← previewed.sameBase]

theorem Previewed.unchanged_of_unlisted (previewed : rates.Previewed hotelId categoryId operation)
    (within : operation.scopeStart ≤ day ∧ day ≤ operation.scopeEnd)
    (unlisted : ∀ change ∈ operation.effectiveChanges, change.date ≠ day) :
    (rates.previewedOn hotelId categoryId operation day).1 =
      (rates.effectiveOn hotelId categoryId day).1 := by
  by_contra changes
  have expected : effectivePeriodPrices day (dailyRateOn (rates.dailyRatesWithin hotelId categoryId
        operation.scopeStart operation.scopeEnd) day)
      (simulatedAfter operation.action operation.periodId operation.after
        operation.periodsBefore) operation.categoryBaseBefore =
        rates.previewedOn hotelId categoryId operation day := by
    unfold previewedOn
    rw [rates.dailyRateOn_dailyRatesWithin hotelId categoryId within, previewed.sameBase]
  refine unlisted {
    date := day
    before := (rates.effectiveOn hotelId categoryId day).1
    after := (rates.previewedOn hotelId categoryId operation day).1
    sourceBefore := (rates.effectiveOn hotelId categoryId day).2
    sourceAfter :=
      (rates.previewedOn hotelId categoryId operation day).2 } ?_ rfl
  rw [previewed.changes, List.mem_filterMap]
  refine ⟨day, mem_loopDays.mpr ⟨within.1, by omega⟩, ?_⟩
  unfold effectiveChange
  simp only [previewed.before_eq within, expected]
  exact if_pos (changes ·.symm)

theorem lt_inventedNumber {live : List NumberedPeriod} (member : period ∈ live) :
    period.id < (live.map (·.id)).max?.getD 0 + 1 := by
  have listed := List.mem_map_of_mem (f := (·.id)) member
  cases greatest : (live.map fun period : NumberedPeriod => period.id).max? with
  | none =>
    rw [List.max?_eq_none_iff] at greatest
    rw [greatest] at listed
    cases listed
  | some number =>
    have above := (List.max?_eq_some_iff.mp greatest).2 _ listed
    rw [Option.getD_some]
    omega

/-- Tables that hold the rows a preview was computed over. -/
structure Confirms (later : NightlyRates) (hotelId categoryId : Int)
    (operation : PeriodOperation) : Prop where
  samePeriods : operation.periodsBefore =
    (later.periodsWithin hotelId categoryId operation.scopeStart
      operation.scopeEnd).map PricePeriod.toNumberedPeriod
  sameDailyRates : later.dailyRateScopeSnapshot hotelId categoryId
    operation.scopeStart operation.scopeEnd = .ok operation.dailyRatesBefore
  sameBase : operation.categoryBaseBefore = later.categoryBase? hotelId categoryId

variable {later changed : NightlyRates} {operation : PeriodOperation} {newPeriodId : Int}

section

variable (previewed : rates.Previewed hotelId categoryId operation)
include previewed

theorem numbered_livePeriods (newest : ∀ row ∈ later.pricePeriods, row.id < newPeriodId) :
    WellNumbered operation.action operation.periodId newPeriodId
      (later.livePeriods hotelId categoryId) where
  named := previewed.named
  newer := by
    intro _ period member
    obtain ⟨row, isRow, -, -, -, rfl⟩ := (later.mem_livePeriods hotelId categoryId).mp member
    exact newest row isRow

theorem winnerValues_confirmed (confirms : later.Confirms hotelId categoryId operation)
    (applies : later.Applies hotelId categoryId changed operation newPeriodId)
    (newest : ∀ row ∈ later.pricePeriods, row.id < newPeriodId)
    (within : operation.scopeStart ≤ day ∧ day ≤ operation.scopeEnd) :
    winnerValues (changed.livePeriods hotelId categoryId) day =
      winnerValues (simulatedAfter operation.action operation.periodId
        operation.after operation.periodsBefore) day := by
  have distinctLive := later.distinct_livePeriods hotelId categoryId
  have numbered := numbered_livePeriods previewed newest
  have distinctKept : (operation.periodsBefore.map NumberedPeriod.id).Nodup := by
    rw [confirms.samePeriods]
    exact later.distinct_snapshots hotelId categoryId _ _
  have isLive : ∀ period ∈ operation.periodsBefore,
      period ∈ later.livePeriods hotelId categoryId := by
    intro period member
    rw [confirms.samePeriods, mem_periodsWithin] at member
    exact member.1
  have numberedKept : WellNumbered operation.action operation.periodId
      newPeriodId operation.periodsBefore :=
    ⟨previewed.named, fun create period member =>
      numbered.newer create period (isLive period member)⟩
  calc winnerValues (changed.livePeriods hotelId categoryId) day
      = winnerValues (changePeriods operation.action operation.periodId operation.after newPeriodId
          (later.livePeriods hotelId categoryId)) day :=
        winnerValues_congr (changed.distinct_livePeriods hotelId categoryId)
          (distinct_changePeriods distinctLive numbered)
          fun period _ _ => applies.seasons period
    _ = winnerValues (changePeriods operation.action operation.periodId
          operation.after newPeriodId operation.periodsBefore) day := by
        refine winnerValues_changePeriods_congr distinctLive distinctKept numbered numberedKept ?_
        intro period covers
        rw [confirms.samePeriods, mem_periodsWithin]
        exact ⟨fun member => ⟨member, covers.1.trans within.2, within.1.trans covers.2⟩, (·.1)⟩
    _ = winnerValues (simulatedAfter operation.action operation.periodId
          operation.after operation.periodsBefore) day :=
        winnerValues_changePeriods_newest distinctKept numberedKept
          ⟨previewed.named, fun _ _ member => lt_inventedNumber member⟩

theorem effectiveOn_confirmed (confirms : later.Confirms hotelId categoryId operation)
    (applies : later.Applies hotelId categoryId changed operation newPeriodId)
    (newest : ∀ row ∈ later.pricePeriods, row.id < newPeriodId)
    (within : operation.scopeStart ≤ day ∧ day ≤ operation.scopeEnd) :
    changed.effectiveOn hotelId categoryId day =
      rates.previewedOn hotelId categoryId operation day := by
  have sameDaily : changed.dailyRate? hotelId categoryId day =
      rates.dailyRate? hotelId categoryId day := by
    rw [dailyRate?_of_same_snapshot rates hotelId categoryId
      previewed.sameDailyRates confirms.sameDailyRates within]
    unfold dailyRate?
    rw [applies.sameDailyRates]
  have sameBase : changed.categoryBase? hotelId categoryId =
      rates.categoryBase? hotelId categoryId := by
    rw [← previewed.sameBase, confirms.sameBase]
    unfold categoryBase? category?
    rw [applies.sameCategories]
  unfold effectiveOn
  rw [sameDaily, sameBase]
  exact effectivePeriodPrices_congr
    (winnerValues_confirmed previewed confirms applies newest within) _ _

theorem effectiveOn_outside (confirms : later.Confirms hotelId categoryId operation)
    (applies : later.Applies hotelId categoryId changed operation newPeriodId)
    (newest : ∀ row ∈ later.pricePeriods, row.id < newPeriodId)
    (outside : day < operation.scopeStart ∨ operation.scopeEnd < day) :
    changed.effectiveOn hotelId categoryId day = later.effectiveOn hotelId categoryId day := by
  have distinctLive := later.distinct_livePeriods hotelId categoryId
  have numbered := numbered_livePeriods previewed newest
  unfold effectiveOn dailyRate? categoryBase? category?
  rw [applies.sameDailyRates, applies.sameCategories]
  refine effectivePeriodPrices_congr ?_ _ _
  rw [winnerValues_congr (changed.distinct_livePeriods hotelId categoryId) (distinct_changePeriods
    distinctLive numbered) fun period _ _ => applies.seasons period]
  refine winnerValues_changePeriods_outside distinctLive numbered ?_ ?_
  · intro values given covers
    have inside := previewed.valuesInside values given
    unfold PeriodValues.Covers at covers
    omega
  · intro period member named covers
    obtain ⟨kept, isKept, sameId, inside⟩ := previewed.namedInside period.id named.symm
    rw [confirms.samePeriods, mem_periodsWithin] at isKept
    have same : kept = period := List.inj_on_of_nodup_map distinctLive isKept.1 member sameId
    rw [same] at inside
    unfold PeriodValues.Covers at covers
    omega

end

end NightlyRates
end HotelPms.Rates
