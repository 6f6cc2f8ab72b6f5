import HotelPms.Rates.SeasonPreview

/-!
# Previews and confirmations of drafts

An accepted request records a preview of the tables.  Whatever happens to the
rates and the drafts afterwards, a confirmation goes through only over the
rows of the preview.
-/

namespace HotelPms.Rates

open Checked DayCounts KeySort NightlyRates

theorem checkAction_named {action : String} {periodId : Option Int} {checked : PeriodAction}
    (accepted : checkAction action periodId = .ok checked)
    (named : checked ≠ .create) : ∃ id, periodId = some id := by
  unfold checkAction at accepted
  cases spelled : periodAction action with
  | none => rw [spelled] at accepted; cases accepted
  | some word =>
    rw [spelled] at accepted
    cases word with
    | create =>
      simp only [bind_eq_ok, pure_eq_ok] at accepted
      obtain ⟨_, _, rfl⟩ := accepted
      exact absurd rfl named
    | update =>
      simp only [bind_eq_ok, raiseIf_eq_ok] at accepted
      obtain ⟨_, positive, -⟩ := accepted
      cases periodId with
      | none => exact absurd le_rfl positive
      | some id => exact ⟨id, rfl⟩
    | delete =>
      simp only [bind_eq_ok, raiseIf_eq_ok] at accepted
      obtain ⟨_, positive, -⟩ := accepted
      cases periodId with
      | none => exact absurd le_rfl positive
      | some id => exact ⟨id, rfl⟩

theorem targetPeriod_mapM {rates : NightlyRates} {hotelId categoryId id : Int}
    {target : Option PricePeriod} {before : Option PeriodValues}
    (isTarget : targetPeriod rates hotelId categoryId (some id) = .ok target)
    (kept : target.mapM periodValues = .ok before) :
    ∃ row, rates.period? hotelId categoryId id = some row ∧ before = some row.toPeriodValues := by
  simp only [targetPeriod] at isTarget
  cases found : rates.period? hotelId categoryId id with
  | none => rw [found] at isTarget; cases isTarget
  | some row =>
    rw [found] at isTarget
    cases isTarget
    refine ⟨row, rfl, ?_⟩
    rw [Option.mapM_some] at kept
    cases snapshot : periodValues row with
    | error refusal => rw [snapshot] at kept; cases kept
    | ok values =>
      rw [snapshot] at kept
      cases kept
      rw [periodValues_eq_ok snapshot]

theorem within_scope {before after : Option PeriodValues}
    {values : PeriodValues} (given : values ∈ before ∨ values ∈ after) :
    (scopeDates before after).min?.getD 0 ≤ values.startDate ∧
      values.endDate ≤ (scopeDates before after).max?.getD 0 ∧
      (scopeDates before after).min?.getD 0 ≤ values.endDate ∧
      values.startDate ≤ (scopeDates before after).max?.getD 0 := by
  have listed : values.startDate ∈ scopeDates before after ∧
      values.endDate ∈ scopeDates before after := by
    unfold scopeDates
    rw [List.mem_flatMap, List.mem_flatMap]
    have member : values ∈ before.toList ++ after.toList := by
      rw [List.mem_append, Option.mem_toList, Option.mem_toList]
      exact given
    exact ⟨⟨values, member, by simp⟩, ⟨values, member, by simp⟩⟩
  have least {day : Int} (member : day ∈ scopeDates before after) :
      (scopeDates before after).min?.getD 0 ≤ day := by
    cases isLeast : (scopeDates before after).min? with
    | none =>
      rw [List.min?_eq_none_iff] at isLeast
      rw [isLeast] at member
      cases member
    | some first => exact (List.min?_eq_some_iff.mp isLeast).2 _ member
  have greatest {day : Int} (member : day ∈ scopeDates before after) :
      day ≤ (scopeDates before after).max?.getD 0 := by
    cases isGreatest : (scopeDates before after).max? with
    | none =>
      rw [List.max?_eq_none_iff] at isGreatest
      rw [isGreatest] at member
      cases member
    | some last => exact (List.max?_eq_some_iff.mp isGreatest).2 _ member
  exact ⟨least listed.1, greatest listed.2, least listed.2, greatest listed.1⟩

theorem category?_eq_some {rates : NightlyRates}
    {hotelId categoryId : Int} {category : RateCategory}
    (found : rates.category? hotelId categoryId = some category) :
    category.id = categoryId ∧ category.hotelId = hotelId := by
  have accepted := List.find?_some found
  rwa [decide_eq_true_eq] at accepted

namespace DraftDatabase

variable {db created : DraftDatabase} {hotelId categoryId : Int}

theorem categoryOrError_eq_ok {category : RateCategory}
    (found : db.categoryOrError hotelId categoryId = .ok category) :
    db.rates.category? hotelId categoryId = some category := by
  unfold categoryOrError at found
  cases search : db.rates.category? hotelId categoryId with
  | none => rw [search] at found; cases found
  | some row => rw [search, pure_eq_ok] at found; rw [found]

theorem addDraft_eq_ok {draft : RateChangeDraft} (added : db.addDraft draft = .ok created) :
    created.rates = db.rates ∧ created.drafts = db.drafts ++ [draft] := by
  unfold addDraft at added
  split_ifs at added with fresh
  cases added
  exact ⟨rfl, rfl⟩

theorem createPricePeriodDraft_previewed
    {casefold : String -> String} {action : String} {periodId : Option Int}
    {values : Option RawValues} {draftId : Int} {draft : RateChangeDraft}
    (accepted : db.createPricePeriodDraft hotelId casefold categoryId action
      periodId values draftId = .ok (created, draft)) :
    created.rates = db.rates ∧ created.drafts = db.drafts ++ [draft] ∧
      draft.hotelId = hotelId ∧ draft.categoryId = categoryId ∧
      draft.draftType = .pricePeriod ∧
      ∃ operation, draft.periodOperation = some operation ∧
        db.rates.Previewed hotelId categoryId operation := by
  unfold createPricePeriodDraft at accepted
  simp only [bind_eq_ok, pure_eq_ok] at accepted
  obtain ⟨category, isCategory, _, _, checked, isChecked, target, isTarget, _, _, before, isBefore,
    after, isAfter, operation, isOperation, result, added, equal⟩ := accepted
  have found := categoryOrError_eq_ok isCategory
  obtain ⟨rfl, rfl⟩ := category?_eq_some found
  obtain ⟨rfl, rfl⟩ := equal
  obtain ⟨sameRates, sameDrafts⟩ := addDraft_eq_ok added
  refine ⟨sameRates, sameDrafts, rfl, rfl, rfl, operation, rfl, ?_⟩
  unfold previewOperation at isOperation
  simp only [bind_eq_ok, pure_eq_ok] at isOperation
  obtain ⟨_, _, live, isLive, daily, isDaily, _, _, rfl⟩ := isOperation
  have samePeriods := periodSnapshotRows_eq_ok _ _ _ isLive
  refine ⟨samePeriods, isDaily, ?_, checkAction_named isChecked, ?_, ?_, rfl⟩
  · unfold categoryBase?
    rw [found]
    rfl
  · intro values given
    have inside := @within_scope before _ _ (.inr given)
    exact ⟨inside.1, inside.2.1⟩
  · rintro id rfl
    obtain ⟨row, isRow, rfl⟩ := targetPeriod_mapM isTarget isBefore
    have inside := @within_scope _ after _ (.inl (Option.mem_some_self row.toPeriodValues))
    obtain ⟨member, sameId, hotel, sameCategory, kept⟩ := mem_livePeriods_of_period? _ _ _ isRow
    refine ⟨row.toNumberedPeriod, ?_, sameId, inside.1, inside.2.1⟩
    rw [samePeriods, mem_periodsWithin, mem_livePeriods]
    exact ⟨⟨row, member, hotel, sameCategory, kept, rfl⟩, inside.2.2.2, inside.2.2.1⟩

/-- Rate changes of any kind: the rates may become any others, and drafts may
be added, confirmed or cancelled, but none loses its proposal. -/
structure RateChange (before after : DraftDatabase) : Prop where
  keepsProposals : ∀ draft ∈ before.drafts, ∃ kept ∈ after.drafts,
    kept.id = draft.id ∧ kept.hotelId = draft.hotelId ∧ kept.categoryId = draft.categoryId ∧
      kept.draftType = draft.draftType ∧
      kept.periodOperation = draft.periodOperation

theorem keepsProposals_of_changes {before after : DraftDatabase}
    (changes : Relation.ReflTransGen RateChange before after) :
    RateChange before after := by
  induction changes with
  | refl => exact ⟨fun draft member => ⟨draft, member, rfl, rfl, rfl, rfl, rfl⟩⟩
  | tail _ change ih =>
    refine ⟨fun draft member => ?_⟩
    obtain ⟨kept, isKept, id, hotel, category, type, operation⟩ := ih.keepsProposals draft member
    obtain ⟨last, isLast, lastId, lastHotel, lastCategory, lastType,
      lastOperation⟩ := change.keepsProposals kept isKept
    exact ⟨last, isLast, lastId.trans id, lastHotel.trans hotel,
      lastCategory.trans category, lastType.trans type,
      lastOperation.trans operation⟩

theorem checkSnapshots_confirms {rates : NightlyRates}
    {category : RateCategory} {operation : PeriodOperation} {done : Unit}
    (found : rates.category? hotelId categoryId = some category)
    (passed : checkSnapshots rates category operation = .ok done) :
    rates.Confirms hotelId categoryId operation := by
  obtain ⟨rfl, rfl⟩ := category?_eq_some found
  unfold checkSnapshots at passed
  simp only [bind_eq_ok, raiseIf_eq_ok, ne_eq, not_not] at passed
  obtain ⟨current, isCurrent, _, rfl, daily, isDaily, _, rfl, _, _, sameBase⟩ := passed
  refine ⟨periodSnapshotRows_eq_ok _ _ _ isCurrent, isDaily, ?_⟩
  unfold categoryBase?
  rw [found]
  exact sameBase.symm

variable {later confirmed : DraftDatabase} {draft : RateChangeDraft} {operation : PeriodOperation}
    {confirmDailyRates : NightlyRates -> RateChangeDraft -> Except RateDraftError NightlyRates}
    {expectedVersion newPeriodId now : Int} {userId : Option Int}

theorem confirmRateChangeDraft_applies (listed : draft ∈ later.drafts)
    (sameHotel : draft.hotelId = hotelId)
    (sameCategory : draft.categoryId = categoryId)
    (type : draft.draftType = .pricePeriod)
    (proposal : draft.periodOperation = some operation)
    (named : operation.action ≠ .create -> ∃ id, operation.periodId = some id)
    (accepted : later.confirmRateChangeDraft hotelId confirmDailyRates
      draft.id expectedVersion newPeriodId now userId = .ok confirmed) :
    later.rates.Confirms hotelId categoryId operation ∧
      later.rates.Applies hotelId categoryId confirmed.rates operation
        newPeriodId := by
  subst sameCategory
  unfold confirmRateChangeDraft at accepted
  simp only [bind_eq_ok, pure_eq_ok] at accepted
  obtain ⟨found, isFound, _, _, category, isCategory, rates, isRates, rfl⟩ := accepted
  have same : found = draft := by
    unfold draftForUpdate at isFound
    cases search : later.drafts.find? fun row =>
        decide (row.hotelId = hotelId ∧ row.id = draft.id) with
    | none => rw [search] at isFound; cases isFound
    | some row =>
      rw [search, pure_eq_ok] at isFound
      subst isFound
      have accepted := List.find?_some search
      rw [decide_eq_true_eq] at accepted
      exact List.inj_on_of_nodup_map later.distinctDrafts
        (List.mem_of_find?_eq_some search) listed accepted.2
  subst same
  have isRow := categoryOrError_eq_ok isCategory
  obtain ⟨sameId, sameOwner⟩ := category?_eq_some isRow
  unfold confirmedRates at isRates
  rw [type, proposal] at isRates
  unfold confirmPricePeriodDraft at isRates
  simp only [bind_eq_ok] at isRates
  obtain ⟨_, passed, _, present, applied⟩ := isRates
  refine ⟨checkSnapshots_confirms isRow passed, ?_⟩
  rw [sameId, sameOwner] at present applied
  refine later.rates.applyOperation_applies _ _ applied named ?_
  intro id isNamed
  unfold checkPeriod at present
  rw [raiseIf_eq_ok] at present
  rw [← Option.ne_none_iff_exists']
  exact (present ⟨id, isNamed, ·⟩)

/-- A confirmed draft does what its preview said.  After any changes of rates
and drafts, a confirmation that succeeds gives the days it listed the prices
of the preview, leaves the other days of its range at the prices they had
then, and the days outside its range as it finds them.  If a season that meets
the range, a daily rate in it or the base price differs, it is refused and
changes nothing. -/
theorem confirmRateChangeDraft_matchesPreview
    (casefold : String -> String) (action : String) (periodId : Option Int)
    (values : Option RawValues) (draftId : Int)
    (confirmDailyRates : NightlyRates -> RateChangeDraft -> Except RateDraftError NightlyRates)
    (expectedVersion newPeriodId now : Int) (userId : Option Int)
    (accepted : db.createPricePeriodDraft hotelId casefold categoryId action
      periodId values draftId = .ok (created, draft))
    (changes : Relation.ReflTransGen RateChange created later)
    (newest : ∀ row ∈ later.rates.pricePeriods, row.id < newPeriodId) :
    ∃ operation, draft.periodOperation = some operation ∧ (∀ confirmed,
        later.confirmRateChangeDraft hotelId confirmDailyRates draft.id
            expectedVersion newPeriodId now userId = .ok confirmed ->
          ∀ day, (∀ change ∈ operation.effectiveChanges, change.date = day ->
              (confirmed.rates.effectiveOn hotelId categoryId day).1 =
                change.after) ∧
            ((∀ change ∈ operation.effectiveChanges, change.date ≠ day) ->
              operation.scopeStart ≤ day -> day ≤ operation.scopeEnd ->
                (confirmed.rates.effectiveOn hotelId categoryId day).1 =
                  (db.rates.effectiveOn hotelId categoryId day).1) ∧
            (day < operation.scopeStart ∨ operation.scopeEnd < day ->
              (∀ change ∈ operation.effectiveChanges, change.date ≠ day) ∧
                confirmed.rates.effectiveOn hotelId categoryId day =
                  later.rates.effectiveOn hotelId categoryId day)) ∧
      ((¬(∀ period : NumberedPeriod, period ∈ (later.rates.periodsWithin hotelId categoryId
              operation.scopeStart operation.scopeEnd).map PricePeriod.toNumberedPeriod ↔
            period ∈ (db.rates.periodsWithin hotelId categoryId
              operation.scopeStart operation.scopeEnd).map PricePeriod.toNumberedPeriod) ∨
        ¬(∀ row, row ∈ later.rates.dailyRatesWithin hotelId categoryId
              operation.scopeStart operation.scopeEnd ↔
            row ∈ db.rates.dailyRatesWithin hotelId categoryId
              operation.scopeStart operation.scopeEnd) ∨
        later.rates.categoryBase? hotelId categoryId ≠ db.rates.categoryBase? hotelId categoryId) ->
        (∃ refusal, later.confirmRateChangeDraft hotelId confirmDailyRates draft.id
            expectedVersion newPeriodId now userId = .error refusal) ∧
          later.afterRequest (later.confirmRateChangeDraft hotelId
            confirmDailyRates draft.id expectedVersion newPeriodId now
            userId) = later) := by
  obtain ⟨-, drafts, sameHotel, sameCategory, type, operation, proposal,
    previewed⟩ := createPricePeriodDraft_previewed accepted
  obtain ⟨kept, isKept, id, hotel, category, keptType, keptProposal⟩ := (keepsProposals_of_changes
    changes).keepsProposals draft (by rw [drafts]; exact List.mem_append_right _ (by simp))
  rw [← id]
  have applies {confirmed : DraftDatabase}
      (succeeds : later.confirmRateChangeDraft hotelId confirmDailyRates
        kept.id expectedVersion newPeriodId now userId = .ok confirmed) :=
    confirmRateChangeDraft_applies isKept (hotel.trans sameHotel)
      (category.trans sameCategory) (keptType.trans type)
      (keptProposal.trans proposal) previewed.named succeeds
  refine ⟨operation, proposal, ?_, ?_⟩
  · intro confirmed succeeds day
    obtain ⟨confirms, applied⟩ := applies succeeds
    refine ⟨?_, ?_, ?_⟩
    · rintro change listed rfl
      obtain ⟨within, -, expected, -⟩ := previewed.after_of_listed listed
      rw [expected, effectiveOn_confirmed previewed confirms applied newest within]
    · intro unlisted started unfinished
      rw [effectiveOn_confirmed previewed confirms applied newest ⟨started, unfinished⟩]
      exact previewed.unchanged_of_unlisted ⟨started, unfinished⟩ unlisted
    · intro outside
      refine ⟨?_, effectiveOn_outside previewed confirms applied newest outside⟩
      rintro change listed rfl
      have within := (previewed.after_of_listed listed).1
      omega
  · intro differs
    cases outcome : later.confirmRateChangeDraft hotelId confirmDailyRates
        kept.id expectedVersion newPeriodId now userId with
    | error refusal => exact ⟨⟨refusal, rfl⟩, rfl⟩
    | ok confirmed =>
      obtain ⟨confirms, -⟩ := applies outcome
      rcases differs with periods | rows | base
      · refine absurd (fun period => ?_) periods
        rw [← confirms.samePeriods, previewed.samePeriods]
      · refine absurd (fun row => ?_) rows
        rw [← later.rates.mem_dailyRateScopeSnapshot _ _ confirms.sameDailyRates,
          ← db.rates.mem_dailyRateScopeSnapshot _ _ previewed.sameDailyRates]
      · exact absurd (confirms.sameBase.symm.trans previewed.sameBase) base

/-- A draft that removes the carnival of a summer. -/
def carnivalRemoval : PeriodOperation where
  action := .delete
  periodId := some 2
  before := some carnivalPeriod.toPeriodValues
  after := none
  scopeStart := 102
  scopeEnd := 103
  periodsBefore :=
    [summerPeriod.toNumberedPeriod, carnivalPeriod.toNumberedPeriod]
  dailyRatesBefore := [holidayRate]
  categoryBaseBefore := some 8000
  effectiveChanges := [{
    date := 102
    before := effectivePrices 15000 {}
    after := effectivePrices 12000 { priceCash := some 11000 }
    sourceBefore := "price_period"
    sourceAfter := "price_period" }]

def removalDraft : RateChangeDraft where
  id := 1
  hotelId := 1
  categoryId := 1
  draftType := .pricePeriod
  periodOperation := some carnivalRemoval

def summerDatabase : DraftDatabase where
  rates := summerRates
  drafts := []
  distinctDrafts := List.nodup_nil

def summerWithDraft : DraftDatabase where
  rates := summerRates
  drafts := [removalDraft]
  distinctDrafts := List.nodup_singleton _

theorem summer_createPricePeriodDraft :
    summerDatabase.createPricePeriodDraft 1 id 1 "delete" (some 2) none 1 =
      .ok (summerWithDraft, removalDraft) := by
  rfl

/-- The summer with the draft confirmed, given its later daily rates. -/
def confirmedSummer (dailyRates : List DailyRate)
    (distinct : (dailyRates.map DailyRate.key).Nodup) : DraftDatabase :=
  summerWithDraft.confirmDraft 1 ({ summerRates with
      dailyRates := dailyRates
      distinctDays := distinct }.updatePeriod 2 (fun row => { row with
          deletedAt := some 0
          deletedByUserId := none }) fun _ => rfl)

/-- Over unchanged rows the confirmation succeeds, and the listed day has the
price of the summer. -/
theorem confirmRateChangeDraft_matchesPreview_carnival :
    summerWithDraft.confirmRateChangeDraft 1 (fun rates _ => .ok rates) 1 1 3 0 none =
        .ok (confirmedSummer [holidayRate] summerRates.distinctDays) ∧
      ((confirmedSummer [holidayRate] summerRates.distinctDays).rates.effectiveOn 1 1 102).1 =
          effectivePrices 12000 { priceCash := some 11000 } := by
  obtain ⟨operation, proposal, follows, -⟩ := confirmRateChangeDraft_matchesPreview id "delete"
    (some 2) none 1 (fun rates _ => .ok rates) 1 3 0 none summer_createPricePeriodDraft
    Relation.ReflTransGen.refl (by decide)
  have confirmation : summerWithDraft.confirmRateChangeDraft 1
      (fun rates _ => .ok rates) 1 1 3 0 none =
        .ok (confirmedSummer [holidayRate] summerRates.distinctDays) := rfl
  cases proposal
  exact ⟨confirmation, (follows _ confirmation 102).1 _ (List.mem_singleton_self _) rfl⟩

def laterRate : DailyRate where
  id := 2
  hotelId := 1
  categoryId := 1
  date := 200
  price := 9000

theorem laterRates_distinct : ([holidayRate, laterRate].map DailyRate.key).Nodup := by
  decide

/-- The summer with the draft, and a new rate for a day after its range. -/
def summerWithLaterRate : DraftDatabase where
  rates := { summerRates with
    dailyRates := [holidayRate, laterRate]
    distinctDays := laterRates_distinct }
  drafts := [removalDraft]
  distinctDrafts := List.nodup_singleton _

/-- A day that the draft does not list has another price after the
confirmation than at the time of the preview. -/
theorem not_matchesPreview_laterRate :
    summerDatabase.createPricePeriodDraft 1 id 1 "delete" (some 2) none 1 =
        .ok (summerWithDraft, removalDraft) ∧
      RateChange summerWithDraft summerWithLaterRate ∧
      (∀ row ∈ summerWithLaterRate.rates.pricePeriods, row.id < 3) ∧
      ∃ confirmed, summerWithLaterRate.confirmRateChangeDraft 1
            (fun rates _ => .ok rates) 1 1 3 0 none = .ok confirmed ∧
          (∀ change ∈ carnivalRemoval.effectiveChanges, change.date ≠ 200) ∧
          (confirmed.rates.effectiveOn 1 1 200).1 ≠
            (summerDatabase.rates.effectiveOn 1 1 200).1 := by
  refine ⟨summer_createPricePeriodDraft, ?_, by decide,
    confirmedSummer [holidayRate, laterRate] laterRates_distinct, rfl,
    by decide, by decide⟩
  exact ⟨fun draft member => ⟨draft, member, rfl, rfl, rfl, rfl, rfl⟩⟩

end DraftDatabase
end HotelPms.Rates
