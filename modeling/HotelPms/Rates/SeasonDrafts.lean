import HotelPms.Rates.NightlyRates
import HotelPms.Foundation.Decimal
import HotelPms.Foundation.Text

/-!
# Drafts of seasons

A draft proposes to create, change or remove a season.  It keeps snapshots of
the rows it was previewed over, and the prices of each day before and after.
A confirmation compares the snapshots with the rows of its own time, and then
applies the proposal.  Case folding of texts is a parameter.
-/

namespace HotelPms.Rates

open Checked DayCounts KeySort

/-- Refusal of a request about drafts. -/
structure RateDraftError where
  message : String
  statusCode : Nat := 400

/-- What a request gives for a field: a text comes with the day and the
amount that it spells. -/
inductive RawValue where
  | null
  | boolean (value : Bool)
  | integer (value : Int)
  | decimal (value : ℚ)
  | day (ordinal : Int)
  | text (value : String) (day : Option Int) (amount : Option ℚ)
  deriving DecidableEq

/-- Fields of a request, each given at most once. -/
abbrev RawValues := List (String × RawValue)

def periodPriceFields : List String :=
  ["price_cash", "price_transfer", "price_mercadopago", "price_paypal",
    "price_credit_card", "price_debit_card", "price_booking",
    "price_expedia"]

def periodFields : List String :=
  ["name", "start_date", "end_date", "price_per_night"] ++ periodPriceFields ++
      ["priority", "is_active", "comparable_season_key", "is_high_demand_event"]

/-- Longest range of a draft. -/
def maxDraftDates : Int := 366

/-- Cents of an amount, which may not be negative. -/
def moneyOfAmount (amount : ℚ) : Except RateDraftError (Option Int) := do
  let cents := Decimal.quantizeHalfUp 2 amount
  raiseIf (cents < 0) {
    message := "Los importes de tarifa deben ser números no negativos." }
  pure (some cents)

/-- Cents that a field gives. -/
def money : RawValue -> Except RateDraftError (Option Int)
  | .null => pure none
  | .integer value => moneyOfAmount value
  | .decimal value => moneyOfAmount value
  | .text _ _ (some amount) => moneyOfAmount amount
  | _ => throw { message := "La tarifa contiene un importe inválido." }

/-- Value of a field, `None` when it is not given. -/
def RawValues.get (values : RawValues) (field : String) : RawValue :=
  (values.lookup field).getD .null

def seasonName : RawValue -> Except RateDraftError String
  | .text name _ _ => do
    raiseIf (Text.strip name = "") {
      message := "La temporada debe tener un nombre." }
    raiseIf (100 < (Text.strip name).length) {
      message :=
        "El nombre de temporada no puede superar 100 caracteres." }
    pure (Text.strip name)
  | _ => throw { message := "La temporada debe tener un nombre." }

def seasonDay : RawValue -> Except RateDraftError Int
  | .day ordinal => pure ordinal
  | .text _ (some ordinal) _ => pure ordinal
  | .text _ none _ =>
    throw { message := "La temporada contiene una fecha inválida." }
  | _ => throw {
      message := "La temporada debe incluir fechas de inicio y fin válidas." }

def seasonPriority : Option RawValue -> Except RateDraftError Int
  | none => pure 0
  | some (.integer priority) => do
    raiseIf (priority < -100000) {
      message := "La prioridad de la temporada no es válida." }
    pure priority
  | some _ => throw { message := "La prioridad de la temporada no es válida." }

def seasonFlag (default : Bool) (message : String) : Option RawValue -> Except RateDraftError Bool
  | none => pure default
  | some (.boolean flag) => pure flag
  | some _ => throw { message := message }

variable (casefold : String -> String) (rates : NightlyRates) (hotelId : Int)
  (category : RateCategory) (action : PeriodAction)

def comparableSeasonKey : RawValue -> Except RateDraftError (Option String)
  | .null => pure none
  | .text key _ _ => do
    let folded := casefold (Text.strip key)
    raiseIf (80 < folded.length) {
      message := "El grupo comparable no puede superar 80 caracteres." }
    pure (if folded = "" then none else some folded)
  | _ => throw {
      message := "El grupo de temporada comparable debe ser texto." }

/-- Values of a season that a request proposes. -/
def validatePeriodValues (raw : RawValues) : Except RateDraftError PeriodValues := do
  raiseIf (∃ field ∈ raw.map Prod.fst, field ∉ periodFields) {
    message := "La temporada contiene campos no permitidos." }
  let name ← seasonName (raw.get "name")
  let startDate ← seasonDay (raw.get "start_date")
  let endDate ← seasonDay (raw.get "end_date")
  raiseIf (endDate < startDate) {
    message := "La fecha final debe ser igual o posterior a la inicial." }
  raiseIf (maxDraftDates < endDate - startDate + 1) {
    message := "La temporada supera el máximo de 366 fechas; dividila en " ++
      "temporadas más cortas para revisar su impacto." }
  raiseIf (raw.get "price_per_night" = .null) {
    message := "La temporada debe tener un precio por noche." }
  let price ← money (raw.get "price_per_night")
  let priceCash ← money (raw.get "price_cash")
  let priceTransfer ← money (raw.get "price_transfer")
  let priceMercadopago ← money (raw.get "price_mercadopago")
  let pricePaypal ← money (raw.get "price_paypal")
  let priceCreditCard ← money (raw.get "price_credit_card")
  let priceDebitCard ← money (raw.get "price_debit_card")
  let priceBooking ← money (raw.get "price_booking")
  let priceExpedia ← money (raw.get "price_expedia")
  let priority ← seasonPriority (raw.lookup "priority")
  let isActive ← seasonFlag true "El estado de la temporada no es válido." (raw.lookup "is_active")
  let comparable ← comparableSeasonKey casefold (raw.get "comparable_season_key")
  let isHighDemandEvent ← seasonFlag false "La marca de fecha de alta demanda no es válida."
    (raw.lookup "is_high_demand_event")
  pure {
    name := name
    startDate := startDate
    endDate := endDate
    pricePerNight := price.getD 0
    priceCash := priceCash
    priceTransfer := priceTransfer
    priceMercadopago := priceMercadopago
    pricePaypal := pricePaypal
    priceCreditCard := priceCreditCard
    priceDebitCard := priceDebitCard
    priceBooking := priceBooking
    priceExpedia := priceExpedia
    priority := priority
    isActive := isActive
    comparableSeasonKey := comparable
    isHighDemandEvent := isHighDemandEvent }

def MethodPrices.amounts (row : MethodPrices) : List Int :=
  [row.priceCash, row.priceTransfer, row.priceMercadopago, row.pricePaypal,
    row.priceCreditCard].reduceOption

def PeriodValues.amounts (values : PeriodValues) : List Int :=
  values.pricePerNight :: values.toMethodPrices.amounts ++
    [values.priceDebitCard, values.priceBooking, values.priceExpedia].reduceOption

/-- Amounts of a snapshot may not be negative. -/
def requireMoney (amounts : List Int) : Except RateDraftError Unit :=
  raiseIf (∃ amount ∈ amounts, amount < 0) {
    message := "Los importes de tarifa deben ser números no negativos." }

/-- Values of a season that a draft keeps. -/
def periodValues (period : PricePeriod) : Except RateDraftError PeriodValues := do
  requireMoney period.toPeriodValues.amounts
  pure period.toPeriodValues

/-- A row under its number. -/
def snapshotPeriod (period : PricePeriod) : Except RateDraftError NumberedPeriod := do
  let values ← periodValues period
  pure { values with id := period.id }

def snapshotDailyRate (row : DailyRate) : Except RateDraftError DailyRate := do
  requireMoney (row.price :: row.toMethodPrices.amounts)
  pure row

namespace NightlyRates

variable (rates : NightlyRates) (hotelId categoryId : Int)

/-- Snapshots of the seasons that meet a range. -/
def periodSnapshotRows (first last : Int) : Except RateDraftError (List NumberedPeriod) :=
  (rates.periodsWithin hotelId categoryId first last).mapM snapshotPeriod

def dailyRateScopeSnapshot (first last : Int) : Except RateDraftError (List DailyRate) :=
  (sortByKey (·.date) (sortByKey (·.id)
    (rates.dailyRatesWithin hotelId categoryId first last))).mapM snapshotDailyRate

/-- A season that is not removed. -/
def period? (periodId : Int) : Option PricePeriod :=
  rates.pricePeriods.find? fun row => row.hotelId = hotelId ∧ row.categoryId = categoryId ∧
      row.id = periodId ∧ row.deletedAt = none

theorem distinct_addPeriod {period : PricePeriod}
    (fresh : period.id ∉ rates.pricePeriods.map (·.id)) :
    ((rates.pricePeriods ++ [period]).map (·.id)).Nodup := by
  rw [List.map_append]
  refine rates.distinctPeriods.append (List.nodup_singleton _) ?_
  simpa using fresh

/-- The table with one more season, whose number the database gives. -/
def addPeriod (period : PricePeriod) : Except RateDraftError NightlyRates :=
  if fresh : period.id ∉ rates.pricePeriods.map fun row => row.id then
    pure { rates with
      pricePeriods := rates.pricePeriods ++ [period]
      distinctPeriods := rates.distinct_addPeriod fresh }
  else throw {
    message := "La tarifa cambió mientras se confirmaba. " ++ "Actualizá y revisá el borrador."
    statusCode := 409 }

theorem distinct_updatePeriod (periodId : Int) (values : PricePeriod -> PricePeriod)
    (keepsId : ∀ row, (values row).id = row.id) :
    ((rates.pricePeriods.map fun row =>
      if row.id = periodId then values row else row).map (·.id)).Nodup := by
  have sameIds : (fun row : PricePeriod => row.id) ∘ (fun row =>
      if row.id = periodId then values row else row) = (·.id) := by
    funext row
    rw [Function.comp_apply]
    split_ifs
    · exact keepsId row
    · rfl
  rw [List.map_map, sameIds]
  exact rates.distinctPeriods

/-- The table with one season changed under its number. -/
def updatePeriod (periodId : Int) (values : PricePeriod -> PricePeriod)
    (keepsId : ∀ row, (values row).id = row.id) : NightlyRates :=
  { rates with
    pricePeriods := rates.pricePeriods.map fun row =>
      if row.id = periodId then values row else row
    distinctPeriods :=
      rates.distinct_updatePeriod periodId values keepsId }

end NightlyRates

/-- What a draft does to a season. -/
inductive PeriodAction where
  | create
  | update
  | delete
  deriving DecidableEq

/-- Action under its word. -/
def periodAction : String -> Option PeriodAction
  | "create" => some .create
  | "update" => some .update
  | "delete" => some .delete
  | _ => none

/-- Prices of a day that a draft changes. -/
structure EffectiveChange where
  date : Int
  before : EffectivePrices
  after : EffectivePrices
  sourceBefore : String
  sourceAfter : String

/-- Proposal of a draft, with what it was previewed over. -/
structure PeriodOperation where
  action : PeriodAction
  periodId : Option Int
  before : Option PeriodValues
  after : Option PeriodValues
  scopeStart : Int
  scopeEnd : Int
  periodsBefore : List NumberedPeriod
  dailyRatesBefore : List DailyRate
  categoryBaseBefore : Option Int
  effectiveChanges : List EffectiveChange

inductive DraftStatus where
  | draft
  | confirmed
  | cancelled
  deriving DecidableEq

inductive DraftType where
  | dailyRates
  | pricePeriod

structure RateChangeDraft where
  id : Int
  hotelId : Int
  categoryId : Int
  draftType : DraftType := .dailyRates
  status : DraftStatus := .draft
  version : Int := 1
  periodOperation : Option PeriodOperation := none

/-- The rate tables and the drafts about them. -/
structure DraftDatabase where
  rates : NightlyRates
  drafts : List RateChangeDraft := []
  distinctDrafts : (drafts.map RateChangeDraft.id).Nodup

/-- Seasons after a change, a new one under a given number. -/
def changePeriods (periodId : Option Int) (after : Option PeriodValues) (newId : Int)
    (live : List NumberedPeriod) : List NumberedPeriod :=
  let others := live.filter (some ·.id ≠ periodId)
  match action, after with
  | .create, some values => live ++ [{ values with id := newId }]
  | .create, none => live
  | .update, some values =>
    others ++ [{ values with id := periodId.getD 0 }]
  | .update, none => others
  | .delete, _ => others

/-- Seasons after a change, a new one under an invented number. -/
def simulatedAfter (periodId : Option Int)
    (after : Option PeriodValues) (live : List NumberedPeriod) :
    List NumberedPeriod :=
  changePeriods action periodId after ((live.map (·.id)).max?.getD 0 + 1) live

def effectiveChange (dailyRows : List DailyRate)
    (live simulated : List NumberedPeriod) (categoryBase : Option Int)
    (targetDate : Int) : Option EffectiveChange :=
  let before := effectivePeriodPrices targetDate
    (NightlyRates.dailyRateOn dailyRows targetDate) live categoryBase
  let after := effectivePeriodPrices targetDate
    (NightlyRates.dailyRateOn dailyRows targetDate) simulated categoryBase
  if before.1 ≠ after.1 then
    some {
      date := targetDate
      before := before.1
      after := after.1
      sourceBefore := before.2
      sourceAfter := after.2 }
  else none

/-- Days whose values a draft gives. -/
def scopeDates (before after : Option PeriodValues) : List Int :=
  (before.toList ++ after.toList).flatMap fun values => [values.startDate, values.endDate]

/-- Proposal over the rows of some range. -/
def previewOperation (periodId : Option Int)
    (before after : Option PeriodValues) (scopeStart scopeEnd : Int) :
    Except RateDraftError PeriodOperation := do
  raiseIf (maxDraftDates < scopeEnd - scopeStart + 1) {
    message := "El cambio de temporada abarca más de 366 fechas; acotá el " ++
      "rango para poder calcular el impacto con precisión." }
  let live ← rates.periodSnapshotRows category.hotelId category.id scopeStart scopeEnd
  let dailySnapshot ← rates.dailyRateScopeSnapshot category.hotelId category.id scopeStart scopeEnd
  requireMoney category.basePricePerNight.toList
  let dailyRows := rates.dailyRatesWithin category.hotelId category.id scopeStart scopeEnd
  pure {
    action := action
    periodId := periodId
    before := before
    after := after
    scopeStart := scopeStart
    scopeEnd := scopeEnd
    periodsBefore := live
    dailyRatesBefore := dailySnapshot
    categoryBaseBefore := category.basePricePerNight
    effectiveChanges := (loopDays scopeStart (scopeEnd + 1)).filterMap
      (effectiveChange dailyRows live (simulatedAfter action periodId after live)
        category.basePricePerNight) }

/-- The season a request names. -/
def targetPeriod (categoryId : Int) : Option Int -> Except RateDraftError (Option PricePeriod)
  | none => pure none
  | some periodId =>
    match rates.period? hotelId categoryId periodId with
    | some period => pure (some period)
    | none => throw {
        message := "No se encontró la temporada seleccionada."
        statusCode := 404 }

/-- Action of a request, with a season exactly when it needs one. -/
def checkAction (action : String) (periodId : Option Int) : Except RateDraftError PeriodAction :=
  match periodAction action with
  | none => throw { message := "La operación de temporada no es válida." }
  | some .create => do
    raiseIf (periodId.isSome = true) {
      message := "Una temporada nueva no debe incluir un identificador." }
    pure .create
  | some other => do
    raiseIf (periodId.getD 0 ≤ 0) {
      message := "Seleccioná una temporada válida para modificar." }
    pure other

/-- A request gives values unless it removes its season. -/
def checkGiven (values : Option RawValues) : Except RateDraftError Unit := do
  raiseIf (action = .delete ∧ values.getD [] ≠ []) {
    message := "La baja de temporada no debe incluir valores nuevos." }
  raiseIf (action ≠ .delete ∧ values = none) {
    message := "La temporada debe incluir sus valores nuevos." }

/-- Values a request proposes, unless it removes its season. -/
def proposedValues (values : Option RawValues) : Except RateDraftError (Option PeriodValues) :=
  match action with
  | .delete => pure none
  | _ => do
    let after ← validatePeriodValues casefold (values.getD [])
    pure (some after)

namespace DraftDatabase

variable (db : DraftDatabase) (hotelId : Int)

def categoryOrError (categoryId : Int) : Except RateDraftError RateCategory :=
  match db.rates.category? hotelId categoryId with
  | some category => pure category
  | none => throw {
      message := "La categoría no existe en este hotel."
      statusCode := 404 }

theorem distinct_addDraft {draft : RateChangeDraft}
    (fresh : draft.id ∉ db.drafts.map RateChangeDraft.id) :
    ((db.drafts ++ [draft]).map RateChangeDraft.id).Nodup := by
  rw [List.map_append]
  refine db.distinctDrafts.append (List.nodup_singleton _) ?_
  simpa using fresh

/-- The table with one more draft, whose number the database gives. -/
def addDraft (draft : RateChangeDraft) : Except RateDraftError DraftDatabase :=
  if fresh : draft.id ∉ db.drafts.map RateChangeDraft.id then
    pure { db with drafts := db.drafts ++ [draft], distinctDrafts := db.distinct_addDraft fresh }
  else throw {
    message :=
      "No se pudo crear el borrador porque la tarifa cambió. Reintentá."
    statusCode := 409 }

/-- Prepare a draft about a season, and keep its preview. -/
def createPricePeriodDraft (casefold : String -> String) (categoryId : Int)
    (action : String) (periodId : Option Int) (values : Option RawValues)
    (draftId : Int) : Except RateDraftError (DraftDatabase × RateChangeDraft) := do
  let category ← db.categoryOrError hotelId categoryId
  raiseIf (∃ draft ∈ db.drafts, draft.hotelId = hotelId ∧
      draft.categoryId = categoryId ∧ draft.status = .draft) {
    message := "Ya hay un borrador pendiente para esta categoría. " ++
      "Confirmalo o cancelalo antes de crear otro."
    statusCode := 409 }
  let checked ← checkAction action periodId
  let target ← targetPeriod db.rates hotelId categoryId periodId
  checkGiven checked values
  let before ← target.mapM periodValues
  let after ← proposedValues casefold checked values
  let dates := scopeDates before after
  let operation ← previewOperation db.rates category checked periodId before
    after (dates.min?.getD 0) (dates.max?.getD 0)
  let draft : RateChangeDraft :=
    { id := draftId, hotelId := hotelId, categoryId := category.id, draftType := .pricePeriod
      periodOperation := some operation }
  let created ← db.addDraft draft
  pure (created, draft)

end DraftDatabase

/-- Tables after the change of a draft. -/
def applyOperation (categoryId : Int) (operation : PeriodOperation) (newPeriodId now : Int)
    (userId : Option Int) : Except RateDraftError NightlyRates :=
  match operation.action, operation.after with
  | .create, some values =>
    rates.addPeriod { values with id := newPeriodId, hotelId := hotelId, categoryId := categoryId }
  | .update, some values =>
    pure (rates.updatePeriod (operation.periodId.getD 0)
      (fun row => { row with toPeriodValues := values }) fun _ => rfl)
  | .delete, _ =>
    pure (rates.updatePeriod (operation.periodId.getD 0) (fun row => { row with
        deletedAt := some now
        deletedByUserId := userId }) fun _ => rfl)
  | _, none => throw {
      message := "El borrador contiene una operación de temporada inválida."
      statusCode := 409 }

/-- The rows of a draft's range are those it was previewed over. -/
def checkSnapshots (operation : PeriodOperation) : Except RateDraftError Unit := do
  let current ← rates.periodSnapshotRows category.hotelId category.id
    operation.scopeStart operation.scopeEnd
  raiseIf (current ≠ operation.periodsBefore) {
    message := "Las temporadas del rango cambiaron desde la vista previa. " ++
      "Cancelá este borrador y prepará uno nuevo."
    statusCode := 409 }
  let daily ← rates.dailyRateScopeSnapshot category.hotelId category.id
    operation.scopeStart operation.scopeEnd
  raiseIf (daily ≠ operation.dailyRatesBefore) {
    message := "Las tarifas diarias del rango cambiaron desde la vista " ++
      "previa. Cancelá este borrador y prepará uno nuevo."
    statusCode := 409 }
  requireMoney category.basePricePerNight.toList
  raiseIf (category.basePricePerNight ≠ operation.categoryBaseBefore) {
    message := "El precio base de la categoría cambió desde la vista " ++
      "previa. Cancelá este borrador y prepará uno nuevo."
    statusCode := 409 }

/-- The season of a draft is still there. -/
def checkPeriod (categoryId : Int) (periodId : Option Int) : Except RateDraftError Unit :=
  raiseIf (∃ id ∈ periodId, rates.period? hotelId categoryId id = none) {
    message :=
      "La temporada ya no está disponible. Creá un borrador nuevo."
    statusCode := 409 }

/-- Tables after a draft about a season. -/
def confirmPricePeriodDraft (operation : PeriodOperation) (newPeriodId now : Int)
    (userId : Option Int) : Except RateDraftError NightlyRates := do
  checkSnapshots rates category operation
  checkPeriod rates category.hotelId category.id operation.periodId
  applyOperation rates category.hotelId category.id operation newPeriodId now userId

namespace DraftDatabase

variable (db : DraftDatabase) (hotelId : Int)

theorem distinct_confirmDraft (draftId : Int) :
    ((db.drafts.map fun draft => if draft.id = draftId then
        { draft with status := .confirmed, version := draft.version + 1 }
      else draft).map RateChangeDraft.id).Nodup := by
  have sameIds : RateChangeDraft.id ∘ (fun draft : RateChangeDraft =>
      if draft.id = draftId then
        { draft with status := .confirmed, version := draft.version + 1 }
      else draft) = RateChangeDraft.id := by
    funext draft
    rw [Function.comp_apply]
    split_ifs <;> rfl
  rw [List.map_map, sameIds]
  exact db.distinctDrafts

def confirmDraft (draftId : Int) (rates : NightlyRates) : DraftDatabase where
  rates := rates
  drafts := db.drafts.map fun draft =>
    if draft.id = draftId then
      { draft with status := .confirmed, version := draft.version + 1 }
    else draft
  distinctDrafts := db.distinct_confirmDraft draftId

def draftForUpdate (draftId : Int) : Except RateDraftError RateChangeDraft :=
  match db.drafts.find? fun draft =>
      decide (draft.hotelId = hotelId ∧ draft.id = draftId) with
  | some draft => pure draft
  | none => throw {
      message := "No se encontró el borrador."
      statusCode := 404 }

def checkDraftVersion (draft : RateChangeDraft) (expectedVersion : Int) :
    Except RateDraftError Unit := do
  raiseIf (draft.status ≠ .draft) {
    message := "El borrador ya no está pendiente."
    statusCode := 409 }
  raiseIf (draft.version ≠ expectedVersion) {
    message := "El borrador cambió en otra sesión. Actualizá la pantalla."
    statusCode := 409 }

/-- Tables after a draft.  What a draft of daily rates does is given. -/
def confirmedRates (confirmDailyRates : NightlyRates → RateChangeDraft →
      Except RateDraftError NightlyRates)
    (category : RateCategory) (draft : RateChangeDraft)
    (newPeriodId now : Int) (userId : Option Int) :
    Except RateDraftError NightlyRates :=
  match draft.draftType, draft.periodOperation with
  | .dailyRates, _ => confirmDailyRates db.rates draft
  | .pricePeriod, some operation =>
    confirmPricePeriodDraft db.rates category operation newPeriodId now userId
  | .pricePeriod, none => throw { message := "scope_start" }

def confirmRateChangeDraft (confirmDailyRates : NightlyRates → RateChangeDraft →
      Except RateDraftError NightlyRates)
    (draftId expectedVersion newPeriodId now : Int) (userId : Option Int) :
    Except RateDraftError DraftDatabase := do
  let draft ← db.draftForUpdate hotelId draftId
  checkDraftVersion draft expectedVersion
  let category ← db.categoryOrError hotelId draft.categoryId
  let rates ← db.confirmedRates confirmDailyRates category draft newPeriodId now userId
  pure (db.confirmDraft draft.id rates)

/-- A request is committed when it succeeds, and rolled back otherwise. -/
def afterRequest (result : Except RateDraftError DraftDatabase) : DraftDatabase :=
  match result with
  | .ok confirmed => confirmed
  | .error _ => db

end DraftDatabase
end HotelPms.Rates
