import HotelPms.Foundation.Checked
import HotelPms.Foundation.Table
import HotelPms.Foundation.Text

/-!
# Promotions and their versions

A promotion is a chain of rows under one code of a hotel.  Editing a promotion
adds a row with the next version and deactivates the row it was made from;
any row can be deactivated and activated again.  Two rows of a code never have
one version.
-/

namespace HotelPms.Promotions

open Checked

/-- How a promotion lowers a night. -/
inductive PromotionBenefitType
  | fixed
  | percentage
  deriving DecidableEq

def PromotionBenefitType.value : PromotionBenefitType -> String
  | .fixed => "fixed"
  | .percentage => "percentage"

/-- The nights of a stay a promotion is for. -/
inductive PromotionScope
  | fullStay
  | fromNightN
  deriving DecidableEq

/-- Condition columns.  A missing value restricts nothing; days are ordinals
and the mask has one bit for each day of the week. -/
structure PromotionConditions where
  bookingFrom : Option Int := none
  bookingTo : Option Int := none
  stayFrom : Option Int := none
  stayTo : Option Int := none
  minNights : Option Int := none
  maxNights : Option Int := none
  weekdaysMask : Option Nat := none
  categoryId : Option Int := none
  roomId : Option Int := none
  salesChannelCode : Option String := none
  guestId : Option Int := none
  companyId : Option Int := none
  guestTagType : Option String := none
  paymentCurrency : Option String := none
  paymentMethod : Option String := none
  deriving DecidableEq

/-- What a version of a promotion says. -/
structure PromotionRule where
  name : String
  description : Option String := none
  benefitType : PromotionBenefitType
  benefitValue : ℚ
  scope : PromotionScope := .fullStay
  fromNightNumber : Option Int := none
  priority : Int := 0
  stackable : Bool := false
  conditions : PromotionConditions := {}
  deriving DecidableEq

structure Promotion extends PromotionRule where
  id : Int
  hotelId : Int
  code : String
  isActive : Bool := true
  version : Int := 1
  previousVersionId : Option Int := none
  createdByUserId : Option Int := none
  deactivatedAt : Option Int := none
  deactivatedByUserId : Option Int := none
  deriving DecidableEq

namespace Promotion

/-- What the unique constraint of the table compares. -/
def versionKey (row : Promotion) : Int × String × Int :=
  (row.hotelId, row.code, row.version)

/-- Two rows are versions of one promotion. -/
def SamePromotion (row other : Promotion) : Prop :=
  row.hotelId = other.hotelId ∧ row.code = other.code
deriving Decidable

end Promotion

/-- Conditions as a request gives them, with the names of the days. -/
structure ConditionsPayload extends PromotionConditions where
  weekdays : Option (List String) := none

structure PromotionCreate where
  code : String
  name : String
  description : Option String := none
  benefitType : PromotionBenefitType
  benefitValue : ℚ
  scope : PromotionScope := .fullStay
  fromNightNumber : Option Int := none
  priority : Int := 0
  stackable : Bool := false
  conditions : ConditionsPayload := {}

/-- Changes of a promotion; what is missing is inherited. -/
structure PromotionUpdate where
  name : Option String := none
  description : Option String := none
  benefitType : Option PromotionBenefitType := none
  benefitValue : Option ℚ := none
  scope : Option PromotionScope := none
  fromNightNumber : Option Int := none
  priority : Option Int := none
  stackable : Option Bool := none
  conditions : Option ConditionsPayload := none

def weekdayNames : List String :=
  ["mon", "tue", "wed", "thu", "fri", "sat", "sun"]

/-- Name of a day as it is looked up. -/
def weekdayKey (day : String) : String :=
  String.ofList ((Text.strip day).toLower.toList.take 3)

def weekdaysToMask (weekdays : Option (List String)) : Except String (Option Nat) :=
  match weekdays with
  | none => .ok none
  | some [] => .ok none
  | some days => do
    let mask ← days.foldlM (fun mask day => do
      let key := weekdayKey day
      raiseIf (key ∉ weekdayNames) ("Invalid weekday: " ++ day)
      pure (mask ||| 1 <<< weekdayNames.idxOf key)) 0
    pure (some mask)

/-- Condition columns of a request. -/
def conditionsKwargs (payload : ConditionsPayload) : Except String PromotionConditions := do
  let mask ← weekdaysToMask payload.weekdays
  pure { payload.toPromotionConditions with
    weekdaysMask := mask
    paymentCurrency :=
      payload.paymentCurrency.bind fun currency =>
        if currency = "" then none else some currency.toUpper }

/-- The promotions of all hotels, numbered, with distinct versions. -/
structure PromotionTable where
  rows : List Promotion
  nextId : Int
  numbered : Table.Numbered Promotion.id nextId rows
  distinctVersions : (rows.map Promotion.versionKey).Nodup

namespace PromotionTable

theorem noPromotion_distinctVersions : (([] : List Promotion).map Promotion.versionKey).Nodup :=
  List.nodup_nil

/-- A table without promotions. -/
def empty : PromotionTable where
  rows := []
  nextId := 1
  numbered := Table.Numbered.nil _ _
  distinctVersions := noPromotion_distinctVersions

variable (table : PromotionTable)

/-- Insert a row under the next identifier, unless its version exists. -/
def insert (row : Promotion) (isNext : row.id = table.nextId) : Except String PromotionTable :=
  if absent : row.versionKey ∉ table.rows.map Promotion.versionKey then
    .ok {
      rows := table.rows ++ [row]
      nextId := table.nextId + 1
      numbered := table.numbered.append isNext
      distinctVersions := by
        rw [List.map_append, List.nodup_append]
        refine ⟨table.distinctVersions, List.nodup_singleton _, ?_⟩
        intro old oldIn new newIn same
        rw [List.map_singleton, List.mem_singleton] at newIn
        exact absent (newIn ▸ same ▸ oldIn) }
  else .error "uq_promotion_hotel_code_version"

/-- Change the flags of a row; its identity stays. -/
def alter (change : Promotion → Promotion) (keepsId : ∀ row, (change row).id = row.id)
    (keepsVersion : ∀ row, (change row).versionKey = row.versionKey)
    (id : Int) : PromotionTable where
  rows := table.rows.map fun row => if row.id = id then change row else row
  nextId := table.nextId
  numbered := by
    refine table.numbered.of_map_key_eq ?_
    rw [List.map_map]
    refine List.map_congr_left fun row _ => ?_
    by_cases same : row.id = id
    · simp [same, keepsId]
    · simp [same]
  distinctVersions := by
    have same : (table.rows.map fun row =>
        if row.id = id then change row else row).map Promotion.versionKey =
          table.rows.map Promotion.versionKey := by
      rw [List.map_map]
      refine List.map_congr_left fun row _ => ?_
      by_cases same : row.id = id
      · simp [same, keepsVersion]
      · simp [same]
    rw [same]
    exact table.distinctVersions

variable (hotelId : Int) (promotionId : Int)

/-- The row of a hotel with an identifier. -/
def getActiveOr404 : Except String Promotion :=
  match table.rows.find? fun row =>
      decide (row.id = promotionId ∧ row.hotelId = hotelId) with
  | some row => .ok row
  | none =>
    .error ("Promotion " ++ toString promotionId ++ " not found for hotel " ++ toString hotelId)

def firstVersion (payload : PromotionCreate)
    (conditions : PromotionConditions) (createdByUserId : Option Int) :
    Promotion where
  id := table.nextId
  hotelId := hotelId
  code := payload.code
  name := payload.name
  description := payload.description
  benefitType := payload.benefitType
  benefitValue := payload.benefitValue
  scope := payload.scope
  fromNightNumber := payload.fromNightNumber
  priority := payload.priority
  stackable := payload.stackable
  isActive := true
  version := 1
  conditions := conditions
  createdByUserId := createdByUserId

def createPromotion (payload : PromotionCreate)
    (createdByUserId : Option Int) : Except String PromotionTable := do
  raiseIf (∃ row ∈ table.rows, row.hotelId = hotelId ∧ row.code = payload.code)
    ("A promotion with code '" ++ payload.code ++
      "' already exists for this hotel. Use PATCH to create a new version.")
  let conditions ← conditionsKwargs payload.conditions
  table.insert (table.firstVersion hotelId payload conditions createdByUserId)
    rfl

/-- The version that follows a row. -/
def nextVersion (current : Promotion) (payload : PromotionUpdate)
    (conditions : PromotionConditions) (actorUserId : Option Int) :
    Promotion where
  id := table.nextId
  hotelId := current.hotelId
  code := current.code
  name := payload.name.getD current.name
  description := payload.description <|> current.description
  benefitType := payload.benefitType.getD current.benefitType
  benefitValue := payload.benefitValue.getD current.benefitValue
  scope := payload.scope.getD current.scope
  fromNightNumber := payload.fromNightNumber <|> current.fromNightNumber
  priority := payload.priority.getD current.priority
  stackable := payload.stackable.getD current.stackable
  isActive := true
  version := current.version + 1
  previousVersionId := some current.id
  conditions := conditions
  createdByUserId := actorUserId

/-- A row that a later one replaces. -/
def replaced (actorUserId : Option Int) (row : Promotion) : Promotion :=
  { row with isActive := false, deactivatedByUserId := actorUserId }

/-- Conditions of the next version: those sent, or the current ones. -/
def nextConditions (current : Promotion) (payload : PromotionUpdate) :
    Except String PromotionConditions :=
  match payload.conditions with
  | some conditions => conditionsKwargs conditions
  | none => .ok current.conditions

/-- Add the version that follows a row, and deactivate the row. -/
def updatePromotion (payload : PromotionUpdate)
    (actorUserId : Option Int) : Except String PromotionTable := do
  let current ← table.getActiveOr404 hotelId promotionId
  let benefitType := payload.benefitType.getD current.benefitType
  let benefitValue := payload.benefitValue.getD current.benefitValue
  raiseIf (benefitType = .percentage ∧ 100 < benefitValue) "Percentage benefit_value must be <= 100"
  let scope := payload.scope.getD current.scope
  let fromNightNumber := payload.fromNightNumber <|> current.fromNightNumber
  raiseIf (scope = .fromNightN ∧ fromNightNumber = none)
    "from_night_number is required when scope is from_night_n"
  let conditions ← nextConditions current payload
  let inserted ← table.insert (table.nextVersion current payload conditions actorUserId) rfl
  pure (inserted.alter (replaced actorUserId) (fun _ => rfl) (fun _ => rfl) current.id)

def deactivated (now : Int) (actorUserId : Option Int) (row : Promotion) : Promotion :=
  { row with isActive := false, deactivatedAt := some now, deactivatedByUserId := actorUserId }

def deactivatePromotion (now : Int) (actorUserId : Option Int) : Except String PromotionTable := do
  let row ← table.getActiveOr404 hotelId promotionId
  pure (table.alter (deactivated now actorUserId) (fun _ => rfl) (fun _ => rfl) row.id)

def reactivated (row : Promotion) : Promotion :=
  { row with isActive := true, deactivatedAt := none, deactivatedByUserId := none }

def reactivatePromotion : Except String PromotionTable := do
  let row ← table.getActiveOr404 hotelId promotionId
  pure (table.alter reactivated (fun _ => rfl) (fun _ => rfl) row.id)

end PromotionTable

end HotelPms.Promotions
