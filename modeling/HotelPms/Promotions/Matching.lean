import HotelPms.Foundation.Decimal
import HotelPms.Foundation.KeySort
import HotelPms.Promotions.Rows

/-!
# Promotions of a night

Which active promotions a night meets, which of them apply together, and what
they leave of the price of the night.
-/

namespace HotelPms.Promotions

open KeySort

/-- A night of a stay as promotions see it; the first night has index one. -/
structure PromotionMatchContext where
  hotelId : Int
  nightDate : Int
  nightIndex : Int
  nightsTotal : Int
  bookingDate : Int
  categoryId : Option Int := none
  roomId : Option Int := none
  salesChannelCode : Option String := none
  guestId : Option Int := none
  companyId : Option Int := none
  paymentCurrency : Option String := none
  paymentMethod : Option String := none

structure GuestTag where
  hotelId : Int
  guestId : Int
  tagType : String

def guestTagTypes (tags : List GuestTag) (hotelId : Int) (guestId : Option Int) : List String :=
  match guestId with
  | none => []
  | some guestId =>
    ((tags.filter fun tag =>
      tag.hotelId = hotelId ∧ tag.guestId = guestId).map GuestTag.tagType).dedup

/-- Day of the week of an ordinal, Monday being zero. -/
def weekday (day : Int) : Nat :=
  ((day + 6) % 7).toNat

def givenNumber (value : Option Int) : Option Int :=
  value.filter (· ≠ 0)

/-- A night meets every condition that a promotion states. -/
def promotionMatches (promo : Promotion) (ctx : PromotionMatchContext)
    (guestTags : List String) : Prop :=
  (promo.scope = .fromNightN →
    ∀ first ∈ givenNumber promo.fromNightNumber, first ≤ ctx.nightIndex) ∧
  (∀ day ∈ promo.conditions.bookingFrom, day ≤ ctx.bookingDate) ∧
  (∀ day ∈ promo.conditions.bookingTo, ctx.bookingDate ≤ day) ∧
  (∀ day ∈ promo.conditions.stayFrom, day ≤ ctx.nightDate) ∧
  (∀ day ∈ promo.conditions.stayTo, ctx.nightDate ≤ day) ∧
  (∀ nights ∈ givenNumber promo.conditions.minNights, nights ≤ ctx.nightsTotal) ∧
  (∀ nights ∈ givenNumber promo.conditions.maxNights, ctx.nightsTotal ≤ nights) ∧
  (∀ mask ∈ promo.conditions.weekdaysMask, mask.testBit (weekday ctx.nightDate) = true) ∧
  (∀ id ∈ promo.conditions.categoryId, some id = ctx.categoryId) ∧
  (∀ id ∈ promo.conditions.roomId, some id = ctx.roomId) ∧
  (∀ code ∈ promo.conditions.salesChannelCode, some code = ctx.salesChannelCode) ∧
  (∀ id ∈ promo.conditions.guestId, some id = ctx.guestId) ∧
  (∀ id ∈ promo.conditions.companyId, some id = ctx.companyId) ∧
  (∀ tag ∈ promo.conditions.guestTagType, tag ∈ guestTags) ∧
  (∀ currency ∈ promo.conditions.paymentCurrency, some currency = ctx.paymentCurrency) ∧
  (∀ method ∈ promo.conditions.paymentMethod, some method = ctx.paymentMethod)
deriving Decidable

/-- Promotions each night meets, the rows and tags being read once. -/
def findApplicablePromotionsForNights (promotions : List Promotion)
    (tags : List GuestTag) (contexts : List PromotionMatchContext) :
    Except String (List (List Promotion)) :=
  match contexts with
  | [] => .ok []
  | first :: _ =>
    if ∃ context ∈ contexts, context.hotelId ≠ first.hotelId ∨ context.guestId ≠ first.guestId then
      .error "Night promotion contexts must share hotel and guest"
    else
      let candidates := promotions.filter fun promo =>
        promo.hotelId = first.hotelId ∧ promo.isActive = true
      if candidates = [] then .ok (contexts.map fun _ => [])
      else
        let guestTags := guestTagTypes tags first.hotelId first.guestId
        .ok (contexts.map fun context => candidates.filter fun promo =>
          promotionMatches promo context guestTags)

/-- Add a promotion to those that already apply. -/
def selectNext (selected : List Promotion) (promo : Promotion) : List Promotion :=
  if selected = [] then [promo]
  else if promo.stackable = true ∧ ∀ existing ∈ selected, existing.stackable = true then
    selected ++ [promo]
  else selected

/-- Promotions that apply together: the first one by priority, and with a
stackable one every other stackable one. -/
def selectPromotionsToApply (promotions : List Promotion) : List Promotion :=
  (sortByKey (-·.priority) (sortByKey (·.id) promotions)).foldl selectNext []

/-- What a promotion did to a night; the amount is in cents. -/
structure AppliedPromotion where
  promotionId : Int
  code : String
  version : Int
  benefitType : PromotionBenefitType
  benefitValue : ℚ
  amountDeducted : Int

/-- Discount on a running amount, in cents. -/
def promotionDiscount (running : Int) (promo : Promotion) : Int :=
  match promo.benefitType with
  | .percentage =>
    Decimal.quantizeHalfUp 2 (Decimal.inContext
      (Decimal.inContext ((running : ℚ) / 100 * promo.benefitValue) / 100))
  | .fixed => Decimal.quantizeHalfUp 2 promo.benefitValue

/-- Lower the running amount, to zero at most. -/
def applyPromotion (state : Int × List AppliedPromotion)
    (promo : Promotion) : Int × List AppliedPromotion :=
  let discount := promotionDiscount state.1 promo
  let deducted := if state.1 - discount < 0 then state.1 else discount
  (if state.1 - discount < 0 then 0 else state.1 - discount, state.2 ++ [{
      promotionId := promo.id
      code := promo.code
      version := promo.version
      benefitType := promo.benefitType
      benefitValue := promo.benefitValue
      amountDeducted := deducted }])

def applyPromotionsToNight (baseAmount : Int) (promotions : List Promotion) :
    Int × List AppliedPromotion :=
  (selectPromotionsToApply promotions).foldl applyPromotion (baseAmount, [])

end HotelPms.Promotions
