import HotelPms.Quotes.ReservationPricing
import HotelPms.Rates.OnePrecedence

/-!
# The nights of a stay

Each night has the price of its daily rate or of the winning period, less what
the promotions that it meets deduct.  Promotions are matched for all nights at
once, and this is matching them night by night.
-/

namespace HotelPms.Quotes

open Checked DayCounts FloatFormat Promotions Rates

/-- Active promotions that a night meets. -/
def promotionsMet (promotions : List Promotion) (tags : List GuestTag)
    (context : PromotionMatchContext) : List Promotion :=
  (promotions.filter fun promo => promo.hotelId = context.hotelId ∧ promo.isActive = true).filter
    fun promo => promotionMatches promo context (guestTagTypes tags context.hotelId context.guestId)

theorem findApplicablePromotionsForNights_eq {promotions : List Promotion} {tags : List GuestTag}
    {contexts : List PromotionMatchContext} {hotelId : Int}
    {guestId : Option Int}
    (shared : ∀ context ∈ contexts, context.hotelId = hotelId ∧ context.guestId = guestId) :
    findApplicablePromotionsForNights promotions tags contexts =
      .ok (contexts.map (promotionsMet promotions tags)) := by
  cases contexts with
  | nil => rfl
  | cons first rest =>
    obtain ⟨firstHotel, firstGuest⟩ := shared first List.mem_cons_self
    have agree : ¬∃ context ∈ first :: rest,
        context.hotelId ≠ first.hotelId ∨ context.guestId ≠ first.guestId := by
      rintro ⟨context, member, differs⟩
      obtain ⟨sameHotel, sameGuest⟩ := shared context member
      rw [sameHotel, sameGuest, firstHotel, firstGuest] at differs
      exact differs.elim (absurd rfl) (absurd rfl)
    unfold findApplicablePromotionsForNights
    simp only
    rw [if_neg agree]
    have matched : ∀ context ∈ first :: rest, promotionsMet promotions tags context =
          (promotions.filter fun promo =>
            promo.hotelId = first.hotelId ∧ promo.isActive = true).filter fun promo =>
            decide (promotionMatches promo context
              (guestTagTypes tags first.hotelId first.guestId)) := by
      intro context member
      obtain ⟨sameHotel, sameGuest⟩ := shared context member
      unfold promotionsMet
      rw [sameHotel, sameGuest, firstHotel, firstGuest]
    rw [List.map_congr_left matched]
    split
    · next none =>
      rw [none]
      rfl
    · rfl

/-- Price and source of a night of a category: its daily rate, the winning
period, or the base price. -/
def nightRate (rates : NightlyRates) (hotelId : Int)
    (category : RateCategory) (paymentMethod : Option String) (day : Int) :
    Int × String :=
  match rates.dailyRate? hotelId category.id day with
  | some row =>
    (priceWithPaymentMethodOverride row.toMethodPrices row.price paymentMethod, "daily_rate")
  | none =>
    match rates.winner? hotelId category.id day with
    | some period => (periodPrice period paymentMethod, "price_period")
    | none =>
      (category.basePricePerNight.getD 0,
        if category.basePricePerNight = none then "none"
        else "category_base")

theorem resolveDay_nightRate (rates : NightlyRates) (hotelId : Int) (category : RateCategory)
    (paymentMethod : Option String) {first last day : Int}
    (within : first ≤ day ∧ day ≤ last) :
    let resolved := NightlyRates.resolveDay (rates.dailyRatesWithin hotelId category.id first last)
      (rankPeriods (rates.activePeriods hotelId category.id first last))
      category.basePricePerNight paymentMethod day
    resolved.date = day ∧ (resolved.price, resolved.source) =
        nightRate rates hotelId category paymentMethod day := by
  have sameDaily := rates.dailyRateOn_dailyRatesWithin hotelId category.id within
  have samePeriod := rates.find?_activePeriods hotelId category.id within
  unfold NightlyRates.resolveDay nightRate
  rw [sameDaily, samePeriod]
  cases rates.dailyRate? hotelId category.id day with
  | some row => exact ⟨rfl, rfl⟩
  | none =>
    cases rates.winner? hotelId category.id day with
    | some period => exact ⟨rfl, rfl⟩
    | none => exact ⟨rfl, rfl⟩

section Nights

variable {F : Type} [FloatFormat F]
variable (tables : PricingTables F) (env : PricingEnvironment F)

def stayNight (category : PricedCategory) (stay : StayRequest)
    (paymentMethod : Option String) (day : Int) : NightPrice F :=
  let rate := nightRate tables.toNightlyRates tables.hotelId
    category.toRateCategory paymentMethod day
  nightPrice day rate.1 rate.2 (promotionsMet tables.promotions tables.guestTags
      (promotionContext tables.hotelId env.today category.id stay paymentMethod day))

theorem nightPrices_eq {category : PricedCategory} {stay : StayRequest}
    {paymentMethod : Option String}
    (ownCategory : category.hotelId = tables.hotelId) :
    nightPrices tables env category stay paymentMethod =
      .ok ((loopDays stay.checkIn stay.checkOut).map
        (stayNight tables env category stay paymentMethod)) := by
  have shared : ∀ context ∈ (loopDays stay.checkIn stay.checkOut).map
      (promotionContext tables.hotelId env.today category.id stay paymentMethod),
      context.hotelId = tables.hotelId ∧ context.guestId = stay.guestId := by
    intro context member
    obtain ⟨day, -, rfl⟩ := List.mem_map.mp member
    exact ⟨rfl, rfl⟩
  have owned : ¬∃ given ∈ some category.toRateCategory,
      given.id ≠ category.id ∨ given.hotelId ≠ tables.hotelId := by
    rintro ⟨given, isGiven, differs⟩
    obtain rfl := Option.mem_some_iff.mp isGiven
    exact differs.elim (absurd rfl) (absurd ownCategory)
  unfold nightPrices NightlyRates.resolveRateCalendar raiseIf
  rw [findApplicablePromotionsForNights_eq shared, if_neg owned, sub_add_cancel]
  show Except.ok _ = Except.ok _
  congr 1
  rw [List.map_map, List.zip_map', List.map_map]
  apply List.map_congr_left
  intro day member
  have within : stay.checkIn ≤ day ∧ day ≤ stay.checkOut - 1 := by
    rw [mem_loopDays] at member
    omega
  obtain ⟨sameDay, sameRate⟩ := resolveDay_nightRate tables.toNightlyRates
    tables.hotelId category.toRateCategory paymentMethod within
  unfold stayNight
  rw [← sameRate]
  exact congrArg (nightPrice · _ _ _) sameDay

end Nights

end HotelPms.Quotes
