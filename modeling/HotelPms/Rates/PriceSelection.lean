import HotelPms.Rates.ShownPrice

/-!
# The price that a quote selects

A quote ranks the prices of a stay by channel before it looks at their
occupancy.  It selects a price that applies unless every price of the very
channel is for another occupancy.
-/

namespace HotelPms.Rates

open Checked

variable {α : Type} (occupancy : Option Int) (channelCode : Option String)

/-- The price is for an occupancy, or for all of them. -/
def RatePlanPrice.FitsOccupancy (price : RatePlanPrice α) : Prop :=
  price.occupancy = occupancy ∨ price.occupancy = none

/-- The price is for a channel, or for all of them, and fits the occupancy. -/
def RatePlanPrice.AppliesTo (price : RatePlanPrice α) : Prop :=
  (price.salesChannelCode = channelCode ∨ price.salesChannelCode = none) ∧
    price.FitsOccupancy occupancy

/-- If some price applies, one that does is selected, and none that applies has
a better channel match. -/
def SelectsApplicable (prices : List (RatePlanPrice α))
    (selection : Except PricingPolicyError (RatePlanPrice α)) : Prop :=
  (∃ price ∈ prices, price.AppliesTo occupancy channelCode) ->
    ∃ selected ∈ prices, selection = .ok selected ∧ selected.AppliesTo occupancy channelCode ∧
      ∀ other ∈ prices, other.AppliesTo occupancy channelCode ->
        quoteChannelScore channelCode other ≤ quoteChannelScore channelCode selected

/-- The prices of the very channel are all for other occupancies, and a general
one fits. -/
def ChannelHidesPrice (prices : List (RatePlanPrice α)) : Prop :=
  (∃ price ∈ prices, price.salesChannelCode = channelCode) ∧
    (∀ price ∈ prices, price.salesChannelCode = channelCode -> ¬price.FitsOccupancy occupancy) ∧
    ∃ price ∈ prices, price.salesChannelCode = none ∧ price.FitsOccupancy occupancy

variable {occupancy channelCode} {price : RatePlanPrice α}

theorem quoteOccupancyScore_eq_zero_iff :
    quoteOccupancyScore occupancy price = 0 ↔ ¬price.FitsOccupancy occupancy := by
  unfold quoteOccupancyScore RatePlanPrice.FitsOccupancy
  cases occupancy <;> split_ifs <;> simp_all

theorem scores_of_quoteScore_le {other : RatePlanPrice α}
    (better : quoteScore occupancy channelCode other ≤ quoteScore occupancy channelCode price) :
    quoteChannelScore channelCode other < quoteChannelScore channelCode price ∨
      quoteChannelScore channelCode other = quoteChannelScore channelCode price ∧
        quoteOccupancyScore occupancy other ≤ quoteOccupancyScore occupancy price := by
  rcases Prod.Lex.le_iff.mp better with less | ⟨same, rest⟩
  · exact .inl less
  · exact .inr ⟨same, Prod.Lex.monotone_fst _ _ rest⟩

/-- The quote selects a price that applies exactly when no price of the channel
hides it. -/
theorem selectRatePlanPrice_selectsApplicable_iff (tables : RateTables α)
    (ratePlanId checkIn checkOut : Int) :
    SelectsApplicable occupancy channelCode (stayPrices tables ratePlanId checkIn checkOut)
        (selectRatePlanPrice tables ratePlanId occupancy channelCode checkIn checkOut) ↔
      ¬ChannelHidesPrice occupancy channelCode (stayPrices tables ratePlanId checkIn checkOut) := by
  unfold SelectsApplicable ChannelHidesPrice selectRatePlanPrice
  set prices := stayPrices tables ratePlanId checkIn checkOut
  cases found : prices.argmax (quoteScore occupancy channelCode) with
  | none => simp [List.argmax_eq_none.mp found]
  | some selected =>
    have selectedIn := List.argmax_mem found
    have best : ∀ other ∈ prices, _ := fun other member =>
      scores_of_quoteScore_le (List.le_of_mem_argmax member found)
    simp only [bind_eq_ok, raiseIf_eq_ok, pure_eq_ok, RatePlanPrice.AppliesTo]
    unfold quoteChannelScore at *
    constructor
    · rintro selects ⟨⟨ofChannel, ofChannelIn, same⟩, unfit, general, generalIn, every, fits⟩
      obtain ⟨price, priceIn, ⟨-, -, -, -, rfl⟩, applies, -⟩ :=
        selects ⟨general, generalIn, .inr every, fits⟩
      have asGood := best ofChannel ofChannelIn
      grind
    · rintro shown ⟨price, priceIn, channel, fits⟩
      have unfit (other : RatePlanPrice α) := @quoteOccupancyScore_eq_zero_iff α occupancy other
      have selectedFits : selected.FitsOccupancy occupancy := by grind
      refine ⟨selected, selectedIn, ⟨(), ?_, (), ?_, rfl⟩, ⟨?_, selectedFits⟩, ?_⟩ <;> grind

/-- Price of the direct channel for one guest. -/
def singlePrice : RatePlanPrice ℚ where
  id := 2
  ratePlanId := 1
  salesChannelCode := some "direct"
  occupancy := some 1
  baseAmount := 80

theorem singlePrices_distinct : (([yearPrice, singlePrice]).map RatePlanPrice.id).Nodup := by decide

def singleTables : RateTables ℚ where
  plans := []
  prices := [yearPrice, singlePrice]
  distinctPrices := singlePrices_distinct
  distinctPlans := List.nodup_nil

theorem not_selectsApplicable_singlePrice :
    ¬SelectsApplicable (some 2) (some "direct") (stayPrices singleTables 1 10 12)
      (selectRatePlanPrice singleTables 1 (some 2) (some "direct") 10 12) := by
  have stored : stayPrices singleTables 1 10 12 = [yearPrice, singlePrice] := by
    decide +kernel
  have refused : selectRatePlanPrice singleTables 1 (some 2) (some "direct") 10 12 =
      .error .noOccupancyPrice := by
    decide +kernel
  rw [stored, refused]
  intro selects
  obtain ⟨_, -, impossible, -⟩ := selects ⟨yearPrice, by simp, .inr rfl, .inr rfl⟩
  cases impossible

end HotelPms.Rates
