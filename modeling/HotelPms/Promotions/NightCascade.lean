import HotelPms.Promotions.Matching

/-!
# Applying the promotions of a night

Promotions are ranked by priority and number.  The first one applies alone
unless it combines with others, and then all that combine apply.  Each lowers
the amount that those before it left, never below zero.
-/

namespace HotelPms.Promotions

open Decimal KeySort

/-- A higher priority goes first, then a lower number. -/
def Promotion.Precedes (promo other : Promotion) : Prop :=
  other.priority < promo.priority ∨ promo.priority = other.priority ∧ promo.id < other.id

/-- What a night is left with after some promotions, in their order. -/
structure Cascade (baseAmount : Int) (chosen : List Promotion)
    (state : Int × List AppliedPromotion) : Prop where
  nonneg : 0 ≤ state.1
  bounded : state.1 ≤ baseAmount
  conserved : state.1 = baseAmount - (state.2.map AppliedPromotion.amountDeducted).sum
  applied : state.2.map AppliedPromotion.promotionId = chosen.map (·.id)

/-- The first promotion applies alone, or all that combine apply. -/
def Combines (promotions chosen : List Promotion) : Prop :=
  (∃ promo ∈ promotions, chosen = [promo] ∧ promo.stackable = false ∧
    ∀ other ∈ promotions, other = promo ∨ promo.Precedes other) ∨
  chosen.Perm (promotions.filter (·.stackable))

theorem promotionDiscount_nonneg {running : Int} {promo : Promotion} (nonneg : 0 ≤ running)
    (benefit : 0 ≤ promo.benefitValue) : 0 ≤ promotionDiscount running promo := by
  have rounded {value : ℚ} (known : 0 ≤ value) : 0 ≤ quantizeHalfUp 2 value := by
    unfold quantizeHalfUp roundHalfUp
    rw [if_pos (by positivity)]
    positivity
  unfold promotionDiscount
  cases promo.benefitType with
  | percentage =>
    have product : 0 ≤ inContext ((running : ℚ) / 100 * promo.benefitValue) :=
      inContext_nonneg (by positivity)
    exact rounded (inContext_nonneg (by positivity))
  | fixed => exact rounded benefit

section

variable {baseAmount : Int} {promotions chosen : List Promotion}

theorem Cascade.step {state : Int × List AppliedPromotion} {promo : Promotion}
    (cascade : Cascade baseAmount chosen state) (benefit : 0 ≤ promo.benefitValue) :
    Cascade baseAmount (chosen ++ [promo]) (applyPromotion state promo) := by
  have discount := promotionDiscount_nonneg cascade.nonneg benefit
  obtain ⟨nonneg, bounded, conserved, applied⟩ := cascade
  unfold applyPromotion
  constructor
  · grind
  · grind
  · grind
  · simp [applied]

theorem Cascade.run {state : Int × List AppliedPromotion}
    (cascade : Cascade baseAmount chosen state)
    (benefits : ∀ promo ∈ promotions, 0 ≤ promo.benefitValue) :
    Cascade baseAmount (chosen ++ promotions) (promotions.foldl applyPromotion state) := by
  induction promotions generalizing chosen state with
  | nil => rwa [List.append_nil]
  | cons promo rest ih =>
    rw [List.foldl_cons, List.append_cons]
    exact ih (cascade.step (benefits promo List.mem_cons_self)) (List.forall_mem_cons.mp benefits).2

/-- Promotions by priority and number. -/
def ranked (promotions : List Promotion) : List Promotion :=
  sortByKey (-·.priority) (sortByKey (·.id) promotions)

theorem ranked_perm (promotions : List Promotion) : (ranked promotions).Perm promotions :=
  (sortByKey_perm _ _).trans (sortByKey_perm _ _)

theorem ranked_pairwise (distinct : (promotions.map (·.id)).Nodup) :
    (ranked promotions).Pairwise Promotion.Precedes := by
  have apart := List.pairwise_map.mp (nodup_map_sortByKey (·.id) _ distinct)
  have byId := (sortByKey_pairwise (·.id) promotions).and apart
  refine (sortByKey_pairwise_stable (-·.priority) _ byId).imp ?_
  rintro promo other (higher | ⟨same, below, different⟩)
  · exact .inl (neg_lt_neg_iff.mp higher)
  · exact .inr ⟨neg_inj.mp same, lt_of_le_of_ne below different⟩

/-- The order the promotions are given in does not matter. -/
theorem ranked_eq_of_perm {other : List Promotion} (perm : other.Perm promotions)
    (distinct : (promotions.map (·.id)).Nodup) :
    ranked other = ranked promotions := by
  have otherOrdered := ranked_pairwise ((perm.map (·.id)).nodup_iff.mpr distinct)
  refine List.Perm.eq_of_pairwise ?_ otherOrdered (ranked_pairwise distinct)
    ((ranked_perm other).trans (perm.trans (ranked_perm promotions).symm))
  rintro promo another - - (higher | first) (lower | second) <;> omega

theorem foldl_selectNext {selected : List Promotion} (given : selected ≠ [])
    (promotions : List Promotion) :
    promotions.foldl selectNext selected =
      if ∀ existing ∈ selected, existing.stackable = true then
        selected ++ promotions.filter (·.stackable)
      else selected := by
  induction promotions generalizing selected with
  | nil => simp
  | cons promo rest ih =>
    have next : selectNext selected promo =
        if promo.stackable = true ∧ ∀ existing ∈ selected, existing.stackable = true then
          selected ++ [promo]
        else selected := if_neg given
    rw [List.foldl_cons, next, ih (by split_ifs <;> simp [given])]
    by_cases stackable : promo.stackable = true
    · split_ifs with all <;> grind
    · grind

/-- Which promotions apply, and in which order. -/
theorem selectPromotionsToApply_combines (distinct : (promotions.map (·.id)).Nodup) :
    (selectPromotionsToApply promotions).Pairwise Promotion.Precedes ∧
      Combines promotions (selectPromotionsToApply promotions) := by
  have ordered := ranked_pairwise distinct
  have perm := ranked_perm promotions
  change ((ranked promotions).foldl selectNext []).Pairwise _ ∧
    Combines promotions ((ranked promotions).foldl selectNext [])
  cases same : ranked promotions with
  | nil =>
    rw [same] at perm
    rw [List.nil_perm.mp perm]
    exact ⟨.nil, .inr .nil⟩
  | cons promo rest =>
    rw [same] at ordered perm
    change (rest.foldl selectNext [promo]).Pairwise _ ∧
      Combines promotions (rest.foldl selectNext [promo])
    rw [foldl_selectNext (List.cons_ne_nil _ _)]
    cases stackable : promo.stackable with
    | true =>
      have chosen : [promo] ++ rest.filter (·.stackable) =
          (promo :: rest).filter (·.stackable) := by
        simp [stackable]
      rw [if_pos (by simpa using stackable), chosen]
      exact ⟨ordered.filter _, .inr (perm.filter _)⟩
    | false =>
      rw [if_neg (by simp [stackable])]
      refine ⟨List.pairwise_singleton _ _, .inl ⟨promo, ?_, rfl, stackable, ?_⟩⟩
      · exact perm.mem_iff.mp List.mem_cons_self
      · intro other member
        rcases List.mem_cons.mp (perm.mem_iff.mpr member) with same | later
        · exact .inl same
        · exact .inr (List.rel_of_pairwise_cons ordered later)

/-- What a night is left with does not depend on the order its promotions are
given in; it lies between nothing and the base amount, less exactly what the
promotions that apply deduct, in their order. -/
theorem applyPromotionsToNight_orderIndependent (nonneg : 0 ≤ baseAmount)
    (distinct : (promotions.map (·.id)).Nodup)
    (benefits : ∀ promo ∈ promotions, 0 ≤ promo.benefitValue) :
    (∀ other, other.Perm promotions ->
      applyPromotionsToNight baseAmount other = applyPromotionsToNight baseAmount promotions) ∧
    ∃ chosen, Cascade baseAmount chosen (applyPromotionsToNight baseAmount promotions) ∧
      chosen.Pairwise Promotion.Precedes ∧ Combines promotions chosen := by
  obtain ⟨ordered, combines⟩ := selectPromotionsToApply_combines distinct
  constructor
  · intro other perm
    exact congrArg (fun rows => (rows.foldl selectNext []).foldl applyPromotion (baseAmount, []))
      (ranked_eq_of_perm perm distinct)
  · have start : Cascade baseAmount [] (baseAmount, []) := ⟨nonneg, le_rfl, by simp, rfl⟩
    refine ⟨_, start.run fun promo member => benefits promo ?_, ordered, combines⟩
    rcases combines with ⟨first, firstIn, alone, -⟩ | all
    · have isFirst : promo ∈ [first] := alone ▸ member
      exact List.mem_singleton.mp isFirst ▸ firstIn
    · exact List.mem_of_mem_filter (all.mem_iff.mp member)

/-- A tenth off, with other promotions. -/
def tenthOff : Promotion where
  id := 1
  hotelId := 1
  code := "TENTH"
  name := "Temporada"
  benefitType := .percentage
  benefitValue := 10
  stackable := true

theorem applyPromotionsToNight_orderIndependent_tenth :
    ∃ chosen, Cascade 10000 chosen (applyPromotionsToNight 10000 [tenthOff]) ∧
      chosen.Pairwise Promotion.Precedes ∧ Combines [tenthOff] chosen :=
  (applyPromotionsToNight_orderIndependent (by decide) (by decide) (by decide +kernel)).2

end

end HotelPms.Promotions
