import HotelPms.Foundation.Transition
import HotelPms.Promotions.Matching

/-!
# One live version of a promotion

At most one version of a promotion is active as long as no row is activated,
and no row followed by a new version, while another version is active.
-/

namespace HotelPms.Promotions

open Checked Transition

inductive PromotionCall
  | create (hotelId : Int) (payload : PromotionCreate)
      (createdByUserId : Option Int)
  | update (hotelId promotionId : Int) (payload : PromotionUpdate)
      (actorUserId : Option Int)
  | deactivate (hotelId promotionId now : Int) (actorUserId : Option Int)
  | reactivate (hotelId promotionId : Int)

variable (table : PromotionTable)

/-- A call that is refused, or whose rows collide, has no successor. -/
def promotionStep : PromotionCall -> Option PromotionTable
  | .create hotelId payload user =>
    (table.createPromotion hotelId payload user).toOption
  | .update hotelId id payload user =>
    (table.updatePromotion hotelId id payload user).toOption
  | .deactivate hotelId id now user =>
    (table.deactivatePromotion hotelId id now user).toOption
  | .reactivate hotelId id =>
    (table.reactivatePromotion hotelId id).toOption

/-- At most one version of each promotion is active. -/
def OneLiveVersion : Prop :=
  ∀ row ∈ table.rows, ∀ other ∈ table.rows,
    row.isActive = true -> other.isActive = true -> row.SamePromotion other -> row = other
deriving Decidable

/-- No other version of a row is active. -/
def NoOtherLive (hotelId promotionId : Int) : Prop :=
  ∀ row ∈ table.rows, row.id = promotionId -> row.hotelId = hotelId ->
    ∀ other ∈ table.rows, other.isActive = true -> row.SamePromotion other -> other.id = promotionId
deriving Decidable

/-- The call makes no second version active. -/
def KeepsOneLive : PromotionCall -> Prop
  | .create _ _ _ => True
  | .update hotelId id _ _ => NoOtherLive table hotelId id
  | .deactivate _ _ _ _ => True
  | .reactivate hotelId id => NoOtherLive table hotelId id

instance (table : PromotionTable) : ∀ call, Decidable (KeepsOneLive table call)
  | .create _ _ _ => .isTrue trivial
  | .update hotelId id _ _ =>
    inferInstanceAs (Decidable (NoOtherLive table hotelId id))
  | .deactivate _ _ _ _ => .isTrue trivial
  | .reactivate hotelId id =>
    inferInstanceAs (Decidable (NoOtherLive table hotelId id))

namespace PromotionTable

variable {table after : PromotionTable}

theorem insert_eq_ok {row : Promotion} {isNext : row.id = table.nextId}
    (inserted : table.insert row isNext = .ok after) :
    after.rows = table.rows ++ [row] ∧ row.versionKey ∉ table.rows.map Promotion.versionKey := by
  unfold insert at inserted
  split_ifs at inserted with absent
  rw [← Except.ok.inj inserted]
  exact ⟨rfl, absent⟩

variable {hotelId : Int} {user : Option Int}

theorem getActiveOr404_eq_ok {promotionId : Int} {row : Promotion}
    (found : table.getActiveOr404 hotelId promotionId = .ok row) :
    row ∈ table.rows ∧ row.id = promotionId ∧ row.hotelId = hotelId := by
  unfold getActiveOr404 at found
  split at found
  · rename_i other isFound
    cases found
    have matched := List.find?_some isFound
    rw [decide_eq_true_eq] at matched
    exact ⟨List.mem_of_find?_eq_some isFound, matched⟩
  · cases found

theorem createPromotion_eq_ok {payload : PromotionCreate}
    (created : table.createPromotion hotelId payload user = .ok after) :
    ∃ row, after.rows = table.rows ++ [row] ∧ ∀ other ∈ table.rows, ¬row.SamePromotion other := by
  obtain ⟨_, isNew, rest⟩ := bind_eq_ok.mp created
  obtain ⟨conditions, -, inserted⟩ := bind_eq_ok.mp rest
  rw [raiseIf_eq_ok] at isNew
  refine ⟨_, (insert_eq_ok inserted).1, ?_⟩
  rintro other member ⟨sameHotel, sameCode⟩
  exact isNew ⟨other, member, sameHotel.symm, sameCode.symm⟩

theorem updatePromotion_eq_ok {id : Int} {payload : PromotionUpdate}
    (updated : table.updatePromotion hotelId id payload user = .ok after) :
    ∃ current ∈ table.rows, current.id = id ∧ current.hotelId = hotelId ∧
      ∃ row, row.isActive = true ∧ row.id = table.nextId ∧ row.SamePromotion current ∧
        after.rows = (table.rows.map fun other =>
          if other.id = id then replaced user other else other) ++ [row] := by
  obtain ⟨current, found, rest⟩ := bind_eq_ok.mp updated
  obtain ⟨-, -, rest⟩ := bind_eq_ok.mp rest
  obtain ⟨-, -, rest⟩ := bind_eq_ok.mp rest
  obtain ⟨conditions, -, rest⟩ := bind_eq_ok.mp rest
  obtain ⟨inserted, isInserted, result⟩ := bind_eq_ok.mp rest
  obtain ⟨stored, rfl, own⟩ := getActiveOr404_eq_ok found
  refine ⟨current, stored, rfl, own,
    table.nextVersion current payload conditions user, rfl, rfl, ⟨rfl, rfl⟩,
    ?_⟩
  rw [← pure_eq_ok.mp result]
  unfold alter
  have differs : table.nextId ≠ current.id :=
    (table.numbered.ne_next stored).symm
  simp only [(insert_eq_ok isInserted).1, List.map_append, List.map_cons, List.map_nil]
  rw [if_neg]
  exact differs

theorem deactivatePromotion_eq_ok {id now : Int}
    (done : table.deactivatePromotion hotelId id now user = .ok after) :
    after.rows = table.rows.map fun other =>
      if other.id = id then deactivated now user other else other := by
  obtain ⟨current, found, result⟩ := bind_eq_ok.mp done
  obtain ⟨-, rfl, -⟩ := getActiveOr404_eq_ok found
  rw [← pure_eq_ok.mp result]
  rfl

theorem reactivatePromotion_eq_ok {id : Int}
    (done : table.reactivatePromotion hotelId id = .ok after) :
    ∃ current ∈ table.rows, current.id = id ∧ current.hotelId = hotelId ∧
      after.rows = table.rows.map fun other =>
        if other.id = id then reactivated other else other := by
  obtain ⟨current, found, result⟩ := bind_eq_ok.mp done
  obtain ⟨stored, rfl, own⟩ := getActiveOr404_eq_ok found
  refine ⟨current, stored, rfl, own, ?_⟩
  rw [← pure_eq_ok.mp result]
  rfl

end PromotionTable

section Steps

variable {table after : PromotionTable}

theorem eq_of_id {row other : Promotion} (member : row ∈ table.rows)
    (otherIn : other ∈ table.rows) (same : row.id = other.id) : row = other :=
  Table.eq_of_key table.numbered.distinct member otherIn same

theorem mem_map_of_ne {change : Promotion -> Promotion} {id : Int}
    {row : Promotion} (member : row ∈ table.rows) (differs : row.id ≠ id) :
    row ∈ table.rows.map fun row => if row.id = id then change row else row :=
  List.mem_map.mpr ⟨row, member, if_neg differs⟩

theorem oneLiveVersion_map {change : Promotion -> Promotion} {id : Int}
    (oneLive : OneLiveVersion table)
    (keepsHotel : ∀ row, (change row).hotelId = row.hotelId)
    (keepsCode : ∀ row, (change row).code = row.code)
    (activates : ∀ row ∈ table.rows, row.id = id -> (change row).isActive = true ->
        ∀ other ∈ table.rows, other.isActive = true -> row.SamePromotion other -> other.id = id)
    {rows : List Promotion}
    (changed : rows = table.rows.map fun row =>
      if row.id = id then change row else row) :
    ∀ row ∈ rows, ∀ other ∈ rows, row.isActive = true -> other.isActive = true ->
        row.SamePromotion other -> row = other := by
  have one : ∀ row ∈ table.rows, ∀ other ∈ table.rows,
      row.id = id -> other.id ≠ id -> (change row).isActive = true ->
        other.isActive = true -> ¬row.SamePromotion other := by
    intro row member other otherIn isRow differs active otherActive same
    exact differs (activates row member isRow active other otherIn otherActive same)
  subst changed
  intro row member other otherIn active otherActive same
  obtain ⟨old, oldIn, rfl⟩ := List.mem_map.mp member
  obtain ⟨oldOther, oldOtherIn, rfl⟩ := List.mem_map.mp otherIn
  by_cases isRow : old.id = id
  · by_cases isOther : oldOther.id = id
    · rw [eq_of_id oldIn oldOtherIn (isRow.trans isOther.symm)]
    · rw [if_pos isRow] at active same
      rw [if_neg isOther] at otherActive same
      refine absurd ?_ (one old oldIn oldOther oldOtherIn isRow isOther active otherActive)
      exact ⟨(keepsHotel old).symm.trans same.1, (keepsCode old).symm.trans same.2⟩
  · by_cases isOther : oldOther.id = id
    · rw [if_neg isRow] at active same
      rw [if_pos isOther] at otherActive same
      refine absurd ?_ (one oldOther oldOtherIn old oldIn isOther isRow otherActive active)
      exact ⟨(keepsHotel oldOther).symm.trans same.1.symm,
        (keepsCode oldOther).symm.trans same.2.symm⟩
    · rw [if_neg isRow] at active same ⊢
      rw [if_neg isOther] at otherActive same ⊢
      exact oneLive old oldIn oldOther oldOtherIn active otherActive same

theorem oneLiveVersion_append {rows : List Promotion} {row : Promotion}
    (oneLive : ∀ row ∈ rows, ∀ other ∈ rows,
      row.isActive = true -> other.isActive = true -> row.SamePromotion other -> row = other)
    (alone : ∀ other ∈ rows, other.isActive = true -> ¬row.SamePromotion other) :
    ∀ first ∈ rows ++ [row], ∀ other ∈ rows ++ [row],
      first.isActive = true -> other.isActive = true ->
        first.SamePromotion other -> first = other := by
  intro first member other otherIn active otherActive same
  rcases List.mem_added.mp member with old | rfl
  · rcases List.mem_added.mp otherIn with oldOther | rfl
    · exact oneLive first old other oldOther active otherActive same
    · exact absurd ⟨same.1.symm, same.2.symm⟩ (alone first old active)
  · rcases List.mem_added.mp otherIn with oldOther | newOther
    · exact absurd same (alone other oldOther otherActive)
    · exact newOther.symm

theorem promotionStep_oneLiveVersion {call : PromotionCall} (oneLive : OneLiveVersion table)
    (taken : promotionStep table call = some after) :
    OneLiveVersion after ↔ KeepsOneLive table call := by
  cases call with
  | create hotelId payload user =>
    obtain ⟨row, rows, isNew⟩ := PromotionTable.createPromotion_eq_ok (toOption_eq_some taken)
    refine iff_of_true ?_ trivial
    unfold OneLiveVersion
    rw [rows]
    exact oneLiveVersion_append oneLive fun other member _ => isNew other member
  | update hotelId id payload user =>
    obtain ⟨current, stored, isCurrent, own, row, active, isNext, same,
      rows⟩ := PromotionTable.updatePromotion_eq_ok (toOption_eq_some taken)
    constructor
    · intro after_oneLive changed changedIn isChanged _ other otherIn otherActive sameOther
      by_contra differs
      have kept : other ∈ after.rows := by
        rw [rows]
        exact List.mem_append_left _ (mem_map_of_ne otherIn differs)
      have added : row ∈ after.rows := by
        rw [rows]
        exact List.mem_append_right _ List.mem_cons_self
      have isCurrentRow := eq_of_id changedIn stored (isChanged.trans isCurrent.symm)
      subst isCurrentRow
      have sameRow := after_oneLive row added other kept active otherActive
        ⟨same.1.trans sameOther.1, same.2.trans sameOther.2⟩
      exact table.numbered.ne_next otherIn (sameRow ▸ isNext)
    · intro alone
      unfold OneLiveVersion
      rw [rows]
      refine oneLiveVersion_append (@oneLiveVersion_map table
        (PromotionTable.replaced user) id oneLive (fun _ => rfl)
        (fun _ => rfl) (fun _ _ _ active => by cases active) _ rfl) ?_
      intro other otherIn otherActive sameOther
      obtain ⟨old, oldIn, rfl⟩ := List.mem_map.mp otherIn
      by_cases isOld : old.id = id
      · rw [if_pos isOld] at otherActive
        cases otherActive
      · rw [if_neg isOld] at otherActive sameOther
        exact isOld (alone current stored isCurrent own old oldIn
          otherActive ⟨same.1.symm.trans sameOther.1, same.2.symm.trans sameOther.2⟩)
  | deactivate hotelId id now user =>
    have rows :=
      PromotionTable.deactivatePromotion_eq_ok (toOption_eq_some taken)
    refine iff_of_true ?_ trivial
    refine @oneLiveVersion_map table (PromotionTable.deactivated now user) id
      oneLive (fun _ => rfl) (fun _ => rfl) ?_ _ rows
    intro row _ _ active
    cases active
  | reactivate hotelId id =>
    obtain ⟨current, stored, isCurrent, own, rows⟩ :=
      PromotionTable.reactivatePromotion_eq_ok (toOption_eq_some taken)
    constructor
    · intro after_oneLive changed changedIn isChanged _ other otherIn otherActive sameOther
      by_contra differs
      have kept : other ∈ after.rows := by
        rw [rows]
        exact mem_map_of_ne otherIn differs
      have activated : PromotionTable.reactivated changed ∈ after.rows := by
        rw [rows]
        exact List.mem_map.mpr ⟨changed, changedIn, if_pos isChanged⟩
      have sameRow := after_oneLive _ activated other kept rfl otherActive sameOther
      exact differs (sameRow ▸ isChanged)
    · intro alone
      refine @oneLiveVersion_map table PromotionTable.reactivated id oneLive
        (fun _ => rfl) (fun _ => rfl) ?_ _ rows
      intro row member isRow _ other otherIn otherActive same
      have isCurrentRow := eq_of_id member stored (isRow.trans isCurrent.symm)
      exact alone row member isRow (isCurrentRow ▸ own) other otherIn otherActive same

end Steps

theorem findApplicablePromotionsForNights_sublist
    {promotions : List Promotion} {tags : List GuestTag}
    {contexts : List PromotionMatchContext} {found : List (List Promotion)}
    (matched : findApplicablePromotionsForNights promotions tags contexts = .ok found) :
    ∀ night ∈ found, night.Sublist promotions ∧ ∀ promo ∈ night, promo.isActive = true := by
  unfold findApplicablePromotionsForNights at matched
  split at matched
  · rw [← Except.ok.inj matched]
    simp
  · simp only at matched
    split_ifs at matched with empty
    · rw [← Except.ok.inj matched]
      intro night member
      obtain ⟨_, -, rfl⟩ := List.mem_map.mp member
      exact ⟨List.nil_sublist _, by simp⟩
    · rw [← Except.ok.inj matched]
      intro night member
      obtain ⟨context, -, rfl⟩ := List.mem_map.mp member
      refine ⟨List.filter_sublist.trans List.filter_sublist, ?_⟩
      intro promo selected
      have candidate := List.mem_of_mem_filter selected
      exact (of_decide_eq_true (List.mem_filter.mp candidate).2).2

theorem findApplicablePromotionsForNights_pairwise
    {table : PromotionTable} (oneLive : OneLiveVersion table)
    {tags : List GuestTag} {contexts : List PromotionMatchContext}
    {found : List (List Promotion)}
    (matched : findApplicablePromotionsForNights table.rows tags contexts = .ok found) :
    ∀ night ∈ found, night.Pairwise fun row other => ¬row.SamePromotion other := by
  intro night member
  obtain ⟨part, active⟩ := findApplicablePromotionsForNights_sublist matched night member
  have distinct : night.Nodup :=
    (List.Nodup.of_map _ table.numbered.distinct).sublist part
  refine distinct.imp_of_mem ?_
  intro row other rowIn otherIn differs same
  exact differs (oneLive row (part.subset rowIn) other (part.subset otherIn)
    (active row rowIn) (active other otherIn) same)

/-- In every run whose calls make no second version active, at most one
version of each promotion is active and no night meets two of them. -/
theorem reaches_oneLiveVersion {start finish : PromotionTable} (oneLive : OneLiveVersion start)
    (reached : Reaches promotionStep KeepsOneLive start finish) :
    OneLiveVersion finish ∧ ∀ tags contexts found,
        findApplicablePromotionsForNights finish.rows tags contexts = .ok found ->
        ∀ night ∈ found, night.Pairwise fun row other => ¬row.SamePromotion other := by
  have finishLive : OneLiveVersion finish :=
    reached.invariant oneLive fun before guarded taken =>
      (promotionStep_oneLiveVersion before taken).mpr guarded
  exact ⟨finishLive, fun tags contexts found =>
    findApplicablePromotionsForNights_pairwise finishLive⟩

/-- Ten percent off. -/
def springSale : PromotionCreate where
  code := "SPRING"
  name := "Primavera"
  benefitType := .percentage
  benefitValue := 10

/-- The promotion and its second version, which is deactivated before the
first one returns. -/
def saleReturns : List PromotionCall :=
  [.create 1 springSale none, .update 1 1 { priority := some 5 } none,
    .deactivate 1 2 100 none, .reactivate 1 1]

/-- The first version is then the live one. -/
theorem reaches_oneLiveVersion_saleReturns :
    ∃ finish, run promotionStep .empty saleReturns = some finish ∧ OneLiveVersion finish := by
  have taken : (run promotionStep .empty saleReturns).isSome = true := by
    decide +kernel
  obtain ⟨finish, ran⟩ := Option.isSome_iff_exists.mp taken
  have guarded : Guarded promotionStep KeepsOneLive .empty saleReturns := by
    decide +kernel
  have nothing : OneLiveVersion .empty := by decide
  exact ⟨finish, ran, (reaches_oneLiveVersion nothing (reaches_of_run guarded ran)).1⟩

/-- A first version that returns while the second one is active. -/
theorem not_oneLiveVersion_reactivated : ∃ finish, run promotionStep .empty
        [.create 1 springSale none, .update 1 1 { priority := some 5 } none,
          .reactivate 1 1] = some finish ∧ ¬OneLiveVersion finish := by
  have outcome : (run promotionStep .empty
      [.create 1 springSale none, .update 1 1 { priority := some 5 } none,
        .reactivate 1 1]).map (fun finish =>
          decide (OneLiveVersion finish)) = some false := by
    decide +kernel
  obtain ⟨finish, ran, two⟩ := Option.map_eq_some_iff.mp outcome
  exact ⟨finish, ran, of_decide_eq_false two⟩

/-! ## Versions stay as they were published -/

/-- Versions of a table as they were published, deactivated or not. -/
def published : List Promotion :=
  table.rows.map PromotionTable.reactivated

/-- A first version, or the one after a row. -/
def Follows (rows : List Promotion) (row : Promotion) : Prop :=
  row.version = 1 ∨
    ∃ previous ∈ rows, previous.SamePromotion row ∧ row.version = previous.version + 1

/-- Every version up to that of a row is there. -/
def NoGaps (rows : List Promotion) : Prop :=
  ∀ row ∈ rows, ∀ version, 1 ≤ version -> version ≤ row.version ->
    ∃ earlier ∈ rows, earlier.SamePromotion row ∧ earlier.version = version

section Published

variable {table after : PromotionTable}

theorem NoGaps.append {rows : List Promotion} {row : Promotion} (noGaps : NoGaps rows)
    (follows : Follows rows row) : NoGaps (rows ++ [row]) := by
  intro current member version first upTo
  rcases List.mem_added.mp member with old | rfl
  · obtain ⟨earlier, listed, same⟩ := noGaps current old version first upTo
    exact ⟨earlier, List.mem_append_left _ listed, same⟩
  · by_cases isLast : version = current.version
    · exact ⟨current, member, ⟨rfl, rfl⟩, isLast.symm⟩
    · obtain isFirst | ⟨previous, previousIn, same, next⟩ := follows
      · omega
      · obtain ⟨earlier, listed, sameEarlier, isVersion⟩ :=
          noGaps previous previousIn version first (by omega)
        exact ⟨earlier, List.mem_append_left _ listed,
          ⟨sameEarlier.1.trans same.1, sameEarlier.2.trans same.2⟩, isVersion⟩

theorem published_alter {change : Promotion -> Promotion} (rows : List Promotion) (id : Int)
    (kept : ∀ row, PromotionTable.reactivated (change row) = PromotionTable.reactivated row) :
    (rows.map fun row => if row.id = id then change row else row).map PromotionTable.reactivated =
      rows.map PromotionTable.reactivated := by
  rw [List.map_map]
  refine List.map_congr_left fun row _ => ?_
  rw [Function.comp_apply, apply_ite PromotionTable.reactivated, kept, ite_self]

theorem promotionStep_published {call : PromotionCall}
    (taken : promotionStep table call = some after) :
    published after = published table ∨
      ∃ row, published after = published table ++ [row] ∧ Follows (published table) row := by
  unfold published
  cases call with
  | create hotelId payload user =>
    obtain ⟨_, -, rest⟩ := bind_eq_ok.mp (toOption_eq_some taken)
    obtain ⟨conditions, -, inserted⟩ := bind_eq_ok.mp rest
    rw [(PromotionTable.insert_eq_ok inserted).1, List.map_append]
    exact .inr ⟨_, rfl, .inl rfl⟩
  | update hotelId id payload user =>
    obtain ⟨current, found, rest⟩ := bind_eq_ok.mp (toOption_eq_some taken)
    obtain ⟨-, -, rest⟩ := bind_eq_ok.mp rest
    obtain ⟨-, -, rest⟩ := bind_eq_ok.mp rest
    obtain ⟨conditions, -, rest⟩ := bind_eq_ok.mp rest
    obtain ⟨inserted, isInserted, result⟩ := bind_eq_ok.mp rest
    have stored := List.mem_map_of_mem (f := PromotionTable.reactivated)
      (PromotionTable.getActiveOr404_eq_ok found).1
    rw [← pure_eq_ok.mp result]
    refine .inr ⟨table.nextVersion current payload conditions user, ?_,
      .inr ⟨_, stored, ⟨rfl, rfl⟩, rfl⟩⟩
    refine (@published_alter (PromotionTable.replaced user) inserted.rows current.id
      fun _ => rfl).trans ?_
    rw [(PromotionTable.insert_eq_ok isInserted).1, List.map_append]
    rfl
  | deactivate hotelId id now user =>
    rw [PromotionTable.deactivatePromotion_eq_ok (toOption_eq_some taken)]
    exact .inl (published_alter _ id fun _ => rfl)
  | reactivate hotelId id =>
    obtain ⟨_, -, -, -, rows⟩ := PromotionTable.reactivatePromotion_eq_ok (toOption_eq_some taken)
    rw [rows]
    exact .inl (published_alter _ id fun _ => rfl)

end Published

/-- No run rewrites or deletes a version: but for the columns of its
deactivation every row stays, and the versions of each promotion are numbered
without gaps when they were at the start. -/
theorem reaches_published {guard : PromotionTable -> PromotionCall -> Prop}
    {start finish : PromotionTable} (noGaps : NoGaps (published start))
    (reached : Reaches promotionStep guard start finish) :
    published start <+: published finish ∧ NoGaps (published finish) := by
  induction reached with
  | refl => exact ⟨List.prefix_rfl, noGaps⟩
  | next _ _ taken ih =>
    rcases promotionStep_published taken with same | ⟨row, grown, follows⟩
    · exact same ▸ ih
    · rw [grown]
      exact ⟨ih.1.trans (List.prefix_append _ _), ih.2.append follows⟩

theorem reaches_published_saleReturns :
    ∃ finish, run promotionStep .empty saleReturns = some finish ∧ NoGaps (published finish) := by
  obtain ⟨finish, ran⟩ := Option.isSome_iff_exists.mp
    (show (run promotionStep .empty saleReturns).isSome = true by decide +kernel)
  have free : Guarded promotionStep (fun _ _ => True) .empty saleReturns :=
    guarded_of_forall (fun _ _ => trivial) _ _
  have noGaps : NoGaps (published .empty) := fun _ member => by cases member
  exact ⟨finish, ran, (reaches_published noGaps (reaches_of_run free ran)).2⟩

end HotelPms.Promotions
