import HotelPms.Access.Permissions
import Mathlib.Data.List.Find

/-!
# Permissions are enforced as they are displayed

The joined query of a request reads, for each of its codes and for the older
codes whose denial counts, what the whole tables hold.  So every requested code
of the catalog is decided as it is displayed, whatever else is requested.
-/

namespace HotelPms.Access

section

variable {tables : PermissionTables} {hotelId : Int} {defaultRole : String}
  {role : Option String} {userId : Option Int} {lookup : List String}
  {code : String} {allowed : Bool}
  {fromDefault fromRole fromUser : Option Bool}

theorem mem_joinedRows : (((code, fromDefault), fromRole), fromUser) ∈
        joinedRows tables hotelId defaultRole role userId lookup ↔
      (code ∈ tables.permissions ∧ code ∈ lookup) ∧
        fromDefault ∈ OuterJoin.matchesOrNone (joinedDefaults tables defaultRole code) ∧
        fromRole ∈ OuterJoin.matchesOrNone (joinedRoleOverrides tables hotelId role code) ∧
        fromUser ∈ OuterJoin.matchesOrNone (joinedUserOverrides tables hotelId userId code) := by
  unfold joinedRows
  rw [OuterJoin.mem_leftJoin, OuterJoin.mem_leftJoin, OuterJoin.mem_leftJoin,
    List.mem_filter, decide_eq_true_eq, and_assoc, and_assoc]

theorem joinedRows_complete (known : code ∈ tables.permissions) (requested : code ∈ lookup) :
    (∀ value ∈ joinedDefaults tables defaultRole code,
      ∃ fromRole fromUser, (((code, some value), fromRole), fromUser) ∈
        joinedRows tables hotelId defaultRole role userId lookup) ∧
    (∀ value ∈ joinedRoleOverrides tables hotelId role code,
      ∃ fromDefault fromUser, (((code, fromDefault), some value), fromUser) ∈
        joinedRows tables hotelId defaultRole role userId lookup) ∧
    ∀ value ∈ joinedUserOverrides tables hotelId userId code,
      ∃ fromDefault fromRole, (((code, fromDefault), fromRole), some value) ∈
        joinedRows tables hotelId defaultRole role userId lookup := by
  obtain ⟨anyDefault, isDefault⟩ := OuterJoin.exists_mem_matchesOrNone
    (joinedDefaults tables defaultRole code)
  obtain ⟨anyRole, isRole⟩ := OuterJoin.exists_mem_matchesOrNone
    (joinedRoleOverrides tables hotelId role code)
  obtain ⟨anyUser, isUser⟩ := OuterJoin.exists_mem_matchesOrNone
    (joinedUserOverrides tables hotelId userId code)
  refine ⟨fun value member => ?_, fun value member => ?_, fun value member => ?_⟩
  · exact ⟨anyRole, anyUser, mem_joinedRows.mpr ⟨⟨known, requested⟩,
      OuterJoin.some_mem_matchesOrNone.mpr member, isRole, isUser⟩⟩
  · exact ⟨anyDefault, anyUser, mem_joinedRows.mpr ⟨⟨known, requested⟩,
      isDefault, OuterJoin.some_mem_matchesOrNone.mpr member, isUser⟩⟩
  · exact ⟨anyDefault, anyRole, mem_joinedRows.mpr ⟨⟨known, requested⟩,
      isDefault, isRole, OuterJoin.some_mem_matchesOrNone.mpr member⟩⟩

theorem mem_entries {ρ : Type} {rows : List ρ} {chosen : ρ -> Prop}
    [DecidablePred chosen] {permission : ρ -> String} {decision : ρ -> Bool} :
    (code, allowed) ∈ ((rows.filter (chosen ·)).map fun row => (permission row, decision row)) ↔
      allowed ∈ (rows.filter fun row =>
        permission row = code ∧ chosen row).map decision := by
  simp only [List.mem_map, List.mem_filter, decide_eq_true_eq, Prod.mk.injEq]
  constructor
  · rintro ⟨row, ⟨member, isChosen⟩, isCode, isAllowed⟩
    exact ⟨row, ⟨member, isCode, isChosen⟩, isAllowed⟩
  · rintro ⟨row, ⟨member, isCode, isChosen⟩, isAllowed⟩
    exact ⟨row, ⟨member, isChosen⟩, isCode, isAllowed⟩

/-- Unique keys leave one decision of each kind for a code. -/
theorem joined_oneValue : (∀ first ∈ joinedDefaults tables defaultRole code,
      ∀ second ∈ joinedDefaults tables defaultRole code, first = second) ∧
    (∀ first ∈ joinedRoleOverrides tables hotelId role code,
      ∀ second ∈ joinedRoleOverrides tables hotelId role code,
        first = second) ∧
    ∀ first ∈ joinedUserOverrides tables hotelId userId code,
      ∀ second ∈ joinedUserOverrides tables hotelId userId code,
        first = second := by
  unfold joinedDefaults joinedRoleOverrides joinedUserOverrides
  simp only [List.mem_map, List.mem_filter, decide_eq_true_eq]
  refine ⟨?_, ?_, ?_⟩
  · rintro _ ⟨row, ⟨rowIn, isCode, ofRole⟩, rfl⟩ _ ⟨other, ⟨otherIn, isCode', ofRole'⟩, rfl⟩
    rw [Table.eq_of_key tables.distinctDefaults rowIn otherIn
      (Prod.ext (ofRole.trans ofRole'.symm) (isCode.trans isCode'.symm))]
  · rintro _ ⟨row, ⟨rowIn, isCode, ofHotel, ofRole⟩, rfl⟩ _
      ⟨other, ⟨otherIn, isCode', ofHotel', ofRole'⟩, rfl⟩
    rw [Table.eq_of_key tables.distinctHotelOverrides rowIn otherIn
      (Prod.ext (ofHotel.trans ofHotel'.symm)
        (Prod.ext (Option.some.inj (ofRole.trans ofRole'.symm)) (isCode.trans isCode'.symm)))]
  · rintro _ ⟨row, ⟨rowIn, isCode, ofHotel, ofUser⟩, rfl⟩ _
      ⟨other, ⟨otherIn, isCode', ofHotel', ofUser'⟩, rfl⟩
    rw [Table.eq_of_key tables.distinctUserOverrides rowIn otherIn
      (Prod.ext (ofHotel.trans ofHotel'.symm)
        (Prod.ext (Option.some.inj (ofUser.trans ofUser'.symm)) (isCode.trans isCode'.symm)))]

theorem joined_known :
    (∀ value ∈ joinedDefaults tables defaultRole code, code ∈ tables.permissions) ∧
    (∀ value ∈ joinedRoleOverrides tables hotelId role code, code ∈ tables.permissions) ∧
    ∀ value ∈ joinedUserOverrides tables hotelId userId code, code ∈ tables.permissions := by
  unfold joinedDefaults joinedRoleOverrides joinedUserOverrides
  simp only [List.mem_map, List.mem_filter, decide_eq_true_eq]
  refine ⟨?_, ?_, ?_⟩
  · rintro _ ⟨row, ⟨rowIn, rfl, -⟩, -⟩
    exact tables.knownDefaults row rowIn
  · rintro _ ⟨row, ⟨rowIn, rfl, -⟩, -⟩
    exact tables.knownHotelOverrides row rowIn
  · rintro _ ⟨row, ⟨rowIn, rfl, -⟩, -⟩
    exact tables.knownUserOverrides row rowIn

theorem readJoinedDecisions_eq (requested : code ∈ lookup) :
    let stored := readDecisions tables hotelId defaultRole role userId
    let joined :=
      readJoinedDecisions tables hotelId defaultRole role userId lookup
    joined.defaults code = stored.defaults code ∧
      joined.roleOverrides code = stored.roleOverrides code ∧
      joined.userOverrides code = stored.userOverrides code := by
  obtain ⟨oneDefault, oneRole, oneUser⟩ := @joined_oneValue tables hotelId
    defaultRole role userId code
  obtain ⟨knownDefault, knownRole, knownUser⟩ := @joined_known tables hotelId
    defaultRole role userId code
  refine ⟨?_, ?_, ?_⟩
  · apply Dictionary.ofEntries_congr
    · intro first second firstIn secondIn
      exact oneDefault first (mem_entries.mp firstIn) second (mem_entries.mp secondIn)
    · intro value
      rw [defaultEntries, mem_entries, Dictionary.mem_column]
      constructor
      · rintro ⟨⟨⟨⟨_, _⟩, _⟩, _⟩, member, rfl, rfl⟩
        exact OuterJoin.some_mem_matchesOrNone.mp (mem_joinedRows.mp member).2.1
      · intro isDefault
        obtain ⟨fromRole, fromUser, member⟩ := (joinedRows_complete
          (knownDefault value isDefault) requested).1 value isDefault
        exact ⟨_, member, rfl, rfl⟩
  · apply Dictionary.ofEntries_congr
    · intro first second firstIn secondIn
      exact oneRole first (mem_entries.mp firstIn) second (mem_entries.mp secondIn)
    · intro value
      rw [roleOverrideRows, mem_entries, Dictionary.mem_column]
      constructor
      · rintro ⟨⟨⟨⟨_, _⟩, _⟩, _⟩, member, rfl, rfl⟩
        exact OuterJoin.some_mem_matchesOrNone.mp (mem_joinedRows.mp member).2.2.1
      · intro isRole
        obtain ⟨fromDefault, fromUser, member⟩ := (joinedRows_complete
          (knownRole value isRole) requested).2.1 value isRole
        exact ⟨_, member, rfl, rfl⟩
  · apply Dictionary.ofEntries_congr
    · intro first second firstIn secondIn
      exact oneUser first (mem_entries.mp firstIn) second (mem_entries.mp secondIn)
    · intro value
      rw [userOverrideRows, mem_entries, Dictionary.mem_column]
      constructor
      · rintro ⟨⟨⟨⟨_, _⟩, _⟩, _⟩, member, rfl, rfl⟩
        exact OuterJoin.some_mem_matchesOrNone.mp (mem_joinedRows.mp member).2.2.2
      · intro isUser
        obtain ⟨fromDefault, fromRole, member⟩ := (joinedRows_complete
          (knownUser value isUser) requested).2.2 value isUser
        exact ⟨_, member, rfl, rfl⟩

theorem legacyPermissionDeny_congr {overrides others : String -> Option Bool}
    (same : ∀ legacy ∈ denyFallbacks code, others legacy = overrides legacy) :
    legacyPermissionDeny code others = legacyPermissionDeny code overrides := by
  apply List.find?_congr
  intro legacy member
  rw [same legacy member]

theorem resolvedPermission_eq {stored joined : StoredDecisions} {custom : Option HotelRole}
    {roleVersions userVersions : String -> Option Int}
    (same : ∀ other ∈ code :: denyFallbacks code, joined.defaults other = stored.defaults other ∧
        joined.roleOverrides other = stored.roleOverrides other ∧
        joined.userOverrides other = stored.userOverrides other) :
    resolvedPermission role joined code =
      (permissionDetail role custom stored roleVersions userVersions code).allowed := by
  obtain ⟨sameDefault, sameRole, sameUser⟩ := same code List.mem_cons_self
  have userDeny : legacyPermissionDeny code joined.userOverrides =
      legacyPermissionDeny code stored.userOverrides :=
    legacyPermissionDeny_congr fun legacy member =>
      (same legacy (List.mem_cons_of_mem _ member)).2.2
  have roleDeny : legacyPermissionDeny code joined.roleOverrides =
      legacyPermissionDeny code stored.roleOverrides :=
    legacyPermissionDeny_congr fun legacy member =>
      (same legacy (List.mem_cons_of_mem _ member)).2.1
  unfold resolvedPermission permissionDetail
  rw [sameDefault, sameRole, sameUser, userDeny, roleDeny]
  cases immutablePermissionDecision role code with
  | some decision => rfl
  | none =>
  cases stored.userOverrides code with
  | some allowed => rfl
  | none =>
  cases legacyPermissionDeny code stored.userOverrides with
  | some legacy => rfl
  | none =>
  cases stored.roleOverrides code with
  | some allowed => rfl
  | none =>
  cases legacyPermissionDeny code stored.roleOverrides with
  | some legacy => rfl
  | none =>
  cases stored.defaults code with
  | some allowed => rfl
  | none => rfl

theorem mem_lookupCodes {codes : List String} {other : String}
    (requested : code ∈ codes) (member : other ∈ code :: denyFallbacks code) :
    other ∈ lookupCodes codes := by
  rcases List.mem_cons.mp member with rfl | fallback
  · exact List.mem_append_left _ requested
  · exact List.mem_append_right _ (List.mem_flatMap.mpr ⟨code, requested, fallback⟩)

end

structure EnforcedAsDisplayed
    (database : PermissionDatabase)
    (hotelId : Int)
    (role : Option String)
    (userId : Option Int) : Prop where
  /-- Without displayed permissions every code is denied. -/
  displayed : ∀ permissionCodes, ∀ code ∈ permissionCodes,
    canonicalPermissionCode code ∈ canonicalDefinitions ->
      (resolveMany database hotelId role permissionCodes userId).lookup
          (canonicalPermissionCode code) =
        some (((getEffectivePermissionDetails database hotelId role
          userId).lookup (canonicalPermissionCode code)).elim false PermissionDetail.allowed)
  /-- Whatever else is requested. -/
  independent : ∀ permissionCodes others, ∀ code ∈ permissionCodes,
    code ∈ others -> canonicalPermissionCode code ∈ canonicalDefinitions ->
      (resolveMany database hotelId role permissionCodes userId).lookup
          (canonicalPermissionCode code) =
        (resolveMany database hotelId role others userId).lookup (canonicalPermissionCode code)

theorem lookup_resolveMany (database : PermissionDatabase) (hotelId : Int)
    (role : Option String) (userId : Option Int) {permissionCodes : List String}
    {code : String} (requested : code ∈ permissionCodes)
    (cataloged : canonicalPermissionCode code ∈ canonicalDefinitions) :
    (resolveMany database hotelId role permissionCodes userId).lookup
        (canonicalPermissionCode code) =
      some (((getEffectivePermissionDetails database hotelId role
        userId).lookup (canonicalPermissionCode code)).elim false PermissionDetail.allowed) := by
  have codesIn : canonicalPermissionCode code ∈
      (permissionCodes.map canonicalPermissionCode).eraseDups :=
    List.mem_eraseDups.mpr (List.mem_map_of_mem requested)
  unfold resolveMany getEffectivePermissionDetails
  simp only
  split
  · next noCodes =>
    rw [noCodes] at codesIn
    cases codesIn
  · next unknown _ =>
    rw [unknown, GroupSum.lookup_keyed, if_pos codesIn]
    rfl
  · next defaultRole custom known _ =>
    rw [known, GroupSum.lookup_keyed, if_pos codesIn]
    rw [GroupSum.lookup_keyed, if_pos cataloged]
    apply congrArg some
    apply resolvedPermission_eq
    intro other member
    exact readJoinedDecisions_eq (mem_lookupCodes codesIn member)

/-- In every database and for every hotel, role and user, permissions are
enforced as they are displayed. -/
theorem resolveMany_enforcedAsDisplayed (database : PermissionDatabase)
    (hotelId : Int) (role : Option String) (userId : Option Int) :
    EnforcedAsDisplayed database hotelId role userId where
  displayed := fun _ _ requested cataloged =>
    lookup_resolveMany database hotelId role userId requested cataloged
  independent := by
    intro permissionCodes others code requested otherwise cataloged
    rw [lookup_resolveMany database hotelId role userId requested cataloged,
      lookup_resolveMany database hotelId role userId otherwise cataloged]

end HotelPms.Access
