import HotelPms.Access.PermissionCatalog
import HotelPms.Foundation.GroupSum
import HotelPms.Foundation.Joins

/-!
# Displayed and enforced permissions

The permissions of a role are displayed with their sources, read from the whole
tables, and enforced for the codes of a request, read with one joined query of
the codes that matter.  Both follow the same precedence: decisions of the
catalog, the user's override, an older denial of the user, the role's override,
an older denial of the role, the default of the role.
-/

namespace HotelPms.Access

/-- Decision a built-in role comes with. -/
structure RolePermissionDefault where
  role : String
  permissionCode : String
  allowed : Bool

/-- Decision of a hotel for one of its roles. -/
structure HotelPermissionOverride where
  hotelId : Int
  role : String
  permissionCode : String
  allowed : Bool
  version : Int := 1

/-- Decision of a hotel for one of its employees. -/
structure UserPermissionOverride where
  hotelId : Int
  userId : Int
  permissionCode : String
  allowed : Bool
  version : Int := 1

structure PermissionTables where
  permissions : List String := []
  defaults : List RolePermissionDefault := []
  hotelOverrides : List HotelPermissionOverride := []
  userOverrides : List UserPermissionOverride := []
  distinctPermissions : (permissions.map id).Nodup
  distinctDefaults : (defaults.map fun row => (row.role, row.permissionCode)).Nodup
  distinctHotelOverrides :
    (hotelOverrides.map fun row => (row.hotelId, row.role, row.permissionCode)).Nodup
  distinctUserOverrides :
    (userOverrides.map fun row => (row.hotelId, row.userId, row.permissionCode)).Nodup
  knownDefaults : ∀ row ∈ defaults, row.permissionCode ∈ permissions
  knownHotelOverrides : ∀ row ∈ hotelOverrides, row.permissionCode ∈ permissions
  knownUserOverrides : ∀ row ∈ userOverrides, row.permissionCode ∈ permissions

/-- What a permission is decided from: the tables, and whether this process has
already filled in the catalog. -/
structure PermissionDatabase where
  access : AccessTables
  tables : PermissionTables
  seeded : Bool

/-- Rows of the decisions the roles come with. -/
def defaultRows : List RolePermissionDefault :=
  defaultMatrix.flatMap fun decisions =>
    decisions.2.map fun decision =>
      { role := decisions.1, permissionCode := decision.1, allowed := decision.2 }

theorem mem_rolePermissions {allowed : List String} {decision : String × Bool}
    (member : decision ∈ rolePermissions allowed) :
    decision.1 ∈ permissionDefinitions := by
  rcases List.mem_append.mp member with canonical | legacy
  · obtain ⟨code, codeIn, rfl⟩ := List.mem_map.mp canonical
    exact List.mem_append_left _ codeIn
  · obtain ⟨pair, pairIn, rfl⟩ := List.mem_map.mp legacy
    exact List.mem_append_right _ (List.mem_map_of_mem pairIn)

theorem mem_defaultRows {row : RolePermissionDefault} (member : row ∈ defaultRows) :
    row.permissionCode ∈ permissionDefinitions := by
  obtain ⟨decisions, decisionsIn, ofRole⟩ := List.mem_flatMap.mp member
  obtain ⟨decision, decisionIn, rfl⟩ := List.mem_map.mp ofRole
  unfold defaultMatrix at decisionsIn
  simp only [List.mem_cons, List.not_mem_nil, or_false] at decisionsIn
  rcases decisionsIn with rfl | rfl | rfl | rfl | rfl <;> exact mem_rolePermissions decisionIn

/-- Codes of the catalog that are missing. -/
def seededPermissions (tables : PermissionTables) : List String :=
  Table.insertMissing id tables.permissions permissionDefinitions

/-- Insert the codes and the default decisions that are missing. -/
def seedDefaultPermissions (tables : PermissionTables) : PermissionTables :=
  { tables with
    permissions := seededPermissions tables
    defaults := Table.insertMissing
      (fun row => (row.role, row.permissionCode)) tables.defaults defaultRows
    distinctPermissions :=
      Table.nodup_insertMissing tables.distinctPermissions
    distinctDefaults := Table.nodup_insertMissing tables.distinctDefaults
    knownDefaults := by
      intro row member
      rcases Table.mem_insertMissing member with old | new
      · exact Table.subset_insertMissing (tables.knownDefaults row old)
      · have known : id row.permissionCode ∈ (seededPermissions tables).map id :=
          Table.key_mem_insertMissing (mem_defaultRows new)
        rwa [List.map_id] at known
    knownHotelOverrides := by
      intro row member
      exact Table.subset_insertMissing (tables.knownHotelOverrides row member)
    knownUserOverrides := by
      intro row member
      exact Table.subset_insertMissing (tables.knownUserOverrides row member) }

variable (database : PermissionDatabase) (hotelId : Int)

/-- The tables once the catalog is filled in. -/
def ensurePermissionMatrixSeeded : PermissionTables :=
  if database.seeded then database.tables
  else seedDefaultPermissions database.tables

/-- Older code that stores an explicit denial. -/
def legacyPermissionDeny (code : String) (overrides : String -> Option Bool) : Option String :=
  (denyFallbacks code).find? (overrides · = some false)

/-- Where a displayed decision comes from. -/
inductive PermissionSource
  | invariant
  | userOverride
  | legacyUserDeny
  | roleOverride
  | legacyRoleDeny
  | baseRoleDefault
  | roleDefault
  | deny

/-- A displayed decision. -/
structure PermissionDetail where
  allowed : Bool
  source : PermissionSource
  locked : Bool := false
  lockReason : Option String := none
  version : Option Int := none
  legacyPermissionCode : Option String := none

/-- Decisions that are read for a role and a user, by code. -/
structure StoredDecisions where
  defaults : String → Option Bool
  roleOverrides : String → Option Bool
  userOverrides : String → Option Bool

def defaultRole? (role : Option String) : Option (String × Option HotelRole) :=
  match role with
  | none => none
  | some code =>
    if code ∈ roleCodes then some (code, none)
    else (getCustomRole database.access hotelId code).map fun custom =>
      (custom.baseRole, some custom)

section

variable (tables : PermissionTables) (hotelId : Int)

/-- Default decisions of a role. -/
def defaultEntries (defaultRole : String) : List (String × Bool) :=
  (tables.defaults.filter (·.role = defaultRole)).map fun row => (row.permissionCode, row.allowed)

def roleOverrideRows (role : Option String) : List HotelPermissionOverride :=
  tables.hotelOverrides.filter fun row => row.hotelId = hotelId ∧ some row.role = role

/-- Overrides of an employee; nobody has none. -/
def userOverrideRows (userId : Option Int) : List UserPermissionOverride :=
  tables.userOverrides.filter fun row => row.hotelId = hotelId ∧ some row.userId = userId

def readDecisions (defaultRole : String) (role : Option String) (userId : Option Int) :
    StoredDecisions where
  defaults := Dictionary.ofEntries (defaultEntries tables defaultRole)
  roleOverrides := Dictionary.ofEntries
    ((roleOverrideRows tables hotelId role).map fun row => (row.permissionCode, row.allowed))
  userOverrides := Dictionary.ofEntries
    ((userOverrideRows tables hotelId userId).map fun row => (row.permissionCode, row.allowed))

end

/-- Displayed decision of a code. -/
def permissionDetail (role : Option String) (custom : Option HotelRole)
    (stored : StoredDecisions) (roleVersions userVersions : String → Option Int)
    (code : String) : PermissionDetail :=
  match immutablePermissionDecision role code with
  | some (allowed, reason) =>
    { allowed := allowed, source := .invariant, locked := true, lockReason := some reason }
  | none =>
  match stored.userOverrides code with
  | some allowed =>
    { allowed := allowed, source := .userOverride, version := userVersions code }
  | none =>
  match legacyPermissionDeny code stored.userOverrides with
  | some legacy =>
    { allowed := false, source := .legacyUserDeny, legacyPermissionCode := some legacy }
  | none =>
  match stored.roleOverrides code with
  | some allowed =>
    { allowed := allowed, source := .roleOverride, version := roleVersions code }
  | none =>
  match legacyPermissionDeny code stored.roleOverrides with
  | some legacy =>
    { allowed := false, source := .legacyRoleDeny, legacyPermissionCode := some legacy }
  | none =>
  match stored.defaults code with
  | some allowed =>
    { allowed := allowed, source := if custom.isSome then .baseRoleDefault else .roleDefault }
  | none => { allowed := false, source := .deny }

/-- Decisions of a role and a user for the whole catalog, with their
sources. -/
def getEffectivePermissionDetails (role : Option String)
    (userId : Option Int) : List (String × PermissionDetail) :=
  match defaultRole? database hotelId role with
  | none => []
  | some (defaultRole, custom) =>
    let tables := ensurePermissionMatrixSeeded database
    let stored := readDecisions tables hotelId defaultRole role userId
    let roleVersions := Dictionary.ofEntries ((roleOverrideRows tables hotelId role).map fun row =>
        (row.permissionCode, row.version))
    let userVersions := Dictionary.ofEntries
      ((userOverrideRows tables hotelId userId).map fun row => (row.permissionCode, row.version))
    canonicalDefinitions.map fun code =>
      (code, permissionDetail role custom stored roleVersions userVersions code)

/-- Codes to look up for a request: its own and the older ones whose denial
counts. -/
def lookupCodes (codes : List String) : List String :=
  codes ++ codes.flatMap denyFallbacks

section

variable (tables : PermissionTables) (hotelId : Int)

variable (defaultRole : String)

def joinedDefaults (code : String) : List Bool :=
  (tables.defaults.filter fun row => row.permissionCode = code ∧ row.role = defaultRole).map
    RolePermissionDefault.allowed

def joinedRoleOverrides (role : Option String) (code : String) : List Bool :=
  (tables.hotelOverrides.filter fun row => row.permissionCode = code ∧ row.hotelId = hotelId ∧
      some row.role = role).map HotelPermissionOverride.allowed

def joinedUserOverrides (userId : Option Int) (code : String) : List Bool :=
  (tables.userOverrides.filter fun row => row.permissionCode = code ∧ row.hotelId = hotelId ∧
      some row.userId = userId).map UserPermissionOverride.allowed

/-- Rows of the joined query: a code, the default of the role, the override of
the role and the override of the user. -/
def joinedRows (role : Option String) (userId : Option Int) (lookup : List String) :
    List (((String × Option Bool) × Option Bool) × Option Bool) :=
  let codes := tables.permissions.filter (· ∈ lookup)
  let withDefaults :=
    OuterJoin.leftJoin codes (joinedDefaults tables defaultRole)
  let withRoles := OuterJoin.leftJoin withDefaults fun row =>
    joinedRoleOverrides tables hotelId role row.1
  OuterJoin.leftJoin withRoles (joinedUserOverrides tables hotelId userId ·.1.1)

def readJoinedDecisions (role : Option String)
    (userId : Option Int) (lookup : List String) : StoredDecisions :=
  let rows := joinedRows tables hotelId defaultRole role userId lookup
  let column := Dictionary.column fun
    (row : ((String × Option Bool) × Option Bool) × Option Bool) => row.1.1.1
  { defaults := Dictionary.ofEntries (column (·.1.1.2) rows)
    roleOverrides := Dictionary.ofEntries (column (·.1.2) rows)
    userOverrides := Dictionary.ofEntries (column (·.2) rows) }

end

/-- Enforced decision of a code. -/
def resolvedPermission (role : Option String) (stored : StoredDecisions) (code : String) : Bool :=
  match immutablePermissionDecision role code with
  | some (allowed, _) => allowed
  | none =>
  match stored.userOverrides code with
  | some allowed => allowed
  | none =>
  if (legacyPermissionDeny code stored.userOverrides).isSome then false
  else
  match stored.roleOverrides code with
  | some allowed => allowed
  | none =>
  if (legacyPermissionDeny code stored.roleOverrides).isSome then false
  else (stored.defaults code).getD false

/-- Decisions of a role and a user for the codes of a request. -/
def resolveMany (role : Option String) (permissionCodes : List String)
    (userId : Option Int) : List (String × Bool) :=
  let codes := (permissionCodes.map canonicalPermissionCode).eraseDups
  match codes, defaultRole? database hotelId role with
  | [], _ => []
  | _, none => codes.map fun code => (code, false)
  | _, some (defaultRole, _) =>
    let tables := ensurePermissionMatrixSeeded database
    let stored := readJoinedDecisions tables hotelId defaultRole role userId (lookupCodes codes)
    codes.map fun code => (code, resolvedPermission role stored code)

end HotelPms.Access
