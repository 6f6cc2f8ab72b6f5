import HotelPms.Access.Visibility

/-!
# The catalog of permissions

Canonical permissions, the legacy codes that stand for some of them, the older
permissions whose denial still counts, the roles each permission is limited
to, and the decisions the catalog comes with.
-/

namespace HotelPms.Access

/-- Canonical permission codes. -/
def canonicalDefinitions : List String :=
  ["permissions:manage", "guest:read", "guest:create", "guest:update",
   "guest:tags_manage", "guest:prohibition_read", "guest:prohibition_manage",
   "guest:room_avoidance_resolve", "guest:export", "reservation:read",
   "reservation:export", "reservation:create", "reservation:update",
   "reservation:paid_total_adjust", "reservation:rate_adjust",
   "reservation:cancel", "reservation:cancel_paid",
   "reservation:cancel_penalty_approve", "reservation:room_dirty_override",
   "reservation:delete", "reservation:demo_seed", "reservation:charge",
   "reservation:move", "reservation:movement_group_revert",
   "reservation:move_category", "reservation:move_capacity",
   "reservation:manual_rate", "reservation:manual_rate_limited",
   "reservation:manual_rate_policy_manage", "reservation:ota_record",
   "reservation:prohibition_override", "room:read", "room:status_update",
   "housekeeping:board_view", "room:block_create", "room:block_release",
   "checkin:perform", "checkout:perform", "checkout:force", "stock:read",
   "stock:movement", "stock:adjust", "stock:admin", "stock:count_confirm",
   "laundry:read", "laundry:movement", "laundry:vendor_manage",
   "laundry:remito_manage", "laundry:price_manage",
   "laundry:discrepancy_approve", "rates:read", "rates:update",
   "promotions:read", "promotions:manage", "hotel_settings:read",
   "hotel_settings:update", "hotel_settings:property_manage",
   "hotel_settings:security_manage", "company:manage",
   "company:night_rate_manage", "cash:operate", "cash:adjustment_manage",
   "cash:expense", "cash:expense_approve", "cash:record_prior_receipt",
   "payment:refund", "payment:correct", "payment:ota_confirm",
   "payment:receipt_email", "payment:fx_manual_set",
   "cash:approve_difference", "cash:custody:receive", "operations:tasks:view",
   "operations:tasks:report", "operations:tasks:manage",
   "operations:handoff:manage", "reports:operational:view",
   "reports:financial:view", "payment:proof:view", "payment:proof:review",
   "commercial:manage", "apikey:manage", "analytics:view",
   "analytics:advanced:view", "analytics:ai:view", "dashboard:view",
   "occupancy:view", "operations:audit:view", "waitlist:view",
   "waitlist:manage", "cash:view", "company:view", "company:documents:read",
   "settings:users:view", "settings:users:manage",
   "settings:integrations:view", "settings:integrations:manage",
   "settings:subscription:view", "settings:subscription:manage",
   "settings:security:view", "settings:fx:manage",
   "settings:notifications:view", "settings:notifications:daily_report:view",
   "settings:notifications:daily_report:manage", "settings:assistant:view",
   "settings:assistant:actions:manage", "settings:tests:view",
   "settings:tests:execute", "permissions:temporary_grants:view",
   "permissions:temporary_grants:manage", "whatsapp:inbox:view",
   "whatsapp:inbox:all", "whatsapp:message:send", "whatsapp:note:manage",
   "whatsapp:conversation:assign", "whatsapp:conversation:close",
   "whatsapp:context:guest", "whatsapp:context:reservation",
   "whatsapp:action:quote", "whatsapp:action:payment",
   "whatsapp:settings:manage"]

def legacyPermissionAliases : List (String × String) :=
  [("config:manage", "hotel_settings:update"), ("guest:view", "guest:read"),
   ("guest:edit", "guest:update"),
   ("guest:tags", "guest:tags_manage"),
   ("reservation:room_move", "reservation:move"),
   ("room:cleaning_status", "room:status_update"),
   ("room_block:create", "room:block_create"),
   ("room_block:release", "room:block_release"),
   ("checkin:override_prohibido", "reservation:prohibition_override"),
   ("stock:operate", "stock:movement"),
   ("laundry:manage_vendors", "laundry:vendor_manage"),
   ("laundry:operate_remitos", "laundry:remito_manage")]

/-- Older permissions whose explicit denial is kept for a narrower one. -/
def legacyPermissionDenyFallbacks : List (String × List String) :=
  [("settings:assistant:actions:manage", ["settings:assistant:view"]),
   ("settings:notifications:daily_report:view", ["settings:notifications:view"]),
   ("settings:notifications:daily_report:manage", ["settings:notifications:view"]),
   ("reservation:movement_group_revert", ["reservation:move"])]

/-- All codes of the catalog, with the legacy ones. -/
def permissionDefinitions : List String :=
  canonicalDefinitions ++ legacyPermissionAliases.map Prod.fst

def canonicalPermissionCode (code : String) : String :=
  (legacyPermissionAliases.lookup code).getD code

/-- Older permissions of a code. -/
def denyFallbacks (code : String) : List String :=
  (legacyPermissionDenyFallbacks.lookup code).getD []

/-- Decisions of a role, for canonical and legacy codes. -/
def rolePermissions (allowedCodes : List String) : List (String × Bool) :=
  let allowed := allowedCodes.map canonicalPermissionCode
  let canonical := canonicalDefinitions.map fun code => (code, decide (code ∈ allowed))
  canonical ++ legacyPermissionAliases.map fun legacy =>
    (legacy.1, (canonical.lookup legacy.2).getD false)

/-- Permissions of every operation of the hotel. -/
def operations : List String :=
  canonicalDefinitions.filter fun code => code ∉
    ["permissions:manage", "hotel_settings:property_manage",
     "hotel_settings:security_manage", "apikey:manage",
     "reservation:manual_rate", "reservation:manual_rate_policy_manage",
     "reservation:manual_rate_limited", "reservation:paid_total_adjust",
     "reservation:rate_adjust", "company:night_rate_manage"]

def ownerPermissions : List String :=
  canonicalDefinitions.filter (· ≠ "reservation:rate_adjust")

def coOwnerPermissions : List String :=
  operations ++ ["reservation:manual_rate_limited", "reservation:manual_rate",
     "reservation:manual_rate_policy_manage", "reservation:paid_total_adjust",
     "apikey:manage", "hotel_settings:security_manage",
     "company:night_rate_manage"]

def managerPermissions : List String :=
  ["guest:read", "guest:create", "guest:update", "guest:tags_manage",
   "guest:prohibition_read", "guest:prohibition_manage",
   "guest:room_avoidance_resolve", "guest:export", "reservation:export",
   "reservation:read", "reservation:create", "reservation:update",
   "reservation:ota_record", "reservation:manual_rate_limited",
   "reservation:rate_adjust", "company:night_rate_manage",
   "reservation:cancel", "reservation:cancel_paid",
   "reservation:cancel_penalty_approve", "reservation:room_dirty_override",
   "reservation:delete", "reservation:demo_seed", "reservation:move",
   "reservation:move_category", "reservation:move_capacity",
   "reservation:movement_group_revert", "reservation:prohibition_override",
   "room:read", "room:status_update", "housekeeping:board_view",
   "room:block_create", "room:block_release", "checkin:perform",
   "checkout:perform", "stock:read", "stock:movement", "stock:admin",
   "stock:count_confirm", "laundry:read", "laundry:movement",
   "laundry:vendor_manage", "laundry:remito_manage",
   "laundry:discrepancy_approve", "rates:read", "rates:update",
   "promotions:read", "promotions:manage", "reports:operational:view",
   "company:manage", "company:view", "company:documents:read",
   "payment:proof:view", "payment:proof:review", "reservation:charge",
   "cash:operate", "cash:expense", "cash:expense_approve",
   "cash:record_prior_receipt", "payment:refund", "payment:correct",
   "payment:ota_confirm", "payment:receipt_email", "payment:fx_manual_set",
   "dashboard:view", "occupancy:view", "waitlist:view", "waitlist:manage",
   "cash:view", "operations:tasks:view", "operations:tasks:report",
   "operations:tasks:manage", "operations:handoff:manage",
   "settings:notifications:view", "settings:assistant:view",
   "whatsapp:inbox:view", "whatsapp:inbox:all", "whatsapp:message:send",
   "whatsapp:note:manage", "whatsapp:conversation:assign",
   "whatsapp:conversation:close", "whatsapp:context:guest",
   "whatsapp:context:reservation", "whatsapp:action:quote",
   "whatsapp:action:payment"]

def receptionistPermissions : List String :=
  ["guest:read", "guest:create", "guest:update", "guest:tags_manage",
   "guest:prohibition_read", "reservation:read", "reservation:create",
   "reservation:update", "reservation:ota_record", "reservation:cancel",
   "reservation:charge", "reservation:move", "room:read", "room:block_create",
   "checkin:perform", "checkout:perform", "cash:operate",
   "payment:receipt_email", "dashboard:view", "occupancy:view",
   "waitlist:view", "waitlist:manage", "cash:view", "operations:tasks:view",
   "operations:tasks:report", "settings:notifications:view",
   "whatsapp:inbox:view", "whatsapp:message:send", "whatsapp:note:manage",
   "whatsapp:context:guest", "whatsapp:context:reservation",
   "whatsapp:action:quote"]

def housekeepingPermissions : List String :=
  ["room:read", "room:status_update", "housekeeping:board_view",
   "laundry:read", "laundry:movement", "laundry:remito_manage",
   "operations:tasks:view", "operations:tasks:report"]

/-- Decisions of the built-in roles. -/
def defaultMatrix : List (String × List (String × Bool)) :=
  [("owner", rolePermissions ownerPermissions), ("co_owner", rolePermissions coOwnerPermissions),
   ("manager", rolePermissions managerPermissions),
   ("receptionist", rolePermissions receptionistPermissions),
   ("housekeeping", rolePermissions housekeepingPermissions)]

def ownerOnly : List String := ["hotel_settings:property_manage"]

/-- Roles that may hold a permission. -/
def roleScopes : List (String × List String) :=
  [("permissions:manage", ["owner", "co_owner"]), ("settings:users:view", ["owner", "co_owner"]),
   ("settings:users:manage", ["owner", "co_owner"]),
   ("settings:subscription:view", ["owner", "co_owner"]),
   ("settings:subscription:manage", ["owner", "co_owner"]),
   ("settings:security:view", ["owner", "co_owner"]),
   ("hotel_settings:security_manage", ["owner", "co_owner"]),
   ("apikey:manage", ["owner", "co_owner"]),
   ("reservation:manual_rate_policy_manage", ["owner", "co_owner"]),
   ("company:night_rate_manage", ["owner", "co_owner", "manager"]),
   ("company:manage", ["owner", "co_owner", "manager"]),
   ("settings:fx:manage", ["owner", "co_owner"]),
   ("settings:tests:view", ["owner", "co_owner"]),
   ("settings:tests:execute", ["owner", "co_owner"]),
   ("settings:notifications:daily_report:view", ["owner", "co_owner"]),
   ("settings:notifications:daily_report:manage", ["owner", "co_owner"]),
   ("settings:assistant:actions:manage", ["owner", "co_owner"]),
   ("permissions:temporary_grants:view", ["owner", "co_owner"]),
   ("permissions:temporary_grants:manage", ["owner", "co_owner"]),
   ("commercial:manage", ["owner", "co_owner"]),
   ("reservation:delete", ["owner", "co_owner", "manager"]),
   ("reservation:demo_seed", ["owner", "co_owner", "manager"]),
   ("cash:approve_difference", ["owner", "co_owner"]),
   ("cash:custody:receive", ["owner", "co_owner"]),
   ("cash:expense_approve", ["owner", "co_owner", "manager"]),
   ("payment:correct", ["owner", "co_owner", "manager"])]

def coOwnerAdminAccessPermissions : List String :=
  ["settings:users:view", "settings:users:manage",
   "settings:subscription:view", "settings:subscription:manage",
   "settings:security:view"]

def ownerCoOwnerAdminAccessPermissions : List String :=
  ["reservation:manual_rate", "reservation:manual_rate_policy_manage",
   "reservation:paid_total_adjust", "apikey:manage",
   "hotel_settings:security_manage"]

/-- Decision that no override changes, with its reason. -/
def immutablePermissionDecision (role : Option String) (code : String) : Option (Bool × String) :=
  let canonical := canonicalPermissionCode code
  let scopedRoles := roleScopes.lookup canonical
  let isOwner := decide (role ∈ [some "owner", some "co_owner"])
  let inScope := scopedRoles.any fun roles => role.any (· ∈ roles)
  if canonical ∈ ownerOnly then
    some (decide (role = some "owner"), "owner_only")
  else if canonical ∈ ownerCoOwnerAdminAccessPermissions ∧ isOwner = true then
    some (true, "role_scope")
  else if canonical ∈ coOwnerAdminAccessPermissions ∧ role = some "co_owner" then
    some (true, "role_scope")
  else if canonical = "settings:fx:manage" ∧ isOwner = true then
    some (true, "role_scope")
  else if canonical = "permissions:manage" ∧ inScope = true then
    some (true, "role_scope")
  else if canonical = "cash:custody:receive" ∧ inScope = true then
    some (true, "role_scope")
  else if scopedRoles.isSome = true ∧ inScope = false then
    some (false, "role_scope")
  else none

end HotelPms.Access
