import HotelPms.Hotel.State

/-!
# Visibility windows of roles

A role sees the reservations of its hotel whose stay meets a window of days
around the current one.  The permission service resolves the window of a role:
its own row, the row of the base role of a custom role, or none at all for a
code that names no role.  The listing of reservations reads the own row only.
-/

namespace HotelPms.Access

open Hotel

def roleCodes : List String :=
  ["owner", "co_owner", "manager", "receptionist", "housekeeping"]

def customRoleBaseCodes : List String :=
  ["manager", "receptionist", "housekeeping"]

def customRoleCodePrefix : String := "cr_"

def visibilityWindowHours : List Int := [12, 24, 48, 72, 168]

structure HotelRole where
  hotelId : Int
  code : String
  baseRole : String
  isActive : Bool := true
  knownBase : baseRole ∈ customRoleBaseCodes
  shortCode : code.length ≤ 20
  customCode : customRoleCodePrefix.toList <+: code.toList

/-- Hours before and after the current day; no bound is unlimited. -/
structure VisibilityWindow where
  hotelId : Int
  role : String
  pastHours : Option Int
  futureHours : Option Int

/-- A row of the windows, with hours of the schema. -/
structure StoredWindow extends VisibilityWindow where
  supportedPast : ∀ hours ∈ pastHours, hours ∈ visibilityWindowHours
  supportedFuture : ∀ hours ∈ futureHours, hours ∈ visibilityWindowHours

structure TenantReservation extends Reservation where
  hotelId : Int
  deriving DecidableEq

/-- The tables of all hotels that decide what a role sees. -/
structure AccessTables where
  roles : List HotelRole := []
  distinctRoles : (roles.map fun role => (role.hotelId, role.code)).Nodup
  windows : List StoredWindow := []
  distinctWindows : (windows.map fun window => (window.hotelId, window.role)).Nodup
  reservations : List TenantReservation := []

namespace VisibilityWindow

variable (window : VisibilityWindow)

/-- First day of a window: some hours before the midnight of today. -/
def start (today : Int) : Option Int :=
  window.pastHours.map fun hours => (24 * today - hours) / 24

/-- Last day of a window: some hours after the midnight of today. -/
def finish (today : Int) : Option Int :=
  window.futureHours.map fun hours => (24 * today + hours) / 24

/-- The stay of a reservation meets the days of the window. -/
def Meets (today : Int) (reservation : Reservation) : Prop :=
  (∀ first ∈ window.start today, first ≤ reservation.checkOutDate) ∧
    ∀ last ∈ window.finish today, reservation.checkInDate ≤ last
deriving Decidable

def Unlimited : Prop :=
  window.pastHours = none ∧ window.futureHours = none
deriving Decidable

end VisibilityWindow

/-- A reservation meets a window, if there is one. -/
def InWindow (window : Option VisibilityWindow) (today : Int)
    (reservation : TenantReservation) : Prop :=
  ∀ limit ∈ window, limit.Meets today reservation.toReservation
deriving Decidable

section Queries

variable (tables : AccessTables) (hotelId : Int)

/-- Window row of a role. -/
def storedWindow? (role : String) : Option VisibilityWindow :=
  (tables.windows.find? fun window =>
    window.hotelId = hotelId ∧ window.role = role).map StoredWindow.toVisibilityWindow

/-- Active custom role with a code; built-in and malformed codes have none. -/
def getCustomRole (roleCode : String) : Option HotelRole :=
  if roleCode ∈ roleCodes ∨ 20 < roleCode.length ∨
      ¬customRoleCodePrefix.toList <+: roleCode.toList then none
  else tables.roles.find? fun role =>
    role.hotelId = hotelId ∧ role.code = roleCode ∧ role.isActive = true

/-- Window of a role.  Custom roles inherit the limit of their base, and
unknown or archived roles get a window without hours. -/
def getVisibilityWindow (role : String) : Option VisibilityWindow :=
  if role ∈ roleCodes then storedWindow? tables hotelId role
  else
    match getCustomRole tables hotelId role with
    | none =>
      some {
        hotelId := hotelId
        role := role
        pastHours := some 0
        futureHours := some 0 }
    | some custom =>
      match storedWindow? tables hotelId role with
      | some row => some row
      | none =>
        (storedWindow? tables hotelId custom.baseRole).map fun base =>
          { hotelId := hotelId, role := role, pastHours := base.pastHours
            futureHours := base.futureHours }

/-- Reservations of a hotel that exist. -/
def activeReservations : List TenantReservation :=
  tables.reservations.filter fun reservation =>
    reservation.hotelId = hotelId ∧ reservation.deletedAt = none

/-- Active reservations that meet the window of the caller's role. -/
def visibleReservations (role : String) (today : Int) : List TenantReservation :=
  let query := activeReservations tables hotelId
  match storedWindow? tables hotelId role with
  | none => query
  | some window =>
    if window.Unlimited then query
    else query.filter (window.Meets today ·.toReservation)

end Queries

/-! ## What a role should see -/

section Specification

variable (tables : AccessTables) (hotelId : Int) (role : String) (today : Int)

/-- Another state has the same roles and windows, and the same active
reservations that meet the window of a role. -/
structure DiffersOutsideWindow (other : AccessTables) : Prop where
  sameRoles : other.roles = tables.roles
  sameWindows : other.windows = tables.windows
  sameInside : (activeReservations other hotelId).filter (fun reservation =>
        InWindow (getVisibilityWindow tables hotelId role) today reservation) =
      (activeReservations tables hotelId).filter fun reservation =>
        InWindow (getVisibilityWindow tables hotelId role) today reservation

/-- The reservations a role sees are those of its window: exactly those, the
same ones whatever lies outside, and none that an inherited window hides. -/
structure RespectsWindow : Prop where
  exact : visibleReservations tables hotelId role today =
    (activeReservations tables hotelId).filter fun reservation =>
      InWindow (getVisibilityWindow tables hotelId role) today reservation
  insensitive : ∀ other, DiffersOutsideWindow tables hotelId role today other →
      visibleReservations other hotelId role today = visibleReservations tables hotelId role today
  inherited : ∀ custom, getCustomRole tables hotelId role = some custom →
    storedWindow? tables hotelId role = none →
      ∀ reservation ∈ visibleReservations tables hotelId role today,
        InWindow (storedWindow? tables hotelId custom.baseRole) today reservation

/-- The own row of a role decides its window: the role is built in, or it is
an active custom role with a row or with an unlimited base. -/
def OwnRowDecides : Prop :=
  role ∈ roleCodes ∨ ∃ custom, getCustomRole tables hotelId role = some custom ∧
      (storedWindow? tables hotelId role ≠ none ∨
        ∀ base ∈ storedWindow? tables hotelId custom.baseRole, base.Unlimited)

end Specification

section Main

variable {tables : AccessTables} {hotelId : Int} {role : String} {today : Int}

variable {window : VisibilityWindow}

theorem VisibilityWindow.Unlimited.meets (unlimited : window.Unlimited)
    (reservation : Reservation) : window.Meets today reservation := by
  unfold VisibilityWindow.Meets VisibilityWindow.start VisibilityWindow.finish
  rw [unlimited.1, unlimited.2]
  simp

theorem visibleReservations_eq : visibleReservations tables hotelId role today =
      (activeReservations tables hotelId).filter fun reservation =>
        InWindow (storedWindow? tables hotelId role) today reservation := by
  unfold visibleReservations InWindow
  cases storedWindow? tables hotelId role with
  | none => simp
  | some window =>
    by_cases unlimited : window.Unlimited
    · simp [unlimited, unlimited.meets]
    · simp [unlimited]

theorem storedWindow?_meets_yesterday (stored : storedWindow? tables hotelId role = some window)
    {reservation : Reservation}
    (yesterday : reservation.checkOutDate = today - 1) :
    window.Meets today reservation := by
  obtain ⟨row, -, rfl⟩ := Option.map_eq_some_iff.mp stored
  have before := reservation.datesOrdered
  constructor
  · intro first starts
    obtain ⟨hours, past, rfl⟩ := Option.map_eq_some_iff.mp starts
    have supported := row.supportedPast hours past
    simp only [visibilityWindowHours, List.mem_cons, List.not_mem_nil, or_false] at supported
    omega
  · intro last ends
    obtain ⟨hours, future, rfl⟩ := Option.map_eq_some_iff.mp ends
    have supported := row.supportedFuture hours future
    simp only [visibilityWindowHours, List.mem_cons, List.not_mem_nil, or_false] at supported
    omega

def twoDays (hotelId checkIn : Int) : TenantReservation where
  id := 0
  roomId := none
  categoryId := 0
  checkInDate := checkIn
  checkOutDate := checkIn + 1
  datesOrdered := by omega
  hotelId := hotelId

theorem VisibilityWindow.exists_not_meets (limited : ¬window.Unlimited) (hotelId today : Int) :
    ∃ checkIn, ¬window.Meets today (twoDays hotelId checkIn).toReservation := by
  cases past : window.pastHours with
  | some hours =>
    refine ⟨(24 * today - hours) / 24 - 2, fun met => ?_⟩
    have reached := met.1 _ (Option.map_eq_some_iff.mpr ⟨hours, past, rfl⟩)
    simp only [twoDays] at reached
    omega
  | none =>
    cases future : window.futureHours with
    | some hours =>
      refine ⟨(24 * today + hours) / 24 + 1, fun met => ?_⟩
      have reached :=
        met.2 _ (Option.map_eq_some_iff.mpr ⟨hours, future, rfl⟩)
      simp only [twoDays] at reached
      omega
    | none => exact absurd ⟨past, future⟩ limited

theorem not_mem_roleCodes_of_getCustomRole {custom : HotelRole}
    (active : getCustomRole tables hotelId role = some custom) :
    role ∉ roleCodes := by
  intro builtIn
  unfold getCustomRole at active
  rw [if_pos (.inl builtIn)] at active
  cases active

theorem inWindow_inherited_iff {custom : HotelRole}
    (active : getCustomRole tables hotelId role = some custom)
    (noRow : storedWindow? tables hotelId role = none)
    (reservation : TenantReservation) :
    InWindow (getVisibilityWindow tables hotelId role) today reservation ↔
      InWindow (storedWindow? tables hotelId custom.baseRole) today
        reservation := by
  unfold getVisibilityWindow
  rw [if_neg (not_mem_roleCodes_of_getCustomRole active), active, noRow]
  dsimp only
  cases storedWindow? tables hotelId custom.baseRole with
  | none => exact Iff.rfl
  | some base =>
    constructor
    · intro met limit stored
      cases stored
      have inherited := met _ (Option.mem_map_of_mem _ rfl)
      exact inherited
    · intro met limit inherited
      cases inherited
      exact met base rfl

theorem inWindow_iff_of_ownRowDecides (decides : OwnRowDecides tables hotelId role)
    (reservation : TenantReservation) :
    InWindow (storedWindow? tables hotelId role) today reservation ↔
      InWindow (getVisibilityWindow tables hotelId role) today reservation := by
  rcases decides with builtIn | ⟨custom, active, ownOrUnlimited⟩
  · unfold getVisibilityWindow
    rw [if_pos builtIn]
  · cases own : storedWindow? tables hotelId role with
    | some row =>
      unfold getVisibilityWindow
      rw [if_neg (not_mem_roleCodes_of_getCustomRole active), active, own]
    | none =>
      rw [inWindow_inherited_iff active own]
      have unlimited := ownOrUnlimited.resolve_left (· own)
      constructor
      · exact fun _ base stored => VisibilityWindow.Unlimited.meets (unlimited base stored) _
      · exact fun _ limit none => nomatch none

theorem exists_shown_outside (undecided : ¬OwnRowDecides tables hotelId role) (today : Int) :
    ∃ checkIn, InWindow (storedWindow? tables hotelId role) today (twoDays hotelId checkIn) ∧
        ¬InWindow (getVisibilityWindow tables hotelId role) today (twoDays hotelId checkIn) := by
  unfold OwnRowDecides at undecided
  push Not at undecided
  obtain ⟨notBuiltIn, undecided⟩ := undecided
  cases active : getCustomRole tables hotelId role with
  | none =>
    -- the listing of an unknown role shows a stay that ended yesterday
    refine ⟨today - 2, fun limit stored => ?_, fun met => ?_⟩
    · refine storedWindow?_meets_yesterday stored ?_
      simp only [twoDays]
      omega
    · unfold getVisibilityWindow at met
      rw [if_neg notBuiltIn, active] at met
      have reached := (met _ rfl).1 _ rfl
      simp only [twoDays] at reached
      omega
  | some custom =>
    obtain ⟨noRow, base, stored, limited⟩ := undecided custom active
    obtain ⟨checkIn, hidden⟩ := VisibilityWindow.exists_not_meets limited hotelId today
    refine ⟨checkIn, ?_, fun met => ?_⟩
    · rw [noRow]
      exact fun limit none => nomatch none
    · rw [inWindow_inherited_iff active noRow] at met
      exact hidden (met base stored)

/-- The same state with one more reservation. -/
def withReservation (tables : AccessTables) (reservation : TenantReservation) : AccessTables :=
  { tables with reservations := reservation :: tables.reservations }

theorem activeReservations_withReservation (checkIn : Int) :
    activeReservations (withReservation tables (twoDays hotelId checkIn)) hotelId =
      twoDays hotelId checkIn :: activeReservations tables hotelId :=
  List.filter_cons_of_pos (by simp [twoDays])

theorem differsOutsideWindow_withReservation {checkIn : Int}
    (outside : ¬InWindow (getVisibilityWindow tables hotelId role) today
      (twoDays hotelId checkIn)) :
    DiffersOutsideWindow tables hotelId role today
      (withReservation tables (twoDays hotelId checkIn)) where
  sameRoles := rfl
  sameWindows := rfl
  sameInside := by
    rw [activeReservations_withReservation, List.filter_cons_of_neg]
    simpa using outside

/-- A role's listing respects its window, in every state and on every day,
exactly when its own row decides the window. -/
theorem respectsWindow_iff :
    RespectsWindow tables hotelId role today ↔ OwnRowDecides tables hotelId role := by
  constructor
  · intro respects
    by_contra undecided
    obtain ⟨checkIn, shown, outside⟩ := exists_shown_outside undecided today
    have same := respects.insensitive _ (differsOutsideWindow_withReservation outside)
    have ownRow : storedWindow? (withReservation tables (twoDays hotelId checkIn)) hotelId role =
          storedWindow? tables hotelId role := rfl
    rw [visibleReservations_eq, visibleReservations_eq, ownRow, activeReservations_withReservation,
      List.filter_cons_of_pos (by simpa using shown)] at same
    exact List.cons_ne_self _ _ same
  · intro decides
    have exact : ∀ other : AccessTables, other.windows = tables.windows →
          visibleReservations other hotelId role today =
            (activeReservations other hotelId).filter fun reservation =>
              InWindow (getVisibilityWindow tables hotelId role) today
                reservation := by
      intro other sameWindows
      have ownRow : storedWindow? other hotelId role = storedWindow? tables hotelId role := by
        unfold storedWindow?
        rw [sameWindows]
      rw [visibleReservations_eq, ownRow]
      refine List.filter_congr fun reservation _ => ?_
      exact decide_eq_decide.mpr (inWindow_iff_of_ownRowDecides decides reservation)
    refine ⟨exact tables rfl, fun other differs => ?_, ?_⟩
    · rw [exact other differs.sameWindows, differs.sameInside, exact tables rfl]
    · intro custom active noRow reservation visible
      rw [exact tables rfl] at visible
      have inside := of_decide_eq_true (List.mem_filter.mp visible).2
      exact (inWindow_inherited_iff active noRow reservation).mp inside

end Main

section Example

/-- A custom role over the receptionist. -/
def frontDesk : HotelRole where
  hotelId := 1
  code := "cr_front_desk"
  baseRole := "receptionist"
  knownBase := by decide
  shortCode := by decide
  customCode := by decide

/-- The receptionist sees one day back and one day ahead. -/
def receptionistWindow : StoredWindow where
  hotelId := 1
  role := "receptionist"
  pastHours := some 24
  futureHours := some 24
  supportedPast := by decide
  supportedFuture := by decide

/-- A hotel with the custom role and a stay of days 60 and 61. -/
def frontDeskTables : AccessTables where
  roles := [frontDesk]
  distinctRoles := List.nodup_singleton _
  windows := [receptionistWindow]
  distinctWindows := List.nodup_singleton _
  reservations := [twoDays 1 60]

/-- On day 10 the custom role sees the stay that its base hides. -/
theorem not_respectsWindow_frontDesk : ¬RespectsWindow frontDeskTables 1 "cr_front_desk" 10 := by
  intro respects
  exact absurd respects.exact (by decide)

end Example

end HotelPms.Access
