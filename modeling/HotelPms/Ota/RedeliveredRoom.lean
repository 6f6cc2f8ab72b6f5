import HotelPms.Ota.WebhookFacts

/-!
# The room of a redelivered booking

Availability does not count the reservation that is being changed, so that a
change of that reservation changes no answer.  The room that a booking got is
found available again, and what a modification may do is decided as before.
-/

namespace HotelPms.Ota

open Hotel Payments Booking Checked HalfOpen

variable {F : Type}

/-- Another state of the front desk: reservations other than one, and what
stays are found by, are the same. -/
structure SameButFor (id : Int) (desk again : Desk) : Prop where
  rooms : again.rooms = desk.rooms
  blocks : again.blocks = desk.blocks
  catalog : again.catalog = desk.catalog
  ledger : again.ledger = desk.ledger
  defaultCurrency : again.defaultCurrency = desk.defaultCurrency
  adjustments : again.adjustments = desk.adjustments
  others : ∀ other, other ≠ id -> again.reservation? other = desk.reservation? other

theorem SameButFor.of_write (desk : Desk) (guest : Guest) (reservation : OtaReservation) :
    SameButFor reservation.id desk ((desk.writeGuest guest).writeReservation reservation) := by
  refine ⟨rfl, rfl, rfl, rfl, rfl, rfl, fun other different => ?_⟩
  rw [Desk.reservation?_writeReservation, if_neg different]
  rfl

theorem SameButFor.of_writeReservation (desk : Desk) (reservation : OtaReservation) :
    SameButFor reservation.id desk (desk.writeReservation reservation) := by
  refine ⟨rfl, rfl, rfl, rfl, rfl, rfl, fun other different => ?_⟩
  rw [Desk.reservation?_writeReservation, if_neg different]

theorem mem_reservations_iff {desk : Desk} {row : OtaReservation} :
    row ∈ desk.reservations ↔ desk.reservation? row.id = some row := by
  constructor
  · intro member
    exact Table.find_of_mem desk.distinctReservations member
  · intro found
    exact (Table.find_eq_some found).1

section

variable {id : Int} {desk again : Desk} {roomId : Int} {window : Int × Int} {excluded : Option Int}

section

variable (same : SameButFor id desk again)
include same

theorem SameButFor.noOverlap (excludes : ∀ other, other ≠ id -> truthy excluded ≠ some other)
    (none : (overlappingReservations desk.hotelState roomId window excluded).isEmpty = true) :
    (overlappingReservations again.hotelState roomId window (some id)).isEmpty = true := by
  rw [List.isEmpty_iff] at none ⊢
  unfold overlappingReservations at none ⊢
  rw [List.filter_eq_nil_iff] at none ⊢
  intro stay member overlaps
  rw [decide_eq_true_eq] at overlaps
  obtain ⟨active, inRoom, overlap, notExcluded⟩ := overlaps
  obtain ⟨row, rowIn, rfl⟩ := List.mem_map.mp member
  have different : row.id ≠ id := by
    intro equal
    apply notExcluded
    rw [truthy_eq_some]
    exact ⟨congrArg some equal.symm, row.positiveId.ne'⟩
  have stored : row ∈ desk.reservations := by
    rw [mem_reservations_iff, ← same.others row.id different]
    exact mem_reservations_iff.mp rowIn
  refine none row.toReservation (List.mem_map_of_mem stored) ?_
  rw [decide_eq_true_eq]
  exact ⟨active, inRoom, overlap, excludes row.id different⟩

omit same in
theorem excludes_some (other : Int) (different : other ≠ id) : truthy (some id) ≠ some other := by
  intro equal
  exact different (Option.some.inj (truthy_eq_some.mp equal).1).symm

theorem SameButFor.symm : SameButFor id again desk :=
  ⟨same.rooms.symm, same.blocks.symm, same.catalog.symm, same.ledger.symm,
    same.defaultCurrency.symm, same.adjustments.symm,
    fun other different => (same.others other different).symm⟩

theorem SameButFor.isEmpty_overlapping :
    (overlappingReservations again.hotelState roomId window (some id)).isEmpty =
      (overlappingReservations desk.hotelState roomId window (some id)).isEmpty := by
  rw [Bool.eq_iff_iff]
  constructor
  · exact same.symm.noOverlap excludes_some
  · exact same.noOverlap excludes_some

theorem SameButFor.room? (roomId : Int) : again.room? roomId = desk.room? roomId := by
  unfold Desk.room?
  rw [same.rooms]

theorem SameButFor.hotelRooms : again.hotelState.rooms = desk.hotelState.rooms :=
  same.rooms

theorem SameButFor.hotelRoom? : again.hotelState.room? roomId = desk.hotelState.room? roomId := by
  unfold HotelState.room?
  rw [same.hotelRooms]

theorem SameButFor.roomHasActiveBlock : roomHasActiveBlock again.hotelState roomId window =
      roomHasActiveBlock desk.hotelState roomId window := by
  have sameBlocks : again.hotelState.blocks = desk.hotelState.blocks :=
    same.blocks
  unfold Booking.roomHasActiveBlock
  rw [sameBlocks]

theorem SameButFor.checkRoomAvailability :
    checkRoomAvailability again.hotelState roomId window (some id) =
      checkRoomAvailability desk.hotelState roomId window (some id) := by
  unfold Booking.checkRoomAvailability
  rw [same.hotelRoom?, same.roomHasActiveBlock, same.isEmpty_overlapping]

theorem SameButFor.available (excludes : ∀ other, other ≠ id -> truthy excluded ≠ some other)
    (available : Booking.checkRoomAvailability desk.hotelState roomId window excluded = .ok true) :
    Booking.checkRoomAvailability again.hotelState roomId window (some id) = .ok true := by
  obtain ⟨_, ordered, available⟩ := bind_eq_ok.mp available
  refine bind_eq_ok.mpr ⟨(), ordered, ?_⟩
  rw [same.hotelRoom?]
  cases found : desk.hotelState.room? roomId with
  | none =>
    rw [found] at available
    cases available
  | some room =>
    simp only [found] at available ⊢
    rw [same.roomHasActiveBlock]
    split_ifs at available ⊢ with unreservable blocked
    · exact available
    · exact available
    · rw [same.noOverlap excludes (pure_eq_ok.mp available)]
      rfl

end

end

section

variable {id : Int} {desk again : Desk} {window : Int × Int}

section

variable (same : SameButFor id desk again)
include same

theorem SameButFor.findFreeRooms (categoryId : Int) :
    findFreeRooms again categoryId window (some id) =
      findFreeRooms desk categoryId window (some id) := by
  have sameCategory : again.category? categoryId = desk.category? categoryId := by
    unfold Desk.category?
    rw [same.catalog]
  have sameCandidates : candidateRooms again.hotelState categoryId =
      candidateRooms desk.hotelState categoryId := by
    unfold candidateRooms
    rw [same.hotelRooms]
  unfold Ota.findFreeRooms
  simp only [sameCategory, sameCandidates, same.roomHasActiveBlock, same.isEmpty_overlapping]

theorem SameButFor.lockFirstRoom (categoryId : Int) (rooms : List Room) :
    lockFirstRoom again categoryId window (some id) rooms =
      lockFirstRoom desk categoryId window (some id) rooms := by
  induction rooms with
  | nil => rfl
  | cons candidate others ih =>
    simp only [Ota.lockFirstRoom, same.room?, ih, same.checkRoomAvailability]

theorem SameButFor.firstCategoryRoom (categories : List CatalogCategory) :
    firstCategoryRoom again window (some id) categories =
      firstCategoryRoom desk window (some id) categories := by
  induction categories with
  | nil => rfl
  | cons category others ih =>
    simp only [Ota.firstCategoryRoom, ih, same.findFreeRooms, same.lockFirstRoom]

theorem SameButFor.selectRoom (normalized : NormalizedReservation F)
    (categories : List CatalogCategory) (currentRoom : Option Room) :
    selectRoom again (some id) normalized categories currentRoom =
      selectRoom desk (some id) normalized categories currentRoom := by
  unfold Ota.selectRoom
  simp only [same.firstCategoryRoom, same.checkRoomAvailability]

end

end

/-- A selected room: it is stored, in a candidate category, and available. -/
structure Selected (desk : Desk) (excluded : Option Int)
    (normalized : NormalizedReservation F)
    (categories : List CatalogCategory) (category : CatalogCategory)
    (room : Room) : Prop where
  stored : desk.room? room.id = some room
  candidate : category ∈ categories
  ofCategory : room.categoryId = category.id
  available : checkRoomAvailability desk.hotelState room.id normalized.stay excluded = .ok true

section

variable {desk : Desk} {excluded : Option Int} {normalized : NormalizedReservation F}

variable {room : Room} {category : CatalogCategory}

theorem lockFirstRoom_eq_some {categoryId : Int} {rooms : List Room}
    (locked : lockFirstRoom desk categoryId normalized.stay excluded rooms = .ok (some room)) :
    desk.room? room.id = some room ∧ room.categoryId = categoryId ∧
      checkRoomAvailability desk.hotelState room.id normalized.stay excluded = .ok true := by
  induction rooms with
  | nil => cases pure_eq_ok.mp locked
  | cons candidate others ih =>
    unfold lockFirstRoom at locked
    split at locked
    · exact ih locked
    · next found isFound =>
      split_ifs at locked with ofCategory
      · obtain ⟨available, isAvailable, locked⟩ := bind_eq_ok.mp locked
        split_ifs at locked with free
        · cases pure_eq_ok.mp locked
          subst free
          refine ⟨?_, ofCategory, isAvailable⟩
          rw [(Table.find_eq_some isFound).2]
          exact isFound
        · exact ih locked
      · exact ih locked

variable {categories : List CatalogCategory}

theorem firstCategoryRoom_eq_some
    (found : firstCategoryRoom desk normalized.stay excluded categories =
      .ok (some (category, room))) :
    Selected desk excluded normalized categories category room := by
  induction categories with
  | nil => cases pure_eq_ok.mp found
  | cons first others ih =>
    obtain ⟨rooms, -, found⟩ := bind_eq_ok.mp found
    obtain ⟨locked, isLocked, found⟩ := bind_eq_ok.mp found
    cases locked with
    | some chosen =>
      cases pure_eq_ok.mp found
      obtain ⟨stored, ofCategory, available⟩ := lockFirstRoom_eq_some isLocked
      exact ⟨stored, List.mem_cons_self, ofCategory, available⟩
    | none =>
      have later := ih found
      exact ⟨later.stored, List.mem_cons_of_mem _ later.candidate,
        later.ofCategory, later.available⟩

theorem selectRoom_eq_some {currentRoom : Option Room}
    (current : ∀ held, currentRoom = some held -> desk.room? held.id = some held)
    (found : selectRoom desk excluded normalized categories currentRoom =
      .ok (some (category, room))) :
    Selected desk excluded normalized categories category room := by
  unfold selectRoom at found
  split at found
  · exact firstCategoryRoom_eq_some found
  · next held =>
    split at found
    · exact firstCategoryRoom_eq_some found
    · next own isOwn =>
      obtain ⟨available, isAvailable, found⟩ := bind_eq_ok.mp found
      split_ifs at found with free
      · cases pure_eq_ok.mp found
        subst free
        have ofCategory := List.find?_some isOwn
        rw [decide_eq_true_eq] at ofCategory
        exact ⟨current _ rfl, List.mem_of_find?_eq_some isOwn, ofCategory.symm, isAvailable⟩
      · exact firstCategoryRoom_eq_some found

theorem selectRoom_current (candidate : category ∈ categories)
    (ofCategory : room.categoryId = category.id)
    (available : checkRoomAvailability desk.hotelState room.id
      normalized.stay excluded = .ok true) :
    ∃ own, own.id = room.categoryId ∧
      selectRoom desk excluded normalized categories (some room) = .ok (some (own, room)) := by
  cases found : categories.find? fun category =>
      decide (category.id = room.categoryId) with
  | none =>
    have differs := List.find?_eq_none.mp found category candidate
    rw [decide_eq_true_eq] at differs
    exact absurd ofCategory.symm differs
  | some own =>
    have isOwn := List.find?_some found
    rw [decide_eq_true_eq] at isOwn
    refine ⟨own, isOwn, ?_⟩
    unfold selectRoom
    simp only [found]
    rw [available]
    rfl

end

/-- Columns that decide what a modification may do. -/
structure SamePlace (first second : OtaReservation) : Prop where
  id : second.id = first.id
  roomId : second.roomId = first.roomId
  categoryId : second.categoryId = first.categoryId
  stay : second.stay = first.stay
  status : second.status = first.status

theorem SameButFor.planModification {desk again : Desk} {first second : OtaReservation}
    (same : SameButFor first.id desk again) (place : SamePlace first second)
    (normalized : NormalizedReservation F) (categories : List CatalogCategory) :
    planModification again second normalized categories =
      planModification desk first normalized categories := by
  have sameRoom : again.room? = desk.room? := funext same.room?
  have sameOperational : second.Operational = first.Operational := by
    unfold OtaReservation.Operational
    rw [place.status]
  unfold Ota.planModification planOperational
  simp only [place.status, sameOperational, sameRoom, place.roomId, place.categoryId, place.stay,
    place.id, same.selectRoom]

end HotelPms.Ota
