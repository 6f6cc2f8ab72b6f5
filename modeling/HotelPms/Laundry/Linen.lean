import HotelPms.Foundation.Checked
import HotelPms.Foundation.Decimal
import HotelPms.Foundation.Inventory
import HotelPms.Foundation.Table

/-!
# The linen ledger

Items, locations and movements of the linen of one hotel.  Quantities are
counted in hundredths of a unit: stored ones are whole, requested ones may
have any number of decimals.  A call that raises writes nothing.
-/

namespace HotelPms.Laundry

open Checked Inventory

inductive MovementType
  | inbound
  | outbound
  | adjustment
  | adjustmentOut
  | retirement
  deriving DecidableEq

namespace MovementType

def value : MovementType -> String
  | inbound => "in"
  | outbound => "out"
  | adjustment => "adjustment"
  | adjustmentOut => "adjustment_out"
  | retirement => "retirement"

/-- The movement lowers the balance. -/
def IsOutbound (movementType : MovementType) : Prop :=
  movementType = outbound ∨ movementType = adjustmentOut ∨ movementType = retirement
deriving Decidable

/-- The valid movement type with a text. -/
def ofValue (text : String) : Option MovementType :=
  [inbound, outbound, adjustment, adjustmentOut, retirement].find? (·.value = text)

theorem ofValue_value (movementType : MovementType) :
    ofValue movementType.value = some movementType := by
  cases movementType <;> decide

end MovementType

structure LinenItem where
  name : String
  deletedAt : Option Int := none

structure LinenLocation where
  name : String
  deletedAt : Option Int := none

structure LinenMovement where
  id : Int
  itemId : Int
  locationId : Option Int
  movementType : MovementType
  quantity : Int
  reason : Option String
  reservationId : Option Int
  createdByUserId : Option Int
  createdAt : Int
  transferReference : Option String

structure LaundryVendorPrice where
  id : Int
  vendorId : Int
  linenItemId : Int
  unitPrice : Int
  effectiveFrom : Int

/-- What a call reads outside the custody tables: the business clock, the linen
catalogue, the price list and the reservations. -/
structure LaundryEnvironment where
  now : Int
  items : Int -> Option LinenItem
  locations : Int -> Option LinenLocation
  prices : List LaundryVendorPrice
  hasReservation : Int -> Bool

inductive LaundryError
  | linen (message : String)
  | linenNotFound (message : String)
  | vendor (message : String)
  | notEnough (itemName locationName : String) (available : Int) (needed : ℚ)
  | duplicateRemito (message : String)
  | discrepancyNotFound (message : String)
  | discrepancyConflict (message : String)
  | integrity (constraint : String)
  | numericOverflow
  | valueTooLong (columnName : String)
  | invalidOperation

/-- Largest value of a `Numeric(12, 2)` column. -/
def maximumColumn : Int := 999999999999

/-- What a `Numeric(12, 2)` column stores of a value. -/
def column (value : ℚ) : Int := Decimal.roundHalfUp value

def storeColumn (value : ℚ) : Except LaundryError Int := do
  raiseIf (maximumColumn < |column value|) .numericOverflow
  pure (column value)

namespace LaundryEnvironment

variable (env : LaundryEnvironment)

def getLinenItem (itemId : Int) : Except LaundryError LinenItem :=
  match env.items itemId with
  | some item => do
    raiseIf (item.deletedAt ≠ none) (.linenNotFound "No se encontró el artículo de ropa blanca.")
    pure item
  | none =>
    throw (.linenNotFound "No se encontró el artículo de ropa blanca.")

def getLocation (locationId : Int) : Except LaundryError LinenLocation :=
  match env.locations locationId with
  | some location => do
    raiseIf (location.deletedAt ≠ none)
      (.linenNotFound "No se encontró la ubicación de ropa blanca.")
    pure location
  | none =>
    throw (.linenNotFound "No se encontró la ubicación de ropa blanca.")

def checkLocation (locationId : Option Int) : Except LaundryError Unit :=
  match locationId with
  | none => pure ()
  | some locationId => do
    let _ ← env.getLocation locationId
    pure ()

end LaundryEnvironment

/-- The movements of one hotel. -/
structure LinenLedger where
  movements : List LinenMovement := []
  nextMovementId : Int := 1

/-- Effect of a movement on the balances of its item. -/
def LinenMovement.signedQuantity (movement : LinenMovement) : Int :=
  if movement.movementType.IsOutbound then -movement.quantity
  else movement.quantity

def LinenMovement.entry (movement : LinenMovement) : Entry Int Int where
  item := movement.itemId
  place := movement.locationId
  amount := movement.signedQuantity

structure MovementRequest where
  itemId : Int
  locationId : Option Int
  movementType : String
  quantity : ℚ
  reason : Option String := none
  reservationId : Option Int := none
  createdByUserId : Option Int := none
  transferReference : Option String := none

namespace LinenLedger

variable (env : LaundryEnvironment) (ledger : LinenLedger)

def entries : List (Entry Int Int) :=
  ledger.movements.map LinenMovement.entry

/-- Balance of one item for the hotel, or at one location.  A balance of more
than twenty-eight digits cannot be quantized. -/
def currentStock (itemId : Int) (locationId : Option Int) : Except LaundryError Int := do
  let _ ← env.getLinenItem itemId
  raiseIf (10 ^ 28 ≤ |balance ledger.entries itemId locationId|) .invalidOperation
  pure (balance ledger.entries itemId locationId)

def add (movement : LinenMovement) : LinenLedger where
  movements := ledger.movements ++ [movement]
  nextMovementId := ledger.nextMovementId + 1

variable (request : MovementRequest) (movementType : MovementType)

/-- An outbound movement is covered by the balance of its location alone. -/
def checkCovered : Except LaundryError Unit :=
  if movementType.IsOutbound then do
    let available ← ledger.currentStock env request.itemId request.locationId
    raiseIf ((available : ℚ) < request.quantity)
      (.linen "El movimiento dejaría negativo el stock de ropa blanca.")
  else pure ()

def checkMovementConstraints (movement : LinenMovement) : Except LaundryError Unit := do
  raiseIf (movement.quantity ≤ 0) (.integrity "ck_linen_movements_quantity_positive")
  raiseIf (movement.transferReference ≠ none ∧
      movement.movementType ≠ .inbound ∧ movement.movementType ≠ .outbound)
    (.integrity "ck_linen_movements_transfer_direction_valid")
  raiseIf (movement.transferReference ≠ none ∧ ∃ other ∈ ledger.movements,
      other.transferReference = movement.transferReference ∧
        other.movementType = movement.movementType)
    (.integrity "uq_linen_movement_transfer_direction")
  raiseIf ((movement.reservationId.any fun reservationId =>
      !env.hasReservation reservationId) = true)
    (.integrity "fk_linen_movements_hotel_reservation")

/-- The row a request of a known type inserts. -/
def movementOf (quantity : Int) : LinenMovement where
  id := ledger.nextMovementId
  itemId := request.itemId
  locationId := request.locationId
  movementType := movementType
  quantity := quantity
  reason := request.reason
  reservationId := request.reservationId
  createdByUserId := request.createdByUserId
  createdAt := env.now
  transferReference := request.transferReference

def registerTyped : Except LaundryError (LinenLedger × LinenMovement) := do
  raiseIf (movementType = .retirement)
    (.linen ("Usá la operación de baja por desgaste para retirar ropa " ++
      "blanca de circulación."))
  raiseIf (request.quantity ≤ 0)
    (.linen ("La cantidad del movimiento de ropa blanca debe ser " ++ "positiva."))
  let _ ← env.getLinenItem request.itemId
  ledger.checkCovered env request movementType
  env.checkLocation request.locationId
  let quantity ← storeColumn request.quantity
  let movement := ledger.movementOf env request movementType quantity
  ledger.checkMovementConstraints env movement
  pure (ledger.add movement, movement)

def registerMovement : Except LaundryError (LinenLedger × LinenMovement) :=
  match MovementType.ofValue request.movementType with
  | none =>
    throw (.linen "El tipo de movimiento de ropa blanca no es válido.")
  | some movementType => ledger.registerTyped env request movementType

end LinenLedger

section

variable {env : LaundryEnvironment} {ledger after : LinenLedger}
  {request : MovementRequest} {movementType : MovementType}
  {movement : LinenMovement}

theorem storeColumn_eq_ok {value : ℚ} {stored : Int} : storeColumn value = .ok stored ↔
      |stored| ≤ maximumColumn ∧ stored = column value := by
  unfold storeColumn
  simp only [bind_eq_ok, raiseIf_eq_ok, pure_eq_ok, not_lt]
  constructor
  · rintro ⟨_, fits, rfl⟩
    exact ⟨fits, rfl⟩
  · rintro ⟨fits, rfl⟩
    exact ⟨(), fits, rfl⟩

theorem currentStock_eq_ok {itemId amount : Int} {locationId : Option Int}
    (current : ledger.currentStock env itemId locationId = .ok amount) :
    amount = balance ledger.entries itemId locationId ∧ |amount| < 10 ^ 28 := by
  unfold LinenLedger.currentStock at current
  simp only [bind_eq_ok, raiseIf_eq_ok, pure_eq_ok, not_le] at current
  obtain ⟨_, -, _, digits, rfl⟩ := current
  exact ⟨rfl, digits⟩

def movementEntry (request : MovementRequest) (movementType : MovementType) : Entry Int Int where
  item := request.itemId
  place := request.locationId
  amount :=
    if movementType.IsOutbound then -column request.quantity
    else column request.quantity

/-- What is known of a movement once it is registered. -/
structure Registers
    (request : MovementRequest) (movementType : MovementType)
    (ledger after : LinenLedger) : Prop where
  entries : after.entries = ledger.entries ++ [movementEntry request movementType]
  positive : 0 < column request.quantity
  fits : column request.quantity ≤ maximumColumn
  covered : movementType.IsOutbound -> column request.quantity ≤
      balance ledger.entries request.itemId request.locationId

theorem registerTyped_eq_ok
    (registered : ledger.registerTyped env request movementType = .ok (after, movement)) :
    Registers request movementType ledger after := by
  unfold LinenLedger.registerTyped at registered
  simp only [bind_eq_ok, pure_eq_ok] at registered
  obtain ⟨_, -, _, -, _, -, _, covered, _, -, quantity, isQuantity, _,
    constraints, result⟩ := registered
  cases result
  obtain ⟨fits, rfl⟩ := storeColumn_eq_ok.mp isQuantity
  unfold LinenLedger.checkMovementConstraints at constraints
  simp only [bind_eq_ok, raiseIf_eq_ok, not_le] at constraints
  obtain ⟨_, positive, -⟩ := constraints
  have positive : 0 < column request.quantity := positive
  refine ⟨?_, positive, (le_abs_self _).trans fits, ?_⟩
  · show (ledger.movements ++ [_]).map LinenMovement.entry = _
    rw [List.map_append]
    rfl
  · intro outbound
    unfold LinenLedger.checkCovered at covered
    rw [if_pos outbound] at covered
    simp only [bind_eq_ok, raiseIf_eq_ok, not_lt] at covered
    obtain ⟨available, current, enough⟩ := covered
    rw [← (currentStock_eq_ok current).1]
    exact Decimal.roundHalfUp_le enough

theorem registerMovement_eq_ok (isType : request.movementType = movementType.value)
    (registered : ledger.registerMovement env request = .ok (after, movement)) :
    Registers request movementType ledger after := by
  unfold LinenLedger.registerMovement at registered
  rw [isType, MovementType.ofValue_value] at registered
  exact registerTyped_eq_ok registered

end

end HotelPms.Laundry
