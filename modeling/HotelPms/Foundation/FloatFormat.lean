import HotelPms.Foundation.Decimal

/-!
# Floating-point amounts

The operations that prices, taxes and deposits apply to floating-point
numbers, over any format of them: a format says what its operations return,
how a decimal is read and a number is printed, and what a list adds up to.
The rationals are the format without rounding errors.
-/

/-- Operations of a format of floating-point numbers. -/
class FloatFormat (F : Type) extends Add F, Sub F, Mul F, Div F, LT F where
  ltDecision : DecidableLT F
  /-- Number that a decimal is read as. -/
  ofRat : ℚ -> F
  /-- Sum of a list, as the standard library adds it up. -/
  sum : List F -> F
  /-- Rounding to two decimals. -/
  round2 : F -> F
  /-- Decimal that a number is printed as. -/
  toRat : F -> ℚ

namespace FloatFormat

/-- Comparisons are decided by the format. -/
instance decidableLT {F : Type} [FloatFormat F] : DecidableLT F :=
  ltDecision

/-- The rationals add, multiply and compare without rounding errors. -/
instance exact : FloatFormat ℚ where
  toAdd := ⟨Rat.add⟩
  toSub := ⟨Rat.sub⟩
  toMul := ⟨Rat.mul⟩
  toDiv := ⟨Rat.div⟩
  toLT := Rat.instLT
  ltDecision := fun first second => Rat.instDecidableLt first second
  ofRat := id
  sum := List.foldl Rat.add 0
  round2 := fun value => (Decimal.quantize 2 value : ℚ) / 100
  toRat := id

variable {F : Type} [FloatFormat F]

def ofCents (cents : Int) : F :=
  ofRat ((cents : ℚ) / 100)

/-- Cents of the decimal that a number is printed as. -/
def centsOf (amount : F) : Int :=
  Decimal.quantizeHalfUp 2 (toRat amount)

/-- A number, or zero if that is greater. -/
def atLeastZero (amount : F) : F :=
  if amount < ofRat 0 then ofRat 0 else amount

/-- Quotient of two numbers; there is none by zero. -/
def divide (dividend divisor : F) : Except String F :=
  if toRat divisor = 0 then .error "float division by zero"
  else .ok (dividend / divisor)

/-- Amounts of at most twelve digits in cents are printed as they are. -/
class PrintsCents (F : Type) [FloatFormat F] : Prop where
  toRat_ofCents : ∀ cents : Int, 0 ≤ cents -> cents < 1000000000000 ->
    toRat (ofCents cents : F) = (cents : ℚ) / 100

instance exactPrintsCents : PrintsCents ℚ where
  toRat_ofCents _ _ _ := rfl

end FloatFormat
