namespace FieldRules

/-- A finite binary64 number, by its sign bit and the 63 bits below it. The patterns from
    `0x7FF0000000000000` on are the infinities and the NaNs, which this type does not have. -/
structure Binary64 where
  negative : Bool
  magnitude : Nat
  finite : magnitude < 0x7FF0000000000000
deriving DecidableEq

namespace Binary64

/-- Every finite number is a whole multiple of `2^-1074`, which serves as the unit: one is this
    many units. -/
def unitsPerOne : Nat := Nat.pow 2 1074

/-- How many bit patterns a binade has: `2^52`. -/
def binade : Nat := 0x10000000000000

/-- The absolute value, in units. -/
def absUnits (x : Binary64) : Nat :=
  let exponent := x.magnitude / binade
  let fraction := x.magnitude % binade
  if exponent = 0 then fraction else (binade + fraction) * Nat.pow 2 (exponent - 1)

/-- The exact value, in units. Both zeros have the value `0`. -/
def units (x : Binary64) : Int :=
  if x.negative then -(x.absUnits : Int) else x.absUnits

/-- The quotient to the nearest whole number; a half goes to the even neighbour. -/
def divNearest (num den : Nat) : Nat :=
  let quotient := num / den
  let rest := num % den
  if 2 * rest < den then quotient
  else if den < 2 * rest then quotient + 1
  else quotient + quotient % 2

/-- The bits of the number nearest to `num / den` units. Below `2^53` units the bits count units;
    above, each binade takes `2^52` patterns. A carry out of one binade lands on the first pattern
    of the next. -/
def nearestMagnitude (num den : Nat) : Nat :=
  let shift := Nat.log2 (num / den) - 52
  shift * binade + divNearest num (den * Nat.pow 2 shift)

/-- The number nearest to `num / den` units with the given sign, if it is finite. -/
def nearest? (negative : Bool) (num den : Nat) : Option Binary64 :=
  if h : nearestMagnitude num den < 0x7FF0000000000000 then
    some ⟨negative, nearestMagnitude num den, h⟩
  else none

/-- The largest finite number with the given sign. -/
def largest (negative : Bool) : Binary64 :=
  ⟨negative, 0x7FEFFFFFFFFFFFFF, by decide⟩

def zero : Binary64 := ⟨false, 0, by decide⟩

/-- The nearest number to a whole number; past the range, the largest one. -/
def ofInt (n : Int) : Binary64 :=
  (nearest? (decide (n < 0)) (n.natAbs * unitsPerOne) 1).getD (largest (decide (n < 0)))

def ofNat (n : Nat) : Binary64 := ofInt n

/-- The 64 bits of the number. -/
def toBits (x : Binary64) : Nat :=
  (if x.negative then 0x8000000000000000 else 0) + x.magnitude

/-- Comparison by value: the two zeros are the same. -/
def sameValue (x y : Binary64) : Bool := x.units == y.units

instance : LT Binary64 := ⟨fun x y => x.units < y.units⟩
instance : LE Binary64 := ⟨fun x y => x.units ≤ y.units⟩
instance (x y : Binary64) : Decidable (x < y) := inferInstanceAs (Decidable (x.units < y.units))
instance (x y : Binary64) : Decidable (x ≤ y) := inferInstanceAs (Decidable (x.units ≤ y.units))

def isZero (x : Binary64) : Bool := x.absUnits == 0

/-- Whether the number has no fraction. -/
def isWhole (x : Binary64) : Bool := x.absUnits % unitsPerOne == 0

/-- The whole part, toward zero. -/
def truncate (x : Binary64) : Int := x.units.tdiv unitsPerOne

/-- Whether the absolute value is below `bound`. -/
def absBelow (x : Binary64) (bound : Nat) : Bool := decide (x.absUnits < bound * unitsPerOne)

def abs (x : Binary64) : Binary64 := { x with negative := false }

def floor (x : Binary64) : Binary64 :=
  if x.isWhole then x else ofInt (x.units.fdiv unitsPerOne)

def ceil (x : Binary64) : Binary64 :=
  if x.isWhole then x else ofInt (-(-x.units).fdiv unitsPerOne)

/-- The sum with one half, rounded to the nearest number. -/
def addHalf (x : Binary64) : Binary64 :=
  let sum := x.units + (unitsPerOne / 2 : Nat)
  (nearest? (decide (sum < 0)) sum.natAbs 1).getD x

/-- Rounds a half up, after the addition of one half has been rounded itself. -/
def roundHalfUp (x : Binary64) : Binary64 := x.addHalf.floor

/-- The exact remainder of the division toward zero. It has the sign of the dividend, and there is
    none for a zero divisor. -/
def remainder? (x y : Binary64) : Option Binary64 :=
  if y.isZero then none else nearest? x.negative (x.absUnits % y.absUnits) 1

/-- The product, rounded to the nearest number, if it is finite. -/
def mul? (x y : Binary64) : Option Binary64 :=
  nearest? (x.negative != y.negative) (x.absUnits * y.absUnits) unitsPerOne

/-- The quotient, rounded to the nearest number, if it is finite. There is none for a zero
    divisor. -/
def div? (x y : Binary64) : Option Binary64 :=
  if y.isZero then none
  else nearest? (x.negative != y.negative) (x.absUnits * unitsPerOne) y.absUnits

def neg (x : Binary64) : Binary64 := { x with negative := !x.negative }

end Binary64

end FieldRules
