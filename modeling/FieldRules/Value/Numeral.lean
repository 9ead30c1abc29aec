import FieldRules.Value.Basic

namespace FieldRules.Json

/-- Appends digits to a number as long as it fits an unsigned 64-bit word. The second result counts
    the digits that were taken. -/
def takeDigits (n : Nat) : List Char → Nat × Nat
  | [] => (n, 0)
  | c :: cs =>
    let longer := 10 * n + (c.toNat - '0'.toNat)
    if longer < 0x10000000000000000 then
      let (n, count) := takeDigits longer cs
      (n, count + 1)
    else (n, 0)

/-- The largest power of ten that is a binary64 number. -/
def maxPower : Nat := 308

def powerOfTen (exponent : Nat) : Binary64 := Binary64.ofNat (Nat.pow 10 exponent)

/-- A number times a power of ten, each operation rounded on its own. A power below the smallest
    one that can be divided by takes several divisions. -/
def scale? (x : Binary64) (exponent : Int) : Option Binary64 :=
  if x.isZero then some x
  else if 0 ≤ exponent then
    if exponent ≤ maxPower then x.mul? (powerOfTen exponent.toNat) else none
  else if -maxPower ≤ exponent then x.div? (powerOfTen (-exponent).toNat)
  else (x.div? (powerOfTen maxPower)).bind fun y => scale? y (exponent + maxPower)
termination_by (-exponent).toNat
decreasing_by
  simp only [maxPower] at *
  omega

/-- The parts of a written number: its sign, the digits before and after the point, and the
    exponent. -/
structure Numeral where
  negative : Bool
  whole : List Char
  fraction : Option (List Char)
  exponent : Option Int

namespace Numeral

/-- The binary64 number of a numeral, if it is finite: the leading digits as far as a word holds
    them, scaled by a power of ten. -/
def toBinary64? (numeral : Numeral) : Option Binary64 := do
  let (n, wholeCount) := takeDigits 0 numeral.whole
  let dropped := numeral.whole.length - wholeCount
  let (n, fractionCount) := takeDigits n (numeral.fraction.getD [])
  let x ← scale? (Binary64.ofNat n) (dropped - fractionCount + numeral.exponent.getD 0)
  some (if numeral.negative then x.neg else x)

/-- The number that a numeral denotes. Without fraction and exponent it is an integer if a signed or
    an unsigned 64-bit word holds it, but for the negative zero. -/
def toNumber? (numeral : Numeral) : Option Number :=
  let (n, count) := takeDigits 0 numeral.whole
  let fits :=
    count = numeral.whole.length ∧ (numeral.negative → n ≠ 0 ∧ n ≤ 0x8000000000000000)
  if numeral.fraction.isNone ∧ numeral.exponent.isNone ∧ fits then
    some (.integer (if numeral.negative then -n else n))
  else numeral.toBinary64?.map .float

end Numeral

end FieldRules.Json
