import FieldRules.Binary64.Basic

namespace FieldRules

/-- The decimal numeral `± digits · 10^exponent`. -/
structure Decimal where
  negative : Bool
  digits : Nat
  exponent : Int
deriving DecidableEq

/-- The number that a run of ASCII digits denotes. -/
def digitsValue (cs : List Char) : Nat :=
  cs.foldl (fun n c => 10 * n + (c.toNat - 48)) 0

/-- How many digits a positive number has in base ten. -/
def decimalLength (n : Nat) : Nat := (Nat.toDigits 10 n).length

namespace Decimal

/-- The binary64 number nearest to a decimal, if it is finite. Numerals far outside the range are
    answered by their size alone. -/
def toBinary64? (d : Decimal) : Option Binary64 :=
  let zero : Option Binary64 := some { Binary64.zero with negative := d.negative }
  let size := d.exponent + decimalLength d.digits
  if d.digits = 0 then zero
  else if 400 < size then none
  else if size < -400 then zero
  else if 0 ≤ d.exponent then
    Binary64.nearest? d.negative (d.digits * Nat.pow 10 d.exponent.toNat * Binary64.unitsPerOne) 1
  else
    Binary64.nearest? d.negative (d.digits * Binary64.unitsPerOne) (Nat.pow 10 (-d.exponent).toNat)

/-- The same numeral without zeros at the end of its digits. -/
def stripZeros (d : Decimal) : Decimal :=
  let zeros := ((Nat.toDigits 10 d.digits).reverse.takeWhile (· == '0')).length
  if d.digits = 0 then d
  else { d with digits := d.digits / Nat.pow 10 zeros, exponent := d.exponent + zeros }

/-- Which of two neighbours is taken for a number in the middle between them. -/
inductive Tie where
  | awayFromZero
  /-- The one whose last digit is even. -/
  | toEven
deriving DecidableEq

/-- How a number is laid out as text: what ends a whole number, between which positions of the
    point the digits are written out, and which digits are chosen in a tie. Outside those positions
    one digit stands before the point and the exponent follows `e`, with its sign. -/
structure Layout where
  wholeEnd : String
  positional : Int → Bool
  tie : Tie

/-- All digits are written out and a whole number has no point. -/
def Layout.plain : Layout := ⟨"", fun _ => true, .awayFromZero⟩

/-- A whole number ends in `.0`, and the digits are written out from `0.00001` up to, and without,
    `10^16`. -/
def Layout.json : Layout := ⟨".0", fun point => -5 < point && point ≤ 16, .toEven⟩

/-- The text of a decimal without zeros at its end; the point stands `point` places after the
    first digit. -/
def render (layout : Layout) (d : Decimal) : String :=
  let sign := if d.negative then "-" else ""
  let digits := Nat.toDigits 10 d.digits
  if d.digits = 0 then sign ++ "0" ++ layout.wholeEnd
  else
    let point : Int := d.exponent + digits.length
    if !layout.positional point then
      let fraction := if digits.length ≤ 1 then [] else '.' :: digits.drop 1
      let exponent := point - 1
      sign ++ String.ofList (digits.take 1 ++ fraction) ++ "e" ++
        (if 0 ≤ exponent then "+" else "-") ++ toString exponent.natAbs
    else if point ≤ 0 then
      sign ++ "0." ++ String.ofList (List.replicate (-point).toNat '0' ++ digits)
    else if digits.length ≤ point.toNat then
      sign ++ String.ofList (digits ++ List.replicate d.exponent.toNat '0') ++ layout.wholeEnd
    else
      sign ++ String.ofList (digits.take point.toNat ++ '.' :: digits.drop point.toNat)

end Decimal

namespace Binary64

/-- Where the decimal point of a nonzero number stands: its absolute value is below `10^p` and not
    below `10^(p-1)`. -/
def decimalPoint (x : Binary64) : Int :=
  (decimalLength (x.absUnits * Nat.pow 10 400 / unitsPerOne) : Int) - 400

/-- Of the decimals with the given exponent, the one nearest to `x` among the two neighbours of
    `x` that read back as `x`. -/
def neighbour? (x : Binary64) (tie : Decimal.Tie) (exponent : Int) : Option Decimal :=
  let num := x.absUnits * Nat.pow 10 (-exponent).toNat
  let den := unitsPerOne * Nat.pow 10 exponent.toNat
  let below : Decimal := ⟨x.negative, num / den, exponent⟩
  let above : Decimal := ⟨x.negative, num / den + 1, exponent⟩
  let readsBack (d : Decimal) : Bool := d.toBinary64? == some x
  let nearerBelow : Bool :=
    2 * (num % den) < den || (2 * (num % den) == den && tie == .toEven && below.digits % 2 == 0)
  match readsBack below, readsBack above with
  | true, true => some (if nearerBelow then below else above)
  | true, false => some below
  | false, true => some above
  | false, false => none

/-- The decimal with the fewest digits that reads back as the number, and the nearest of those.
    Seventeen digits always suffice. -/
def shortest (x : Binary64) (tie : Decimal.Tie) : Decimal :=
  if x.isZero then ⟨x.negative, 0, 0⟩
  else
    let counts := (List.range 17).map fun i => x.decimalPoint - (i + 1 : Nat)
    ((counts.findSome? (x.neighbour? tie)).getD ⟨x.negative, 0, 0⟩).stripZeros

/-- The text of a number, with as few digits as possible. -/
def text (x : Binary64) (layout : Decimal.Layout) : String :=
  (x.shortest layout.tie).render layout

end Binary64

end FieldRules
