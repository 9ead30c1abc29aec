import FieldRules.Binary64.Decimal
import FieldRules.Text.Blank
import FieldRules.Text.Digit

namespace FieldRules.Text

/-- A sign, which may be missing, and what follows it. -/
def readSign : List Char → Bool × List Char
  | '-' :: rest => (true, rest)
  | '+' :: rest => (false, rest)
  | rest => (false, rest)

/-- An exponent of at least one digit, and what follows it; `none` if the text does not begin with
    one. -/
def readExponent? (isDigit : Char → Bool) : List Char → Option (List Char × List Char)
  | c :: rest =>
    if c = 'e' ∨ c = 'E' then
      let signs := rest.take (if rest.head? = some '-' ∨ rest.head? = some '+' then 1 else 0)
      match (rest.drop signs.length).span isDigit with
      | ([], _) => none
      | (digits, rest) => some (c :: signs ++ digits, rest)
    else none
  | [] => none

/-- Reads a text as a whole as a decimal numeral: a sign, digits with a point before, among or after
    them, and an exponent. Sign, point and exponent may be missing, a digit of the mantissa not. -/
def readDecimal? (cs : List Char) : Option Decimal :=
  let (negative, cs) := readSign cs
  let (whole, cs) := cs.span Char.isDigit
  let (fraction, cs) :=
    match cs with
    | '.' :: rest => rest.span Char.isDigit
    | rest => ([], rest)
  if whole.isEmpty && fraction.isEmpty then none
  else
    let numeral (exponent : Int) : Decimal :=
      ⟨negative, digitsValue (whole ++ fraction), exponent - fraction.length⟩
    match cs, readExponent? Char.isDigit cs with
    | [], _ => some (numeral 0)
    | _, some (_ :: exponent, []) =>
      let (negative, digits) := readSign exponent
      some (numeral (if negative then -(digitsValue digits : Int) else digitsValue digits))
    | _, _ => none

/-- Reads a text as a finite number. -/
def readBinary64? (cs : List Char) : Option Binary64 :=
  (readDecimal? cs).bind Decimal.toBinary64?

/-- The longest numeral at the start of a text, after blanks. Here the digits of all scripts count:
    a numeral that has others than the ASCII ones is found, but it denotes no number. -/
def numeralPrefix? (cs : List Char) : Option (List Char) :=
  let cs := cs.dropWhile isBlank
  let signs := cs.take (if cs.head? = some '-' ∨ cs.head? = some '+' then 1 else 0)
  let (whole, cs) := (cs.drop signs.length).span isDigit
  let (fraction, cs) :=
    match whole, cs with
    | [], '.' :: rest =>
      match rest.span isDigit with
      | ([], _) => ([], cs)
      | (digits, rest) => ('.' :: digits, rest)
    | _ :: _, '.' :: rest =>
      match rest.span isDigit with
      | (digits, rest) => ('.' :: digits, rest)
    | _, _ => ([], cs)
  if whole.isEmpty && fraction.isEmpty then none
  else
    let exponent := ((readExponent? isDigit cs).map (·.1)).getD []
    some (signs ++ whole ++ fraction ++ exponent)

/-- The number at the start of a text. -/
def leadingBinary64? (s : String) : Option Binary64 :=
  (numeralPrefix? s.toList).bind readBinary64?

end FieldRules.Text
