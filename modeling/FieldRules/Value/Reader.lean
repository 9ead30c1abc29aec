import FieldRules.Binary64.Decimal
import FieldRules.Text.Hex
import FieldRules.Value.Entries
import FieldRules.Value.Numeral

namespace FieldRules.Json

def isSpace (c : Char) : Bool := c == ' ' || c == '\n' || c == '\t' || c == '\r'

/-- The character that a letter after a backslash stands for; `u` is not one of them. -/
def escapedChar? : Char → Option Char
  | '"' => some '"'
  | '\\' => some '\\'
  | '/' => some '/'
  | 'b' => some (Char.ofNat 8)
  | 'f' => some (Char.ofNat 12)
  | 'n' => some '\n'
  | 'r' => some '\r'
  | 't' => some '\t'
  | _ => none

/-- The characters of a quoted text up to its closing quote, and what follows it. Control characters
    and halves of surrogate pairs are refused. -/
def readQuoted : List Char → Option (List Char × List Char)
  | [] => none
  | '"' :: rest => some ([], rest)
  | '\\' :: 'u' :: a :: b :: c :: d :: rest => do
    let high ← Text.hexNumber? [a, b, c, d]
    if 0xD800 ≤ high ∧ high < 0xDC00 then
      match rest with
      | '\\' :: 'u' :: e :: f :: g :: h :: rest =>
        let low ← Text.hexNumber? [e, f, g, h]
        if 0xDC00 ≤ low ∧ low < 0xE000 then
          let (text, rest) ← readQuoted rest
          some (Char.ofNat (0x10000 + (high - 0xD800) * 0x400 + (low - 0xDC00)) :: text, rest)
        else none
      | _ => none
    else if 0xDC00 ≤ high ∧ high < 0xE000 then none
    else
      let (text, rest) ← readQuoted rest
      some (Char.ofNat high :: text, rest)
  | '\\' :: c :: rest => do
    let c ← escapedChar? c
    let (text, rest) ← readQuoted rest
    some (c :: text, rest)
  | c :: rest =>
    if c.toNat < 32 ∨ c = '\\' then none
    else (readQuoted rest).map fun (text, rest) => (c :: text, rest)

/-- The digits after a point, which needs at least one. -/
def readFraction? : List Char → Option (Option (List Char) × List Char)
  | '.' :: rest =>
    match rest.span Char.isDigit with
    | ([], _) => none
    | (digits, rest) => some (some digits, rest)
  | rest => some (none, rest)

/-- The exponent after `e` or `E`, which needs at least one digit. Without the letter there is
    none. -/
def readExponent? : List Char → Option (Option Int × List Char)
  | c :: rest =>
    if c = 'e' ∨ c = 'E' then
      let (negative, rest) :=
        match rest with
        | '-' :: rest => (true, rest)
        | '+' :: rest => (false, rest)
        | rest => (false, rest)
      match rest.span Char.isDigit with
      | ([], _) => none
      | (digits, rest) =>
        let exponent : Int := digitsValue digits
        some (some (if negative then -exponent else exponent), rest)
    else some (none, c :: rest)
  | [] => some (none, [])

def readNumber? (cs : List Char) : Option (Number × List Char) := do
  let (negative, cs) :=
    match cs with
    | '-' :: rest => (true, rest)
    | rest => (false, rest)
  let (whole, cs) := cs.span Char.isDigit
  if whole.isEmpty || (whole.head? == some '0' && whole.length != 1) then none
  else
    let (fraction, cs) ← readFraction? cs
    let (exponent, cs) ← readExponent? cs
    let number ← Numeral.toNumber? ⟨negative, whole, fraction, exponent⟩
    some (number, cs)

/-- How many arrays and objects may stand inside each other. -/
def maxDepth : Nat := 127

mutual

/-- Reads a value and gives the text after it. `fuel` bounds the number of reading steps and
    `depth` the nesting. -/
def readValue (fuel depth : Nat) (cs : List Char) : Option (Value × List Char) :=
  match fuel with
  | 0 => none
  | fuel + 1 =>
    match cs.dropWhile isSpace with
    | 'n' :: 'u' :: 'l' :: 'l' :: rest => some (.null, rest)
    | 't' :: 'r' :: 'u' :: 'e' :: rest => some (.bool true, rest)
    | 'f' :: 'a' :: 'l' :: 's' :: 'e' :: rest => some (.bool false, rest)
    | '"' :: rest => (readQuoted rest).map fun (text, rest) => (.string (String.ofList text), rest)
    | '[' :: rest =>
      match depth, rest.dropWhile isSpace with
      | 0, _ => none
      | _, ']' :: rest => some (.array [], rest)
      | depth + 1, rest => (readItems fuel depth rest).map fun (items, rest) => (.array items, rest)
    | '\x7b' :: rest =>
      match depth, rest.dropWhile isSpace with
      | 0, _ => none
      | _, '\x7d' :: rest => some (.object [], rest)
      | depth + 1, rest =>
        (readEntries fuel depth [] rest).map fun (entries, rest) => (.object entries, rest)
    | rest => (readNumber? rest).map fun (n, rest) => (.number n, rest)

/-- The items of an array up to its closing bracket. -/
def readItems (fuel depth : Nat) (cs : List Char) : Option (List Value × List Char) :=
  match fuel with
  | 0 => none
  | fuel + 1 => do
    let (item, rest) ← readValue fuel depth cs
    match rest.dropWhile isSpace with
    | ']' :: rest => some ([item], rest)
    | ',' :: rest =>
      let (items, rest) ← readItems fuel depth rest
      some (item :: items, rest)
    | _ => none

/-- The entries of an object up to its closing brace, put after those already read. A key that
    comes again takes its new value at its old place. -/
def readEntries (fuel depth : Nat) (entries : List (String × Value)) (cs : List Char) :
    Option (List (String × Value) × List Char) :=
  match fuel with
  | 0 => none
  | fuel + 1 =>
    match cs.dropWhile isSpace with
    | '"' :: rest => do
      let (key, rest) ← readQuoted rest
      match rest.dropWhile isSpace with
      | ':' :: rest =>
        let (item, rest) ← readValue fuel depth rest
        let entries := putEntry (String.ofList key) item entries
        match rest.dropWhile isSpace with
        | '\x7d' :: rest => some (entries, rest)
        | ',' :: rest => readEntries fuel depth entries rest
        | _ => none
      | _ => none
    | _ => none

end

/-- Reads a whole text as one JSON value. A reading step takes at least one character or is the
    first of a value inside a bracket, so twice the length is enough fuel. -/
def parse? (s : String) : Option Value :=
  match readValue (2 * s.toList.length + 2) maxDepth s.toList with
  | some (v, rest) => if (rest.dropWhile isSpace).isEmpty then some v else none
  | none => none

end FieldRules.Json
