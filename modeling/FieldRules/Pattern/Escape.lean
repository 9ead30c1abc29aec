import FieldRules.Pattern.Basic
import FieldRules.Pattern.Mode
import FieldRules.Text.Hex
import FieldRules.Unicode.Name

/-!
What follows a backslash in the notation of patterns.
-/

namespace FieldRules.Pattern

/-- What an escape stands for. -/
inductive Atom where
  | char (c : Char)
  | set (s : CharSet)
  | anchor (a : Anchor)

/-- A character by its code point: some hexadecimal digits, or any number of them in braces. Where
    only ASCII is meant, two digits name a byte, which must be a character by itself. -/
def readCode? (mode : Mode) (count : Nat) (cs : List Char) : Option (Atom × List Char) := do
  match mode.skip cs with
  | '\x7b' :: rest =>
    let (digits, rest) ← mode.spanBrace? rest
    if digits.isEmpty then none
    else
      let c ← (Text.hexNumber? digits).bind Text.charOfCode?
      some (.char c, mode.skip rest)
  | cs =>
    let (digits, rest) ← mode.take? count cs
    let c ← (Text.hexNumber? digits).bind Text.charOfCode?
    if count = 2 ∧ 127 < c.toNat ∧ !mode.unicode then none else some (.char c, rest)

/-- The text before and after the first `!=`. -/
def splitAtUnequal? : List Char → Option (List Char × List Char)
  | [] => none
  | '!' :: '=' :: rest => some ([], rest)
  | c :: rest => (splitAtUnequal? rest).map fun (before, after) => (c :: before, after)

/-- The text before and after the first `mark`. -/
def splitAtMark? (mark : Char) (cs : List Char) : Option (List Char × List Char) :=
  match cs.span (· != mark) with
  | (before, _ :: after) => some (before, after)
  | (_, []) => none

/-- The class that a property has between its braces. -/
def classOfProperty? (mode : Mode) (negated : Bool) (name : List Char) : Option CharSet :=
  match splitAtUnequal? name with
  | some (name, value) => do
    let s ← Unicode.ofNameAndValue? name value
    mode.negate? (!negated) (mode.fold s)
  | none => do
    let s ←
      match (splitAtMark? ':' name).or (splitAtMark? '=' name) with
      | some (name, value) => Unicode.ofNameAndValue? name value
      | none => Unicode.ofName? name
    mode.negate? negated (mode.fold s)

/-- A property, by a letter or by a name in braces. -/
def readProperty? (mode : Mode) (negated : Bool) (cs : List Char) : Option (Atom × List Char) :=
  if !mode.unicode then none
  else
    match mode.skip cs with
    | '\x7b' :: rest => do
      let (name, rest) ← mode.spanBrace? rest
      let s ← classOfProperty? mode negated name
      some (.set s, rest)
    | '\\' :: _ => none
    | c :: rest => do
      let s ← (Unicode.ofName? [c]).bind fun s => mode.negate? negated (mode.fold s)
      some (.set s, mode.skip rest)
    | [] => none

def wordEdgeOfName? : String → Option WordEdge
  | "start" => some .opening
  | "end" => some .closing
  | "start-half" => some .openingHalf
  | "end-half" => some .closingHalf
  | _ => none

/-- The edge of a word after `\b`: in braces that begin with a letter or a hyphen stands its name.
    Other braces belong to what follows. -/
def readWordEdge? (mode : Mode) (cs : List Char) : Option (WordEdge × List Char) :=
  match cs with
  | '\x7b' :: rest =>
    match mode.skip rest with
    | [] => none
    | c :: rest =>
      if c.isAlpha || c == '-' then do
        let (name, rest) ← mode.spanBrace? (c :: rest)
        let edge ← wordEdgeOfName? (String.ofList name)
        some (edge, rest)
      else some (.either, cs)
  | _ => some (.either, cs)

/-- What follows a backslash. Punctuation, blanks and control characters stand for themselves;
    digits and letters without a meaning are refused. -/
def readEscape? (mode : Mode) : List Char → Option (Atom × List Char)
  | [] => none
  | c :: rest =>
    match c with
    | 'x' => readCode? mode 2 rest
    | 'u' => readCode? mode 4 rest
    | 'U' => readCode? mode 8 rest
    | 'p' => readProperty? mode false rest
    | 'P' => readProperty? mode true rest
    | 'd' | 's' | 'w' => (mode.class? c).map fun s => (.set s, rest)
    | 'D' | 'S' | 'W' =>
      ((mode.class? c.toLower).bind (mode.negate? true)).map fun s => (.set s, rest)
    | 'a' => some (.char '\x07', rest)
    | 'f' => some (.char '\x0c', rest)
    | 't' => some (.char '\t', rest)
    | 'n' => some (.char '\n', rest)
    | 'r' => some (.char '\r', rest)
    | 'v' => some (.char '\x0b', rest)
    | 'A' => some (.anchor .textStart, rest)
    | 'z' => some (.anchor .textEnd, rest)
    | 'b' =>
      (readWordEdge? mode rest).map fun (edge, rest) => (.anchor (.word edge !mode.unicode), rest)
    | 'B' => some (.anchor (.word .neither !mode.unicode), rest)
    | '<' => some (.anchor (.word .opening !mode.unicode), rest)
    | '>' => some (.anchor (.word .closing !mode.unicode), rest)
    | _ => if c.toNat < 128 ∧ !c.isAlphanum then some (.char c, rest) else none

end FieldRules.Pattern
