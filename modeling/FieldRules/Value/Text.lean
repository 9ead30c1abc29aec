import FieldRules.Binary64.Decimal
import FieldRules.Text.Hex
import FieldRules.Value.Basic

namespace FieldRules

namespace Json

/-- A character inside a quoted text. Quotes, backslashes and the control characters below `U+0020`
    are escaped, and nothing else. -/
def escapeChar (c : Char) : List Char :=
  if c = '"' then ['\\', '"']
  else if c = '\\' then ['\\', '\\']
  else if c = '\n' then ['\\', 'n']
  else if c = '\r' then ['\\', 'r']
  else if c = '\t' then ['\\', 't']
  else if c = Char.ofNat 8 then ['\\', 'b']
  else if c = Char.ofNat 12 then ['\\', 'f']
  else if c.toNat < 32 then '\\' :: 'u' :: Text.hexDigits 4 c.toNat
  else [c]

def quote (s : String) : String :=
  String.ofList ('"' :: s.toList.flatMap escapeChar ++ ['"'])

def numberText : Number → String
  | .integer n => toString n
  | .float x => x.text .json

mutual

/-- The compact JSON text of a value. -/
def render : Value → String
  | .null => "null"
  | .bool b => if b then "true" else "false"
  | .number n => numberText n
  | .string s => quote s
  | .array items => "[" ++ ",".intercalate (renderItems items) ++ "]"
  | .object entries => "\x7b" ++ ",".intercalate (renderEntries entries) ++ "\x7d"

def renderItems : List Value → List String
  | [] => []
  | item :: items => render item :: renderItems items

def renderEntries : List (String × Value) → List String
  | [] => []
  | (key, item) :: entries => (quote key ++ ":" ++ render item) :: renderEntries entries

end

end Json

namespace Number

/-- The text of a number in messages: all digits, and no fraction on whole numbers. Below `10^15`
    whole numbers are written from their integer, so a negative zero is `0`. -/
def display : Number → String
  | .integer n => toString n
  | .float x =>
    if x.isWhole && x.absBelow 1000000000000000 then toString x.truncate
    else x.text .plain

end Number

namespace Value

/-- The text of a value in messages and keyed lookups: a text is itself, and arrays and objects are
    compact JSON. -/
def display : Value → String
  | .string s => s
  | .number n => n.display
  | v => Json.render v

end Value

end FieldRules
