import FieldRules.Calendar.Expression
import FieldRules.Text.Split
import FieldRules.Value.Text

namespace FieldRules

/-- What a rule is given besides the value to judge. -/
inductive Params where
  | none
  /-- Text, such as the `3,10` in `between:3,10`. -/
  | text (s : String)
  | value (v : Value)
  /-- A foreign collection as such, with the names of its model and of the field to compare. -/
  | records (model field : Option String) (members : List Instance)
  /-- The value that a field of some item must have, and what counts as equal to it. -/
  | item (field : String) (value : Value) (equal : Value → Value → Bool)
  /-- The date to compare with. -/
  | date (expression : Calendar.Expression)

namespace Params

/-- Null gives no parameters, and a text gives text to be read further. -/
def ofValue : Value → Params
  | .null => none
  | .string s => text s
  | v => value v

/-- Whether nothing was given: the empty text and null are nothing. -/
def isNone : Params → Bool
  | none => true
  | text s => s.toList.isEmpty
  | value v => v.isNull
  | _ => false

def text? : Params → Option String
  | text s => some s
  | _ => Option.none

def value? : Params → Option Value
  | value v => some v
  | _ => Option.none

/-- A list of field names: a comma list, or an array of texts. -/
def fieldList? : Params → Option (List String)
  | text s => some (Text.splitTrimmedList s)
  | value (.array items) => items.mapM Value.string?
  | _ => Option.none

/-- The value that stands for the parameters in messages. -/
def display : Params → Value
  | none => .null
  | text s => .string s
  | value v => v
  | records model _ _ => (model.map .string).getD .null
  | item field v _ => .string (field ++ "," ++ v.display)
  | date _ => .string "<expression>"

/-- The text that stands for the parameters in configuration errors. -/
def describe (params : Params) : String := params.display.display

/-- The name of the kind of parameters. -/
def kind : Params → String
  | none => "None"
  | text _ => "Text"
  | value _ => "Value"
  | records _ _ _ => "Records"
  | item _ _ _ => "Match"
  | date _ => "Expression"

end Params

end FieldRules
