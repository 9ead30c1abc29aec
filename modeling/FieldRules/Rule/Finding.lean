import FieldRules.Calendar.Expression
import FieldRules.Text.Number
import FieldRules.Value.Text

namespace FieldRules

/-- What a predicate finds about a value. -/
inductive Finding where
  | valid
  /-- The value is valid, and later rules shall see another one in its place. -/
  | replace (value : Value)
  | invalid

namespace Value

/-- The number that a value is, or that its text begins with. -/
def leadingNumber? : Value → Option Binary64
  | .number n => some n.toBinary64
  | .string s => Text.leadingBinary64? s
  | _ => none

/-- The number that a value is, or that its whole text writes but for the blanks around it. -/
def numeral? : Value → Option Binary64
  | .number n => some n.toBinary64
  | .string s => Text.readBinary64? (Text.trimChars s.toList)
  | _ => none

/-- The value of a number that may not exist, such as the remainder of a division by zero. -/
def ofBinary64? : Option Binary64 → Value
  | some x => .ofBinary64 x
  | none => .null

end Value

namespace Finding

def ofBool (valid : Bool) : Finding := if valid then .valid else .invalid

/-- The replacement of the value, or invalid without one. -/
def ofReplacement? : Option Value → Finding
  | some value => replace value
  | none => invalid

def required (value : Value) : Finding := ofBool !value.isEmpty

/-- Whether the text of a value says yes, in any case. -/
def accepted (value : Value) : Finding :=
  ofBool <| ["1", "yes", "on", "y", "true"].contains <|
    String.ofList (value.display.toList.map Char.toLower)

def isArray (value : Value) : Finding := ofBool value.array?.isSome

def isObject (value : Value) : Finding := ofBool value.object?.isSome

def isString (value : Value) : Finding := ofBool value.string?.isSome

def isNumber (value : Value) : Finding := ofBool value.binary64?.isSome

def isBoolean : Value → Finding
  | .bool _ => valid
  | _ => invalid

def whole (value : Value) : Finding :=
  ofReplacement? <| (value.leadingNumber?.filter Binary64.isWhole).map Value.ofBinary64

def numeric (value : Value) : Finding := ofReplacement? (value.leadingNumber?.map Value.ofBinary64)

def yesNo? (s : String) : Option Bool :=
  if ["true", "t", "yes", "y", "1"].contains s then some true
  else if ["false", "f", "no", "n", "0"].contains s then some false
  else none

def yesNo (value : Value) : Finding := ofReplacement? ((yesNo? value.display).map Value.bool)

def dateLike (value : Value) : Finding := ofReplacement? (value.time?.map Value.int)

end Finding

end FieldRules
