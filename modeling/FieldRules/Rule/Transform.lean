import FieldRules.Rule.Finding
import FieldRules.Text.Base64
import FieldRules.Text.Markup

namespace FieldRules

/-- A change of values that never fails. -/
inductive Transform where
  | abs
  | ceil
  | floor
  | round
  | mod (divisor : Binary64)
  | trim
  /-- Drops the null items of arrays and the null entries of objects. -/
  | filter
  | stripTags
  | stripEntities
  | base64
  | unbase64
  | startOfDay
  | endOfDay
  /-- Writes the value to the record. -/
  | apply
  /-- Makes the value null, in the record too. -/
  | null

namespace Transform

def onNumber (value : Value) (f : Binary64 → Binary64) : Option Value :=
  value.leadingNumber?.map fun x => .ofBinary64 (f x)

def onText (value : Value) (f : String → String) : Option Value :=
  value.string?.map fun s => .string (f s)

def dropNulls : Value → Option Value
  | .array items => some (.array (items.filter (!·.isNull)))
  | .object entries => some (.object (entries.filter (!·.2.isNull)))
  | _ => none

/-- The new value, or none if the value stays as it is. -/
def replacement? (transform : Transform) (value : Value) : Option Value :=
  match transform with
  | abs => onNumber value Binary64.abs
  | ceil => onNumber value Binary64.ceil
  | floor => onNumber value Binary64.floor
  | round => onNumber value Binary64.roundHalfUp
  | mod divisor => value.leadingNumber?.map fun x => .ofBinary64? (x.remainder? divisor)
  | trim => onText value Text.trim
  | filter => dropNulls value
  | stripTags => onText value Text.stripTags
  | stripEntities => onText value Text.stripEntities
  | base64 => some (.string (Text.Base64.encode value.display))
  | unbase64 => (value.string?.bind fun s => Text.Base64.decode? (Text.trim s)).map .string
  | startOfDay => (value.time?.bind Calendar.startOfDay?).map .int
  | endOfDay => (value.time?.bind Calendar.endOfDay?).map .int
  | apply => none
  | null => some .null

/-- The value that is written to the record. -/
def stored? (transform : Transform) (value : Value) : Option Value :=
  match transform with
  | apply => some value
  | null => some .null
  | _ => none

end Transform

end FieldRules
