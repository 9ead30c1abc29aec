import FieldRules.Params
import FieldRules.Pattern.Reader
import FieldRules.Rule.Shape
import FieldRules.Value.Reader

namespace FieldRules

/-- What a rule may refer to wherever it is used: the declared fields, the display names, and the
    ways in which date expressions are read. -/
structure Scope where
  schema : Schema
  aliases : Aliases
  readers : List Calendar.ExpressionReader

/-- One use of a rule. -/
structure RuleUse where
  rule : String
  field : String
  params : Params
  /-- The message for this use, if it is not the default one. -/
  message : Option Message

namespace RuleUse

def renderer (use : RuleUse) (scope : Scope) : Renderer :=
  .forField use.field scope.aliases scope.schema

/-- The message for this use, or else the given one. -/
def wording (use : RuleUse) (scope : Scope) (default : String) (extra : List (String × Value)) :
    Wording :=
  ⟨use.renderer scope, (use.message.bind Message.text?).getD default, extra⟩

def sizeWording (use : RuleUse) (scope : Scope) (default : SizeMessages)
    (extra : List (String × Value)) : SizeWording :=
  ⟨use.renderer scope, (use.message.map Message.templates).getD default.templates, extra⟩

def requireNoParams (use : RuleUse) : Except ConfigError Unit :=
  if use.params.isNone then .ok () else .error (.unexpectedParams use.rule use.field)

/-- Parameters must be given; `expected` says which. -/
def requireParams (use : RuleUse) (expected : String) : Except ConfigError Unit :=
  if use.params.isNone then .error (.missingParams use.rule expected) else .ok ()

def requireField (use : RuleUse) (scope : Scope) (field : String) : Except ConfigError Unit :=
  if scope.schema.hasField field then .ok () else .error (.unknownField use.rule field)

def invalidParams (use : RuleUse) : ConfigError := .invalidParams use.rule use.params.describe

/-- A result, or else an error. -/
def orError {α : Type} (result : Option α) (e : ConfigError) : Except ConfigError α :=
  match result with
  | some a => .ok a
  | none => .error e

/-- The slots for another field in messages: its name and its display name. -/
def matchSlots (scope : Scope) (field : String) : List (String × Value) :=
  [("$matchField", .string field), ("$matchAlias", .string (scope.aliases.get field))]

end RuleUse

namespace Params

/-- A single number. -/
def bound? : Params → Option Binary64
  | text s => Text.leadingBinary64? s
  | value v => v.binary64?
  | _ => Option.none

/-- A number, or a text that begins with one. -/
def divisor? : Params → Option Binary64
  | text s => Text.leadingBinary64? s
  | value v => v.leadingNumber?
  | _ => Option.none

/-- The two ends of a range: the first two numbers of a list, or the entries `start` and `end`. -/
def range? : Params → Option (Binary64 × Binary64)
  | text s =>
    match Text.splitTrimmedList s with
    | first :: last :: _ => do
      let first ← Text.leadingBinary64? first
      let last ← Text.leadingBinary64? last
      some (first, last)
    | _ => Option.none
  | value (.array (first :: last :: _)) => do
    let first ← first.binary64?
    let last ← last.binary64?
    some (first, last)
  | value v => do
    let first ← (v.get? "start").bind Value.binary64?
    let last ← (v.get? "end").bind Value.binary64?
    some (first, last)
  | _ => Option.none

/-- The text of a pattern between slashes. -/
def source? : Params → Option String
  | text s => some s
  | value v => v.string?
  | _ => Option.none

/-- The field that triggers a rule, and the values that do. -/
def fieldAndValues? : Params → Option (String × List Value)
  | text s =>
    match Text.splitList s with
    | field :: values => some (field, values.map .string)
    | [] => Option.none
  | value (.array (field :: values)) => field.string?.map (·, values)
  | value v => do
    let field ← (v.get? "field").bind Value.string?
    match v.get? "values" with
    | some (.array values) => some (field, values)
    | some single => some (field, [single])
    | Option.none => some (field, [])
  | _ => Option.none

/-- Text that is JSON stands for its value, and other text for itself. -/
def literal (s : String) : Value := (Json.parse? s).getD (.string s)

/-- The field of an item, the value that it must have, and what counts as equal to it. -/
def itemMatch? : Params → Option (String × Value × (Value → Value → Bool))
  | text s => do
    let (field, expected) ← Text.splitOnce ',' s
    some (Text.trim field, literal expected, Value.equal)
  | value (.array items) => do
    let field ← items.head?.bind Value.string?
    some (field, (items[1]?).getD .null, Value.equal)
  | value v => do
    let field ← (v.get? "field").bind Value.string?
    some (field, (v.get? "value").getD .null, Value.equal)
  | item field expected equal => some (field, expected, equal)
  | _ => Option.none

/-- The values of a list. -/
def listItems : Params → List Value
  | text s => (Text.splitList s).map .string
  | value (.array items) => items
  | _ => []

/-- A text that is not empty. -/
def nonEmpty? (s : String) : Option String := if s.toList.isEmpty then Option.none else some s

/-- The model and the field of a rule about other records, and the records as far as they are given.
    Parameters of another form are refused. -/
def foreign? : Params → Option (Option String × Option String × Option (List Instance))
  | none => some (Option.none, Option.none, Option.none)
  | text s =>
    let parts := Text.splitTrimmedList s
    some (parts.head?.bind nonEmpty?, (parts[1]?).bind nonEmpty?, Option.none)
  | value (.array items) =>
    let name (item : Option Value) : Option String := (item.bind Value.string?).bind nonEmpty?
    some (name items.head?, name items[1]?, Option.none)
  | value (.object entries) =>
    let name (key : String) : Option String :=
      ((entries.lookup key).bind Value.string?).bind nonEmpty?
    some (name "model", name "field", Option.none)
  | records model field members => some (model, field, some members)
  | _ => Option.none

end Params

namespace CheckShape

open RuleUse

/-- The date expression that a rule is given. Text is read by the first reader whose form it has. -/
def readDate (scope : Scope) (use : RuleUse) : Except ConfigError Calendar.Expression :=
  let invalid : ConfigError := .invalidExpression use.rule use.params.describe
  match use.params with
  | .text s => do
    let expression ← Calendar.ExpressionReader.readFirst? scope.readers s scope.schema
    orError expression invalid
  | .date expression => .ok expression
  | .value v => orError (v.time?.map fun time => .constant (some time)) invalid
  | _ => .error invalid

/-- Where a rule about other records finds them. Without a source of collections they must be
    given. -/
def sourceOf (scope : Scope) (use : RuleUse) :
    Option (List Instance) → Except ConfigError Source
  | some members => .ok (.given members)
  | none =>
    if scope.schema.hasCollections then .ok (.lookup scope.schema.lookupTimeout)
    else .error (.missingCollection use.rule)

/-- The check that a use of a rule makes, or the first error in its parameters. -/
def compile (scope : Scope) (use : RuleUse) : CheckShape → Except ConfigError Check
  | predicate message find => do
    use.requireNoParams
    .ok (.predicate find (use.wording scope message []))
  | pattern message p => do
    use.requireNoParams
    .ok (.pattern p (use.wording scope message []))
  | givenPattern => do
    let p ← orError (use.params.source?.bind Pattern.readDelimited?)
      (.invalidRegex use.rule use.params.describe)
    .ok (.pattern p (use.wording scope (Template.slot "$alias" ++ " is not a valid value.") []))
  | size messages isInvalid => do
    let bound ← orError use.params.bound? (.invalidNumber use.rule use.params.describe)
    .ok (.sized (isInvalid · bound)
      (use.sizeWording scope messages [("$number", use.params.display)]))
  | range messages isInvalid => do
    let (first, last) ← orError use.params.range? (.invalidRange use.rule use.params.describe)
    .ok (.sized (isInvalid · first last)
      (use.sizeWording scope messages
        [("$start", .ofBinary64 first), ("$end", .ofBinary64 last)]))
  | transform t => do
    use.requireNoParams
    .ok (.transform t use.field)
  | remainder => do
    let divisor ← orError use.params.divisor? (.invalidNumber use.rule use.params.describe)
    .ok (.transform (.mod divisor) use.field)
  | upper => do
    use.requireNoParams
    .ok .upper
  | siblings message check => do
    use.requireParams "an array of fields argument"
    let fields ← orError use.params.fieldList? use.invalidParams
    fields.forM (use.requireField scope)
    .ok (.siblings check fields (use.wording scope message
      [("$fields", .string (joinFriendly "and" fields)),
        ("$fieldAliases", .string (joinFriendly "and" (fields.map scope.aliases.get)))]))
  | trigger message requiredWhenListed => do
    use.requireParams "a field and list arguments"
    let (field, values) ← orError use.params.fieldAndValues? use.invalidParams
    use.requireField scope field
    let listed := values.map Value.display
    .ok (.trigger field listed requiredWhenListed (use.wording scope message
      (("$params", use.params.display) :: matchSlots scope field ++
        [("$list", .string (joinFriendly "and" listed))])))
  | foreign message failOnMatch => do
    let (model, field, members) ← orError use.params.foreign? use.invalidParams
    let model := model.getD scope.schema.name
    let field := field.getD use.field
    use.requireField scope field
    let source ← sourceOf scope use members
    .ok (.foreign model field source failOnMatch (use.wording scope message
      (("$class", .string model) :: matchSlots scope field)))
  | itemMatch message failOnMatch => do
    use.requireParams "field & value arguments"
    let (field, expected, equal) ← orError use.params.itemMatch?
      (.missingParams use.rule "field & value arguments")
    use.requireField scope field
    .ok (.itemMatch field expected equal failOnMatch (use.wording scope message
      (matchSlots scope field ++ [("$matchValue", expected)])))
  | membership message failWhenListed => do
    use.requireParams "a list argument"
    let items := use.params.listItems
    if items.isEmpty then .error use.invalidParams
    else
      .ok (.membership (.ofList items) failWhenListed (use.wording scope message
        [("$params", use.params.display),
          ("$list", .string (joinFriendly "or" (items.map Value.display)))]))
  | date message isInvalid => do
    use.requireParams "a date expression argument"
    let expression ← readDate scope use
    .ok (.date expression isInvalid (use.wording scope message [("$date", use.params.display)]))
  | host compile => do
    let check ← compile scope.schema use.rule use.field use.params
    .ok (.predicate check.find (use.wording scope check.message check.extra))

end CheckShape

end FieldRules
