import FieldRules.Record
import FieldRules.Value.Text

namespace FieldRules

/-- A piece of a template: a character that stands for itself, or a named slot. -/
inductive Segment where
  | char (c : Char)
  | slot (name : List Char)
deriving DecidableEq

namespace Template

/-- Braces enclose the name of a slot. -/
def opening : Char := '\x7b'
def closing : Char := '\x7d'

/-- The pieces of a template. After an opening brace, `held` keeps the characters since then, last
    one first: the first closing brace makes them the name of a slot, and without one they stand
    for themselves. -/
def segmentsFrom : Option (List Char) → List Char → List Segment
  | none, [] => []
  | some held, [] => (opening :: held.reverse).map .char
  | none, c :: rest =>
    if c = opening then segmentsFrom (some []) rest else .char c :: segmentsFrom none rest
  | some held, c :: rest =>
    if c = closing then .slot held.reverse :: segmentsFrom none rest
    else segmentsFrom (some (c :: held)) rest

def segments (template : String) : List Segment := segmentsFrom none template.toList

/-- The text of a piece. A slot that `lookup` does not know is left as it was written. -/
def fillSegment (lookup : String → Option String) : Segment → List Char
  | .char c => [c]
  | .slot name =>
    match lookup (String.ofList name) with
    | some text => text.toList
    | none => opening :: name ++ [closing]

/-- Replaces the slots of a template in one pass: replacements are not looked at again. -/
def fill (lookup : String → Option String) (template : String) : String :=
  String.ofList ((segments template).flatMap (fillSegment lookup))

/-- The names of the slots, in order. -/
def slotNames (template : String) : List String :=
  (segments template).filterMap fun
    | .char _ => none
    | .slot name => some (String.ofList name)

/-- A slot, as a template writes it. -/
def slot (name : String) : String :=
  String.ofList (opening :: name.toList ++ [closing])

end Template

/-- A message given for a rule: one template for all values, or one for each type of value. -/
inductive Message where
  | text (template : String)
  | byType (templates : List (TypeTag × String))

namespace Message

/-- The template for rules that have only one: with templates by type it is the one for texts, or
    else any other. -/
def text? : Message → Option String
  | .text template => some template
  | .byType templates => (templates.lookup .string).or (templates.head?.map (·.2))

/-- The template for a type of value. -/
def forTag? : Message → TypeTag → Option String
  | .text template, _ => some template
  | .byType templates, tag => templates.lookup tag

/-- The templates by type, in the order of `TypeTag.all`. -/
def templates (message : Message) : List (TypeTag × String) :=
  TypeTag.all.filterMap fun tag => (message.forTag? tag).map (tag, ·)

/-- A message is written as a text, or as an object whose keys are names of types and whose entries
    are texts. -/
def ofValue? : Value → Option Message
  | .string template => some (.text template)
  | .object entries =>
    (entries.mapM fun (entry : String × Value) => do
      let tag ← TypeTag.ofName? entry.1
      let template ← entry.2.string?
      some (tag, template)).map .byType
  | _ => none

end Message

/-- The display names of fields. -/
structure Aliases where
  entries : List (String × String)

namespace Aliases

/-- The display name of a field, or else its own name. -/
def get (aliases : Aliases) (field : String) : String :=
  (aliases.entries.lookup field).getD field

end Aliases

/-- Joins items as in a sentence: `a`, `a and b`, `a, b, and c`. -/
def joinFriendly (conjunction : String) : List String → String
  | [] => ""
  | [a] => a
  | [a, b] => a ++ " " ++ conjunction ++ " " ++ b
  | a :: b :: rest =>
    ", ".intercalate (a :: b :: rest).dropLast ++ ", " ++ conjunction ++ " " ++
      (b :: rest).getLastD b

/-- What the slots of a template may name besides the parameters of its rule: the field, its display
    name, its value, and the declared fields of the record. -/
structure Renderer where
  field : String
  fieldAlias : String
  fields : List String

namespace Renderer

def forField (field : String) (aliases : Aliases) (schema : Schema) : Renderer :=
  ⟨field, aliases.get field, schema.fields⟩

/-- The text for a slot. The parameters in `extra` come before the declared fields. -/
def lookup (renderer : Renderer) (value : Value) (record : Record) (extra : List (String × Value))
    (name : String) : Option String :=
  if name = "$field" then some renderer.field
  else if name = "$alias" then some renderer.fieldAlias
  else if name = "$value" then some value.display
  else
    match extra.lookup name with
    | some v => some v.display
    | none => if renderer.fields.contains name then some (record.get name).display else none

def render (renderer : Renderer) (template : String) (value : Value) (record : Record)
    (extra : List (String × Value)) : String :=
  Template.fill (renderer.lookup value record extra) template

end Renderer

end FieldRules
