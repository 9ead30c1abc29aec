import FieldRules.Rule.Spec

namespace FieldRules

/-- How the records of a schema are validated. -/
structure Config where
  /-- The fields and their rules, in the order of their declaration. -/
  rules : List (String × RuleSpec)
  /-- The messages of fields, for rules that have none of their own. -/
  messages : List (String × Message)
  aliases : List (String × String)
  /-- Whether only valid records may be saved. -/
  required : Bool

namespace Config

def empty : Config := ⟨[], [], [], false⟩

/-- Gives a field its rules, in place of those it had. -/
def setRules (config : Config) (field : String) (spec : RuleSpec) : Config :=
  { config with rules := putEntry field spec config.rules }

def setMessage (config : Config) (field : String) (message : Message) : Config :=
  { config with messages := putEntry field message config.messages }

def setAlias (config : Config) (field name : String) : Config :=
  { config with aliases := putEntry field name config.aliases }

def setRequired (config : Config) (required : Bool) : Config := { config with required := required }

/-- Why a configuration cannot be read. -/
inductive ReadError where
  /-- A part has the wrong type. -/
  | malformed
  | rules (e : ConfigError)

/-- A part that may be missing, but not of a wrong type. -/
def readPart {α : Type} (part : Option Value) (default : α) (read : Value → Option α) :
    Except ReadError α :=
  match part with
  | none => .ok default
  | some v =>
    match read v with
    | some a => .ok a
    | none => .error .malformed

/-- The entries of an object, each of them read. -/
def readEntries {α : Type} (read : Value → Option α) (v : Value) : Option (List (String × α)) := do
  let entries ← v.object?
  entries.mapM fun (key, item) => (read item).map (key, ·)

def bool? : Value → Option Bool
  | .bool b => some b
  | _ => none

/-- The names of the parts, in the order in which an array gives them. -/
def partNames : List String := ["rules", "messages", "aliases", "required"]

/-- The parts of a configuration: the entries of an object, or the items of an array in order. -/
def parts? : Value → Option (List (String × Value))
  | .object entries => some entries
  | .array items => if items.length ≤ partNames.length then some (partNames.zip items) else none
  | _ => none

/-- The rules of one field. -/
def readRules (entry : String × Value) : Except ReadError (String × RuleSpec) :=
  match RuleSpec.ofValue entry.2 with
  | .ok spec => .ok (entry.1, spec)
  | .error e => .error (.rules e)

/-- Reads a configuration. That all parts have the right type is found out before any rules are
    read. -/
def ofValue (v : Value) : Except ReadError Config :=
  match parts? v with
  | none => .error .malformed
  | some parts => do
    let rules ← readPart (parts.lookup "rules") [] Value.object?
    let messages ← readPart (parts.lookup "messages") [] (readEntries Message.ofValue?)
    let aliases ← readPart (parts.lookup "aliases") [] (readEntries Value.string?)
    let required ← readPart (parts.lookup "required") false bool?
    let rules ← rules.mapM readRules
    .ok ⟨rules, messages, aliases, required⟩

end Config

end FieldRules
