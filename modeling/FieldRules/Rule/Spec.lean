import FieldRules.ConfigError
import FieldRules.Message
import FieldRules.Params
import FieldRules.Value.Weight

namespace FieldRules

/-- One rule of a field as it is configured: a name that may carry parameters, a message, and input
    for a rule without parameters of its own. -/
structure RuleEntry where
  rule : String
  message : Option Message
  input : Params

/-- The rules of a field as they are configured. -/
inductive RuleSpec where
  /-- Rules between bars. -/
  | text (s : String)
  | list (rules : List String)
  | map (entries : List RuleEntry)

namespace RuleEntry

/-- A rule by its name alone, with or without parameters in it. -/
def ofName (rule : String) : RuleEntry := ⟨rule, none, .none⟩

/-- Whether the message of an entry counts as given. -/
def isGiven : Value → Bool
  | .null | .bool false => false
  | .string s => !s.toList.isEmpty
  | _ => true

/-- The message of an object, if it counts as given. -/
def givenMessage? (v : Value) : Option Value := (v.get? "message").filter isGiven

/-- Reads an entry of a map: a text is the message, an object with a message holds the input beside
    it, and everything else is the input. -/
def ofConfig (rule : String) (v : Value) : Except ConfigError RuleEntry :=
  match v with
  | .string message => .ok ⟨rule, some (.text message), .none⟩
  | v =>
    match givenMessage? v with
    | none => .ok ⟨rule, none, .ofValue v⟩
    | some raw =>
      match Message.ofValue? raw with
      | none => .error (.invalidMessage rule (Json.render raw))
      | some message => .ok ⟨rule, some message, .ofValue ((v.get? "input").getD .null)⟩

end RuleEntry

namespace RuleSpec

/-- The rules that stand between bars. Blanks around them and empty places do not count. -/
def splitRules (s : String) : List String :=
  ((Text.splitEscaped '|' s).map Text.trim).filter (!·.toList.isEmpty)

/-- A specification written out rule by rule. -/
def entries : RuleSpec → List RuleEntry
  | text s => (splitRules s).map RuleEntry.ofName
  | list rules => rules.map RuleEntry.ofName
  | map entries => entries

/-- The rule in an array of rules. -/
def ruleOfItem (item : Value) : Except ConfigError String :=
  match item with
  | .string s => .ok s
  | item => .error (.invalidParams "rules" (Json.render item))

/-- Reads a specification: a text, an array of texts, or an object of entries. -/
def ofValue : Value → Except ConfigError RuleSpec
  | .string s => .ok (text s)
  | .array items => (items.mapM ruleOfItem).map list
  | .object entries => (entries.mapM fun entry => RuleEntry.ofConfig entry.1 entry.2).map map
  | v => .error (.invalidParams "rules" (Json.render v))

end RuleSpec

end FieldRules
