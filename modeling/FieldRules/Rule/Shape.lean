import FieldRules.Params
import FieldRules.Rule.Branch
import FieldRules.Rule.Check

namespace FieldRules

/-- The messages of a sized rule for each type of value. -/
structure SizeMessages where
  string : String
  number : String
  object : String

namespace SizeMessages

def ofText (message : String) : SizeMessages := ⟨message, message, message⟩

def templates (messages : SizeMessages) : List (TypeTag × String) :=
  [(.string, messages.string), (.number, messages.number), (.object, messages.object)]

end SizeMessages

/-- What a use of a host's own rule checks: what is found about values, and the default message with
    the parameters that it may name. -/
structure HostCheck where
  find : Value → Finding
  message : String
  extra : List (String × Value)

/-- What the rules of one name check, with their default message. Their parameters are read for
    each use of the rule. -/
inductive CheckShape where
  | predicate (message : String) (find : Value → Finding)
  | pattern (message : String) (pattern : Pattern)
  /-- The text of the value matches the pattern that the rule is given. -/
  | givenPattern
  /-- The size of the value compares with a bound. -/
  | size (messages : SizeMessages) (isInvalid : (size bound : Binary64) → Bool)
  /-- The size of the value compares with a range. -/
  | range (messages : SizeMessages) (isInvalid : (size first last : Binary64) → Bool)
  | transform (transform : Transform)
  /-- The remainder of a division by the number that the rule is given. -/
  | remainder
  /-- Texts become uppercase, and other values end the chain. -/
  | upper
  | siblings (message : String) (check : SiblingCheck)
  | trigger (message : String) (requiredWhenListed : Bool)
  | foreign (message : String) (failOnMatch : Bool)
  | itemMatch (message : String) (failOnMatch : Bool)
  | membership (message : String) (failWhenListed : Bool)
  | date (message : String) (isInvalid : (time date : Int) → Bool)
  /-- A rule of the host's own, which reads its parameters with errors of its own. -/
  | host (compile : Schema → (rule field : String) → Params → Except ConfigError HostCheck)

/-- What the rules of one name do. -/
inductive Shape where
  | check (shape : CheckShape)
  | branch (gate : Branch)

end FieldRules
