namespace FieldRules

/-- Why rules cannot be compiled. -/
inductive ConfigError where
  | unknownRule (name : String)
  | unexpectedParams (rule field : String)
  | missingParams (rule expected : String)
  | invalidParams (rule params : String)
  | unknownField (rule field : String)
  | invalidNumber (rule params : String)
  | invalidRange (rule params : String)
  | invalidRegex (rule params : String)
  | invalidExpression (rule params : String)
  | invalidMessage (rule message : String)
  | invalidUnit (unit : String)
  | offsetOutOfRange (expression : String)
  | missingCollection (rule : String)
  | missingRules (rule : String)
  | duplicateRule (name : String)
deriving DecidableEq

namespace ConfigError

def message : ConfigError → String
  | .unknownRule name => name ++ " is not a valid rule"
  | .unexpectedParams rule field =>
    "the rule " ++ rule ++ " for field " ++ field ++ " has no arguments"
  | .missingParams rule expected => rule ++ " validation rule requires " ++ expected
  | .invalidParams rule params => params ++ " is not a valid argument for the " ++ rule ++ " rule"
  | .unknownField rule field => field ++ " is not a valid field for the " ++ rule ++ " rule"
  | .invalidNumber rule params =>
    "\"" ++ params ++ "\" is not a valid number for the " ++ rule ++ " rule"
  | .invalidRange rule params =>
    params ++ " is not a valid range of numbers for the " ++ rule ++ " rule"
  | .invalidRegex rule params =>
    params ++ " is not a valid regular expression for the " ++ rule ++ " rule"
  | .invalidExpression rule params =>
    params ++ " is not a valid date expression for the " ++ rule ++ " rule"
  | .invalidMessage rule message => message ++ " is not a valid message for the " ++ rule ++ " rule"
  | .invalidUnit unit => unit ++ " is not a valid unit"
  | .offsetOutOfRange expression =>
    expression ++ " reaches past the range of representable dates"
  | .missingCollection rule => "model, model class, or models is required for " ++ rule ++ " rule"
  | .missingRules rule => "rules are required for the " ++ rule ++ " rule"
  | .duplicateRule name => "a rule named " ++ name ++ " is already registered"

end ConfigError

end FieldRules
