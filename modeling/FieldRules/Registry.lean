import FieldRules.Calendar.Expression
import FieldRules.Rule.Shape

namespace FieldRules

/-- The rules that specifications may name, and the ways in which date expressions are read, in
    order. No two rules have one name. -/
structure Registry where
  rules : List (String × Shape)
  readers : List Calendar.ExpressionReader

namespace Registry

/-- No rules, and the standard readers of expressions. -/
def empty : Registry := ⟨[], Calendar.ExpressionReader.standard⟩

def find? (registry : Registry) (name : String) : Option Shape := registry.rules.lookup name

def contains (registry : Registry) (name : String) : Bool := (registry.find? name).isSome

def names (registry : Registry) : List String := registry.rules.map (·.1)

def size (registry : Registry) : Nat := registry.rules.length

/-- Adds a rule under a new name. -/
def register (registry : Registry) (name : String) (shape : Shape) : Except ConfigError Registry :=
  if registry.contains name then .error (.duplicateRule name)
  else .ok { registry with rules := registry.rules ++ [(name, shape)] }

/-- Adds a reader of expressions behind the others. -/
def addReader (registry : Registry) (reader : Calendar.ExpressionReader) : Registry :=
  { registry with readers := registry.readers ++ [reader] }

end Registry

end FieldRules
