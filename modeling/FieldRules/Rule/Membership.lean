import FieldRules.Value.Text

namespace FieldRules

/-- The values of a list rule, as they are searched. -/
inductive Membership where
  /-- Scalars, by their texts. -/
  | keys (texts : List String)
  /-- Values of any kind, by equality. -/
  | scan (items : List Value)

namespace Membership

def ofList (items : List Value) : Membership :=
  if items.all Value.isScalar then keys (items.map Value.display) else scan items

def contains : Membership → Value → Bool
  | keys texts, value => value.isScalar && texts.contains value.display
  | scan items, value => items.any (·.equal value)

end Membership

end FieldRules
