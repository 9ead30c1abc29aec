import FieldRules.Rule.Shape

namespace FieldRules

namespace Value

/-- Texts that are the same but for the case of their ASCII letters. -/
def equalIgnoringCase : Value → Value → Bool
  | .string s, .string t => s.toList.map Char.toLower == t.toList.map Char.toLower
  | _, _ => false

end Value

/-! Checks that are not among the standard rules. -/

namespace CheckShape

def invalidWhenString (message : String) : CheckShape :=
  .predicate message fun value => Finding.ofBool value.string?.isNone

/-- The value is the very time of the date. -/
def dateEqual (message : String) : CheckShape := .date message fun time date => time != date

/-- The size is a multiple of the bound. Nothing is a multiple of zero. -/
def multipleOf (message : String) : CheckShape :=
  .size (.ofText message) fun size bound => !(size.remainder? bound).any Binary64.isZero

/-- The size does not lie between the ends of the range. -/
def outside (message : String) : CheckShape :=
  .range (.ofText message) fun size first last => first < size && size < last

end CheckShape

end FieldRules
