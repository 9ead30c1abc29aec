import FieldRules.CharSet.Basic

/-!
Separators, controls and characters for private use, by general category.
-/

namespace FieldRules.Unicode

/-- The spaces. -/
def spaceSeparators : CharSet := .ofText
  "20 A0 1680 2000-200A 202F 205F 3000"

/-- The line separator. -/
def lineSeparators : CharSet := .ofText "2028"

/-- The paragraph separator. -/
def paragraphSeparators : CharSet := .ofText "2029"

/-- The control characters. -/
def controls : CharSet := .ofText "0-1F 7F-9F"

/-- The characters that steer the layout of others. -/
def formats : CharSet := .ofText
  "AD 600-605 61C 6DD 70F 890-891 8E2 180E 200B-200F 202A-202E 2060-2064 2066-206F FEFF
   FFF9-FFFB 110BD 110CD 13430-1343F 1BCA0-1BCA3 1D173-1D17A E0001 E0020-E007F"

/-- The characters whose meaning is left to private agreement. -/
def privateUse : CharSet := .ofText "E000-F8FF F0000-FFFFD 100000-10FFFD"

end FieldRules.Unicode
