import FieldRules.Unicode.Numerals

namespace FieldRules.Text

/-- Whether a character is a decimal digit of some script. -/
def isDigit (c : Char) : Bool := Unicode.decimalDigits.contains c

end FieldRules.Text
