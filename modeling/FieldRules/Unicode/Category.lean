import FieldRules.Unicode.Letters
import FieldRules.Unicode.Marks
import FieldRules.Unicode.Numerals
import FieldRules.Unicode.Punctuation
import FieldRules.Unicode.Separators
import FieldRules.Unicode.Symbols

/-!
The general categories, alone and in groups, and their names.
-/

namespace FieldRules.Unicode

def casedLetters : CharSet := .unions [uppercaseLetters, lowercaseLetters, titlecaseLetters]

def letters : CharSet := .unions [casedLetters, modifierLetters, otherLetters]

def marks : CharSet := .unions [nonspacingMarks, spacingMarks, enclosingMarks]

def numbers : CharSet := .unions [decimalDigits, letterNumbers, otherNumbers]

def punctuation : CharSet :=
  .unions [connectorPunctuation, dashPunctuation, openPunctuation, closePunctuation,
    initialPunctuation, finalPunctuation, otherPunctuation]

def symbols : CharSet := .unions [mathSymbols, currencySymbols, modifierSymbols, otherSymbols]

def separators : CharSet := .unions [spaceSeparators, lineSeparators, paragraphSeparators]

/-- The characters that show or separate something. -/
def visible : CharSet := .unions [letters, marks, numbers, punctuation, symbols, separators]

def assigned : CharSet := .unions [visible, controls, formats, privateUse]

/-- The set that a general category or a group of them names. -/
def ofCategoryName? : String → Option CharSet
  | "lu" | "uppercaseletter" => some uppercaseLetters
  | "ll" | "lowercaseletter" => some lowercaseLetters
  | "lt" | "titlecaseletter" => some titlecaseLetters
  | "lc" | "casedletter" => some casedLetters
  | "lm" | "modifierletter" => some modifierLetters
  | "lo" | "otherletter" => some otherLetters
  | "l" | "letter" => some letters
  | "mn" | "nonspacingmark" => some nonspacingMarks
  | "mc" | "spacingmark" => some spacingMarks
  | "me" | "enclosingmark" => some enclosingMarks
  | "m" | "mark" | "combiningmark" => some marks
  | "nd" | "decimalnumber" | "digit" => some decimalDigits
  | "nl" | "letternumber" => some letterNumbers
  | "no" | "othernumber" => some otherNumbers
  | "n" | "number" => some numbers
  | "pc" | "connectorpunctuation" => some connectorPunctuation
  | "pd" | "dashpunctuation" => some dashPunctuation
  | "ps" | "openpunctuation" => some openPunctuation
  | "pe" | "closepunctuation" => some closePunctuation
  | "pi" | "initialpunctuation" => some initialPunctuation
  | "pf" | "finalpunctuation" => some finalPunctuation
  | "po" | "otherpunctuation" => some otherPunctuation
  | "p" | "punctuation" | "punct" => some punctuation
  | "sm" | "mathsymbol" => some mathSymbols
  | "sc" | "currencysymbol" => some currencySymbols
  | "sk" | "modifiersymbol" => some modifierSymbols
  | "so" | "othersymbol" => some otherSymbols
  | "s" | "symbol" => some symbols
  | "zs" | "spaceseparator" => some spaceSeparators
  | "zl" | "lineseparator" => some lineSeparators
  | "zp" | "paragraphseparator" => some paragraphSeparators
  | "z" | "separator" => some separators
  | "cc" | "control" | "cntrl" => some controls
  | "cf" | "format" => some formats
  | "co" | "privateuse" => some privateUse
  | "cn" | "unassigned" => some assigned.compl
  | "c" | "other" => some visible.compl
  | "any" => some .any
  | "assigned" => some assigned
  | "ascii" => some ⟨[(0, 0x7F)]⟩
  | _ => none

end FieldRules.Unicode
