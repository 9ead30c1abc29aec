import FieldRules.CharSet.Basic

/-!
Sets of ASCII characters, and the names that some of them have inside brackets.
-/

namespace FieldRules.CharSet

def ascii : CharSet := ⟨[(0, 0x7F)]⟩

def asciiDigits : CharSet := ⟨[(0x30, 0x39)]⟩

def asciiLower : CharSet := ⟨[(0x61, 0x7A)]⟩

def asciiUpper : CharSet := ⟨[(0x41, 0x5A)]⟩

def asciiLetters : CharSet := ⟨[(0x41, 0x5A), (0x61, 0x7A)]⟩

def asciiAlphanumerics : CharSet := ⟨[(0x30, 0x39), (0x41, 0x5A), (0x61, 0x7A)]⟩

/-- Letters, digits and the underscore. -/
def asciiWordChars : CharSet := ⟨[(0x30, 0x39), (0x41, 0x5A), (0x5F, 0x5F), (0x61, 0x7A)]⟩

def asciiHexDigits : CharSet := ⟨[(0x30, 0x39), (0x41, 0x46), (0x61, 0x66)]⟩

/-- The blanks among the ASCII characters. -/
def asciiBlanks : CharSet := ⟨[(9, 0xD), (0x20, 0x20)]⟩

/-- The sets of ASCII characters that have names of their own inside brackets. -/
def ofAsciiName? : String → Option CharSet
  | "alnum" => some asciiAlphanumerics
  | "alpha" => some asciiLetters
  | "ascii" => some ascii
  | "blank" => some ⟨[(9, 9), (0x20, 0x20)]⟩
  | "cntrl" => some ⟨[(0, 0x1F), (0x7F, 0x7F)]⟩
  | "digit" => some asciiDigits
  | "graph" => some (range '!' '~')
  | "lower" => some asciiLower
  | "print" => some (range ' ' '~')
  | "punct" => some ⟨[(0x21, 0x2F), (0x3A, 0x40), (0x5B, 0x60), (0x7B, 0x7E)]⟩
  | "space" => some asciiBlanks
  | "upper" => some asciiUpper
  | "word" => some asciiWordChars
  | "xdigit" => some asciiHexDigits
  | _ => Option.none

end FieldRules.CharSet
