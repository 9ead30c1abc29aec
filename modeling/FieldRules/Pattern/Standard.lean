import FieldRules.Pattern.Basic

namespace FieldRules.Pattern

open CharSet

/-- A whole text of characters of a set. -/
def allOf (s : CharSet) : Pattern := all [anchor .textStart, star (char s), anchor .textEnd]

def alpha : Pattern := allOf asciiLetters

def alphaDash : Pattern :=
  allOf ⟨[(0x2D, 0x2D), (0x30, 0x39), (0x41, 0x5A), (0x5F, 0x5F), (0x61, 0x7A)]⟩

def alphaNum : Pattern := allOf asciiAlphanumerics

/-- Any character but the line feed. -/
def inLine : CharSet := (single '\n').compl

/-- Something, an at sign, something, a point and something, all in one line. -/
def email : Pattern :=
  all [anchor .textStart, plus (char inLine), char (single '@'), plus (char inLine),
    char (single '.'), plus (char inLine), anchor .textEnd]

/-- The end of a scheme and a host name of two characters or more, a point, a top level domain of
    two to six small letters, and a path. -/
def address (scheme : Pattern) : Pattern :=
  let host := union asciiAlphanumerics (ofChars "-@:%._+~#=".toList)
  let path := union asciiAlphanumerics (ofChars "-@:%_+.~#?&/=".toList)
  all [anchor .textStart, optional (all [scheme, literal "://".toList]),
    times (char host) 2 (some 256), char (single '.'), times (char asciiLower) 2 (some 6),
    anchor (.word .either false), star (char path), anchor .textEnd]

def url : Pattern := address (all [literal "http".toList, optional (char (single 's'))])

def uri : Pattern := address (plus (char Unicode.wordChars))

/-- Ten digits in three groups, of which the first two do not start with 0 or 1, with other
    characters between them; a 1 may stand before and an extension after them. -/
def phone : Pattern :=
  let gap := star (char Unicode.wordChars.compl)
  all [anchor .textStart, optional (char (single '1')), gap,
    char (range '2' '9'), char (range '0' '8'), char asciiDigits, gap,
    char (range '2' '9'), char asciiDigits, char asciiDigits, gap,
    times (char asciiDigits) 4 (some 4),
    optional (all [char Unicode.whiteSpace, optional (char (single 'e')),
      optional (char (single 'x')), optional (char (single 't')),
      star (char Unicode.decimalDigits)]),
    anchor .textEnd]

end FieldRules.Pattern
