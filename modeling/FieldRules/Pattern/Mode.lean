import FieldRules.CharSet.Case
import FieldRules.Text.Blank
import FieldRules.Unicode.Property

/-!
The ways in which the notation of patterns is read.
-/

namespace FieldRules.Pattern

/-- How the text of a pattern is read. -/
structure Mode where
  /-- Letters match in either case. -/
  caseless : Bool
  /-- `^` and `$` hold at every line. -/
  multiLine : Bool
  /-- The dot matches line ends too. -/
  dotAll : Bool
  /-- Carriage returns end lines too. -/
  carriage : Bool
  /-- Classes have characters outside ASCII. -/
  unicode : Bool
  /-- Blanks and comments stand for nothing. -/
  spaced : Bool

namespace Mode

def ofFlags (caseless multiLine : Bool) : Mode := ⟨caseless, multiLine, false, false, true, false⟩

/-- Sets the flag of a letter. Greediness makes no difference to whether a text matches. -/
def set? (mode : Mode) (letter : Char) (on : Bool) : Option Mode :=
  match letter with
  | 'i' => some { mode with caseless := on }
  | 'm' => some { mode with multiLine := on }
  | 's' => some { mode with dotAll := on }
  | 'R' => some { mode with carriage := on }
  | 'u' => some { mode with unicode := on }
  | 'x' => some { mode with spaced := on }
  | 'U' => some mode
  | _ => none

/-- Drops blanks and comments, from inside a comment or not. -/
def skipBlanks (comment : Bool) : List Char → List Char
  | [] => []
  | c :: rest =>
    if comment then skipBlanks (c != '\n') rest
    else if Text.isBlank c then skipBlanks false rest
    else if c = '#' then skipBlanks true rest
    else c :: rest

def skip (mode : Mode) (cs : List Char) : List Char :=
  if mode.spaced then skipBlanks false cs else cs

/-- Reads the characters up to the first one that is not wanted, from inside a comment or not.
    Blanks and comments between them are dropped. -/
def spanBlanks (wanted : Char → Bool) (comment : Bool) : List Char → List Char × List Char
  | [] => ([], [])
  | c :: rest =>
    if comment then spanBlanks wanted (c != '\n') rest
    else if Text.isBlank c then spanBlanks wanted false rest
    else if c = '#' then spanBlanks wanted true rest
    else if wanted c then
      let (cs, rest) := spanBlanks wanted false rest
      (c :: cs, rest)
    else ([], c :: rest)

/-- Reads a name or number: the characters up to the first one that is not wanted. -/
def span (mode : Mode) (wanted : Char → Bool) (cs : List Char) : List Char × List Char :=
  if mode.spaced then spanBlanks wanted false cs else cs.span wanted

/-- Reads the characters up to a closing brace. -/
def spanBrace? (mode : Mode) (cs : List Char) : Option (List Char × List Char) :=
  match mode.span (· != '\x7d') cs with
  | (cs, _ :: rest) => some (cs, rest)
  | (_, []) => none

/-- Reads a given number of characters. -/
def take? (mode : Mode) : Nat → List Char → Option (List Char × List Char)
  | 0, cs => some ([], cs)
  | _ + 1, [] => none
  | count + 1, c :: rest => do
    let (cs, rest) ← mode.take? count (mode.skip rest)
    some (c :: cs, rest)

/-- The first character that is not a blank, and not the first number sign either. -/
def peekBlanks (numberSign : Bool) : List Char → Option Char
  | [] => none
  | c :: rest =>
    if Text.isBlank c then peekBlanks numberSign rest
    else if c = '#' ∧ !numberSign then peekBlanks true rest
    else some c

/-- The character that decides what a hyphen before it means. A number sign begins no comment here,
    but counts only if it is the second one, or if nothing but blanks follows and it comes next. -/
def peek (mode : Mode) (cs : List Char) : Option Char :=
  if mode.spaced then (peekBlanks false cs).or cs.head? else cs.head?

def fold (mode : Mode) (s : CharSet) : CharSet :=
  if mode.caseless then if mode.unicode then s.caseless else s.asciiCaseless else s

/-- A set or its complement. Classes of ASCII characters have no complement, which would match
    parts of characters. -/
def negate? (mode : Mode) (negated : Bool) (s : CharSet) : Option CharSet :=
  if !negated then some s else if mode.unicode then some s.compl else none

/-- The class of a letter after a backslash. -/
def class? (mode : Mode) : Char → Option CharSet
  | 'd' => some (if mode.unicode then Unicode.decimalDigits else .asciiDigits)
  | 's' => some (if mode.unicode then Unicode.whiteSpace else .asciiBlanks)
  | 'w' => some (if mode.unicode then Unicode.wordChars else .asciiWordChars)
  | _ => none

def lineEnds (mode : Mode) : CharSet := .ofChars (if mode.carriage then ['\n', '\r'] else ['\n'])

end Mode

end FieldRules.Pattern
