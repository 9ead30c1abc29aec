import FieldRules.Binary64.Decimal
import FieldRules.Calendar.Time
import FieldRules.Text.Blank

namespace FieldRules.Calendar

/-- The parts of a written time, the second counted in milliseconds. -/
structure Clock where
  hour : Nat
  minute : Nat
  millisecond : Nat

namespace Clock

/-- The second 60 is allowed and counts as the first one of the next minute. -/
def isValid (c : Clock) : Bool := c.hour ≤ 23 && c.minute ≤ 59 && c.millisecond < 61000

def toMillis (c : Clock) : Int := (c.hour * 3600000 + c.minute * 60000 + c.millisecond : Nat)

end Clock

/-- The time that a date and a time of day name. -/
def toTime? (date : Date) (clock : Clock) : Option Int :=
  if date.isValid && clock.isValid then some (date.toEpochDay * millisPerDay + clock.toMillis)
  else none

/-- From one to `most` digits, and what follows them. -/
def readDigits? (most : Nat) (cs : List Char) : Option (Nat × List Char) :=
  let digits := (cs.take most).takeWhile Char.isDigit
  if digits.isEmpty then none else some (digitsValue digits, cs.drop digits.length)

/-- Exactly `count` digits, and what follows them. -/
def readFixed? (count : Nat) (cs : List Char) : Option (Nat × List Char) :=
  let digits := (cs.take count).takeWhile Char.isDigit
  if digits.length = count then some (digitsValue digits, cs.drop count) else none

def readMark? (mark : Char) : List Char → Option (List Char)
  | c :: rest => if c = mark then some rest else none
  | [] => none

/-- The milliseconds of a fraction of a second of any length; digits past the third only round
    down. Without a point there is no fraction. -/
def readFraction? : List Char → Option (Nat × List Char)
  | '.' :: rest =>
    match rest.span Char.isDigit with
    | ([], _) => none
    | (digits, rest) => some (digitsValue ((digits ++ ['0', '0']).take 3), rest)
  | rest => some (0, rest)

/-- An offset from UTC in minutes: `Z`, or a sign with two digits each of hours and minutes. -/
def readOffset? : List Char → Option (Int × List Char)
  | [] => none
  | sign :: rest =>
    if sign = 'Z' ∨ sign = 'z' then some (0, rest)
    else if sign = '+' ∨ sign = '-' ∨ sign = '\u2212' then do
      let (hours, rest) ← readFixed? 2 rest
      let rest ← readMark? ':' rest
      let (minutes, rest) ← readFixed? 2 rest
      if 23 < hours ∨ 59 < minutes then none
      else
        let offset : Int := (hours * 60 + minutes : Nat)
        some (if sign = '+' then offset else -offset, rest)
    else none

/-- The form of RFC 3339: every field has its full width, a `T` or a space stands before the time
    of day, and an offset from UTC ends the text. -/
def readStamped? (cs : List Char) : Option Int := do
  let (year, cs) ← readFixed? 4 cs
  let cs ← readMark? '-' cs
  let (month, cs) ← readFixed? 2 cs
  let cs ← readMark? '-' cs
  let (day, cs) ← readFixed? 2 cs
  let cs ← (readMark? 'T' cs).or ((readMark? 't' cs).or (readMark? ' ' cs))
  let (hour, cs) ← readFixed? 2 cs
  let cs ← readMark? ':' cs
  let (minute, cs) ← readFixed? 2 cs
  let cs ← readMark? ':' cs
  let (second, cs) ← readFixed? 2 cs
  let (fraction, cs) ← readFraction? cs
  let (offset, cs) ← readOffset? cs
  let time ← toTime? ⟨year, month, day⟩ ⟨hour, minute, second * 1000 + fraction⟩
  if cs.isEmpty then some (time - offset * 60000) else none

/-- A field of a loosely written time: blanks, then one or two digits. -/
def readField? (cs : List Char) : Option (Nat × List Char) :=
  readDigits? 2 (cs.dropWhile Text.isBlank)

/-- A loosely written year: up to four digits, or after a sign any number of them. -/
def readYear? (cs : List Char) : Option (Int × List Char) :=
  match cs.dropWhile Text.isBlank with
  | '-' :: rest => (readDigits? rest.length rest).map fun (n, rest) => (-(n : Int), rest)
  | '+' :: rest => (readDigits? rest.length rest).map fun (n, rest) => ((n : Int), rest)
  | rest => (readDigits? 4 rest).map fun (n, rest) => ((n : Int), rest)

def readDate? (cs : List Char) : Option (Date × List Char) := do
  let (year, cs) ← readYear? cs
  let cs ← readMark? '-' cs
  let (month, cs) ← readField? cs
  let cs ← readMark? '-' cs
  let (day, cs) ← readField? cs
  some (⟨year, month, day⟩, cs)

def readClock? (cs : List Char) : Option (Clock × List Char) := do
  let (hour, cs) ← readField? cs
  let cs ← readMark? ':' cs
  let (minute, cs) ← readField? cs
  let cs ← readMark? ':' cs
  let (second, cs) ← readField? cs
  some (⟨hour, minute, second * 1000⟩, cs)

/-- A loosely written date and time of day in UTC, with blanks, nothing or a `T` between them. -/
def readPlain? (cs : List Char) : Option Int := do
  let (date, cs) ← readDate? cs
  let (clock, cs) ← (readClock? cs).or ((readMark? 'T' cs).bind readClock?)
  if cs.isEmpty then toTime? date clock else none

/-- A loosely written date; it names the start of its day in UTC. -/
def readDay? (cs : List Char) : Option Int := do
  let (date, cs) ← readDate? cs
  if cs.isEmpty then toTime? date ⟨0, 0, 0⟩ else none

/-- Reads a text as a time in any of the three forms. -/
def read? (s : String) : Option Int :=
  let cs := Text.trimChars s.toList
  (readStamped? cs).or ((readPlain? cs).or (readDay? cs))

end FieldRules.Calendar
