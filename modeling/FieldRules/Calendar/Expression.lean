import FieldRules.Calendar.Reader
import FieldRules.ConfigError
import FieldRules.Record
import FieldRules.Text.Number

namespace FieldRules

/-- The time that a value names: a number counts milliseconds, toward zero, and a text is read as a
    date. Outside the calendar there are no times. -/
def Value.time? : Value → Option Int
  | .number (.integer n) => Calendar.inCalendar? n
  | .number (.float x) => Calendar.inCalendar? x.truncate
  | .string s => (Calendar.read? s).bind Calendar.inCalendar?
  | _ => none

namespace Calendar

/-- A distance in time: milliseconds, or months of the calendar. -/
inductive Span where
  | millis (count : Int)
  | months (count : Int)
deriving DecidableEq

namespace Span

/-- The largest distance between two times of the calendar, as a binary64 number. -/
def maxMillis : Int := (Binary64.ofInt (maxTime - minTime)).truncate

def maxMonths : Int := 0xFFFFFFFF

/-- The span of one unit of a name. -/
def ofUnit? (unit : String) : Option Span :=
  match unit with
  | "ms" | "millisecond" | "milliseconds" => some (.millis 1)
  | "s" | "second" | "seconds" => some (.millis 1000)
  | "min" | "mins" | "minute" | "minutes" => some (.millis 60000)
  | "hr" | "hour" | "hours" => some (.millis 3600000)
  | "day" | "days" => some (.millis 86400000)
  | "wk" | "week" | "weeks" => some (.millis 604800000)
  | "month" | "months" => some (.months 1)
  | "yr" | "year" | "years" => some (.months 12)
  | _ => none

/-- A whole count of one unit scaled by a binary64 amount, toward zero, if it stays within
    `bound`. -/
def scaleCount? (count bound : Int) (amount : Binary64) : Option Int := do
  let product ← (Binary64.ofInt count).mul? amount
  if product.truncate.natAbs ≤ bound.natAbs then some product.truncate else none

/-- The span `amount` times as long; none if it is too long for any two times. -/
def times? (span : Span) (amount : Binary64) : Option Span :=
  match span with
  | .millis count => (scaleCount? count maxMillis amount).map .millis
  | .months count => (scaleCount? count maxMonths amount).map .months

/-- The time at this distance from another one. -/
def after? (span : Span) (time : Int) : Option Int :=
  match span with
  | .millis count => (inWord? (time + count)).bind inCalendar?
  | .months count => shiftMonths? time count

end Span

/-- A date that a rule compares with. -/
inductive Expression where
  /-- A time that is known beforehand, or none at all. -/
  | constant (time : Option Int)
  /-- The time in a field of the record. -/
  | field (name : String)
  /-- The time at a distance from now. -/
  | fromNow (span : Span)
  /-- The start of the day some days after today. -/
  | day (offset : Int)

namespace Expression

def eval (expression : Expression) (now : Int) (record : Record) : Option Int :=
  match expression with
  | .constant time => time
  | .field name => (record.get name).time?
  | .fromNow span => span.after? now
  | .day offset => some (dayAfter now offset)

/-- An expression reads no field that is not declared. -/
def Within (expression : Expression) (schema : Schema) : Prop :=
  ∀ name, expression = .field name → schema.hasField name = true

end Expression

/-- The ways to divide a text into a signed amount and a rest, the longer amounts first. An amount
    is a run of digits that may have a fraction. -/
def amountSplits : List Char → List (List Char × List Char)
  | [] => []
  | sign :: rest =>
    if sign = '+' ∨ sign = '-' then
      let (digits, rest) := rest.span Text.isDigit
      let withFraction :=
        match digits, rest with
        | _ :: _, '.' :: rest =>
          let (fraction, rest) := rest.span Text.isDigit
          (List.range fraction.length).map fun i =>
            (sign :: digits ++ '.' :: fraction.take (fraction.length - i),
              fraction.drop (fraction.length - i) ++ rest)
        | _, _ => []
      withFraction ++ (List.range digits.length).map fun i =>
        (sign :: digits.take (digits.length - i), digits.drop (digits.length - i) ++ rest)
    else []

/-- The name of a unit after an amount, without the blanks around it. It must not be missing, and a
    line break may stand only among the blanks before it. -/
def unitAfter? (cs : List Char) : Option (List Char) :=
  match cs.dropWhile Text.isBlank with
  | [] => if cs.isEmpty || cs.getLast? == some '\n' then none else some []
  | name => if name.contains '\n' then none else some (Text.trimChars name)

/-- Reads an offset from now, such as `+2days` or `-1.5 weeks`. A text of another form is no
    offset. -/
def readOffsetFromNow? (expr : String) : Except ConfigError (Option Span) :=
  let splits := (amountSplits expr.toList).filterMap fun (amount, rest) =>
    (unitAfter? rest).map (amount, ·)
  match splits.head? with
  | none => .ok none
  | some (amount, unit) =>
    match Text.readDecimal? amount with
    | none => .error (.invalidUnit expr)
    | some amount =>
      match Span.ofUnit? (String.ofList unit) with
      | none => .error (.invalidUnit (String.ofList unit))
      | some span =>
        match amount.toBinary64?.bind span.times? with
        | none => .error (.offsetOutOfRange expr)
        | some span => .ok (some span)

/-- One way of reading an expression. -/
inductive ExpressionReader where
  /-- A date as such. -/
  | literal
  /-- The name of a declared field. -/
  | field
  /-- An offset from now. -/
  | offset
  /-- A word for a day near today. -/
  | day (keyword : String) (days : Int)
  /-- A word for a fixed time, or for none. -/
  | word (keyword : String) (time : Option Int)
  /-- A form of the host's own, with errors of its own. -/
  | host (label : String)
    (parse : String → (schema : Schema) →
      Except ConfigError (Option { expression : Expression // expression.Within schema }))

namespace ExpressionReader

def name : ExpressionReader → String
  | .literal => "date"
  | .field => "field"
  | .offset => "relative"
  | .day keyword _ => keyword
  | .word keyword _ => keyword
  | .host label _ => label

/-- Reads an expression of this reader's form; a text of another form gives none. -/
def read? (reader : ExpressionReader) (expr : String) (schema : Schema) :
    Except ConfigError (Option Expression) :=
  match reader with
  | .literal => .ok ((Calendar.read? expr).map fun time => .constant (some time))
  | .field => .ok (if schema.hasField expr then some (.field expr) else none)
  | .offset => (readOffsetFromNow? expr).map (·.map .fromNow)
  | .day keyword days => .ok (if expr = keyword then some (.day days) else none)
  | .word keyword time => .ok (if expr = keyword then some (.constant time) else none)
  | .host _ parse => (parse expr schema).map (·.map Subtype.val)

def standard : List ExpressionReader :=
  [.literal, .field, .offset, .day "today" 0, .day "tomorrow" 1, .day "yesterday" (-1)]

/-- Reads an expression by the first reader whose form it has. -/
def readFirst? (readers : List ExpressionReader) (expr : String) (schema : Schema) :
    Except ConfigError (Option Expression) :=
  match readers with
  | [] => .ok none
  | reader :: readers =>
    match reader.read? expr schema with
    | .error e => .error e
    | .ok (some expression) => .ok (some expression)
    | .ok none => readFirst? readers expr schema

end ExpressionReader

end Calendar

end FieldRules
