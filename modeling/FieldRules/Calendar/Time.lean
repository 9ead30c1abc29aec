import FieldRules.Calendar.Day

namespace FieldRules.Calendar

/-! Times are milliseconds since the start of January 1, 1970, in UTC. -/

def millisPerDay : Int := 86400000

/-- The first and the last time of the calendar. -/
def minTime : Int := -8334601228800000
def maxTime : Int := 8210266876799999

/-- A time, if the calendar has it. -/
def inCalendar? (time : Int) : Option Int :=
  if minTime ≤ time ∧ time ≤ maxTime then some time else none

/-- A number, if a signed 64-bit word holds it. -/
def inWord? (n : Int) : Option Int :=
  if -0x8000000000000000 ≤ n ∧ n < 0x8000000000000000 then some n else none

/-- The first millisecond of the day of a time. -/
def startOfDay? (time : Int) : Option Int := inWord? (time - time % millisPerDay)

/-- The last millisecond of the day of a time. -/
def endOfDay? (time : Int) : Option Int :=
  (startOfDay? time).bind fun start => inWord? (start + (millisPerDay - 1))

/-- The start of the day `days` days after the one of a time. -/
def dayAfter (time days : Int) : Int := time / millisPerDay * millisPerDay + days * millisPerDay

/-- The same time of day, `months` months later. A shift by more months than a signed 32-bit word
    counts has no result. -/
def shiftMonths? (time months : Int) : Option Int := do
  if 0x80000000 ≤ months.natAbs then none
  else
    let date ← (Date.ofEpochDay (time / millisPerDay)).addMonths? months
    some (date.toEpochDay * millisPerDay + time % millisPerDay)

end FieldRules.Calendar
