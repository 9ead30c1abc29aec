namespace FieldRules.Calendar

/-- A day of the proleptic Gregorian calendar. -/
structure Date where
  year : Int
  month : Nat
  day : Nat
deriving DecidableEq

def isLeap (year : Int) : Bool :=
  year % 4 == 0 && (year % 100 != 0 || year % 400 == 0)

def daysInMonth (year : Int) (month : Nat) : Nat :=
  if month = 2 then if isLeap year then 29 else 28
  else if month = 4 ∨ month = 6 ∨ month = 9 ∨ month = 11 then 30
  else 31

/-- The calendar runs through these years, the first and the last one whole. -/
def minYear : Int := -262143
def maxYear : Int := 262142

namespace Date

def isValid (d : Date) : Bool :=
  minYear ≤ d.year && d.year ≤ maxYear && 1 ≤ d.month && d.month ≤ 12 && 1 ≤ d.day &&
    d.day ≤ daysInMonth d.year d.month

/-- The days of a year before a month. -/
def daysBeforeMonth (year : Int) : Nat → Nat
  | 0 => 0
  | 1 => 0
  | month + 1 => daysBeforeMonth year month + daysInMonth year month

/-- The days from January 1 of the year 1 to January 1 of `year`. -/
def daysBeforeYear (year : Int) : Int :=
  let y := year - 1
  365 * y + y / 4 - y / 100 + y / 400

/-- The number of the day, counted from January 1, 1970. -/
def toEpochDay (d : Date) : Int :=
  daysBeforeYear d.year + daysBeforeMonth d.year d.month + d.day - 719163

/-- The month and the day in it for a day of a year counted from zero, looking from `month` on. -/
def monthOfDay (year : Int) (month : Nat) : Nat → Nat → Nat × Nat
  | 0, day => (month, day + 1)
  | steps + 1, day =>
    if day < daysInMonth year month then (month, day + 1)
    else monthOfDay year (month + 1) steps (day - daysInMonth year month)

/-- The date with a day number. A cycle of 400 years has 146097 days; in it the centuries, the
    groups of four years and the years are counted off, and the last of each kind takes the days
    that are left over. -/
def ofEpochDay (n : Int) : Date :=
  let days := n + 719162
  let cycle := days / 146097
  let inCycle := (days % 146097).toNat
  let century := min (inCycle / 36524) 3
  let inCentury := inCycle - century * 36524
  let group := inCentury / 1461
  let inGroup := inCentury % 1461
  let single := min (inGroup / 365) 3
  let year := 400 * cycle + (100 * century + 4 * group + single : Nat) + 1
  let (month, day) := monthOfDay year 1 11 (inGroup - single * 365)
  ⟨year, month, day⟩

/-- The same day of the month `months` months later. In a shorter month it becomes the last day;
    past the end of the calendar there is none. -/
def addMonths? (d : Date) (months : Int) : Option Date :=
  let count := 12 * d.year + (d.month : Int) - 1 + months
  let year := count / 12
  let month := (count % 12).toNat + 1
  let shifted : Date := ⟨year, month, min d.day (daysInMonth year month)⟩
  if shifted.isValid then some shifted else none

end Date

end FieldRules.Calendar
