import FieldRules.Calendar.Expression
import Mathlib.Order.Bounds.Basic

namespace FieldRules

namespace Calendar

/-- The number of the day of a time. -/
def dayOf (time : Int) : Int := time / millisPerDay

/-- The last millisecond of the day of a time. -/
def lastOfDay (time : Int) : Int := dayOf time * millisPerDay + (millisPerDay - 1)

variable {time : Int}

/-- The first millisecond of the day of a time. -/
def firstOfDay (time : Int) : Int := dayOf time * millisPerDay

theorem le_lastOfDay (time : Int) : time ≤ lastOfDay time := by
  unfold lastOfDay dayOf millisPerDay
  omega

theorem lastOfDay_lt (time : Int) : lastOfDay time < time + millisPerDay := by
  unfold lastOfDay dayOf millisPerDay
  omega

/-- No later time has the same day. -/
theorem isGreatest_lastOfDay (time : Int) :
    IsGreatest {t | dayOf t = dayOf time} (lastOfDay time) := by
  constructor
  · change dayOf (lastOfDay time) = dayOf time
    unfold lastOfDay dayOf millisPerDay
    omega
  · intro t ht
    have hsame : dayOf t = dayOf time := ht
    calc t ≤ lastOfDay t := le_lastOfDay t
      _ = lastOfDay time := by rw [lastOfDay, hsame, lastOfDay]

/-- In the calendar, and far beyond it, every day has a start and an end. -/
theorem startOfDay?_eq (hmin : minTime ≤ time) (hmax : time ≤ maxTime) :
    startOfDay? time = some (firstOfDay time) := by
  have hfirst : time - time % millisPerDay = firstOfDay time := by
    unfold firstOfDay dayOf millisPerDay
    omega
  rw [startOfDay?, inWord?, hfirst]
  unfold firstOfDay dayOf minTime maxTime millisPerDay at *
  rw [if_pos (by omega)]

theorem endOfDay?_eq (hmin : minTime ≤ time) (hmax : time ≤ maxTime) :
    endOfDay? time = some (lastOfDay time) := by
  rw [endOfDay?, startOfDay?_eq hmin hmax, Option.bind_some]
  have hlast : firstOfDay time + (millisPerDay - 1) = lastOfDay time := rfl
  have hbounds := And.intro (le_lastOfDay time) (lastOfDay_lt time)
  rw [hlast, inWord?]
  unfold minTime maxTime millisPerDay at *
  rw [if_pos (by omega)]

/-- The calendar begins with the start of a day and ends with the end of one. -/
theorem firstOfDay_bounds (hmin : minTime ≤ time) (hmax : time ≤ maxTime) :
    minTime ≤ firstOfDay time ∧ firstOfDay time ≤ maxTime := by
  unfold firstOfDay dayOf minTime maxTime millisPerDay at *
  omega

theorem lastOfDay_bounds (hmin : minTime ≤ time) (hmax : time ≤ maxTime) :
    minTime ≤ lastOfDay time ∧ lastOfDay time ≤ maxTime := by
  unfold lastOfDay dayOf minTime maxTime millisPerDay at *
  omega

theorem firstOfDay_firstOfDay (time : Int) : firstOfDay (firstOfDay time) = firstOfDay time := by
  unfold firstOfDay dayOf millisPerDay
  omega

theorem lastOfDay_lastOfDay (time : Int) : lastOfDay (lastOfDay time) = lastOfDay time := by
  unfold lastOfDay dayOf millisPerDay
  omega

end Calendar

namespace Value

variable {value : Value} {time : Int}

/-- Only times of the calendar are read. -/
theorem time?_bounds (htime : value.time? = some time) :
    Calendar.minTime ≤ time ∧ time ≤ Calendar.maxTime := by
  have hbounds : ∀ n, Calendar.inCalendar? n = some time →
      Calendar.minTime ≤ time ∧ time ≤ Calendar.maxTime := by
    intro n hn
    unfold Calendar.inCalendar? at hn
    split at hn
    · next hwithin =>
      cases hn
      exact hwithin
    · cases hn
  unfold time? at htime
  split at htime
  · exact hbounds _ htime
  · exact hbounds _ htime
  · obtain ⟨n, _, hn⟩ := Option.bind_eq_some_iff.mp htime
    exact hbounds n hn
  · cases htime

theorem time?_int_eq (hmin : Calendar.minTime ≤ time) (hmax : time ≤ Calendar.maxTime) :
    (int time).time? = some time :=
  if_pos ⟨hmin, hmax⟩

/-- A time that has been read is read back as itself. -/
theorem time?_int (htime : value.time? = some time) : (int time).time? = some time :=
  time?_int_eq (time?_bounds htime).1 (time?_bounds htime).2

end Value

end FieldRules
