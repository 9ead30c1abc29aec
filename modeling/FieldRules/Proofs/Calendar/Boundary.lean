import FieldRules.Proofs.Calendar.Time

namespace FieldRules.Calendar

/-- Whether a signed 64-bit word holds a number. -/
def InWord (n : Int) : Prop := -0x8000000000000000 ≤ n ∧ n < 0x8000000000000000

instance (n : Int) : Decidable (InWord n) :=
  inferInstanceAs (Decidable (-0x8000000000000000 ≤ n ∧ n < 0x8000000000000000))

variable {time later : Int}

theorem inWord?_eq (n : Int) : inWord? n = if InWord n then some n else none := rfl

theorem dayOf_firstOfDay (time : Int) : dayOf (firstOfDay time) = dayOf time := by
  unfold firstOfDay dayOf millisPerDay
  omega

theorem dayOf_lastOfDay (time : Int) : dayOf (lastOfDay time) = dayOf time :=
  (isGreatest_lastOfDay time).1

theorem firstOfDay_le (time : Int) : firstOfDay time ≤ time := by
  unfold firstOfDay dayOf millisPerDay
  omega

/-- A day begins at the last multiple of its length that has come by then. -/
theorem isGreatest_firstOfDay (time : Int) :
    IsGreatest {n | millisPerDay ∣ n ∧ n ≤ time} (firstOfDay time) := by
  refine ⟨⟨Int.dvd_mul_left (dayOf time) millisPerDay, firstOfDay_le time⟩, ?_⟩
  rintro n ⟨⟨days, rfl⟩, hn⟩
  unfold firstOfDay dayOf millisPerDay at *
  omega

theorem dayOf_mono {earlier later : Int} (hle : earlier ≤ later) : dayOf earlier ≤ dayOf later :=
  Int.ediv_le_ediv (by decide) hle

theorem firstOfDay_mono {earlier later : Int} (hle : earlier ≤ later) :
    firstOfDay earlier ≤ firstOfDay later :=
  Int.mul_le_mul_of_nonneg_right (dayOf_mono hle) (by decide)

theorem lastOfDay_mono {earlier later : Int} (hle : earlier ≤ later) :
    lastOfDay earlier ≤ lastOfDay later :=
  Int.add_le_add_right (firstOfDay_mono hle) _

/-- Whatever is asked for the start of its day has one, unless a word does not hold it. -/
theorem startOfDay?_eq_ite (time : Int) :
    startOfDay? time = if InWord (firstOfDay time) then some (firstOfDay time) else none := by
  have hfirst : time - time % millisPerDay = firstOfDay time := by
    unfold firstOfDay dayOf millisPerDay
    omega
  rw [startOfDay?, hfirst, inWord?_eq]

/-- The end of a day is found from its start, so that a word has to hold both of them. -/
theorem endOfDay?_eq_ite (time : Int) :
    endOfDay? time = if InWord (firstOfDay time) ∧ InWord (lastOfDay time) then
      some (lastOfDay time) else none := by
  rw [endOfDay?, startOfDay?_eq_ite]
  by_cases hfirst : InWord (firstOfDay time)
  · rw [if_pos hfirst, Option.bind_some, inWord?_eq]
    simp only [hfirst, true_and]
    rfl
  · rw [if_neg hfirst, Option.bind_none, if_neg fun h => hfirst h.1]

theorem eq_firstOfDay_of_startOfDay? {first : Int} (hfirst : startOfDay? time = some first) :
    first = firstOfDay time := by
  rw [startOfDay?_eq_ite] at hfirst
  split at hfirst
  · exact (Option.some.inj hfirst).symm
  · cases hfirst

theorem eq_lastOfDay_of_endOfDay? {last : Int} (hlast : endOfDay? time = some last) :
    last = lastOfDay time := by
  rw [endOfDay?_eq_ite] at hlast
  split at hlast
  · exact (Option.some.inj hlast).symm
  · cases hlast

end FieldRules.Calendar
