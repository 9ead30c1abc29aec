import FieldRules.Calendar.Expression
import Mathlib.Tactic.IntervalCases

namespace FieldRules.Calendar

namespace Date

variable {n : Int} {d : Date} {year months : Int} {month day : Nat}

theorem monthOfDay_bounds (year : Int) (month steps day : Nat) :
    month ≤ (monthOfDay year month steps day).1 ∧
      (monthOfDay year month steps day).1 ≤ month + steps ∧
      1 ≤ (monthOfDay year month steps day).2 := by
  induction steps generalizing month day with
  | zero => simp [monthOfDay]
  | succ steps ih =>
    rw [monthOfDay]
    split
    · simp
    · have hrest := ih (month + 1) (day - daysInMonth year month)
      omega

theorem ofEpochDay_month_bounds (n : Int) :
    1 ≤ (ofEpochDay n).month ∧ (ofEpochDay n).month ≤ 12 ∧ 1 ≤ (ofEpochDay n).day :=
  monthOfDay_bounds _ 1 11 _

/-- The days of the calendar lie in its years. -/
theorem ofEpochDay_year_bounds (hmin : minTime / millisPerDay ≤ n)
    (hmax : n ≤ maxTime / millisPerDay) :
    minYear ≤ (ofEpochDay n).year ∧ (ofEpochDay n).year ≤ maxYear := by
  unfold ofEpochDay minYear maxYear
  unfold minTime millisPerDay at hmin
  unfold maxTime millisPerDay at hmax
  dsimp only
  obtain ⟨inCycle, hinCycle⟩ := Int.eq_ofNat_of_zero_le
    (Int.emod_nonneg (n + 719162) (by decide : (146097 : Int) ≠ 0))
  have hdivision := Int.mul_ediv_add_emod (n + 719162) 146097
  have hless := Int.emod_lt_of_pos (n + 719162) (by decide : (0 : Int) < 146097)
  rw [hinCycle] at hdivision hless ⊢
  rw [Int.toNat_natCast]
  generalize (n + 719162) / 146097 = cycle at *
  have hcentury : min (inCycle / 36524) 3 ≤ 3 := Nat.min_le_right _ _
  have hcount : min (inCycle / 36524) 3 * 36524 ≤ inCycle := by omega
  have hover : inCycle < min (inCycle / 36524) 3 * 36524 + 36524 ∨
      min (inCycle / 36524) 3 = 3 := by omega
  generalize min (inCycle / 36524) 3 = century at *
  interval_cases century <;> omega

theorem one_le_daysInMonth (year : Int) (month : Nat) : 1 ≤ daysInMonth year month := by
  unfold daysInMonth
  split
  · split <;> omega
  · split <;> omega

/-- A month ends with its year or before. -/
theorem daysBeforeMonth_add_le (hlow : 1 ≤ month) (hhigh : month ≤ 12) :
    daysBeforeMonth year month + daysInMonth year month ≤ if isLeap year then 366 else 365 := by
  cases hleap : isLeap year <;> interval_cases month <;> simp [daysBeforeMonth, daysInMonth, hleap]

theorem isValid_iff : d.isValid = true ↔ minYear ≤ d.year ∧ d.year ≤ maxYear ∧ 1 ≤ d.month ∧
    d.month ≤ 12 ∧ 1 ≤ d.day ∧ d.day ≤ daysInMonth d.year d.month := by
  simp [isValid, and_assoc]

/-- The days of the valid dates are those of the calendar. -/
theorem toEpochDay_bounds (hd : d.isValid = true) :
    minTime / millisPerDay ≤ d.toEpochDay ∧ d.toEpochDay ≤ maxTime / millisPerDay := by
  obtain ⟨hmin, hmax, hlow, hhigh, hfirst, hlast⟩ := isValid_iff.mp hd
  have hyear : daysBeforeMonth d.year d.month + daysInMonth d.year d.month ≤
      if isLeap d.year then 366 else 365 := daysBeforeMonth_add_le hlow hhigh
  have hend : daysBeforeMonth d.year d.month + d.day ≤ 366 ∧
      (d.year = maxYear → daysBeforeMonth d.year d.month + d.day ≤ 365) := by
    refine ⟨?_, fun hsame => ?_⟩
    · split at hyear <;> omega
    · have hplain : isLeap maxYear = false := by decide
      rw [hsame, hplain, if_neg Bool.false_ne_true] at hyear
      rw [hsame] at hlast ⊢
      omega
  unfold toEpochDay daysBeforeYear
  unfold minYear maxYear at *
  unfold minTime maxTime millisPerDay
  dsimp only
  omega

theorem addMonths?_eq_some_iff {shifted : Date} : d.addMonths? months = some shifted ↔
    shifted.isValid = true ∧
      shifted.year = (12 * d.year + d.month - 1 + months) / 12 ∧
      shifted.month = ((12 * d.year + d.month - 1 + months) % 12).toNat + 1 ∧
      shifted.day = min d.day (daysInMonth shifted.year shifted.month) := by
  unfold addMonths?
  dsimp only
  constructor
  · intro hshifted
    split at hshifted
    · next hvalid =>
      cases hshifted
      exact ⟨hvalid, rfl, rfl, rfl⟩
    · cases hshifted
  · rintro ⟨hvalid, hyear, hmonth, hday⟩
    rw [← hyear, ← hmonth, ← hday]
    exact if_pos hvalid

/-- A shift stays in the calendar just if the year that it leads to is in it. -/
theorem isSome_addMonths? (hday : 1 ≤ d.day) :
    (d.addMonths? months).isSome = true ↔
      12 * minYear ≤ 12 * d.year + d.month - 1 + months ∧
        12 * d.year + d.month - 1 + months ≤ 12 * maxYear + 11 := by
  rw [Option.isSome_iff_exists]
  simp only [addMonths?_eq_some_iff, isValid_iff]
  constructor
  · rintro ⟨shifted, ⟨hmin, hmax, -⟩, hyear, -⟩
    omega
  · intro hrange
    let year := (12 * d.year + d.month - 1 + months) / 12
    let month := ((12 * d.year + d.month - 1 + months) % 12).toNat + 1
    have hlength := one_le_daysInMonth year month
    refine ⟨⟨year, month, min d.day (daysInMonth year month)⟩, ?_, rfl, rfl, rfl⟩
    dsimp only [year, month] at *
    omega

end Date

theorem isSome_shiftMonths? {time months : Int} :
    (shiftMonths? time months).isSome = true ↔
      months.natAbs < 0x80000000 ∧
        ((Date.ofEpochDay (time / millisPerDay)).addMonths? months).isSome = true := by
  unfold shiftMonths?
  split
  · next hlong => simp [Nat.not_lt.mpr hlong]
  · next hshort =>
    rw [Option.bind_eq_bind]
    cases (Date.ofEpochDay (time / millisPerDay)).addMonths? months with
    | none => simp
    | some date => simp [Nat.lt_of_not_le hshort]

/-- The date after a shift, if there is one, is in the calendar. -/
theorem shiftMonths?_bounds {time months shifted : Int}
    (hshift : shiftMonths? time months = some shifted) :
    minTime ≤ shifted ∧ shifted ≤ maxTime := by
  unfold shiftMonths? at hshift
  split at hshift
  · cases hshift
  · simp only [Option.bind_eq_bind, Option.bind_eq_some_iff] at hshift
    obtain ⟨date, hdate, hshifted⟩ := hshift
    obtain ⟨hvalid, -⟩ := Date.addMonths?_eq_some_iff.mp hdate
    have hday := Date.toEpochDay_bounds hvalid
    cases hshifted
    unfold minTime maxTime millisPerDay at *
    omega

namespace Span

/-- Some time of the calendar is at this distance from another one. -/
def Reachable (span : Span) : Prop :=
  ∃ now date, minTime ≤ now ∧ now ≤ maxTime ∧ minTime ≤ date ∧ date ≤ maxTime ∧
    span.after? now = some date

variable {span : Span} {count : Int} {now date : Int}

theorem after?_bounds (hdate : span.after? now = some date) : minTime ≤ date ∧ date ≤ maxTime := by
  cases span with
  | millis count =>
    obtain ⟨time, -, htime⟩ := Option.bind_eq_some_iff.mp hdate
    unfold inCalendar? at htime
    split at htime
    · cases htime
      assumption
    · cases htime
  | months count => exact shiftMonths?_bounds hdate

/-- Milliseconds reach no further than from one end of the calendar to the other. -/
theorem reachable_millis_iff : (millis count).Reachable ↔ count.natAbs ≤ 16544868105599999 := by
  have hafter : ∀ now date, (millis count).after? now = some date ↔
      now + count = date ∧ -0x8000000000000000 ≤ date ∧ date < 0x8000000000000000 ∧
        minTime ≤ date ∧ date ≤ maxTime := by
    intro now date
    simp only [after?, inWord?, inCalendar?, Option.bind_eq_some_iff, Option.ite_none_right_eq_some,
      Option.some.injEq]
    constructor
    · rintro ⟨time, ⟨hword, rfl⟩, hrange, rfl⟩
      exact ⟨rfl, hword.1, hword.2, hrange.1, hrange.2⟩
    · rintro ⟨rfl, hlow, hhigh, hmin, hmax⟩
      exact ⟨_, ⟨⟨hlow, hhigh⟩, rfl⟩, ⟨hmin, hmax⟩, rfl⟩
  simp only [Reachable, hafter]
  unfold minTime maxTime
  constructor
  · rintro ⟨now, date, hnow⟩
    omega
  · intro hcount
    rcases Int.le_total 0 count with hpos | hneg
    · exact ⟨-8334601228800000, -8334601228800000 + count, by omega⟩
    · exact ⟨8210266876799999, 8210266876799999 + count, by omega⟩

/-- Months reach no further than from the first month of the calendar to the last one. -/
theorem reachable_months_iff : (months count).Reachable ↔ count.natAbs ≤ 6291431 := by
  have hafter : ∀ now, ((months count).after? now).isSome = true ↔ count.natAbs < 0x80000000 ∧ _ :=
    fun now => isSome_shiftMonths?.trans
      (and_congr_right fun _ => Date.isSome_addMonths? (Date.ofEpochDay_month_bounds _).2.2)
  unfold minYear maxYear at hafter
  constructor
  · rintro ⟨now, date, hmin, hmax, -, -, hdate⟩
    have hday : minTime / millisPerDay ≤ now / millisPerDay ∧
        now / millisPerDay ≤ maxTime / millisPerDay := by
      unfold millisPerDay
      omega
    obtain ⟨hfirst, hlast⟩ := Date.ofEpochDay_year_bounds hday.1 hday.2
    obtain ⟨hlow, hhigh, -⟩ := Date.ofEpochDay_month_bounds (now / millisPerDay)
    have hshift := (hafter now).mp (Option.isSome_of_mem hdate)
    unfold minYear maxYear at *
    omega
  · intro hcount
    have hends : ∀ now, minTime ≤ now → now ≤ maxTime →
        ((months count).after? now).isSome = true → (months count).Reachable := by
      intro now hmin hmax hsome
      obtain ⟨date, hdate⟩ := Option.isSome_iff_exists.mp hsome
      exact ⟨now, date, hmin, hmax, (after?_bounds hdate).1, (after?_bounds hdate).2, hdate⟩
    rcases Int.le_total 0 count with hpos | hneg
    · have hfirst : Date.ofEpochDay (minTime / millisPerDay) = ⟨-262143, 1, 1⟩ := by decide
      refine hends minTime (by decide) (by decide) ((hafter minTime).mpr ?_)
      rw [hfirst]
      dsimp only
      omega
    · have hlast : Date.ofEpochDay (maxTime / millisPerDay) = ⟨262142, 12, 31⟩ := by decide
      refine hends maxTime (by decide) (by decide) ((hafter maxTime).mpr ?_)
      rw [hlast]
      dsimp only
      omega

/-- The span `amount` times as long, toward zero, whatever may lie at this distance. There is none
    if it is not finite. -/
def scaled? (span : Span) (amount : Binary64) : Option Span :=
  match span with
  | millis count => ((Binary64.ofInt count).mul? amount).map fun product => millis product.truncate
  | months count => ((Binary64.ofInt count).mul? amount).map fun product => months product.truncate

/-- The spans that are taken for reachable but are not: the bound on milliseconds is one too high as
    a binary64 number, and the one on months is that of a 32-bit word. -/
def Overlooked : Span → Prop
  | millis count => count.natAbs = 16544868105600000
  | months count => 6291431 < count.natAbs ∧ count.natAbs ≤ 4294967295

theorem Overlooked.not_reachable (hspan : span.Overlooked) : ¬span.Reachable := by
  cases span with
  | millis count =>
    rw [reachable_millis_iff]
    rw [Overlooked] at hspan
    omega
  | months count =>
    rw [reachable_months_iff]
    rw [Overlooked] at hspan
    omega

theorem scaleCount?_eq_some_iff {bound scaled : Int} {amount : Binary64} :
    scaleCount? count bound amount = some scaled ↔
      (∃ product, (Binary64.ofInt count).mul? amount = some product ∧ product.truncate = scaled) ∧
        scaled.natAbs ≤ bound.natAbs := by
  simp only [scaleCount?, Option.bind_eq_bind, Option.bind_eq_some_iff,
    Option.ite_none_right_eq_some, Option.some.injEq]
  constructor
  · rintro ⟨product, hproduct, hbound, rfl⟩
    exact ⟨⟨product, hproduct, rfl⟩, hbound⟩
  · rintro ⟨⟨product, hproduct, rfl⟩, hbound⟩
    exact ⟨product, hproduct, hbound, rfl⟩

theorem natAbs_maxMillis : maxMillis.natAbs = 16544868105600000 := by decide +kernel

theorem natAbs_maxMonths : maxMonths.natAbs = 4294967295 := by decide

/-- A span of one unit is not refused just if it is reachable or overlooked, as the bound on its count
    tells. -/
theorem map_scaleCount?_eq_some_iff {make : Int → Span} {scaled : Span} {bound : Int}
    {amount : Binary64} (hbound : ∀ n, n.natAbs ≤ bound.natAbs ↔
      (make n).Reachable ∨ (make n).Overlooked) :
    (scaleCount? count bound amount).map make = some scaled ↔
      ((Binary64.ofInt count).mul? amount).map (fun product => make product.truncate) =
          some scaled ∧ (scaled.Reachable ∨ scaled.Overlooked) := by
  simp only [Option.map_eq_some_iff, scaleCount?_eq_some_iff, hbound]
  constructor
  · rintro ⟨_, ⟨⟨product, hproduct, rfl⟩, hscaled⟩, rfl⟩
    exact ⟨⟨product, hproduct, rfl⟩, hscaled⟩
  · rintro ⟨⟨product, hproduct, rfl⟩, hscaled⟩
    exact ⟨_, ⟨⟨product, hproduct, rfl⟩, hscaled⟩, rfl⟩

/-- A span is not refused just if it is reachable or overlooked. -/
theorem times?_eq_some_iff {scaled : Span} {amount : Binary64} :
    span.times? amount = some scaled ↔
      span.scaled? amount = some scaled ∧ (scaled.Reachable ∨ scaled.Overlooked) := by
  cases span with
  | millis count =>
    rw [times?, scaled?]
    refine map_scaleCount?_eq_some_iff fun n => ?_
    rw [natAbs_maxMillis, reachable_millis_iff, Overlooked]
    omega
  | months count =>
    rw [times?, scaled?]
    refine map_scaleCount?_eq_some_iff fun n => ?_
    rw [natAbs_maxMonths, reachable_months_iff, Overlooked]
    omega

end Span

end FieldRules.Calendar
