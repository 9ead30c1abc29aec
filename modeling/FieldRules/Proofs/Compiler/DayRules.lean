import FieldRules.Proofs.Calendar.Boundary
import FieldRules.Proofs.Compiler.Rewrites

namespace FieldRules

namespace Transform

variable {value : Value} {time : Int}

/-- A time that can be read is within the calendar, where every day has a start and an end. -/
theorem replacement?_startOfDay (htime : value.time? = some time) :
    startOfDay.replacement? value = some (.int (Calendar.firstOfDay time)) := by
  obtain ⟨hmin, hmax⟩ := Value.time?_bounds htime
  rw [replacement?, htime, Option.bind_some, Calendar.startOfDay?_eq hmin hmax, Option.map_some]

theorem replacement?_endOfDay (htime : value.time? = some time) :
    endOfDay.replacement? value = some (.int (Calendar.lastOfDay time)) := by
  obtain ⟨hmin, hmax⟩ := Value.time?_bounds htime
  rw [replacement?, htime, Option.bind_some, Calendar.endOfDay?_eq hmin hmax, Option.map_some]

end Transform

namespace Compiler

open Calendar

variable {compiler : Compiler} {field : String} {message : Option Message}
  {entry entry' : RuleEntry}

/-- A day begins at a multiple of its length and ends one millisecond before the next one, as long
    as a word holds these times, and neither of them comes earlier for a later time. The times that
    can be read as dates have both, and the rules `startOfDay` and `endOfDay` put them in the place
    of such a time: they are times of the same day on both sides of it, and are read as dates
    again. -/
theorem compileEntry_dayBounds (hstandard : compiler.registry = .standard)
    (hname : (splitRule entry.rule).1 = "startOfDay") (hparams : (entryParams entry).isNone = true)
    (hname' : (splitRule entry'.rule).1 = "endOfDay")
    (hparams' : (entryParams entry').isNone = true) :
    (∀ time : Int, ∃ first, IsGreatest {n | millisPerDay ∣ n ∧ n ≤ time} first ∧
      startOfDay? time = (if InWord first then some first else none) ∧
      endOfDay? time = if InWord first ∧ InWord (first + (millisPerDay - 1)) then
        some (first + (millisPerDay - 1)) else none) ∧
    (∀ time later, time ≤ later →
      (∀ first first', startOfDay? time = some first → startOfDay? later = some first' →
        first ≤ first') ∧
      ∀ last last', endOfDay? time = some last → endOfDay? later = some last' → last ≤ last') ∧
    ∃ rule rule', compiler.compileEntry field message entry = .ok rule ∧
      compiler.compileEntry field message entry' = .ok rule' ∧
      ∀ (env : Environment) (s : RunState) (value : Value) (time : Int), value.time? = some time →
        ∃ first last, startOfDay? time = some first ∧ endOfDay? time = some last ∧
          rule.judge env field value s = some ⟨field, .int first, true, none, .ended⟩ ∧
          rule'.judge env field value s = some ⟨field, .int last, true, none, .ended⟩ ∧
          first ≤ time ∧ time ≤ last ∧ dayOf first = dayOf time ∧ dayOf last = dayOf time ∧
          (Value.int first).time? = some first ∧ (Value.int last).time? = some last := by
  refine ⟨fun time => ?_, fun time later hle => ⟨?_, ?_⟩, ?_⟩
  · exact ⟨firstOfDay time, isGreatest_firstOfDay time, startOfDay?_eq_ite time,
      endOfDay?_eq_ite time⟩
  · intro first first' hfirst hfirst'
    rw [eq_firstOfDay_of_startOfDay? hfirst, eq_firstOfDay_of_startOfDay? hfirst']
    exact firstOfDay_mono hle
  · intro last last' hlast hlast'
    rw [eq_lastOfDay_of_endOfDay? hlast, eq_lastOfDay_of_endOfDay? hlast']
    exact lastOfDay_mono hle
  · refine ⟨_, _, compileEntry_transform hstandard hname rfl hparams,
      compileEntry_transform hstandard hname' rfl hparams', fun env s value time htime => ?_⟩
    obtain ⟨hmin, hmax⟩ := Value.time?_bounds htime
    obtain ⟨hmin', hmax'⟩ := firstOfDay_bounds hmin hmax
    obtain ⟨hmin'', hmax''⟩ := lastOfDay_bounds hmin hmax
    exact ⟨firstOfDay time, lastOfDay time, startOfDay?_eq hmin hmax, endOfDay?_eq hmin hmax,
      (Rule.rewrites_transform rfl (Transform.replacement?_startOfDay htime)).judge,
      (Rule.rewrites_transform rfl (Transform.replacement?_endOfDay htime)).judge,
      firstOfDay_le time, le_lastOfDay time, dayOf_firstOfDay time, dayOf_lastOfDay time,
      Value.time?_int_eq hmin' hmax', Value.time?_int_eq hmin'' hmax''⟩

/-- Half a second before 1970 it is the last day of 1969. -/
theorem compileEntry_dayBounds_before_epoch :
    let env : Environment := .empty
    let s : RunState := .ofRecord .empty
    ∃ rule rule', forNames.compileEntry "name" none (.ofName "startOfDay") = .ok rule ∧
      forNames.compileEntry "name" none (.ofName "endOfDay") = .ok rule' ∧
      rule.judge env "name" (.int (-500)) s =
        some ⟨"name", .int (-86400000), true, none, .ended⟩ ∧
      rule'.judge env "name" (.int (-500)) s = some ⟨"name", .int (-1), true, none, .ended⟩ := by
  intro env s
  have hstandard : forNames.registry = .standard := rfl
  have hname : (splitRule (RuleEntry.ofName "startOfDay").rule).1 = "startOfDay" := by rfl
  have hparams : (entryParams (.ofName "startOfDay")).isNone = true := by rfl
  have hname' : (splitRule (RuleEntry.ofName "endOfDay").rule).1 = "endOfDay" := by rfl
  have hparams' : (entryParams (.ofName "endOfDay")).isNone = true := by rfl
  obtain ⟨-, -, rule, rule', hcompile, hcompile', hruns⟩ : _ ∧ _ ∧
      ∃ rule rule', forNames.compileEntry "name" none (.ofName "startOfDay") = .ok rule ∧
        forNames.compileEntry "name" none (.ofName "endOfDay") = .ok rule' ∧ _ :=
    compileEntry_dayBounds hstandard hname hparams hname' hparams'
  obtain ⟨first, last, hfirst, hlast, hjudge, hjudge', -⟩ := hruns env s (.int (-500)) (-500) rfl
  have hfirst' : startOfDay? (-500) = some (-86400000) := by decide
  have hlast' : endOfDay? (-500) = some (-1) := by decide
  cases hfirst'.symm.trans hfirst
  cases hlast'.symm.trans hlast
  exact ⟨rule, rule', hcompile, hcompile', hjudge, hjudge'⟩

end Compiler

end FieldRules
