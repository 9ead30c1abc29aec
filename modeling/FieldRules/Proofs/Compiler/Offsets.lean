import FieldRules.Proofs.Calendar.Offset
import FieldRules.Proofs.Compiler.Dates

namespace FieldRules

open Calendar

/-- A rule about a date accepts everything as long as there is no date. -/
theorem Rule.accepts?_no_date {name field : String} {expression : Expression}
    {isInvalid : Int → Int → Bool} {wording : Wording} {env : Environment} {value : Value}
    {s : RunState} (hdate : expression.eval env.now s.record = none) :
    (check name (.date expression isInvalid wording)).accepts? env field value s = some true := by
  have hact : ∀ calls, Check.dateCalls none isInvalid wording value s.record = calls →
      ((check name (.date expression isInvalid wording)).act env
        ⟨field, name, .running, value⟩).alone s = some (calls, s) := by
    rintro calls rfl
    rw [act]
    simp only [Check.act, Job.alone, hdate]
  cases htime : value.time? with
  | none =>
    rw [accepts?_of_alone (hact Check.goOn (by rw [Check.dateCalls, htime]))]
    rfl
  | some time =>
    rw [accepts?_of_alone (hact (.update (.int time) :: Check.goOn)
      (by simp [Check.dateCalls, htime, Check.passIf]))]
    rfl

namespace Calendar.Offset

variable (offset : Offset)

/-- The span that is written, toward zero. An amount beyond all binary64 numbers has none. -/
def truncated? : Option Span := offset.amount.toBinary64?.bind offset.span.scaled?

/-- The time at this distance from now. -/
def after? (now : Int) : Option Int := offset.truncated?.bind (·.after? now)

/-- Some time of the calendar is at this distance from another one. -/
def Reachable : Prop := ∃ span, offset.truncated? = some span ∧ span.Reachable

def Overlooked : Prop := ∃ span, offset.truncated? = some span ∧ span.Overlooked

variable {offset}

theorem reachable_iff : offset.Reachable ↔
    ∃ now date, minTime ≤ now ∧ now ≤ maxTime ∧ minTime ≤ date ∧ date ≤ maxTime ∧
      offset.after? now = some date := by
  simp only [Reachable, Span.Reachable, after?, Option.bind_eq_some_iff]
  constructor
  · rintro ⟨span, hspan, now, date, hmin, hmax, hmin', hmax', hdate⟩
    exact ⟨now, date, hmin, hmax, hmin', hmax', span, hspan, hdate⟩
  · rintro ⟨now, date, hmin, hmax, hmin', hmax', span, hspan, hdate⟩
    exact ⟨span, hspan, now, date, hmin, hmax, hmin', hmax', hdate⟩

theorem after?_bounds {now date : Int} (hdate : offset.after? now = some date) :
    minTime ≤ date ∧ date ≤ maxTime := by
  obtain ⟨span, -, hdate⟩ := Option.bind_eq_some_iff.mp hdate
  exact Span.after?_bounds hdate

theorem Overlooked.after?_eq_none (hoffset : offset.Overlooked) {now : Int} (hmin : minTime ≤ now)
    (hmax : now ≤ maxTime) : offset.after? now = none := by
  obtain ⟨span, hspan, hoverlooked⟩ := hoffset
  rw [after?, hspan, Option.bind_some, Option.eq_none_iff_forall_ne_some]
  intro date hdate
  obtain ⟨hmin', hmax'⟩ := Span.after?_bounds hdate
  exact hoverlooked.not_reachable ⟨now, date, hmin, hmax, hmin', hmax', hdate⟩

/-- The span that an offset is read as is the one that is written, if it is not refused. -/
theorem bind_times?_eq_some_iff {span : Span} :
    offset.amount.toBinary64?.bind offset.span.times? = some span ↔
      offset.truncated? = some span ∧ (span.Reachable ∨ span.Overlooked) := by
  rw [truncated?]
  cases offset.amount.toBinary64? with
  | none => simp
  | some amount => exact Span.times?_eq_some_iff

/-- An offset is refused just if it is not reachable, unless that is overlooked. -/
theorem bind_times?_eq_none_iff :
    offset.amount.toBinary64?.bind offset.span.times? = none ↔
      ¬offset.Reachable ∧ ¬offset.Overlooked := by
  rw [Option.eq_none_iff_forall_ne_some, Reachable, Overlooked]
  simp only [ne_eq, bind_times?_eq_some_iff]
  constructor
  · intro hnone
    exact ⟨fun ⟨span, hspan, hreach⟩ => hnone span ⟨hspan, .inl hreach⟩,
      fun ⟨span, hspan, hoverlooked⟩ => hnone span ⟨hspan, .inr hoverlooked⟩⟩
  · rintro ⟨hreach, hoverlooked⟩ span ⟨hspan, hspan' | hspan'⟩
    · exact hreach ⟨span, hspan, hspan'⟩
    · exact hoverlooked ⟨span, hspan, hspan'⟩

/-- Unless a field is named like it, an offset is read as such. -/
theorem readFirst?_text {schema : Schema} (hfield : schema.hasField offset.text = false) :
    ExpressionReader.readFirst? ExpressionReader.standard offset.text schema =
      match offset.amount.toBinary64?.bind offset.span.times? with
      | none => .error (.offsetOutOfRange offset.text)
      | some span => .ok (some (.fromNow span)) := by
  have hliteral : ExpressionReader.literal.read? offset.text schema = .ok none := by
    rw [ExpressionReader.read?, offset.read?_text, Option.map_none]
  have hnamed : ExpressionReader.field.read? offset.text schema = .ok none := by
    rw [ExpressionReader.read?, hfield, if_neg Bool.false_ne_true]
  rw [ExpressionReader.standard, ExpressionReader.readFirst?, hliteral]
  dsimp only
  rw [ExpressionReader.readFirst?, hnamed]
  dsimp only
  rw [ExpressionReader.readFirst?, ExpressionReader.read?, offset.readOffsetFromNow?_text]
  cases offset.amount.toBinary64?.bind offset.span.times? <;> rfl

theorem text_ne_empty : offset.text.toList ≠ [] := by
  rw [text, String.toList_ofList]
  exact List.cons_ne_nil _ _

end Calendar.Offset

/-- A rule that is given an offset compiles just if the offset is not refused. -/
theorem CheckShape.compile_offset {scope : Scope} {use : RuleUse} {message : String}
    {isInvalid : Int → Int → Bool} {offset : Offset}
    (hreaders : scope.readers = ExpressionReader.standard)
    (hfield : scope.schema.hasField offset.text = false)
    (hparams : use.params = .text offset.text) :
    (date message isInvalid).compile scope use =
      match offset.amount.toBinary64?.bind offset.span.times? with
      | none => .error (.offsetOutOfRange offset.text)
      | some span => .ok (.date (.fromNow span) isInvalid
          (use.wording scope message [("$date", use.params.display)])) := by
  have hgiven : ∀ expected, use.requireParams expected = .ok () := by
    intro expected
    rw [RuleUse.requireParams_eq_ok_iff, hparams, Params.isNone, List.isEmpty_eq_false_iff]
    exact offset.text_ne_empty
  have hread : readDate scope use =
      match offset.amount.toBinary64?.bind offset.span.times? with
      | none => .error (.offsetOutOfRange offset.text)
      | some span => .ok (.fromNow span) := by
    simp only [readDate, hparams, hreaders, offset.readFirst?_text hfield]
    cases offset.amount.toBinary64?.bind offset.span.times? <;> rfl
  simp only [compile, hgiven, hread]
  cases offset.amount.toBinary64?.bind offset.span.times? <;> rfl

namespace Compiler

variable {compiler : Compiler} {field : String} {message : Option Message} {entry : RuleEntry}

/-- A rule that is given an offset from now is refused with the offset, or it compares times with
    the date at this distance. -/
theorem exists_dateRule_offset (hstandard : compiler.registry = .standard) (field : String)
    (message : Option Message) {kind : DateRule} {offset : Offset}
    (hname : (splitRule entry.rule).1 = kind.name)
    (hparams : entryParams entry = .text offset.text)
    (hfield : compiler.schema.hasField offset.text = false) :
    ∃ isInvalid wording,
      (∀ time date, minTime ≤ date → date ≤ maxTime →
        (isInvalid time date = true ↔ ¬kind.Accepts time date)) ∧
      compiler.compileEntry field message entry =
        match offset.amount.toBinary64?.bind offset.span.times? with
        | none => .error (.offsetOutOfRange offset.text)
        | some span => .ok (.check kind.name (.date (.fromNow span) isInvalid wording)) := by
  obtain ⟨shapeMessage, isInvalid, hfound, hinvalid⟩ := kind.exists_shape
  have hreaders : compiler.scope.readers = ExpressionReader.standard := by
    rw [scope, hstandard]
    rfl
  let use := useOf field message entry
  have hparams' : use.params = .text offset.text := hparams
  have hcheck : (CheckShape.date shapeMessage isInvalid).compile compiler.scope use = _ :=
    CheckShape.compile_offset hreaders hfield hparams'
  refine ⟨isInvalid, use.wording compiler.scope shapeMessage [("$date", use.params.display)],
    hinvalid, ?_⟩
  rw [compileEntry_standard hstandard hname hfound, hcheck]
  cases offset.amount.toBinary64?.bind offset.span.times? <;> rfl

/-- A rule that is given an offset from now is refused if no two times of the calendar are so far
    apart, but for the offsets that are overlooked. Whatever is not refused compiles, and the rule
    goes by the date at that distance from now; without a date it accepts everything. This is all
    that a rule for an overlooked offset ever does. -/
theorem compileEntry_offset (hstandard : compiler.registry = .standard) {kind : DateRule}
    {offset : Offset} (hname : (splitRule entry.rule).1 = kind.name)
    (hparams : entryParams entry = .text offset.text)
    (hfield : compiler.schema.hasField offset.text = false) :
    (compiler.compileEntry field message entry = .error (.offsetOutOfRange offset.text) ↔
      ¬offset.Reachable ∧ ¬offset.Overlooked) ∧
    (offset.Reachable ∨ offset.Overlooked →
      ∃ rule, compiler.compileEntry field message entry = .ok rule ∧
        ∀ env value s,
          (∀ time date, value.time? = some time → offset.after? env.now = some date →
            rule.accepts? env field value s = some (decide (kind.Accepts time date))) ∧
          (offset.after? env.now = none → rule.accepts? env field value s = some true)) ∧
    (offset.Reachable ↔
      ∃ now date, minTime ≤ now ∧ now ≤ maxTime ∧ minTime ≤ date ∧ date ≤ maxTime ∧
        offset.after? now = some date) ∧
    (offset.Overlooked → ∀ now, minTime ≤ now → now ≤ maxTime → offset.after? now = none) := by
  obtain ⟨isInvalid, wording, hinvalid, hcompile⟩ :=
    exists_dateRule_offset hstandard field message hname hparams hfield
  refine ⟨?_, ?_, Offset.reachable_iff, fun hoffset now hmin hmax =>
    hoffset.after?_eq_none hmin hmax⟩
  · rw [hcompile, ← Offset.bind_times?_eq_none_iff]
    cases offset.amount.toBinary64?.bind offset.span.times? with
    | none => simp
    | some span => simp
  · intro hoffset
    have hsome : ∃ span, offset.amount.toBinary64?.bind offset.span.times? = some span := by
      rw [← Option.ne_none_iff_exists', Ne, Offset.bind_times?_eq_none_iff]
      tauto
    obtain ⟨span, hspan⟩ := hsome
    obtain ⟨htruncated, -⟩ := Offset.bind_times?_eq_some_iff.mp hspan
    have heval : ∀ now record, (Expression.fromNow span).eval now record = offset.after? now := by
      intro now record
      rw [Offset.after?, htruncated, Option.bind_some, Expression.eval]
    rw [hspan] at hcompile
    refine ⟨_, hcompile, fun env value s => ⟨fun time date htime hdate => ?_, fun hnone => ?_⟩⟩
    · obtain ⟨hmin, hmax⟩ := Offset.after?_bounds hdate
      have hrejects := hinvalid time date hmin hmax
      rw [← heval _ s.record] at hdate
      rw [Rule.accepts?_date htime hdate, Option.some.injEq, Bool.eq_iff_iff, decide_eq_true_iff,
        Bool.not_eq_true', Bool.eq_false_iff, Ne, hrejects, not_not]
    · rw [← heval _ s.record] at hnone
      exact Rule.accepts?_no_date hnone

/-- Two days from now. -/
def twoDays : Offset where
  negative := false
  whole := ['2']
  fraction := []
  before := []
  unit := "days"
  after := []
  span := .millis 86400000
  whole_some := by decide
  whole_digits := List.all_eq_true.mp (by decide)
  fraction_digits := List.forall_mem_nil _
  before_blank := List.forall_mem_nil _
  known := by decide
  after_blank := List.forall_mem_nil _

theorem truncated?_twoDays : twoDays.truncated? = some (.millis 172800000) := by decide +kernel

theorem compileEntry_offset_twoDays :
    let s : RunState := .ofRecord .empty
    ∃ rule, forEvents.compileEntry "start" none (.ofName "after:+2days") = .ok rule ∧
      rule.accepts? .empty "start" (.string "1970-01-03") s = some false ∧
      rule.accepts? .empty "start" (.string "1970-01-04") s = some true := by
  intro s
  have hreachable : twoDays.Reachable := by
    refine ⟨_, truncated?_twoDays, ?_⟩
    rw [Span.reachable_millis_iff]
    decide
  have hstandard : forEvents.registry = .standard := rfl
  have hname : (splitRule (RuleEntry.ofName "after:+2days").rule).1 = DateRule.after.name := by rfl
  have hparams : entryParams (.ofName "after:+2days") = .text twoDays.text := by rfl
  have hfield : forEvents.schema.hasField twoDays.text = false := by decide +kernel
  obtain ⟨rule, hcompile, haccepts⟩ :
      ∃ rule, forEvents.compileEntry "start" none (.ofName "after:+2days") = .ok rule ∧ _ :=
    (compileEntry_offset hstandard hname hparams hfield).2.1 (.inl hreachable)
  have hdate : twoDays.after? 0 = some 172800000 := by
    rw [Offset.after?, truncated?_twoDays]
    rfl
  have hjudge := fun value time htime =>
    (haccepts .empty value s).1 time 172800000 htime hdate
  exact ⟨rule, hcompile, hjudge (.string "1970-01-03") 172800000 (by rfl),
    hjudge (.string "1970-01-04") 259200000 (by rfl)⟩

/-- More months from now than the calendar has, but no more than a 32-bit word counts. -/
def farMonths : Offset where
  negative := false
  whole := ['4', '0', '0', '0', '0', '0', '0', '0', '0', '0']
  fraction := []
  before := []
  unit := "months"
  after := []
  span := .months 1
  whole_some := by decide
  whole_digits := List.all_eq_true.mp (by decide)
  fraction_digits := List.forall_mem_nil _
  before_blank := List.forall_mem_nil _
  known := by decide
  after_blank := List.forall_mem_nil _

theorem truncated?_farMonths : farMonths.truncated? = some (.months 4000000000) := by
  decide +kernel

theorem overlooked_farMonths : farMonths.Overlooked :=
  ⟨_, truncated?_farMonths, by decide, by decide⟩

/-- An offset of more months than the calendar has is not refused, and its rule accepts
    everything. -/
theorem farMonths_compiles :
    farMonths.text = "+4000000000months" ∧ ¬farMonths.Reachable ∧
      ∃ rule,
        forEvents.compileEntry "start" none (.ofName "after:+4000000000months") = .ok rule ∧
        ∀ env value s, minTime ≤ env.now → env.now ≤ maxTime →
          rule.accepts? env "start" value s = some true := by
  have hstandard : forEvents.registry = .standard := rfl
  have hname : (splitRule (RuleEntry.ofName "after:+4000000000months").rule).1 =
      DateRule.after.name := by rfl
  have hparams : entryParams (.ofName "after:+4000000000months") = .text farMonths.text := by rfl
  have hfield : forEvents.schema.hasField farMonths.text = false := by decide +kernel
  obtain ⟨isInvalid, wording, -, hcompile⟩ :=
    exists_dateRule_offset hstandard "start" none hname hparams hfield
  have hread : farMonths.amount.toBinary64?.bind farMonths.span.times? =
      some (.months 4000000000) :=
    Offset.bind_times?_eq_some_iff.mpr ⟨truncated?_farMonths, .inr ⟨by decide, by decide⟩⟩
  rw [hread] at hcompile
  refine ⟨by decide +kernel, ?_, _, hcompile, fun env value s hmin hmax => ?_⟩
  · rintro ⟨span, hspan, hreach⟩
    rw [truncated?_farMonths, Option.some.injEq] at hspan
    subst hspan
    rw [Span.reachable_months_iff] at hreach
    exact absurd hreach (by decide)
  · apply Rule.accepts?_no_date
    have hnone := overlooked_farMonths.after?_eq_none hmin hmax
    rwa [Offset.after?, truncated?_farMonths, Option.bind_some] at hnone

end Compiler

end FieldRules
