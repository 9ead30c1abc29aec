import FieldRules.Proofs.Calendar.Time
import FieldRules.Proofs.Compiler.Standard
import FieldRules.Proofs.Rule.Judge
import FieldRules.Rule.Standard
import Mathlib.Logic.Basic

namespace FieldRules

/-- The standard rules that compare a time with a date. -/
inductive DateRule where
  | after
  | afterOn
  | before
  | beforeOn

namespace DateRule

open Calendar

def name : DateRule → String
  | after => "after"
  | afterOn => "after_on"
  | before => "before"
  | beforeOn => "before_on"

/-- Which times a rule accepts: two of the rules go by the date itself, and the other two by the last
    millisecond of its day. -/
def Accepts : DateRule → (time date : Int) → Prop
  | after, time, date => lastOfDay date ≤ time
  | afterOn, time, date => date ≤ time
  | before, time, date => time ≤ date
  | beforeOn, time, date => time ≤ lastOfDay date

instance (kind : DateRule) (time date : Int) : Decidable (kind.Accepts time date) :=
  match kind with
  | after => inferInstanceAs (Decidable (lastOfDay date ≤ time))
  | afterOn => inferInstanceAs (Decidable (date ≤ time))
  | before => inferInstanceAs (Decidable (time ≤ date))
  | beforeOn => inferInstanceAs (Decidable (time ≤ lastOfDay date))

variable {time date : Int}

/-- Only the last millisecond of the day is accepted by both rules of this pair. -/
theorem xor_after_beforeOn :
    Xor (after.Accepts time date) (beforeOn.Accepts time date) ↔ time ≠ lastOfDay date := by
  rw [xor_def, Accepts, Accepts]
  omega

/-- Only the date itself is accepted by both rules of this pair. -/
theorem xor_before_afterOn :
    Xor (before.Accepts time date) (afterOn.Accepts time date) ↔ time ≠ date := by
  rw [xor_def, Accepts, Accepts]
  omega

/-- What is registered under the name of a rule rejects just the times that the rule does not
    accept. -/
theorem exists_shape (kind : DateRule) :
    ∃ message isInvalid,
      Registry.standard.find? kind.name = some (.check (.date message isInvalid)) ∧
      ∀ time date, minTime ≤ date → date ≤ maxTime →
        (isInvalid time date = true ↔ ¬kind.Accepts time date) := by
  cases kind with
  | after =>
    refine ⟨_, CheckShape.beforeDayEnd, rfl, fun time date hmin hmax => ?_⟩
    rw [CheckShape.beforeDayEnd, endOfDay?_eq hmin hmax, Option.any_some, decide_eq_true_iff,
      Accepts, not_le]
  | afterOn =>
    refine ⟨_, fun time date => time < date, rfl, fun time date _ _ => ?_⟩
    rw [decide_eq_true_iff, Accepts, not_le]
  | before =>
    refine ⟨_, fun time date => date < time, rfl, fun time date _ _ => ?_⟩
    rw [decide_eq_true_iff, Accepts, not_le]
  | beforeOn =>
    refine ⟨_, CheckShape.afterDayEnd, rfl, fun time date hmin hmax => ?_⟩
    rw [CheckShape.afterDayEnd, endOfDay?_eq hmin hmax, Option.any_some, decide_eq_true_iff,
      Accepts, not_le]

end DateRule

/-- A rule about a date rejects the times that are invalid for it. -/
theorem Rule.accepts?_date {name field : String} {expression : Calendar.Expression}
    {isInvalid : Int → Int → Bool} {wording : Wording} {env : Environment} {value : Value}
    {s : RunState} {time date : Int} (htime : value.time? = some time)
    (hdate : expression.eval env.now s.record = some date) :
    (check name (.date expression isInvalid wording)).accepts? env field value s =
      some (!isInvalid time date) := by
  have hact : ((check name (.date expression isInvalid wording)).act env
      ⟨field, name, .running, value⟩).alone s =
        some (.update (.int time) ::
          Check.passIf (!isInvalid time date) wording (.int time) s.record, s) := by
    rw [act]
    simp only [Check.act, Job.alone, Check.dateCalls, htime, hdate]
  rw [accepts?_of_alone hact, Check.passIf]
  cases isInvalid time date <;> rfl

/-- Which date parameters stand for does not depend on the rule that is given them, as far as they
    can be read. -/
theorem CheckShape.readDate_congr {scope : Scope} {use use' : RuleUse}
    (hparams : use'.params = use.params) {expression : Calendar.Expression}
    (hread : readDate scope use = .ok expression) : readDate scope use' = .ok expression := by
  unfold readDate at hread ⊢
  rw [hparams]
  split at hread
  · obtain ⟨found, hfound, hread⟩ := bind_eq_ok_iff.mp hread
    exact bind_eq_ok_iff.mpr
      ⟨found, hfound, RuleUse.orError_eq_ok_iff.mpr (RuleUse.orError_eq_ok_iff.mp hread)⟩
  · exact hread
  · exact RuleUse.orError_eq_ok_iff.mpr (RuleUse.orError_eq_ok_iff.mp hread)
  · cases hread

/-- A rule about a date needs parameters that can be read as a date. -/
theorem CheckShape.compile_date_eq_ok_iff {scope : Scope} {use : RuleUse} {message : String}
    {isInvalid : Int → Int → Bool} {check : Check} :
    (date message isInvalid).compile scope use = .ok check ↔
      use.params.isNone = false ∧ ∃ expression, readDate scope use = .ok expression ∧
        check = .date expression isInvalid
          (use.wording scope message [("$date", use.params.display)]) := by
  simp only [compile, bind_eq_ok_iff, RuleUse.requireParams_eq_ok_iff]
  constructor
  · rintro ⟨_, hgiven, expression, hread, hcheck⟩
    exact ⟨hgiven, expression, hread, (Except.ok.inj hcheck).symm⟩
  · rintro ⟨hgiven, expression, hread, rfl⟩
    exact ⟨(), hgiven, expression, hread, rfl⟩

namespace Compiler

variable {compiler : Compiler} {field : String} {message : Option Message}

/-- The rules about dates fall into two pairs. Given the same parameters, they compile alike, and then
    the rules of a pair divide all times between them, but they meet in one: `before` and `after_on`
    both accept the date itself, and `after` and `before_on` the last millisecond of its day. -/
theorem dateRules_of_compile (hstandard : compiler.registry = .standard) {params : Params}
    {entry : DateRule → RuleEntry}
    (hentry : ∀ kind, (splitRule (entry kind).rule).1 = kind.name ∧
      entryParams (entry kind) = params)
    {kind : DateRule} {rule : Rule}
    (hcompile : compiler.compileEntry field message (entry kind) = .ok rule) :
    ∃ expression, ∃ rules : DateRule → Rule,
      CheckShape.readDate compiler.scope (useOf field message (entry kind)) = .ok expression ∧
      (∀ kind, compiler.compileEntry field message (entry kind) = .ok (rules kind)) ∧
      ∀ env value s time date, value.time? = some time →
        expression.eval env.now s.record = some date →
        Calendar.minTime ≤ date → date ≤ Calendar.maxTime →
        (∀ kind, (rules kind).accepts? env field value s =
          some (decide (kind.Accepts time date))) ∧
        (Xor (DateRule.after.Accepts time date) (DateRule.beforeOn.Accepts time date) ↔
          time ≠ Calendar.lastOfDay date) ∧
        (Xor (DateRule.before.Accepts time date) (DateRule.afterOn.Accepts time date) ↔
          time ≠ date) := by
  have hparams : ∀ kind, (useOf field message (entry kind)).params = params :=
    fun kind => (hentry kind).2
  choose shapeMessage isInvalid hfound hinvalid using DateRule.exists_shape
  -- The entry that compiles shows that the parameters can be read.
  rw [compileEntry_standard hstandard (hentry kind).1 (hfound kind), map_eq_ok_iff] at hcompile
  obtain ⟨check, hcheck, -⟩ := hcompile
  obtain ⟨hgiven, expression, hread, -⟩ := CheckShape.compile_date_eq_ok_iff.mp hcheck
  have hcompiles : ∀ kind, ∃ wording, compiler.compileEntry field message (entry kind) =
      .ok (.check kind.name (.date expression (isInvalid kind) wording)) := by
    intro other
    rw [compileEntry_standard hstandard (hentry other).1 (hfound other)]
    have hgiven' : (useOf field message (entry other)).params.isNone = false := by
      rw [hparams, ← hparams kind, hgiven]
    have hread' := CheckShape.readDate_congr ((hparams other).trans (hparams kind).symm) hread
    exact ⟨_, map_eq_ok_iff.mpr
      ⟨_, CheckShape.compile_date_eq_ok_iff.mpr ⟨hgiven', expression, hread', rfl⟩, rfl⟩⟩
  choose wording hrules using hcompiles
  refine ⟨expression, _, hread, hrules, fun env value s time date htime hdate hmin hmax => ?_⟩
  refine ⟨fun kind => ?_, DateRule.xor_after_beforeOn, DateRule.xor_before_afterOn⟩
  have hrejects := hinvalid kind time date hmin hmax
  rw [Rule.accepts?_date htime hdate, Option.some.injEq, Bool.eq_iff_iff, decide_eq_true_iff,
    Bool.not_eq_true', Bool.eq_false_iff, Ne, hrejects, not_not]

/-- A compiler for events. -/
def forEvents : Compiler := ⟨.standard, ⟨"Event", ["start", "stop"], false, none⟩, ⟨[]⟩⟩

/-- The last day of a January, as a parameter of a rule. -/
def dayEntry (kind : DateRule) : RuleEntry := ⟨kind.name ++ ":2024-01-31", none, .none⟩

/-- The rule that an entry for this day compiles to. -/
def dayRule (kind : DateRule) (message : String) (isInvalid : Int → Int → Bool) : Rule :=
  .check kind.name (.date (.constant (some 1706659200000)) isInvalid
    ⟨.forField "start" ⟨[]⟩ forEvents.schema, message, [("$date", .string "2024-01-31")]⟩)

theorem dateRules_of_compile_noon :
    let env : Environment := .empty
    let s : RunState := .ofRecord .empty
    ∃ rules : DateRule → Rule,
      (∀ kind, forEvents.compileEntry "start" none (dayEntry kind) = .ok (rules kind)) ∧
      (rules .before).accepts? env "start" (.string "2024-01-31T12:00:00Z") s = some false ∧
      (rules .afterOn).accepts? env "start" (.string "2024-01-31T12:00:00Z") s = some true ∧
      (rules .after).accepts? env "start" (.string "2024-01-31T12:00:00Z") s = some false ∧
      (rules .beforeOn).accepts? env "start" (.string "2024-01-31T12:00:00Z") s = some true := by
  intro env s
  have hentry : ∀ kind, (splitRule (dayEntry kind).rule).1 = kind.name ∧
      entryParams (dayEntry kind) = .text "2024-01-31" := by
    intro kind
    cases kind <;> exact ⟨by rfl, by rfl⟩
  have hcompile : forEvents.compileEntry "start" none (dayEntry .before) =
      .ok (dayRule .before (Wording.saidWith " must be before " "$date" ".")
        fun time date => date < time) :=
    compileEntry_eq_ok_iff.mpr (.check rfl (by rfl) (by rfl))
  obtain ⟨expression, rules, hread, hrules, hjudge⟩ := dateRules_of_compile rfl hentry hcompile
  have hexpression : expression = .constant (some 1706659200000) := by
    have hday : CheckShape.readDate forEvents.scope (useOf "start" none (dayEntry .before)) =
      .ok (.constant (some 1706659200000)) := by rfl
    rw [hday] at hread
    exact (Except.ok.inj hread).symm
  subst hexpression
  obtain ⟨haccepts, _, _⟩ := hjudge env (.string "2024-01-31T12:00:00Z") s 1706702400000
    1706659200000 (by rfl) rfl (by decide) (by decide)
  exact ⟨rules, hrules, haccepts .before, haccepts .afterOn, haccepts .after,
    haccepts .beforeOn⟩

/-- Both rules of a pair accept the time in which they meet: the start of the day is not before
    itself, and its last millisecond is not after it. -/
theorem before_accepts_date :
    let env : Environment := .empty
    let s : RunState := .ofRecord .empty
    let date : Int := 1706659200000
    let before := dayRule .before (Wording.saidWith " must be before " "$date" ".")
      fun time date => date < time
    let afterOn := dayRule .afterOn (Wording.saidWith " must be after or equal to " "$date" ".")
      fun time date => time < date
    let after := dayRule .after (Wording.saidWith " must be after " "$date" ".")
      CheckShape.beforeDayEnd
    let beforeOn := dayRule .beforeOn
      (Wording.saidWith " must be before or equal to " "$date" ".") CheckShape.afterDayEnd
    forEvents.compileEntry "start" none (dayEntry .before) = .ok before ∧
      forEvents.compileEntry "start" none (dayEntry .afterOn) = .ok afterOn ∧
      forEvents.compileEntry "start" none (dayEntry .after) = .ok after ∧
      forEvents.compileEntry "start" none (dayEntry .beforeOn) = .ok beforeOn ∧
      (Value.string "2024-01-31").time? = some date ∧
      before.accepts? env "start" (.string "2024-01-31") s = some true ∧
      afterOn.accepts? env "start" (.string "2024-01-31") s = some true ∧
      after.accepts? env "start" (.int (Calendar.lastOfDay date)) s = some true ∧
      beforeOn.accepts? env "start" (.int (Calendar.lastOfDay date)) s = some true := by
  intro env s date before afterOn after beforeOn
  refine ⟨?_, ?_, ?_, ?_, by rfl, by rfl, by rfl, by rfl, by rfl⟩
  all_goals exact compileEntry_eq_ok_iff.mpr (.check rfl (by rfl) (by rfl))

end Compiler

end FieldRules
