import FieldRules.Proofs.Compiler.Dates
import FieldRules.Proofs.Compiler.Foreign
import FieldRules.Proofs.Compiler.Shapes
import FieldRules.Proofs.Compiler.Standard
import FieldRules.Proofs.Rule.Conjunction

namespace FieldRules

namespace CheckShape

/-- The checks of a shape go on or fail, and leave the value as it is. -/
def Judges : CheckShape → Prop
  | predicate _ find => ∀ value replacement, find value ≠ .replace replacement
  | siblings _ check => check ≠ .ifValid
  | transform _ | remainder | upper | date _ _ => False
  | host compile => ∀ {schema rule field params check},
    compile schema rule field params = .ok check →
      ∀ value replacement, check.find value ≠ .replace replacement
  | pattern _ _ | givenPattern | size _ _ | range _ _ | trigger _ _ | foreign _ _
  | itemMatch _ _ | membership _ _ => True

theorem Judges.of_compile {shape : CheckShape} (hshape : shape.Judges) {scope : Scope}
    {use : RuleUse} {check : Check} (hcompile : shape.compile scope use = .ok check) :
    check.Judges := by
  cases shape with
  | predicate message find =>
    simp only [compile, bind_eq_ok_iff] at hcompile
    obtain ⟨_, _, hcheck⟩ := hcompile
    cases hcheck
    exact hshape
  | siblings message check =>
    obtain ⟨_, _, _, rfl⟩ := siblings_of_compile hcompile
    exact hshape
  | trigger message requiredWhenListed =>
    obtain ⟨_, _, _, _, rfl⟩ := trigger_of_compile hcompile
    trivial
  | foreign message failOnMatch =>
    obtain ⟨_, _, _, _, _, _, rfl⟩ := foreign_of_compile hcompile
    trivial
  | itemMatch message failOnMatch =>
    obtain ⟨_, _, _, _, _, rfl⟩ := itemMatch_of_compile hcompile
    trivial
  | membership message failWhenListed =>
    obtain ⟨_, rfl⟩ := membership_of_compile hcompile
    trivial
  | transform t => exact hshape.elim
  | remainder => exact hshape.elim
  | upper => exact hshape.elim
  | date message isInvalid => exact hshape.elim
  | host compile =>
    simp only [CheckShape.compile, bind_eq_ok_iff] at hcompile
    obtain ⟨check, hfound, hcheck⟩ := hcompile
    cases hcheck
    exact hshape hfound
  | _ =>
    simp only [compile, bind_eq_ok_iff] at hcompile
    obtain ⟨_, _, hcheck⟩ := hcompile
    cases hcheck
    trivial

end CheckShape

theorem Finding.ofBool_ne_replace (valid : Bool) (replacement : Value) :
    ofBool valid ≠ replace replacement := by
  cases valid <;> nofun

namespace Registry

/-- The standard rules whose checks neither replace the value nor skip other rules nor write. -/
def judgingNames : List String :=
  ["required", "accepted", "array", "object", "string", "number", "boolean"] ++
  ["alpha", "alpha_dash", "alpha_num", "email", "url", "uri", "phone", "regex"] ++
  ["min", "greater_than", "max", "less_than", "equal", "not_equal", "between", "not_between"] ++
  ["confirmed", "different", "required_with", "required_with_all", "required_without",
    "required_without_all"] ++
  ["required_if", "required_unless"] ++
  ["exists", "unique", "contains", "not_contains", "in", "not_in"]

/-- The standard rules that compare a time with a date. -/
def dateNames : List String := ["after", "after_on", "before", "before_on"]

theorem standard_judges : ∀ name ∈ judgingNames,
    ∃ shape, standard.find? name = some (.check shape) ∧ shape.Judges := by
  simp only [judgingNames, List.forall_mem_append]
  refine ⟨⟨⟨⟨⟨?predicates, ?patterns⟩, ?sizes⟩, ?siblings⟩, ?triggers⟩, ?collections⟩
  case predicates =>
    simp only [List.forall_mem_cons]
    refine ⟨⟨_, rfl, ?_⟩, ⟨_, rfl, ?_⟩, ⟨_, rfl, ?_⟩, ⟨_, rfl, ?_⟩, ⟨_, rfl, ?_⟩, ⟨_, rfl, ?_⟩,
      ⟨_, rfl, ?boolean⟩, by simp⟩
    case boolean => rintro (_ | _) replacement <;> nofun
    all_goals exact fun value => Finding.ofBool_ne_replace _
  case siblings =>
    simp only [List.forall_mem_cons]
    refine ⟨⟨_, rfl, ?_⟩, ⟨_, rfl, ?_⟩, ⟨_, rfl, ?_⟩, ⟨_, rfl, ?_⟩, ⟨_, rfl, ?_⟩, ⟨_, rfl, ?_⟩,
      by simp⟩
    all_goals exact SiblingCheck.noConfusion
  all_goals
    simp only [List.forall_mem_cons]
    and_intros
    all_goals first | exact ⟨_, rfl, trivial⟩ | simp

theorem standard_dates : ∀ name ∈ dateNames,
    ∃ message isInvalid, standard.find? name = some (.check (.date message isInvalid)) := by
  simp only [dateNames, List.forall_mem_cons]
  exact ⟨⟨_, _, rfl⟩, ⟨_, _, rfl⟩, ⟨_, _, rfl⟩, ⟨_, _, rfl⟩, by simp⟩

end Registry

namespace Compiler

section

variable {compiler : Compiler} {field : String} {message : Option Message} {entry : RuleEntry}
  {rule : Rule}

/-- Such a rule decides alone about the value that it is given. -/
theorem Compiles.steady_of_judges (hrule : Compiles compiler field message entry rule)
    (hstandard : compiler.registry = .standard) (hname : rule.name ∈ Registry.judgingNames)
    (env : Environment) (value : Value) : rule.Steady env field (· = value) := by
  obtain ⟨shape, hshape, hjudges⟩ := Registry.standard_judges rule.name hname
  obtain ⟨check, hcheck, hrule⟩ := hrule.exists_check_of_standard hstandard hshape
  rw [hrule]
  exact (hjudges.of_compile hcheck).steady rule.name env field value

/-- A rule about dates decides alone about the time of the value that it is given. -/
theorem Compiles.steady_of_date (hrule : Compiles compiler field message entry rule)
    (hstandard : compiler.registry = .standard) (hname : rule.name ∈ Registry.dateNames)
    (env : Environment) (value : Value) :
    rule.Steady env field fun given => given.time? = value.time? := by
  obtain ⟨message, isInvalid, hshape⟩ := Registry.standard_dates rule.name hname
  obtain ⟨check, hcheck, hrule⟩ := hrule.exists_check_of_standard hstandard hshape
  simp only [CheckShape.compile, bind_eq_ok_iff] at hcheck
  obtain ⟨_, _, expression, _, hcheck⟩ := hcheck
  cases hcheck
  rw [hrule]
  exact Check.steady_date expression isInvalid _ rule.name env field value

/-- Rules that only judge are steady about the values of one kind, and so are rules about dates. -/
theorem exists_steady_of_compile (hstandard : compiler.registry = .standard) {spec : RuleSpec}
    {rules : List Rule} (hcompile : compiler.compile spec field message = .ok rules)
    (hnames : (∀ rule ∈ rules, rule.name ∈ Registry.judgingNames) ∨
      ∀ rule ∈ rules, rule.name ∈ Registry.dateNames)
    (env : Environment) (value : Value) :
    ∃ kind : Value → Prop, kind value ∧ ∀ rule ∈ rules, rule.Steady env field kind := by
  have hcompiles : ∀ rule ∈ rules, ∃ entry, Compiles compiler field message entry rule := by
    intro rule hrule
    obtain ⟨entry, _, hentry⟩ := exists_of_mapM_ok hcompile hrule
    exact ⟨entry, compileEntry_eq_ok_iff.mp hentry⟩
  rcases hnames with hnames | hnames
  · refine ⟨(· = value), rfl, fun rule hrule => ?_⟩
    obtain ⟨entry, hentry⟩ := hcompiles rule hrule
    exact hentry.steady_of_judges hstandard (hnames rule hrule) env value
  · refine ⟨fun given => given.time? = value.time?, rfl, fun rule hrule => ?_⟩
    obtain ⟨entry, hentry⟩ := hcompiles rule hrule
    exact hentry.steady_of_date hstandard (hnames rule hrule) env value

end

/-- Rules that only judge are a conjunction, and so are rules about dates, although each of these
    puts a time in place of the value. Together they find a value valid just if each of them accepts
    it alone, in whatever order they stand. Otherwise the first of them that does not accept it alone
    is the one that fails, with the message that it has alone. Others may run meanwhile, as long as
    they leave the record as it is. -/
theorem conjunction_of_compile {compiler : Compiler} (hstandard : compiler.registry = .standard)
    {spec : RuleSpec} {field : String} {message : Option Message} {rules : List Rule}
    (hcompile : compiler.compile spec field message = .ok rules)
    (hnames : (∀ rule ∈ rules, rule.name ∈ Registry.judgingNames) ∨
      ∀ rule ∈ rules, rule.name ∈ Registry.dateNames)
    (env : Environment) (start : Option Value) (s : RunState) :
    let value := start.getD (s.record.get field)
    let accepts? (rule : Rule) : Option Bool := rule.accepts? env field value s
    let EndsWith (rules : List Rule) (outcome : Outcome) : Prop :=
      (startRules env field rules start).ending s = some outcome
    ((∃ outcome, EndsWith rules outcome ∧ outcome.valid = true) ↔
      ∀ rule ∈ rules, accepts? rule = some true) ∧
    (∀ failure, (∃ outcome, EndsWith rules outcome ∧ outcome.failure = some failure) ↔
      ∃ before rule after, rules = before ++ rule :: after ∧
        (∀ other ∈ before, accepts? other = some true) ∧
        ∃ outcome, rule.judge env field value s = some outcome ∧
          outcome.failure = some failure) ∧
    ((∀ rule ∈ rules, accepts? rule ≠ none) → ∃ outcome, EndsWith rules outcome) ∧
    (∀ rules', rules'.Perm rules →
      ((∃ outcome, EndsWith rules' outcome ∧ outcome.valid = true) ↔
        ∃ outcome, EndsWith rules outcome ∧ outcome.valid = true)) ∧
    ∀ interference : RunState → RunState → Prop,
      (∀ t t', interference t t' → t'.record = t.record) →
      ∀ outcome s', (startRules env field rules start).Ends interference s outcome s' →
        EndsWith rules outcome := by
  intro value accepts? EndsWith
  obtain ⟨kind, hvalue, hsteady⟩ := exists_steady_of_compile hstandard hcompile hnames env value
  refine ⟨Rule.ends_valid_iff hsteady hvalue, fun failure => Rule.ends_invalid_iff hsteady hvalue,
    Rule.exists_ending hsteady hvalue, fun rules' hperm => ?_, ?_⟩
  · have hsteady' : ∀ rule ∈ rules', rule.Steady env field kind :=
      fun rule hrule => hsteady rule (hperm.mem_iff.mp hrule)
    calc (∃ outcome, EndsWith rules' outcome ∧ outcome.valid = true)
        ↔ ∀ rule ∈ rules', accepts? rule = some true := Rule.ends_valid_iff hsteady' hvalue
      _ ↔ ∀ rule ∈ rules, accepts? rule = some true := by simp only [hperm.mem_iff]
      _ ↔ _ := (Rule.ends_valid_iff hsteady hvalue).symm
  · intro interference hunseen outcome s' hends
    have hisolated : ∀ rule ∈ rules, rule.isolated := fun rule hrule => (hsteady rule hrule).isolated
    exact (startRules_confined hisolated env field start).ending_of_ends hunseen hends

/-- The first rule has put a time in place of the text, and the second rule still says what it says
    alone. -/
theorem conjunction_of_compile_next_day :
    let env : Environment := .empty
    let s : RunState := .ofRecord ⟨[("start", .string "2024-02-01")]⟩
    ∃ rules outcome,
      forEvents.compile (.list ["after_on:2024-01-31", "before_on:2024-01-31"]) "start" none =
        .ok rules ∧
      (startRules env "start" rules none).ending s = some outcome ∧
      outcome.failure = some ⟨"before_on", "start must be before or equal to 2024-01-31."⟩ := by
  intro env s
  let afterOn := dayRule .afterOn (Wording.saidWith " must be after or equal to " "$date" ".")
    fun time date => time < date
  let beforeOn := dayRule .beforeOn (Wording.saidWith " must be before or equal to " "$date" ".")
    CheckShape.afterDayEnd
  have hcompile : forEvents.compile (.list ["after_on:2024-01-31", "before_on:2024-01-31"]) "start"
      none = .ok [afterOn, beforeOn] := by
    refine mapM_eq_ok_iff.mpr (.cons ?_ (.cons ?_ .nil))
    all_goals exact compileEntry_eq_ok_iff.mpr (.check rfl (by rfl) (by rfl))
  have hnames : ∀ rule ∈ [afterOn, beforeOn], rule.name ∈ Registry.dateNames := by
    simp only [List.forall_mem_cons]
    exact ⟨by decide, by decide, by simp⟩
  obtain ⟨_, hinvalid, _⟩ := conjunction_of_compile rfl hcompile (.inr hnames) env none s
  obtain ⟨outcome, hends, hfailure⟩ := (hinvalid _).mpr
    ⟨[afterOn], beforeOn, [], rfl, List.forall_mem_singleton.mpr (by rfl), _, by rfl, by rfl⟩
  exact ⟨_, outcome, hcompile, hends, hfailure⟩

end Compiler

end FieldRules
