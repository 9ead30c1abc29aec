import FieldRules.Proofs.Compiler.Rewrites
import FieldRules.Proofs.Rule.Canonical

namespace FieldRules

/-- The standard rules that bring the values they accept into a normal form. -/
inductive CanonicalRule where
  | whole
  | numeric
  | yesNo
  | dateLike
  | abs
  | ceil
  | floor
  | trim
  | filter
  | startOfDay
  | endOfDay
deriving DecidableEq

namespace CanonicalRule

def name : CanonicalRule → String
  | whole => "whole"
  | numeric => "numeric"
  | yesNo => "yesno"
  | dateLike => "date_like"
  | abs => "abs"
  | ceil => "ceil"
  | floor => "floor"
  | trim => "trim"
  | filter => "filter"
  | startOfDay => "startOfDay"
  | endOfDay => "endOfDay"

/-- The values that are in the normal form of a rule. What a transform cannot read it leaves as it
    is. -/
def IsNormal : CanonicalRule → Value → Prop
  | whole, value => value.IsNumber Number.IsWhole
  | numeric, value => value.IsNumber fun _ => True
  | yesNo, value => ∃ b, value = .bool b
  | dateLike, value => value.IsTime fun _ => True
  | abs, value => value.leadingNumber? = none ∨ value.IsNumber Number.IsNonNegative
  | ceil, value | floor, value => value.leadingNumber? = none ∨ value.IsNumber Number.IsWhole
  | trim, value => ∀ text, value = .string text → Text.Tight text.toList
  | filter, value => value.NullFree
  | startOfDay, value =>
    value.time? = none ∨ value.IsTime fun time => Calendar.firstOfDay time = time
  | endOfDay, value => value.time? = none ∨ value.IsTime fun time => Calendar.lastOfDay time = time

/-- What is registered under the name of a rule settles on its normal form. -/
theorem exists_shape (kind : CanonicalRule) :
    ∃ shape, Registry.standard.find? kind.name = some (.check shape) ∧
      ((∃ message find, shape = .predicate message find ∧ Finding.Settles find kind.IsNormal) ∨
        ∃ transform, shape = .transform transform ∧ (∀ value, transform.stored? value = none) ∧
          Finding.Settles transform.find kind.IsNormal) := by
  cases kind with
  | whole => exact ⟨_, rfl, .inl ⟨_, _, rfl, Finding.settles_whole⟩⟩
  | numeric => exact ⟨_, rfl, .inl ⟨_, _, rfl, Finding.settles_numeric⟩⟩
  | yesNo => exact ⟨_, rfl, .inl ⟨_, _, rfl, Finding.settles_yesNo⟩⟩
  | dateLike => exact ⟨_, rfl, .inl ⟨_, _, rfl, Finding.settles_dateLike⟩⟩
  | abs => exact ⟨_, rfl, .inr ⟨_, rfl, fun _ => rfl, Transform.settles_abs⟩⟩
  | ceil => exact ⟨_, rfl, .inr ⟨_, rfl, fun _ => rfl, Transform.settles_ceil⟩⟩
  | floor => exact ⟨_, rfl, .inr ⟨_, rfl, fun _ => rfl, Transform.settles_floor⟩⟩
  | trim => exact ⟨_, rfl, .inr ⟨_, rfl, fun _ => rfl, Transform.settles_trim⟩⟩
  | filter => exact ⟨_, rfl, .inr ⟨_, rfl, fun _ => rfl, Transform.settles_filter⟩⟩
  | startOfDay => exact ⟨_, rfl, .inr ⟨_, rfl, fun _ => rfl, Transform.settles_startOfDay⟩⟩
  | endOfDay => exact ⟨_, rfl, .inr ⟨_, rfl, fun _ => rfl, Transform.settles_endOfDay⟩⟩

end CanonicalRule

namespace Compiler

variable {compiler : Compiler} {field : String} {message : Option Message} {entry : RuleEntry}

/-- The rules that bring values into a normal form accept a value and leave it as it is just if it
    is in this form. They leave every value that they accept in this form; so they accept it again,
    and several of them in a row have the same outcome as one. -/
theorem compileEntry_canonical (hstandard : compiler.registry = .standard) {kind : CanonicalRule}
    (hname : (splitRule entry.rule).1 = kind.name) (hparams : (entryParams entry).isNone = true) :
    ∃ rule, compiler.compileEntry field message entry = .ok rule ∧
      ∀ (env : Environment) (s : RunState) (value : Value),
        ∃ outcome, rule.judge env field value s = some outcome ∧
          (outcome.valid = true ∧ outcome.value = value ↔ kind.IsNormal value) ∧
          (outcome.valid = true → kind.IsNormal outcome.value ∧ ∃ updated,
            rule.judge env field outcome.value s =
              some ⟨field, outcome.value, updated, none, .ended⟩) ∧
          ∀ n, (startRules env field (List.replicate (n + 1) rule) (some value)).alone s =
            some (outcome, s) := by
  obtain ⟨shape, hshape, hkind⟩ := kind.exists_shape
  rcases hkind with ⟨default, find, rfl, hsettles⟩ | ⟨transform, rfl, hstored, hsettles⟩
  · obtain ⟨wording, hcompile⟩ := compileEntry_predicate hstandard hname hshape hparams
    exact ⟨_, hcompile, fun env s =>
      (Rule.finds_predicate find wording).exists_judge_eq_of_settles hsettles⟩
  · exact ⟨_, compileEntry_transform hstandard hname hshape hparams, fun env s =>
      (Rule.finds_transform hstored).exists_judge_eq_of_settles hsettles⟩

theorem compileEntry_canonical_endOfDay :
    let env : Environment := .empty
    let s : RunState := .ofRecord .empty
    let rule : Rule := .check "endOfDay" (.transform .endOfDay "name")
    forNames.compileEntry "name" none (.ofName "endOfDay") = .ok rule ∧
      rule.judge env "name" (.string "1970-01-02") s =
        some ⟨"name", .int 172799999, true, none, .ended⟩ ∧
      CanonicalRule.endOfDay.IsNormal (.int 172799999) ∧
      (startRules env "name" [rule, rule] (some (.string "1970-01-02"))).alone s =
        some (⟨"name", .int 172799999, true, none, .ended⟩, s) := by
  intro env s rule
  have hrule : forNames.compileEntry "name" none (.ofName "endOfDay") = .ok rule :=
    compileEntry_eq_ok_iff.mpr (.check rfl (by rfl) (by rfl))
  have hfirst : rule.judge env "name" (.string "1970-01-02") s =
      some ⟨"name", .int 172799999, true, none, .ended⟩ := by rfl
  have hstandard : forNames.registry = .standard := rfl
  have hname : (splitRule (RuleEntry.ofName "endOfDay").rule).1 = CanonicalRule.endOfDay.name := by
    rfl
  have hparams : (entryParams (.ofName "endOfDay")).isNone = true := by rfl
  obtain ⟨_, hcompile, hruns⟩ :
      ∃ rule, forNames.compileEntry "name" none (.ofName "endOfDay") = .ok rule ∧ _ :=
    compileEntry_canonical hstandard hname hparams
  cases hrule.symm.trans hcompile
  obtain ⟨_, hjudge, -, hnormal, htwice⟩ := hruns env s (.string "1970-01-02")
  cases hfirst.symm.trans hjudge
  exact ⟨hrule, hfirst, (hnormal rfl).1, htwice 1⟩

end Compiler

end FieldRules
