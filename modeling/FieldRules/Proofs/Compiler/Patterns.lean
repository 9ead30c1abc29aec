import FieldRules.Proofs.Compiler.Gate
import FieldRules.Proofs.Compiler.Standard
import FieldRules.Proofs.Pattern.Standard
import FieldRules.Proofs.Rule.Judge

namespace FieldRules

/-- The standard rules whose patterns the texts that they accept can be told without. -/
inductive TextRule where
  | alpha
  | alphaNum
  | alphaDash
  | email
deriving DecidableEq

namespace TextRule

def name : TextRule → String
  | alpha => "alpha"
  | alphaNum => "alpha_num"
  | alphaDash => "alpha_dash"
  | email => "email"

/-- The texts that a rule is for. Letters and digits are those of ASCII. -/
def Accepts : TextRule → String → Prop
  | alpha, text => ∀ c ∈ text.toList, c.isAlpha = true
  | alphaNum, text => ∀ c ∈ text.toList, c.isAlphanum = true
  | alphaDash, text => ∀ c ∈ text.toList, c.isAlphanum = true ∨ c = '_' ∨ c = '-'
  | email, text => '\n' ∉ text.toList ∧ ∃ u v w, u ≠ [] ∧ v ≠ [] ∧ w ≠ [] ∧
      text.toList = u ++ '@' :: (v ++ '.' :: w)

/-- The pattern that is registered under the name of a rule matches the texts that it is for. -/
theorem exists_shape (kind : TextRule) :
    ∃ message p, Registry.standard.find? kind.name = some (.check (.pattern message p)) ∧
      ∀ text, p.isMatch text = true ↔ kind.Accepts text := by
  cases kind with
  | alpha => exact ⟨_, _, rfl, fun _ => Pattern.isMatch_alpha⟩
  | alphaNum => exact ⟨_, _, rfl, fun _ => Pattern.isMatch_alphaNum⟩
  | alphaDash => exact ⟨_, _, rfl, fun _ => Pattern.isMatch_alphaDash⟩
  | email => exact ⟨_, _, rfl, fun _ => Pattern.isMatch_email⟩

end TextRule

theorem Rule.accepts?_pattern (env : Environment) (name : String) (p : Pattern) (wording : Wording)
    (field : String) (value : Value) (s : RunState) :
    (check name (.pattern p wording)).accepts? env field value s =
      some (p.isMatch value.display) :=
  accepts?_check_of_passIf rfl

namespace Compiler

variable {compiler : Compiler} {field : String} {message : Option Message} {entry : RuleEntry}

/-- The rules for letters, digits and addresses accept the texts that they are for and reject all
    others. -/
theorem compileEntry_pattern (hstandard : compiler.registry = .standard) {kind : TextRule}
    (hname : (splitRule entry.rule).1 = kind.name) (hparams : (entryParams entry).isNone = true) :
    ∃ rule, compiler.compileEntry field message entry = .ok rule ∧
      ∀ (env : Environment) (s : RunState) (text : String),
        (kind.Accepts text → rule.accepts? env field (.string text) s = some true) ∧
        (¬ kind.Accepts text → rule.accepts? env field (.string text) s = some false) := by
  obtain ⟨default, p, hshape, hp⟩ := kind.exists_shape
  rw [compileEntry_standard hstandard hname hshape, CheckShape.compile, RuleUse.requireNoParams,
    useOf, if_pos hparams]
  refine ⟨_, rfl, fun env s text => ?_⟩
  rw [Rule.accepts?_pattern, Value.display, ← hp, Option.some_inj, Option.some_inj,
    Bool.not_eq_true]
  exact ⟨id, id⟩

theorem compileEntry_pattern_email :
    let env : Environment := .empty
    let s : RunState := .ofRecord .empty
    ∃ rule, forNames.compileEntry "name" none (.ofName "email") = .ok rule ∧
      rule.accepts? env "name" (.string "a@@b.c.d") s = some true ∧
      rule.accepts? env "name" (.string "a@b.c\n") s = some false := by
  intro env s
  have hstandard : forNames.registry = .standard := rfl
  have hname : (splitRule (RuleEntry.ofName "email").rule).1 = TextRule.email.name := by rfl
  have hparams : (entryParams (.ofName "email")).isNone = true := by rfl
  obtain ⟨rule, hcompile, hruns⟩ :
      ∃ rule, forNames.compileEntry "name" none (.ofName "email") = .ok rule ∧ _ :=
    compileEntry_pattern hstandard hname hparams
  refine ⟨rule, hcompile, (hruns env s _).1 ?_, (hruns env s _).2 ?_⟩
  · exact ⟨by decide, ['a'], ['@', 'b'], ['c', '.', 'd'], by simp, by simp, by simp, by rfl⟩
  · rintro ⟨hline, -⟩
    exact hline (by decide)

end Compiler

end FieldRules
