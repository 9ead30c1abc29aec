import FieldRules.Proofs.Job.Ending
import FieldRules.Rule.Basic

namespace FieldRules

/-- Whether a verdict leaves the value valid. -/
def Verdict.accepts : Verdict → Bool
  | .next | .stop => true
  | .invalid _ => false

namespace Check

theorem settle_passIf (valid : Bool) (wording : Wording) (value : Value) (record : Record) :
    Call.settle (passIf valid wording value record) =
      (none, if valid then .next else .invalid (wording.render value record)) := by
  unfold passIf
  cases valid <;> rfl

end Check

namespace Rule

/-- How a rule judges a value of a field alone, in a chain that has no other links. There is no
    outcome if the rule waits without end. -/
def judge (rule : Rule) (env : Environment) (field : String) (value : Value) (s : RunState) :
    Option Outcome :=
  (Chain.runOn ⟨field, [rule.link env]⟩ value).ending s

/-- Whether a rule accepts a value of a field, if it comes to a decision. -/
def accepts? (rule : Rule) (env : Environment) (field : String) (value : Value) (s : RunState) :
    Option Bool :=
  (rule.judge env field value s).map Outcome.valid

variable {rule : Rule} {env : Environment} {field : String} {value : Value} {s t : RunState}

/-- A rule accepts a value by the verdict that the calls of its turn settle on. -/
theorem accepts?_eq : rule.accepts? env field value s =
    ((rule.act env ⟨field, rule.name, .running, value⟩).ending s).map fun calls =>
      (Call.settle calls).2.accepts := by
  unfold accepts? judge Chain.runOn Job.ending
  rw [Chain.runLinks, Job.alone_bind, link]
  cases (rule.act env ⟨field, rule.name, .running, value⟩).alone s with
  | none => rfl
  | some r =>
    obtain ⟨calls, t⟩ := r
    rw [Option.bind_some, Option.map_some, Option.map_some]
    dsimp only
    cases (Call.settle calls).2 <;> rfl

theorem accepts?_of_alone {calls : List Call}
    (hact : (rule.act env ⟨field, rule.name, .running, value⟩).alone s = some (calls, t)) :
    rule.accepts? env field value s = some (Call.settle calls).2.accepts := by
  rw [accepts?_eq, Job.ending_of_alone hact, Option.map_some]

theorem accepts?_of_passIf {valid : Bool} {wording : Wording} {shown : Value} {record : Record}
    (hact : (rule.act env ⟨field, rule.name, .running, value⟩).alone s =
      some (Check.passIf valid wording shown record, t)) :
    rule.accepts? env field value s = some valid := by
  rw [accepts?_of_alone hact, Check.settle_passIf]
  cases valid <;> rfl

theorem accepts?_check_of_passIf {name : String} {body : Check} {valid : Bool} {wording : Wording}
    {shown : Value} {record : Record}
    (hact : (body.act env ⟨field, name, .running, value⟩).alone s =
      some (Check.passIf valid wording shown record, t)) :
    (check name body).accepts? env field value s = some valid := by
  have hturn : ((check name body).act env ⟨field, name, .running, value⟩).alone s =
      some (Check.passIf valid wording shown record, t) := by
    rw [act]
    exact hact
  exact accepts?_of_passIf hturn

theorem accepts?_membership (env : Environment) (name : String) (members : Membership)
    (failWhenListed : Bool) (wording : Wording) (field : String) (value : Value) (s : RunState) :
    (check name (.membership members failWhenListed wording)).accepts? env field value s =
      some (members.contains value != failWhenListed) :=
  accepts?_check_of_passIf rfl

/-- Rules of one name that end their turns alike judge alike. -/
theorem judge_congr {rule' : Rule} {env' : Environment} (hname : rule'.name = rule.name)
    (hact : (rule'.act env' ⟨field, rule.name, .running, value⟩).ending s =
      (rule.act env ⟨field, rule.name, .running, value⟩).ending s) :
    rule'.judge env' field value s = rule.judge env field value s := by
  unfold judge Chain.runOn
  unfold Job.ending at hact ⊢
  rw [Chain.runLinks, Chain.runLinks, Job.alone_bind, Job.alone_bind, link, link, hname]
  dsimp only
  cases hends : (rule.act env ⟨field, rule.name, .running, value⟩).alone s with
  | none =>
    rw [hends, Option.map_none, Option.map_eq_none_iff] at hact
    rw [hact]
  | some r =>
    obtain ⟨calls, t⟩ := r
    rw [hends, Option.map_some, Option.map_eq_some_iff] at hact
    obtain ⟨⟨_, t'⟩, hends', rfl⟩ := hact
    rw [hends', Option.bind_some, Option.bind_some]
    dsimp only
    cases (Call.settle _).2 <;> rfl

/-- The nested rules of a branch run as each of them judges alone, all on one value. -/
theorem trials_eq_map (env : Environment) (field : String) (value : Value) (rules : List Rule) :
    trials env field value rules =
      rules.map fun rule => Chain.runOn ⟨field, [rule.link env]⟩ value := by
  induction rules with
  | nil => rw [trials, List.map_nil]
  | cons rule rules ih => rw [trials, ih, List.map_cons, link]

end Rule

end FieldRules
