import FieldRules.Proofs.Job.AtOnce
import FieldRules.Rule.Basic

namespace FieldRules

namespace Rule

mutual

/-- The turn of a rule that runs the nested rules of a branch one after another. -/
def actInTurn (env : Environment) : Rule → Turn → Job RunState (List Call)
  | check _ body, turn => body.act env turn
  | branch name gate own tested nested, turn =>
    .observe fun s =>
      let value := if tested = own then turn.value else s.record.get tested
      (Job.inTurn (trialsInTurn (env.within [(own, name)]) tested value nested)).map fun outcomes =>
        let invalid := outcomes.countP (!·.valid)
        [.finish (if gate.stops invalid outcomes.length then .stop else .next)]

def trialsInTurn (env : Environment) (field : String) (value : Value) :
    List Rule → List (Job RunState Outcome)
  | [] => []
  | rule :: rules =>
    Chain.runOn ⟨field, [⟨rule.name, actInTurn env rule⟩]⟩ value ::
      trialsInTurn env field value rules

end

def linkInTurn (env : Environment) (rule : Rule) : Link RunState := ⟨rule.name, rule.actInTurn env⟩

end Rule

/-- The chain of a field's rules, in which nothing runs at once with anything else. -/
def fieldChainInTurn (env : Environment) (field : String) (rules : List Rule) : Chain RunState :=
  ⟨field, rules.map (Rule.linkInTurn env)⟩

/-- Two links of one name that do the same as long as they come to no wait. -/
def Link.SameAtOnce {σ : Type} (link link' : Link σ) : Prop :=
  link.rule = link'.rule ∧ ∀ turn, (link.act turn).atOnce = (link'.act turn).atOnce

theorem Chain.atOnce_runLinks {σ : Type} {links links' : List (Link σ)}
    (hlinks : List.Forall₂ Link.SameAtOnce links links')
    (field : String) (value : Value) (updated : Bool) :
    (runLinks field links value updated).atOnce =
      (runLinks field links' value updated).atOnce := by
  induction hlinks generalizing value updated with
  | nil => rfl
  | cons hlink _ ih =>
    obtain ⟨hrule, hact⟩ := hlink
    funext s
    rw [runLinks, runLinks, Job.atOnce_bind, Job.atOnce_bind, ← hrule, hact]
    congr 1
    funext r
    obtain ⟨calls, t⟩ := r
    dsimp only
    obtain ⟨update, verdict⟩ := Call.settle calls
    cases verdict with
    | next => exact congrFun (ih _ _) t
    | stop => rfl
    | invalid message => rfl

namespace Rule

mutual

/-- Without waits, a rule does the same if its nested rules run one after another: by induction on
    the rule, with the nested rules of a branch beside it. -/
theorem atOnce_act (env : Environment) :
    ∀ (rule : Rule) (turn : Turn), (rule.act env turn).atOnce = (rule.actInTurn env turn).atOnce
  | check _ body, turn => by rw [act, actInTurn]
  | branch name gate own tested nested, turn => by
    funext s
    rw [act, actInTurn]
    simp only [Job.atOnce, Job.atOnce_map,
      Job.atOnce_all_eq_inTurn (forall_trials (env.within [(own, name)]) nested tested _)]

theorem forall_trials (env : Environment) :
    ∀ (rules : List Rule) (field : String) (value : Value),
      List.Forall₂ (fun job job' => job.atOnce = job'.atOnce) (trials env field value rules)
        (trialsInTurn env field value rules)
  | [], _, _ => by
    rw [trials, trialsInTurn]
    exact .nil
  | rule :: rules, field, value => by
    rw [trials, trialsInTurn]
    refine .cons ?_ (forall_trials env rules field value)
    have hlink : (rule.link env).SameAtOnce (rule.linkInTurn env) := ⟨rfl, atOnce_act env rule⟩
    exact Chain.atOnce_runLinks (.cons hlink .nil) field value false

end

end Rule

theorem atOnce_fieldChain (env : Environment) (field : String) (rules : List Rule)
    (current : RunState → String → Value) (value : Option Value) :
    ((fieldChain env field rules).start current value).atOnce =
      ((fieldChainInTurn env field rules).start current value).atOnce := by
  have hlinks : List.Forall₂ Link.SameAtOnce (rules.map (Rule.link env))
      (rules.map (Rule.linkInTurn env)) := by
    rw [List.forall₂_map_left_iff, List.forall₂_map_right_iff, List.forall₂_same]
    exact fun rule _ => ⟨rfl, rule.atOnce_act env⟩
  funext s
  exact congrFun (Chain.atOnce_runLinks hlinks field _ false) s

end FieldRules
