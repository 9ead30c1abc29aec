import FieldRules.Proofs.Rule.Judge
import Mathlib.Logic.Function.Iterate

namespace FieldRules.Rule

/-- A rule that finds one value in its turn leaves another one in its place and goes on, and it
    changes nothing else. -/
def Rewrites (rule : Rule) (env : Environment) (field : String) (value value' : Value)
    (s : RunState) : Prop :=
  (rule.act env ⟨field, rule.name, .running, value⟩).alone s = some (Check.replaceBy value', s)

variable {rule : Rule} {env : Environment} {name field own : String} {value value' : Value}
  {s : RunState}

theorem rewrites_transform {transform : Transform} (hstored : transform.stored? value = none)
    (hvalue : transform.replacement? value = some value') :
    (check name (.transform transform own)).Rewrites env field value value' s := by
  rw [Rewrites, act]
  simp only [Check.act, Job.alone, hstored, hvalue]

theorem rewrites_predicate {find : Value → Finding} {wording : Wording}
    (hvalue : find value = .replace value') :
    (check name (.predicate find wording)).Rewrites env field value value' s := by
  rw [Rewrites, act]
  simp only [Check.act, Job.alone, hvalue, Check.findingCalls]

/-- The links after the rule go on with the value that it has left. -/
theorem Rewrites.alone_runLinks (hrule : rule.Rewrites env field value value' s)
    (links : List (Link RunState)) (updated : Bool) :
    (Chain.runLinks field (rule.link env :: links) value updated).alone s =
      (Chain.runLinks field links value' true).alone s := by
  rw [Chain.runLinks, Job.alone_bind, link, hrule]
  cases updated <;> rfl

theorem Rewrites.judge (hrule : rule.Rewrites env field value value' s) :
    rule.judge env field value s = some ⟨field, value', true, none, .ended⟩ := by
  rw [Rule.judge, Chain.runOn, Job.ending, hrule.alone_runLinks]
  rfl

/-- Two rules in a row, of which the second finds what the first has left. -/
theorem Rewrites.alone_pair {rule' : Rule} {value'' : Value}
    (hrule : rule.Rewrites env field value value' s)
    (hrule' : rule'.Rewrites env field value' value'' s) :
    (startRules env field [rule, rule'] (some value)).alone s =
      some (⟨field, value'', true, none, .ended⟩, s) := by
  have hlinks : (Chain.runLinks field [rule.link env, rule'.link env] value false).alone s =
      some (⟨field, value'', true, none, .ended⟩, s) := by
    rw [hrule.alone_runLinks, hrule'.alone_runLinks]
    rfl
  exact hlinks

/-- A rule that rewrites whatever value of a kind it finds, several times in a row: by induction on
    how often, as each time leaves a value of this kind for the next one. -/
theorem alone_replicate {α : Type} {f : α → α} {shown : α → Value}
    (hrule : ∀ a, rule.Rewrites env field (shown a) (shown (f a)) s) (n : Nat) (a : α) :
    (startRules env field (List.replicate n rule) (some (shown a))).alone s =
      some (⟨field, shown (f^[n] a), decide (0 < n), none, .ended⟩, s) := by
  have hlinks : ∀ n a updated,
      (Chain.runLinks field ((List.replicate n rule).map (link env)) (shown a) updated).alone s =
        some (⟨field, shown (f^[n] a), updated || decide (0 < n), none, .ended⟩, s) := by
    intro n
    induction n with
    | zero => simp [Chain.runLinks, Job.alone]
    | succ n ih =>
      intro a updated
      rw [List.replicate_succ, List.map_cons, (hrule a).alone_runLinks, ih (f a) true]
      simp
  have hwhole := hlinks n a false
  rwa [Bool.false_or] at hwhole

end FieldRules.Rule
