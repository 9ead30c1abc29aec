import FieldRules.Rule.Branch
import FieldRules.Rule.Check

namespace FieldRules

/-- A compiled rule of a field: a check, or a branch on other rules. -/
inductive Rule where
  | check (name : String) (body : Check)
  /-- A branch of the field `own` whose nested rules judge the field `tested`. -/
  | branch (name : String) (gate : Branch) (own tested : String) (nested : List Rule)

namespace Rule

def name : Rule → String
  | check name _ => name
  | branch name _ _ _ _ => name

mutual

/-- The turn of a rule. The nested rules of a branch each run in a chain of their own, all at once
    and on one value: the working value of the chain if the branch tests its own field, else the
    value that the tested field has before any of them starts. -/
def act (env : Environment) : Rule → Turn → Job RunState (List Call)
  | check _ body, turn => body.act env turn
  | branch name gate own tested nested, turn =>
    .observe fun s =>
      let value := if tested = own then turn.value else s.record.get tested
      (Job.all (trials (env.within [(own, name)]) tested value nested)).map fun outcomes =>
        let invalid := outcomes.countP (!·.valid)
        [.finish (if gate.stops invalid outcomes.length then .stop else .next)]

/-- The chains of the nested rules of a branch. -/
def trials (env : Environment) (field : String) (value : Value) :
    List Rule → List (Job RunState Outcome)
  | [] => []
  | rule :: rules =>
    Chain.runOn ⟨field, [⟨rule.name, act env rule⟩]⟩ value :: trials env field value rules

end

def link (env : Environment) (rule : Rule) : Link RunState := ⟨rule.name, rule.act env⟩

end Rule

/-- The chain of a field's rules. -/
def fieldChain (env : Environment) (field : String) (rules : List Rule) : Chain RunState :=
  ⟨field, rules.map (Rule.link env)⟩

/-- Runs the rules of a field on the given value, or else on the one in the record. -/
def startRules (env : Environment) (field : String) (rules : List Rule) (value : Option Value) :
    Job RunState Outcome :=
  (fieldChain env field rules).start (fun s => s.record.get) value

end FieldRules
