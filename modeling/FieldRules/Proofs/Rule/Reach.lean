import FieldRules.Proofs.Chain.Through
import FieldRules.Rule.Basic

namespace FieldRules.Rule

/-- The rules at the front let a chain that starts in the state `s` go on to the rule after them, with
    a working value that may have been replaced, in the state `t`. -/
def Reaches (env : Environment) (field : String) (front : List Rule) (start : Option Value)
    (s : RunState) (value : Value) (updated : Bool) (t : RunState) : Prop :=
  (Chain.through field (front.map (link env)) (start.getD (s.record.get field)) false).alone s =
    some (.ok (value, updated), t)

variable {env : Environment} {field : String} {front : List Rule} {start : Option Value}
  {s t : RunState} {value : Value} {updated : Bool}

/-- From where the first rules of a chain have left off, it ends as the rules after them do. -/
theorem Reaches.alone_append (hreaches : Reaches env field front start s value updated t)
    (back : List Rule) :
    (startRules env field (front ++ back) start).alone s =
      (Chain.runLinks field (back.map (link env)) value updated).alone t := by
  have happend := Chain.alone_runLinks_append hreaches (back.map (link env))
  rwa [← List.map_append] at happend

end FieldRules.Rule
