import FieldRules.Value.Basic

namespace FieldRules

/-- A condition on a value and the values of other fields. -/
inductive SiblingCheck where
  /-- Every sibling equals the value. -/
  | confirmed
  /-- Some sibling differs from the value. -/
  | different
  /-- No sibling has failed in this run; otherwise the remaining rules are skipped. -/
  | ifValid
  /-- The value is needed if some sibling is given. -/
  | requiredWith
  /-- The value is needed if every sibling is given. -/
  | requiredWithAll
  /-- The value is needed if some sibling is missing. -/
  | requiredWithout
  /-- The value is needed if every sibling is missing. -/
  | requiredWithoutAll
deriving DecidableEq

/-- The decision of a rule about siblings. -/
inductive SiblingDecision where
  | next
  | stop
  | invalid
deriving DecidableEq

namespace SiblingCheck

def decide (check : SiblingCheck) (value : Value) (siblings : List Value) (someFailed : Bool) :
    SiblingDecision :=
  let requiredIf (needed : Bool) : SiblingDecision :=
    if needed && value.isEmpty then .invalid else .next
  match check with
  | confirmed => if siblings.all value.equal then .next else .invalid
  | different => if siblings.any (!value.equal ·) then .next else .invalid
  | ifValid => if someFailed then .stop else .next
  | requiredWith => requiredIf (siblings.any (!·.isEmpty))
  | requiredWithAll => requiredIf (siblings.all (!·.isEmpty))
  | requiredWithout => requiredIf (siblings.any (·.isEmpty))
  | requiredWithoutAll => requiredIf (siblings.all (·.isEmpty))

end SiblingCheck

end FieldRules
