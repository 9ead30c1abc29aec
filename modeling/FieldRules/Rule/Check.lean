import FieldRules.Chain.Basic
import FieldRules.Environment
import FieldRules.Message
import FieldRules.Pattern.Basic
import FieldRules.Rule.Membership
import FieldRules.Rule.Siblings
import FieldRules.Rule.Transform
import FieldRules.Unicode.Uppercase

namespace FieldRules

/-- The message of a rule for a field: its template, and the parameters that the template may
    name. -/
structure Wording where
  renderer : Renderer
  template : String
  extra : List (String × Value)

def Wording.render (wording : Wording) (value : Value) (record : Record) : String :=
  wording.renderer.render wording.template value record wording.extra

/-- The messages of a sized rule. A type of value without a template is not checked. -/
structure SizeWording where
  renderer : Renderer
  templates : List (TypeTag × String)
  extra : List (String × Value)

/-- Where a rule about other records finds them. -/
inductive Source where
  | given (members : List Instance)
  | lookup (timeout : Option Nat)

/-- What one rule does on one field, with all its parameters read. -/
inductive Check where
  | predicate (find : Value → Finding) (wording : Wording)
  | pattern (pattern : Pattern) (wording : Wording)
  | sized (isInvalid : Binary64 → Bool) (wording : SizeWording)
  | transform (transform : Transform) (field : String)
  | upper
  | siblings (check : SiblingCheck) (fields : List String) (wording : Wording)
  /-- The value is needed depending on whether the text of another field's value is a trigger. -/
  | trigger (field : String) (triggers : List String) (requiredWhenListed : Bool)
    (wording : Wording)
  | foreign (model field : String) (source : Source) (failOnMatch : Bool) (wording : Wording)
  | itemMatch (field : String) (expected : Value) (equal : Value → Value → Bool)
    (failOnMatch : Bool) (wording : Wording)
  | membership (members : Membership) (failWhenListed : Bool) (wording : Wording)
  | date (expression : Calendar.Expression) (isInvalid : Int → Int → Bool) (wording : Wording)
  | custom (name : String) (context : CustomContext)

namespace Check

def goOn : List Call := [.finish .next]

def replaceBy (value : Value) : List Call := [.update value, .finish .next]

def fail (message : String) : List Call := [.finish (.invalid message)]

/-- Goes on, or fails with the message of the rule. -/
def passIf (valid : Bool) (wording : Wording) (value : Value) (record : Record) : List Call :=
  if valid then goOn else fail (wording.render value record)

def findingCalls (finding : Finding) (wording : Wording) (value : Value) (record : Record) :
    List Call :=
  match finding with
  | .valid => goOn
  | .replace replacement => replaceBy replacement
  | .invalid => fail (wording.render value record)

/-- The size of the value counts as one more parameter of the message. -/
def sizedCalls (isInvalid : Binary64 → Bool) (wording : SizeWording) (value : Value)
    (record : Record) : List Call :=
  match value.tag?.bind (fun tag => wording.templates.lookup tag), value.size? with
  | some template, some size =>
    if isInvalid size then
      let extra := wording.extra ++ [("$size", Value.ofBinary64 size)]
      fail (wording.renderer.render template value record extra)
    else goOn
  | _, _ => goOn

/-- A value that is no date is left alone. A date becomes its time, in messages too. -/
def dateCalls (date : Option Int) (isInvalid : Int → Int → Bool) (wording : Wording) (value : Value)
    (record : Record) : List Call :=
  match value.time? with
  | none => goOn
  | some time =>
    let failed :=
      match date with
      | some date => isInvalid time date
      | none => false
    .update (.int time) :: passIf (!failed) wording (.int time) record

/-- Waits for the decision of a custom rule. -/
def awaitDecision : CustomDecision → Job RunState (List Call)
  | .valid => .done goOn
  | .invalid message => .done (fail message)
  | .deferred delay decision => .pause delay (awaitDecision decision)

/-- The calls of a rule about other records, once they have been found or not. Null needs no other
    record, and without a collection the value passes. -/
def foreignCalls (env : Environment) (s : RunState) (field : String) (failOnMatch : Bool)
    (wording : Wording) (value : Value) : Option (List Instance) → List Call
  | none => goOn
  | some members =>
    passIf (env.hasMatch s field value members != failOnMatch) wording value s.record

def act (env : Environment) (check : Check) (turn : Turn) : Job RunState (List Call) :=
  let value := turn.value
  .observe fun s =>
    match check with
    | predicate find wording => .done (findingCalls (find value) wording value s.record)
    | pattern p wording => .done (passIf (p.isMatch value.display) wording value s.record)
    | sized isInvalid wording => .done (sizedCalls isInvalid wording value s.record)
    | transform t field =>
      let calls :=
        match t.replacement? value with
        | some replacement => replaceBy replacement
        | none => goOn
      match t.stored? value with
      | some stored => .modify (RunState.setField field stored) (.done calls)
      | none => .done calls
    | upper =>
      match value with
      | .string text => .done (replaceBy (.string (Unicode.upper text)))
      | _ => .done [.finish .stop]
    | siblings check fields wording =>
      match check.decide value (fields.map s.record.get) (fields.any s.hasFailed) with
      | .next => .done goOn
      | .stop => .done [.finish .stop]
      | .invalid => .done (fail (wording.render value s.record))
    | trigger field triggers requiredWhenListed wording =>
      let listed := triggers.contains (s.record.get field).display
      .done (passIf (!(listed == requiredWhenListed && value.isEmpty)) wording value s.record)
    | foreign model field source failOnMatch wording =>
      if value.isNull then .done goOn
      else
        match source with
        | .given members =>
          .done (foreignCalls env s field failOnMatch wording value (some members))
        | .lookup timeout =>
          (env.lookup timeout ⟨[], turn.field, turn.rule, model, field⟩).bind fun members =>
            .observe fun s => .done (foreignCalls env s field failOnMatch wording value members)
    | itemMatch field expected equal failOnMatch wording =>
      let items := value.array?.getD []
      let matched := items.any fun item => (item.get? field).any (equal expected)
      .done (passIf (matched != failOnMatch) wording value s.record)
    | membership members failWhenListed wording =>
      .done (passIf (members.contains value != failWhenListed) wording value s.record)
    | date expression isInvalid wording =>
      .done (dateCalls (expression.eval env.now s.record) isInvalid wording value s.record)
    | custom name context => awaitDecision (env.decideCustom name value context)

end Check

end FieldRules
