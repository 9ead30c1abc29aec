import FieldRules.Chain.Basic
import FieldRules.Record

namespace FieldRules

/-- A step of a link that is written out beforehand. -/
inductive ScriptStep where
  | call (c : Call)
  | set (field : String) (value : Value)
  | sleep (ms : Nat)

/-- What a scripted link has seen in its turn. -/
structure ScriptReport where
  turn : Turn
  /-- For each step whether the link had given its verdict after it. -/
  finished : List Bool
  /-- Whether the field had already failed in the run. -/
  failed : Bool

/-- The state that scripted links share: the record, the fields that have failed, and the reports of
    the links, latest first. -/
structure ScriptState where
  record : Record
  failed : List String
  reports : List ScriptReport

namespace ScriptStep

def isVerdict : ScriptStep → Bool
  | call (.finish _) => true
  | _ => false

/-- For each step whether a verdict was given by then. -/
def finishedAfter (finished : Bool) : List ScriptStep → List Bool
  | [] => []
  | step :: steps =>
    let finished := finished || step.isVerdict
    finished :: finishedAfter finished steps

/-- Goes through the steps and ends with the calls among them. -/
def play : List ScriptStep → Job ScriptState (List Call)
  | [] => .done []
  | call c :: steps => (play steps).map (c :: ·)
  | set field value :: steps =>
    .modify (fun s => { s with record := s.record.set field value }) (play steps)
  | sleep ms :: steps => .pause ms (play steps)

end ScriptStep

/-- A link that goes through given steps and then reports on its turn. -/
def Link.scripted (rule : String) (steps : List ScriptStep) : Link ScriptState where
  rule := rule
  act turn :=
    .observe fun _ => (ScriptStep.play steps).bind fun calls =>
      .modify
        (fun s =>
          let report : ScriptReport :=
            ⟨turn, ScriptStep.finishedAfter false steps, s.failed.contains turn.field⟩
          { s with reports := report :: s.reports })
        (.done calls)

end FieldRules
