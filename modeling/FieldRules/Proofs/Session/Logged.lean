import FieldRules.Proofs.Chain.Shadow
import FieldRules.Proofs.Session.Validate

namespace FieldRules

/-- Something that happens while a record is validated. -/
inductive Mark where
  /-- The record is told about the run, whether or not it listens. -/
  | hook (hook : Hook)
  /-- A link of a field's chain takes its turn. -/
  | turn (field rule : String)
  /-- A field's chain has ended. -/
  | ended (outcome : Outcome)

/-- The field whose chain something happens in. -/
def Mark.field? : Mark → Option String
  | hook _ => none
  | turn field _ => some field
  | ended outcome => some outcome.field

/-- What has happened in the chain of a field. -/
def marksOf (field : String) (log : List Mark) : List Mark :=
  log.filter fun mark => mark.field? == some field

section

variable {field : String} {log : List Mark} {mark : Mark}

theorem marksOf_append (field : String) (log log' : List Mark) :
    marksOf field (log ++ log') = marksOf field log ++ marksOf field log' :=
  List.filter_append ..

theorem marksOf_append_singleton (hmark : mark.field? = some field) :
    marksOf field (log ++ [mark]) = marksOf field log ++ [mark] := by
  rw [marksOf_append]
  simp [marksOf, hmark]

theorem marksOf_append_of_ne {other : String} (hmark : mark.field? = some other)
    (hne : other ≠ field) : marksOf field (log ++ [mark]) = marksOf field log := by
  rw [marksOf_append]
  simp [marksOf, hmark, hne]

end

/-- A state, and what has happened so far. -/
structure Logged (σ : Type) where
  state : σ
  log : List Mark

namespace Logged

variable {σ : Type}

def note (mark : Mark) (l : Logged σ) : Logged σ := { l with log := l.log ++ [mark] }

def change (f : σ → σ) (l : Logged σ) : Logged σ := { l with state := f l.state }

/-- Notes the end of a chain, and its failure in the same step: at any time the log and the noted
    failures tell the same. -/
def conclude (outcome : Outcome) (l : Logged RunState) : Logged RunState :=
  ⟨l.state.noteOutcome outcome, l.log ++ [.ended outcome]⟩

end Logged

/-- A link that notes its turns. -/
def Link.logged {σ : Type} (link : Link σ) : Link (Logged σ) where
  rule := link.rule
  act turn :=
    .modify (Logged.note (.turn turn.field turn.rule))
      ((link.act turn).zoom Logged.state Logged.change)

def Chain.logged {σ : Type} (chain : Chain σ) : Chain (Logged σ) :=
  ⟨chain.field, chain.links.map Link.logged⟩

/-- Runs the rules of a field as `startRules` does, and notes the turns of its links. -/
def startRulesLogged (env : Environment) (field : String) (rules : List Rule) :
    Job (Logged RunState) Outcome :=
  (fieldChain env field rules).logged.start (fun l => l.state.record.get) none

namespace Validator

/-- Runs the rules of all fields as `run` does, and notes the turns of their links and the ends of
    their chains. -/
def runLogged (validator : Validator) (env : Environment) : Job (Logged RunState) (List Outcome) :=
  validator.join Logged.conclude (startRulesLogged env)

/-- Validates a record as `validate` does, and notes what it is told beside what happens in its
    chains. -/
def validateLogged (validator : Validator) (env : Environment) :
    Job (Logged RunState × Memory) Report :=
  conduct (fun hook => Prod.map (Logged.note (.hook hook)) (env.tell hook))
    ((validator.runLogged env).zoom Prod.fst fun change => Prod.map change id)

end Validator

/-- Validates all fields as `validateFor` does, and gives what has happened meanwhile, in order. -/
def Session.validateLogged (session : Session) (patience : Nat) :
    Option Report × Session × List Mark :=
  let run := (session.validator.validateLogged session.env).run patience
    (⟨session.atStart, []⟩, session.memory)
  (run.1, session.after run.2.1.state run.2.2, run.2.1.log)

theorem shadows_startRulesLogged (env : Environment) (field : String) (rules : List Rule) :
    (startRulesLogged env field rules).Shadows Logged.state (startRules env field rules none) := by
  have hlinks : List.Forall₂ (Link.Shadows Logged.state) (fieldChain env field rules).logged.links
      (fieldChain env field rules).links := by
    rw [Chain.logged, List.forall₂_map_left_iff, List.forall₂_same]
    exact fun link _ => ⟨rfl, fun turn => .note (fun l => rfl) (Job.shadows_zoom (fun f l => rfl) _)⟩
  exact .observe fun l => Chain.shadows_runLinks hlinks field _ false

theorem Validator.shadows_runLogged (validator : Validator) (env : Environment) :
    (validator.runLogged env).Shadows Logged.state (validator.run env) := by
  refine validator.shadows_join ?_ (shadows_startRulesLogged env)
  exact fun outcome l => rfl

/-- Keeping a log of a validation adds no step to it but the notes, and changes the order of none. -/
theorem Validator.shadows_validateLogged (validator : Validator) (env : Environment) :
    (validator.validateLogged env).Shadows (Prod.map Logged.state id) (validator.validate env) :=
  shadows_conduct (fun _ _ => rfl) (validator.shadows_runLogged env).zoom_fst

namespace Session

/-- What the record is told stands around what happens in the chains. -/
theorem validateLogged_eq (session : Session) (patience : Nat) :
    session.validateLogged patience =
      let started := session.env.tell .start session.memory
      match (session.validator.runLogged session.env).run patience
        ⟨session.atStart, [.hook .start]⟩ with
      | (none, l) => (none, session.after l.state started, l.log)
      | (some outcomes, l) =>
        let report := Report.ofOutcomes outcomes
        (some report, session.after l.state (session.env.tell (.ofReport report) started),
          l.log ++ [.hook (.ofReport report)]) := by
  rw [validateLogged, Validator.validateLogged, Validator.run_conduct, Prod.map_apply,
    Job.run_zoom_fst, Logged.note, List.nil_append]
  rcases (session.validator.runLogged session.env).run patience _ with ⟨_ | outcomes, l⟩ <;> rfl

/-- Keeping a log changes neither the report nor the session. -/
theorem validateFor_eq_validateLogged (session : Session) (patience : Nat) :
    session.validateFor patience =
      ((session.validateLogged patience).1, (session.validateLogged patience).2.1) := by
  have hshadow := session.validator.shadows_validateLogged session.env
  obtain ⟨hresult, hstate⟩ :=
    hshadow.run_eq patience (⟨session.atStart, []⟩, session.memory)
  exact Prod.ext hresult.symm
    (congrArg (fun left : RunState × Memory => session.after left.1 left.2) hstate.symm)

end Session

end FieldRules
