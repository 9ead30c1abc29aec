import FieldRules.Proofs.Chain.Shadow
import FieldRules.Proofs.Rule.Bounded
import FieldRules.Validator

namespace FieldRules

/-- A change of the state in the turn of a link, with the record before and after it. -/
structure Step where
  turn : Turn
  before : Record
  after : Record

/-- The state of a run, and the steps that its links have taken, in order. -/
structure Traced where
  state : RunState
  steps : List Step

namespace Traced

def record (t : Traced) : Record := t.state.record

/-- Changes the state, but not in the turn of any link. -/
def change (f : RunState → RunState) (t : Traced) : Traced := { t with state := f t.state }

/-- Changes the state in the turn of a link. -/
def step (turn : Turn) (f : RunState → RunState) (t : Traced) : Traced :=
  ⟨f t.state, t.steps ++ [⟨turn, t.record, (f t.state).record⟩]⟩

end Traced

/-- What a check does in its turn, with its steps traced. -/
def Check.actTraced (env : Environment) (check : Check) (turn : Turn) : Job Traced (List Call) :=
  (check.act env turn).zoom Traced.state (Traced.step turn)

/-- Runs the rules of a field as `startRules` does, and traces the steps of all links, nested ones
    included. -/
def startRulesTraced (env : Environment) (field : String) (rules : List Rule)
    (value : Option Value) : Job Traced Outcome :=
  Chain.start ⟨field, rules.map (Rule.linkBy Traced.record Check.actTraced env)⟩
    (fun t => t.record.get) value

/-- Runs the rules of all fields as `run` does, and traces the steps of all links. -/
def Validator.runTraced (validator : Validator) (env : Environment) : Job Traced (List Outcome) :=
  validator.join (fun outcome => Traced.change (RunState.noteOutcome outcome)) fun field rules =>
    startRulesTraced env field rules none

theorem Check.shadows_actTraced (env : Environment) (check : Check) (turn : Turn) :
    (check.actTraced env turn).Shadows Traced.state (check.act env turn) :=
  Job.shadows_zoom (fun _ _ => rfl) _

namespace Rule

section

variable {σ τ : Type} {view : τ → σ} {read' : τ → Record} {read : σ → Record}
  {acts' : Environment → Check → Turn → Job τ (List Call)}
  {acts : Environment → Check → Turn → Job σ (List Call)}

mutual

/-- Rules shadow each other if their checks do. -/
theorem shadows_actBy (hread : ∀ t, read' t = read (view t))
    (hacts : ∀ env check turn, (acts' env check turn).Shadows view (acts env check turn))
    (env : Environment) :
    ∀ (rule : Rule) (turn : Turn),
      (rule.actBy read' acts' env turn).Shadows view (rule.actBy read acts env turn)
  | check _ body, turn => by
    rw [actBy, actBy]
    exact hacts env body turn
  | branch name gate own tested nested, turn => by
    rw [actBy, actBy]
    refine .observe fun t => ?_
    rw [hread]
    exact (Job.Shadows.all (shadows_trialsBy hread hacts _ nested tested _)).map _

theorem shadows_trialsBy (hread : ∀ t, read' t = read (view t))
    (hacts : ∀ env check turn, (acts' env check turn).Shadows view (acts env check turn))
    (env : Environment) :
    ∀ (rules : List Rule) (field : String) (value : Value),
      List.Forall₂ (Job.Shadows view) (trialsBy read' acts' env field value rules)
        (trialsBy read acts env field value rules)
  | [], _, _ => by
    rw [trialsBy, trialsBy]
    exact .nil
  | rule :: rules, field, value => by
    rw [trialsBy, trialsBy]
    refine .cons ?_ (shadows_trialsBy hread hacts env rules field value)
    have hlink : Link.Shadows view (rule.linkBy read' acts' env) (rule.linkBy read acts env) :=
      ⟨rfl, shadows_actBy hread hacts env rule⟩
    exact Chain.shadows_runLinks (.cons hlink .nil) field value false

end

end

end Rule

theorem shadows_startRulesTraced (env : Environment) (field : String) (rules : List Rule)
    (value : Option Value) :
    (startRulesTraced env field rules value).Shadows Traced.state
      (startRules env field rules value) := by
  have hread : ∀ t : Traced, t.record = t.state.record := fun _ => rfl
  have hlinks : List.Forall₂ (Link.Shadows Traced.state)
      (rules.map (Rule.linkBy Traced.record Check.actTraced env))
      (rules.map (Rule.link env)) := by
    rw [Rule.link_eq_linkBy, List.forall₂_map_left_iff, List.forall₂_map_right_iff,
      List.forall₂_same]
    exact fun rule _ => ⟨rfl, Rule.shadows_actBy hread Check.shadows_actTraced env rule⟩
  exact .observe fun t => Chain.shadows_runLinks hlinks field _ false

theorem Validator.shadows_runTraced (validator : Validator) (env : Environment) :
    (validator.runTraced env).Shadows Traced.state (validator.run env) := by
  refine validator.shadows_join ?_ fun field rules =>
    shadows_startRulesTraced env field rules none
  exact fun outcome t => rfl

section

variable {allowed : (RunState → RunState) → Prop} {allowed' : (Traced → Traced) → Prop}

theorem Job.bounded_traced {ν α : Type} {view : RunState → ν} {turn : Turn} {job : Job RunState α}
    (hjob : job.Bounded view allowed)
    (hallowed : ∀ f, allowed f → allowed' (Traced.step turn f)) :
    (job.zoom Traced.state (Traced.step turn)).Bounded id allowed' := by
  induction job with
  | done a => trivial
  | observe next ih =>
    refine ⟨fun t u hview => ?_, fun t => ih t.state (hjob.2 t.state)⟩
    rw [id, id] at hview
    rw [hview]
  | modify f next ih => exact ⟨hallowed f hjob.1, ih hjob.2⟩
  | wait ms next ih => exact ih hjob
  | never => trivial

/-- If the steps of all checks are allowed where they stand, a traced chain takes none but allowed
    steps. -/
theorem bounded_startRulesTraced {env : Environment} {field : String} {rules : List Rule}
    (hsites : ∀ site ∈ Rule.allSites field rules, ∀ branches value,
      (Check.actTraced (env.within branches) site.check (site.turn value)).Bounded id allowed')
    (value : Option Value) : (startRulesTraced env field rules value).Bounded id allowed' := by
  refine ⟨fun t u hview => ?_, fun t => ?_⟩
  · rw [id, id] at hview
    rw [hview]
  · refine (Job.bounded_within id allowed').runLinksBy (fun t u hview => ?_) hsites _ false
    exact congrArg Traced.record hview

theorem Validator.bounded_runTraced {validator : Validator} {env : Environment}
    (hsites : ∀ entry ∈ validator.fields, ∀ site ∈ Rule.allSites entry.1 entry.2,
      ∀ branches value,
      (Check.actTraced (env.within branches) site.check (site.turn value)).Bounded id allowed')
    (hnote : ∀ outcome, allowed' (Traced.change (RunState.noteOutcome outcome))) :
    (validator.runTraced env).Bounded id allowed' := by
  refine .all fun job hjob => ?_
  obtain ⟨entry, hentry, rfl⟩ := List.mem_map.mp hjob
  exact (bounded_startRulesTraced (hsites entry hentry) none).bind fun outcome =>
    ⟨hnote outcome, trivial⟩

end

end FieldRules
