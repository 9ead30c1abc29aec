import FieldRules.Proofs.Rule.Gate
import FieldRules.Proofs.Rule.Judge

namespace FieldRules

namespace Branch

/-- Whether a branch lets its chain go on, by whether each of its nested rules accepts. -/
def opens : Branch → List Bool → Bool
  | .all, accepted => accepted.all id
  | .any, accepted => accepted.any id
  | .notAll, accepted => !accepted.any id

/-- The counts tell the same: a branch is not told which of its nested rules accept. -/
theorem stops_eq (gate : Branch) (accepted : List Bool) :
    gate.stops (accepted.countP (! ·)) accepted.length = !gate.opens accepted := by
  have hle : accepted.countP (! ·) ≤ accepted.length := List.countP_le_length
  have hfull : accepted.countP (! ·) = accepted.length ↔ ∀ a ∈ accepted, a = false := by
    simp [List.countP_eq_length]
  rw [Bool.eq_iff_iff]
  cases gate with
  | all => simp [stops, opens, List.countP_pos_iff]
  | any =>
    have hreached : accepted.length ≤ accepted.countP (! ·) ↔ ∀ a ∈ accepted, a = false := by
      rw [← hfull]
      omega
    rw [stops, opens, decide_eq_true_eq, hreached]
    simp
  | notAll =>
    have hbelow : accepted.countP (! ·) < accepted.length ↔ ¬∀ a ∈ accepted, a = false := by
      rw [← hfull]
      omega
    rw [stops, opens, decide_eq_true_eq, hbelow]
    simp

end Branch

namespace Rule

/-- Whether a rule lets its chain go on with a working value, if it comes to a decision. -/
def goesOn? (rule : Rule) (env : Environment) (field : String) (value : Value) (s : RunState) :
    Option Bool :=
  ((rule.act env ⟨field, rule.name, .running, value⟩).ending s).map fun calls =>
    decide ((Call.settle calls).2 = .next)

/-- The value that the nested rules of a branch judge: the working value if the branch tests its own
    field, or else the value that the tested field has when the turn of the branch comes. -/
def tried (own tested : String) (value : Value) (s : RunState) : Value :=
  if tested = own then value else s.record.get tested

/-- How a nested rule of a branch, the one of a given name, judges the tried value by itself. -/
def acceptsWithin? (env : Environment) (name own tested : String) (value : Value) (s : RunState)
    (inner : Rule) : Option Bool :=
  inner.accepts? (env.within [(own, name)]) tested (tried own tested value s) s

/-- A branch that decides by how each of its nested rules judges the tried value by itself. -/
structure DecidesByNested (env : Environment) (rule : Rule) (gate : Branch) (own tested : String)
    (nested : List Rule) : Prop where
  /-- It comes to no decision just if one of the nested rules does not. -/
  undecided_iff : ∀ {value : Value} {s : RunState},
    rule.goesOn? env own value s = none ↔
      ∃ inner ∈ nested, inner.acceptsWithin? env rule.name own tested value s = none
  /-- Otherwise it goes by how many of them accept: all, some, or none. -/
  goesOn_iff : ∀ {value : Value} {s : RunState},
    (∀ inner ∈ nested, inner.acceptsWithin? env rule.name own tested value s ≠ none) →
    (rule.goesOn? env own value s = some true ↔
      match gate with
      | .all => ∀ inner ∈ nested, inner.acceptsWithin? env rule.name own tested value s = some true
      | .any => ∃ inner ∈ nested, inner.acceptsWithin? env rule.name own tested value s = some true
      | .notAll =>
        ∀ inner ∈ nested, inner.acceptsWithin? env rule.name own tested value s = some false)
  /-- If it goes on, the chain ends as it does without the branch, and else as it does with nothing
      but the rules before it. -/
  outcome : ∀ {front : List Rule} {start : Option Value} {value : Value} {updated : Bool}
    {s t : RunState}, Reaches env own front start s value updated t → ∀ back : List Rule,
      Job.shown RunState.seen ((startRules env own (front ++ rule :: back) start).alone s) =
        (rule.goesOn? env own value t).bind fun goesOn =>
          if goesOn then
            Job.shown RunState.seen ((startRules env own (front ++ back) start).alone s)
          else Job.shown RunState.seen ((startRules env own front start).alone s)

section

variable {env : Environment} {name : String} {gate : Branch} {own tested : String}
  {nested : List Rule}

/-- Nested rules that do not write judge in a branch, all at once, as each of them does by
    itself. -/
theorem branch_goesOn? (name : String) (gate : Branch)
    (hnested : ∀ site ∈ allSites tested nested, site.check.writes = false) (value : Value)
    (s : RunState) :
    (branch name gate own tested nested).goesOn? env own value s =
      (nested.mapM (acceptsWithin? env name own tested value s)).map gate.opens := by
  let inside := env.within [(own, name)]
  have hconfined := trials_confined inside hnested (tried own tested value s)
  have htrials : (Job.all (trials inside tested (tried own tested value s) nested)).ending s =
      nested.mapM fun rule : Rule => rule.judge inside tested (tried own tested value s) s := by
    rw [Job.Confined.ending_all hconfined, trials_eq_map, List.mapM_map]
    rfl
  have hverdicts : nested.mapM (acceptsWithin? env name own tested value s) =
      (nested.mapM fun rule : Rule => rule.judge inside tested (tried own tested value s) s).map
        (List.map Outcome.valid) :=
    mapM_map _ _ _
  have hact : ((branch name gate own tested nested).act env ⟨own, name, .running, value⟩).ending s =
      (nested.mapM fun rule : Rule => rule.judge inside tested (tried own tested value s) s).map
        fun outcomes => [.finish (if gate.stops (outcomes.countP (!·.valid)) outcomes.length
          then .stop else .next)] := by
    rw [act, ← htrials, ← Job.ending_map]
    rfl
  unfold goesOn?
  rw [Rule.name, hact, hverdicts, Option.map_map, Option.map_map]
  congr 1
  funext outcomes
  -- What the branch counts are the verdicts that are false.
  have hstops := gate.stops_eq (outcomes.map Outcome.valid)
  rw [List.countP_map, List.length_map] at hstops
  have hcount : outcomes.countP (!·.valid) = outcomes.countP ((! ·) ∘ Outcome.valid) := rfl
  rw [Function.comp_apply, Function.comp_apply, hcount, hstops]
  cases gate.opens (outcomes.map Outcome.valid) <;> rfl

/-- A branch goes on by how many of its nested rules accept, if each of them comes to a decision. -/
theorem branch_goesOn_iff (name : String) (gate : Branch)
    (hnested : ∀ site ∈ allSites tested nested, site.check.writes = false) {value : Value}
    {s : RunState} {accepted : Rule → Bool}
    (hdecided : ∀ inner ∈ nested,
      inner.acceptsWithin? env name own tested value s = some (accepted inner)) :
    (branch name gate own tested nested).goesOn? env own value s = some true ↔
      match gate with
      | .all => ∀ inner ∈ nested, accepted inner = true
      | .any => ∃ inner ∈ nested, accepted inner = true
      | .notAll => ∀ inner ∈ nested, accepted inner = false := by
  have hverdicts : nested.mapM (acceptsWithin? env name own tested value s) =
      some (nested.map accepted) := by
    rw [mapM_eq_some_iff, List.forall₂_map_right_iff, List.forall₂_same]
    exact hdecided
  rw [branch_goesOn? name gate hnested, hverdicts, Option.map_some, Option.some_inj]
  cases gate <;> simp [Branch.opens]

theorem branch_decidesByNested (env : Environment) (name : String) (gate : Branch) (own : String)
    (hnested : ∀ site ∈ allSites tested nested, site.check.writes = false) :
    (branch name gate own tested nested).DecidesByNested env gate own tested nested where
  undecided_iff := by
    intro value s
    rw [branch_goesOn? name gate hnested, Option.map_eq_none_iff]
    exact mapM_eq_none_iff
  goesOn_iff := by
    intro value s hdecided
    rw [Rule.name] at hdecided
    have hiff : ∀ b, ∀ inner ∈ nested,
        (inner.acceptsWithin? env name own tested value s).getD false = b ↔
          inner.acceptsWithin? env name own tested value s = some b := by
      intro b inner hinner
      obtain ⟨accepted, haccepted⟩ := Option.ne_none_iff_exists'.mp (hdecided inner hinner)
      rw [haccepted, Option.getD_some, Option.some_inj]
    have haccepts := fun inner hinner => (hiff _ inner hinner).mp rfl
    rw [branch_goesOn_iff name gate hnested haccepts]
    cases gate with
    | all => exact forall_congr' fun inner => imp_congr_right (hiff true inner)
    | any => exact exists_congr fun inner => and_congr_right (hiff true inner)
    | notAll => exact forall_congr' fun inner => imp_congr_right (hiff false inner)
  outcome := by
    intro front start value updated s t hreaches back
    rw [(branch_onlyGates env name gate own hnested).outcome hreaches back, goesOn?, Job.ending]
    cases ((branch name gate own tested nested).act env ⟨own, _, .running, value⟩).alone t with
    | none => rfl
    | some r =>
      obtain ⟨calls, t'⟩ := r
      rw [Option.bind_some, Option.map_some, Option.map_some, Option.bind_some]
      simp only [decide_eq_true_eq]

/-- Of branches on the same nested rules, the one that wants none of them to accept is the opposite of
    the one that wants some to, and the opposite of the one that wants all to only where they judge
    alike. -/
theorem branch_opposites {ifAll ifAny ifNone : String}
    (hnested : ∀ site ∈ allSites tested nested, site.check.writes = false) (hsome : nested ≠ [])
    {value : Value} {s : RunState} {accepted : Rule → Bool}
    (hdecided : ∀ name ∈ [ifAll, ifAny, ifNone], ∀ inner ∈ nested,
      inner.acceptsWithin? env name own tested value s = some (accepted inner)) :
    let goesOn (name : String) (gate : Branch) : Prop :=
      (branch name gate own tested nested).goesOn? env own value s = some true
    (goesOn ifNone .notAll ↔ ¬goesOn ifAny .any) ∧
      ¬(goesOn ifAll .all ∧ goesOn ifNone .notAll) ∧
      (goesOn ifAll .all ∨ goesOn ifNone .notAll ↔
        ∃ b, ∀ inner ∈ nested, accepted inner = b) := by
  intro goesOn
  have hall : goesOn ifAll .all ↔ ∀ inner ∈ nested, accepted inner = true :=
    branch_goesOn_iff ifAll .all hnested (hdecided ifAll (by simp))
  have hany : goesOn ifAny .any ↔ ∃ inner ∈ nested, accepted inner = true :=
    branch_goesOn_iff ifAny .any hnested (hdecided ifAny (by simp))
  have hnone : goesOn ifNone .notAll ↔ ∀ inner ∈ nested, accepted inner = false :=
    branch_goesOn_iff ifNone .notAll hnested (hdecided ifNone (by simp))
  rw [hall, hany, hnone]
  refine ⟨by simp, ?_, ?_⟩
  · rintro ⟨haccept, hreject⟩
    obtain ⟨inner, hinner⟩ := List.exists_mem_of_ne_nil nested hsome
    have hboth := (haccept inner hinner).symm.trans (hreject inner hinner)
    cases hboth
  · rw [Bool.exists_bool, or_comm]

end

end Rule

end FieldRules
