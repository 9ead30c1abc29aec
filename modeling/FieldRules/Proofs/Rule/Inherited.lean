import FieldRules.Proofs.Rule.Sites

namespace FieldRules

/-- A property of jobs that passes from jobs to what is made of them. -/
structure Job.Inherited {σ : Type} (P : {α : Type} → Job σ α → Prop) : Prop where
  done : ∀ {α : Type} (a : α), P (.done a)
  observe : ∀ {α : Type} {next : σ → Job σ α}, (∀ s, P (next s)) → P (.observe next)
  bind : ∀ {α β : Type} {job : Job σ α} {next : α → Job σ β}, P job → (∀ a, P (next a)) →
    P (job.bind next)
  all : ∀ {α : Type} {jobs : List (Job σ α)}, (∀ job ∈ jobs, P job) → P (Job.all jobs)

/-- A property of what rules do besides reading: looking models up, writing to the record, and waiting
    for the rules that it brings along. -/
structure Environment.Steps (env : Environment) (P : {α : Type} → Job RunState α → Prop) : Prop where
  lookup : ∀ timeout query, P (env.lookup timeout query)
  write : ∀ {α : Type} {job : Job RunState α} (field : String) (value : Value), P job →
    P (.modify (RunState.setField field value) job)
  custom : ∀ name value context, P (Check.awaitDecision (env.decideCustom name value context))

/-- Links in branches take the same steps. -/
theorem Environment.Steps.within {env : Environment} {P : {α : Type} → Job RunState α → Prop}
    (hsteps : env.Steps P) (branches : List (String × String)) : (env.within branches).Steps P where
  lookup timeout query := hsteps.lookup timeout { query with within := branches ++ query.within }
  write := hsteps.write
  custom := hsteps.custom

namespace Job.Inherited

theorem within {σ ν : Type} {P : {α : Type} → Job σ α → Prop} (hP : Inherited P) (view : σ → ν) :
    InheritedWithin view P :=
  ⟨hP.done, fun _ => hP.observe, hP.bind, hP.all⟩

section

variable {P : {α : Type} → Job RunState α → Prop} {env : Environment}

theorem actCheck (hP : Inherited P) (hsteps : env.Steps P) (check : Check) (turn : Turn) :
    P (check.act env turn) := by
  refine hP.observe fun s => ?_
  cases check with
  | transform t field =>
    dsimp only
    split
    · exact hsteps.write field _ (hP.done _)
    · exact hP.done _
  | upper =>
    dsimp only
    split <;> exact hP.done _
  | siblings check fields wording =>
    dsimp only
    split <;> exact hP.done _
  | foreign model field source failOnMatch wording =>
    dsimp only
    split
    · exact hP.done _
    · cases source with
      | given members => exact hP.done _
      | lookup timeout =>
        exact hP.bind (hsteps.lookup timeout _) fun members =>
          hP.observe fun s => hP.done _
  | custom name context => exact hsteps.custom name turn.value context
  | _ => exact hP.done _

/-- The chain of a field inherits what all checks have. -/
theorem startRules (hP : Inherited P) (hsteps : env.Steps P)
    (field : String) (rules : List Rule) (value : Option Value) :
    P (FieldRules.startRules env field rules value) := by
  have hchain : ∀ given, P (Chain.runLinks field (rules.map (Rule.link env)) given false) := by
    intro given
    rw [Rule.link_eq_linkBy]
    refine (hP.within id).runLinksBy (fun s t hview => congrArg _ hview) ?_ given false
    exact fun site _ branches value => hP.actCheck (hsteps.within branches) site.check _
  exact hP.observe fun s => hchain _

end

end Job.Inherited

end FieldRules
