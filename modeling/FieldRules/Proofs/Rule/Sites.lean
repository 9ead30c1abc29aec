import FieldRules.Proofs.Environment
import FieldRules.Rule.Basic

namespace FieldRules

/-- A check where it stands: the field that it judges, and the name of its rule. -/
structure Site where
  field : String
  rule : String
  check : Check

/-- What the check is told when its turn comes. -/
def Site.turn (site : Site) (value : Value) : Turn := ⟨site.field, site.rule, .running, value⟩

namespace Rule

mutual

/-- The checks of a rule of a field. Those inside a branch judge the field that it tests. -/
def sites (field : String) : Rule → List Site
  | check name body => [⟨field, name, body⟩]
  | branch _ _ _ tested nested => allSites tested nested

def allSites (field : String) : List Rule → List Site
  | [] => []
  | rule :: rules => rule.sites field ++ allSites field rules

end

theorem mem_allSites_iff {field : String} {rules : List Rule} {site : Site} :
    site ∈ allSites field rules ↔ ∃ rule ∈ rules, site ∈ rule.sites field := by
  induction rules with
  | nil => simp [allSites]
  | cons rule rules ih => simp [allSites, ih]

section

variable {σ : Type} (read : σ → Record) (acts : Environment → Check → Turn → Job σ (List Call))

mutual

/-- The turn of a rule on a state from which the record can be read, where `acts` says what the
    checks do. -/
def actBy (env : Environment) : Rule → Turn → Job σ (List Call)
  | check _ body, turn => acts env body turn
  | branch name gate own tested nested, turn =>
    .observe fun s =>
      let value := if tested = own then turn.value else (read s).get tested
      (Job.all (trialsBy (env.within [(own, name)]) tested value nested)).map fun outcomes =>
        let invalid := outcomes.countP (!·.valid)
        [.finish (if gate.stops invalid outcomes.length then .stop else .next)]

def trialsBy (env : Environment) (field : String) (value : Value) :
    List Rule → List (Job σ Outcome)
  | [] => []
  | rule :: rules =>
    Chain.runOn ⟨field, [⟨rule.name, actBy env rule⟩]⟩ value :: trialsBy env field value rules

end

def linkBy (env : Environment) (rule : Rule) : Link σ := ⟨rule.name, rule.actBy read acts env⟩

end

mutual

theorem act_eq_actBy (env : Environment) :
    ∀ rule : Rule, rule.act env = rule.actBy RunState.record Check.act env
  | check _ body => by
    funext turn
    rw [act, actBy]
  | branch _ gate own tested nested => by
    funext turn
    rw [act, actBy]
    congr 1
    funext s
    dsimp only
    rw [trials_eq_trialsBy]

theorem trials_eq_trialsBy (env : Environment) :
    ∀ (rules : List Rule) (field : String) (value : Value),
      trials env field value rules = trialsBy RunState.record Check.act env field value rules
  | [], _, _ => by rw [trials, trialsBy]
  | rule :: rules, field, value => by
    rw [trials, trialsBy, act_eq_actBy env rule, trials_eq_trialsBy env rules field value]

end

theorem link_eq_linkBy (env : Environment) : link env = linkBy RunState.record Check.act env :=
  funext fun rule => congrArg (Link.mk rule.name) (act_eq_actBy env rule)

end Rule

/-- A property of jobs that passes from jobs to what is made of them, as long as nothing more of the
    state is looked at than `view` shows. -/
structure Job.InheritedWithin {σ ν : Type} (view : σ → ν) (P : {α : Type} → Job σ α → Prop) :
    Prop where
  done : ∀ {α : Type} (a : α), P (.done a)
  observe : ∀ {α : Type} {next : σ → Job σ α}, (∀ s t, view s = view t → next s = next t) →
    (∀ s, P (next s)) → P (.observe next)
  bind : ∀ {α β : Type} {job : Job σ α} {next : α → Job σ β}, P job → (∀ a, P (next a)) →
    P (job.bind next)
  all : ∀ {α : Type} {jobs : List (Job σ α)}, (∀ job ∈ jobs, P job) → P (Job.all jobs)

namespace Job.InheritedWithin

variable {σ ν : Type} {view : σ → ν} {P : {α : Type} → Job σ α → Prop}

/-- A chain inherits what its links do on the values that they are given. -/
theorem runLinks (hP : InheritedWithin view P) {field : String} {links : List (Link σ)}
    (hlinks : ∀ link ∈ links, ∀ value, P (link.act ⟨field, link.rule, .running, value⟩))
    (value : Value) (updated : Bool) : P (Chain.runLinks field links value updated) := by
  induction links generalizing value updated with
  | nil => exact hP.done _
  | cons link links ih =>
    obtain ⟨hlink, hrest⟩ := List.forall_mem_cons.mp hlinks
    rw [Chain.runLinks]
    refine hP.bind (hlink value) fun calls => ?_
    obtain ⟨update, verdict⟩ := Call.settle calls
    cases verdict with
    | next => exact hP.observe (fun _ _ _ => rfl) fun _ => ih hrest _ _
    | stop => exact hP.done _
    | invalid message => exact hP.done _

variable {read : σ → Record} {acts : Environment → Check → Turn → Job σ (List Call)}

mutual

/-- A rule inherits what its checks do where they stand, however deep they are nested. -/
theorem actBy (hP : InheritedWithin view P) (hread : ∀ s t, view s = view t → read s = read t)
    (env : Environment) :
    ∀ (rule : Rule) (field : String),
      (∀ site ∈ rule.sites field, ∀ branches value,
        P (acts (env.within branches) site.check (site.turn value))) →
      ∀ value, P (rule.actBy read acts env ⟨field, rule.name, .running, value⟩)
  | .check name body, field, hsites, value => by
    rw [Rule.sites, List.forall_mem_singleton] at hsites
    rw [Rule.actBy]
    exact hsites [] value
  | .branch name gate own tested nested, field, hsites, value => by
    rw [Rule.sites] at hsites
    rw [Rule.actBy]
    refine hP.observe (fun s t hview => ?_) fun s => hP.bind (hP.all ?_) fun outcomes => hP.done _
    · rw [hread s t hview]
    · refine trialsBy hP hread (env.within [(own, name)]) nested tested ?_ _
      intro site hsite branches given
      rw [env.within_within]
      exact hsites site hsite _ given

theorem trialsBy (hP : InheritedWithin view P)
    (hread : ∀ s t, view s = view t → read s = read t) (env : Environment) :
    ∀ (rules : List Rule) (field : String),
      (∀ site ∈ Rule.allSites field rules, ∀ branches value,
        P (acts (env.within branches) site.check (site.turn value))) →
      ∀ value, ∀ job ∈ Rule.trialsBy read acts env field value rules, P job
  | [], _, _, _ => by
    rw [Rule.trialsBy]
    simp
  | rule :: rules, field, hsites, value => by
    rw [Rule.allSites, List.forall_mem_append] at hsites
    rw [Rule.trialsBy, List.forall_mem_cons]
    refine ⟨hP.runLinks ?_ value false, trialsBy hP hread env rules field hsites.2 value⟩
    rw [List.forall_mem_singleton]
    exact actBy hP hread env rule field hsites.1

end

/-- The chain of a field inherits what the checks of its rules do where they stand. -/
theorem runLinksBy (hP : InheritedWithin view P)
    (hread : ∀ s t, view s = view t → read s = read t) {env : Environment} {field : String}
    {rules : List Rule}
    (hsites : ∀ site ∈ Rule.allSites field rules, ∀ branches value,
      P (acts (env.within branches) site.check (site.turn value)))
    (value : Value) (updated : Bool) :
    P (Chain.runLinks field (rules.map (Rule.linkBy read acts env)) value updated) := by
  refine hP.runLinks ?_ value updated
  rw [List.forall_mem_map]
  intro rule hrule
  refine hP.actBy hread env rule field fun site hsite => ?_
  exact hsites site (Rule.mem_allSites_iff.mpr ⟨rule, hrule, hsite⟩)

end Job.InheritedWithin

end FieldRules
