import FieldRules.Proofs.Job.AtOnce
import FieldRules.Proofs.Rule.Bounded
import FieldRules.Proofs.Rule.Inherited

namespace FieldRules

/-- Rules change the record and look models up, but it is not for them to note failures. -/
theorem startRules_keeps_failures (env : Environment) (field : String) (rules : List Rule)
    (value : Option Value) : (startRules env field rules value).Keeps RunState.failures := by
  have hchain : ∀ given, (Chain.runLinks field (rules.map (Rule.link env)) given false).Bounded id
      fun change => ∀ s, (change s).failures = s.failures :=
    fun given => Rule.runLinks_bounded (fun s t hview => congrArg _ hview)
      (fun s t hview => congrArg _ hview) (fun model s => rfl) (fun field stored s => rfl) env field
      rules given false
  exact .observe fun s => (hchain _).keeps fun change hchange => hchange

namespace CustomDecision

/-- Whether a decision is there at once. -/
def prompt : CustomDecision → Bool
  | valid | invalid _ => true
  | deferred delay decision => delay == 0 && decision.prompt

end CustomDecision

/-- Lookups answer at once, and the rules that the record brings along decide at once. -/
structure Environment.Prompt (env : Environment) : Prop where
  lookup : ∀ query, ∃ members, env.reply query = .answers 0 members
  custom : ∀ name value context, (env.decideCustom name value context).prompt

theorem Job.prompt_inherited {σ : Type} : Inherited (σ := σ) Job.Prompt :=
  ⟨fun a s => ⟨a, s, rfl⟩, fun hnext s => hnext s s, .bind, .all⟩

theorem Environment.Prompt.steps {env : Environment} (henv : env.Prompt) : env.Steps Job.Prompt := by
  refine ⟨fun timeout query => ?_, fun field value hjob s => hjob _, fun name value context => ?_⟩
  · obtain ⟨members, hanswers⟩ := henv.lookup query
    rcases env.lookup_cases timeout query with ⟨hpending, _⟩ | ⟨ms, answer, hms, hlookup⟩
    · rw [hpending] at hanswers
      cases hanswers
    · have hzero : ms = 0 := Nat.le_zero.mp (hms 0 members hanswers)
      rw [hlookup, hzero]
      exact fun s => ⟨answer, _, rfl⟩
  · have hdecision := henv.custom name value context
    generalize env.decideCustom name value context = decision at hdecision ⊢
    induction decision with
    | valid => exact fun s => ⟨_, s, rfl⟩
    | invalid message => exact fun s => ⟨_, s, rfl⟩
    | deferred delay decision ih =>
      rw [CustomDecision.prompt, Bool.and_eq_true, beq_iff_eq] at hdecision
      obtain ⟨rfl, hdecision⟩ := hdecision
      exact ih hdecision

/-- Whether a check comes to no wait, wherever it is used: it looks no model up, and no rule of the
    record decides for it. -/
def Check.immediate : Check → Bool
  | .foreign _ _ (.lookup _) _ _ | .custom _ _ => false
  | _ => true

theorem Check.act_prompt {check : Check} (hcheck : check.immediate) (env : Environment)
    (turn : Turn) : (check.act env turn).Prompt := by
  have hdone : ∀ calls : List Call, (Job.done calls : Job RunState (List Call)).Prompt :=
    fun calls => Job.prompt_inherited.done calls
  refine Job.prompt_inherited.observe fun s => ?_
  cases check with
  | transform t field =>
    dsimp only
    split
    · exact fun s => hdone _ _
    · exact hdone _
  | upper =>
    dsimp only
    split <;> exact hdone _
  | siblings check fields wording =>
    dsimp only
    split <;> exact hdone _
  | foreign model field source failOnMatch wording =>
    cases source with
    | given members =>
      dsimp only
      split <;> exact hdone _
    | lookup timeout => cases hcheck
  | custom name context => cases hcheck
  | _ => exact hdone _

/-- A chain comes to no wait if none of its checks does, its own or nested ones. -/
theorem startRules_prompt {field : String} {rules : List Rule}
    (hsites : ∀ site ∈ Rule.allSites field rules, site.check.immediate) (env : Environment)
    (value : Option Value) : (startRules env field rules value).Prompt := by
  have hchain : ∀ given,
      (Chain.runLinks field (rules.map (Rule.link env)) given false).Prompt := by
    intro given
    rw [Rule.link_eq_linkBy]
    refine (Job.prompt_inherited.within id).runLinksBy (fun s t hview => congrArg _ hview) ?_
      given false
    exact fun site hsite branches value => Check.act_prompt (hsites site hsite) _ _
  exact Job.prompt_inherited.observe fun s => hchain _

end FieldRules
