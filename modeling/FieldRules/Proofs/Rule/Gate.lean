import FieldRules.Proofs.Job.Confined
import FieldRules.Proofs.Job.Ends
import FieldRules.Proofs.Rule.Bounded
import FieldRules.Proofs.Rule.Reach

namespace FieldRules

theorem Job.ends_of_alone {σ α : Type} {job : Job σ α} {s t : σ} {a : α}
    (hends : job.alone s = some (a, t)) : job.Ends Eq s a t := by
  obtain ⟨patience, hrun⟩ := alone_eq_some_iff.mp hends
  exact ends_of_run hrun

namespace Rule

/-- A rule that lets its chain go on or stops it, and does nothing else. -/
structure OnlyGates (env : Environment) (rule : Rule) : Prop where
  /-- Whatever happens meanwhile, it makes no update and does not fail. -/
  settles : ∀ {interference : RunState → RunState → Prop} {turn : Turn} {s t : RunState}
    {calls : List Call}, (rule.act env turn).Ends interference s calls t →
      Call.settle calls = (none, .next) ∨ Call.settle calls = (none, .stop)
  /-- It changes neither the record nor the failures of the run. -/
  keeps : ∀ turn, (rule.act env turn).Keeps RunState.seen
  /-- Between other rules it makes the chain end as it does without this rule, or as the rules before
      it do. If it does not end, neither does the chain. -/
  outcome : ∀ {field : String} {front : List Rule} {start : Option Value} {value : Value}
    {updated : Bool} {s t : RunState},
    (Chain.through field (front.map (link env)) (start.getD (s.record.get field)) false).alone s =
      some (.ok (value, updated), t) →
    ∀ back : List Rule,
      Job.shown RunState.seen ((startRules env field (front ++ rule :: back) start).alone s) =
        ((rule.act env ⟨field, rule.name, .running, value⟩).alone t).bind fun (calls, _) =>
          if (Call.settle calls).2 = .next then
            Job.shown RunState.seen ((startRules env field (front ++ back) start).alone s)
          else Job.shown RunState.seen ((startRules env field front start).alone s)

section

variable {env : Environment} {name : String} {gate : Branch} {own tested : String}
  {nested : List Rule}

theorem branch_settles {interference : RunState → RunState → Prop} {turn : Turn} {s t : RunState}
    {calls : List Call}
    (hends : ((branch name gate own tested nested).act env turn).Ends interference s calls t) :
    Call.settle calls = (none, .next) ∨ Call.settle calls = (none, .stop) := by
  rw [act, Job.ends_observe_iff, Job.map, Job.ends_bind_iff] at hends
  obtain ⟨outcomes, t', _, hcalls⟩ := hends
  obtain ⟨rfl, _⟩ := Job.ends_done_iff.mp hcalls
  dsimp only [Call.settle]
  split
  · exact .inr rfl
  · exact .inl rfl

/-- Nested rules that do not write leave no trace in what the chains of a run share: their updates
    and failures end with the chains that they run in. -/
theorem trials_confined (env : Environment)
    (hnested : ∀ site ∈ allSites tested nested, site.check.writes = false) (value : Value) :
    ∀ job ∈ trials env tested value nested, job.Confined RunState.seen := by
  have hsites : ∀ site ∈ allSites tested nested, ∀ branches value,
      (site.check.act (env.within branches) (site.turn value)).Bounded RunState.seen
        fun change => ∀ s, (change s).seen = s.seen := by
    intro site hsite branches value
    refine Check.act_bounded (fun _ _ => RunState.record_eq_of_seen)
      (fun _ _ _ _ _ => RunState.failures_eq_of_seen) (fun model s => rfl)
      (fun field stored hwritten => ?_) _
    rw [Check.written?_eq_none (hnested site hsite)] at hwritten
    cases hwritten
  rw [trials_eq_trialsBy]
  intro job hjob
  exact Job.confined_iff.mpr ((Job.bounded_within RunState.seen _).trialsBy
    (fun _ _ => RunState.record_eq_of_seen) env nested tested hsites value job hjob)

theorem branch_keeps (hnested : ∀ site ∈ allSites tested nested, site.check.writes = false)
    (turn : Turn) : ((branch name gate own tested nested).act env turn).Keeps RunState.seen := by
  rw [act]
  refine Job.Keeps.observe fun s => ?_
  have hall := fun value =>
    Job.confined_iff.mp (.all (trials_confined (env.within [(own, name)]) hnested value))
  exact ((hall _).map _).keeps fun change hchange => hchange

/-- A branch only gates, whatever its nested rules are, as long as none of them writes to the
    record. -/
theorem branch_onlyGates (env : Environment) (name : String) (gate : Branch) (own : String)
    (hnested : ∀ site ∈ allSites tested nested, site.check.writes = false) :
    OnlyGates env (branch name gate own tested nested) := by
  refine ⟨branch_settles, branch_keeps hnested, ?_⟩
  intro field front start value updated s t hfront back
  have hreaches : Reaches env field front start s value updated t := hfront
  have hnone : (startRules env field front start).alone s =
      (Chain.runLinks field [] value updated).alone t := by
    have hnil := hreaches.alone_append []
    rwa [List.append_nil] at hnil
  rw [hreaches.alone_append, hreaches.alone_append, hnone, List.map_cons]
  cases hact : ((branch name gate own tested nested).act env
      ⟨field, name, .running, value⟩).alone t with
  | none =>
    have hnever : (Chain.runLinks field (link env (branch name gate own tested nested) ::
        back.map (link env)) value updated).alone t = none := by
      rw [Chain.runLinks, Job.alone_bind]
      exact congrArg (Option.bind · _) hact
    rw [hnever, Rule.name, hact]
    rfl
  | some r =>
    obtain ⟨calls, t'⟩ := r
    have hview := (branch_keeps hnested _).alone hact
    rw [Rule.name, hact, Option.bind_some]
    dsimp only
    rcases branch_settles (Job.ends_of_alone hact) with hsettle | hsettle
    · rw [hsettle, if_pos rfl]
      exact Chain.shown_runLinks_cons_of_next (runLinks_respects env field back value updated) hact
        hsettle hview
    · rw [hsettle, if_neg (by decide)]
      exact Chain.shown_runLinks_cons_of_stop _ hact hsettle hview

end

end Rule

end FieldRules
