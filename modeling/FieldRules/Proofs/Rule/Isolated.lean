import FieldRules.Proofs.Job.Confined
import FieldRules.Proofs.Rule.Bounded

namespace FieldRules

/-- Whether a check neither asks for the failures of other fields nor writes to the record. -/
def Check.isolated : Check → Bool
  | .siblings .ifValid _ _ | .transform .apply _ | .transform .null _ => false
  | _ => true

namespace Rule

mutual

/-- Whether all checks of a rule, its own or nested ones, are isolated. -/
def isolated : Rule → Bool
  | check _ body => body.isolated
  | branch _ _ _ _ nested => allIsolated nested

def allIsolated : List Rule → Bool
  | [] => true
  | rule :: rules => rule.isolated && allIsolated rules

end

mutual

theorem isolated_iff_sites : ∀ (rule : Rule) (field : String),
    rule.isolated ↔ ∀ site ∈ rule.sites field, site.check.isolated
  | check name body, field => by
    rw [isolated, sites, List.forall_mem_singleton]
  | branch name gate own tested nested, field => by
    rw [isolated, sites]
    exact allIsolated_iff_sites nested tested

theorem allIsolated_iff_sites : ∀ (rules : List Rule) (field : String),
    allIsolated rules ↔ ∀ site ∈ allSites field rules, site.check.isolated
  | [], field => by simp [allIsolated, allSites]
  | rule :: rules, field => by
    rw [allIsolated, allSites, Bool.and_eq_true, List.forall_mem_append]
    exact and_congr (isolated_iff_sites rule field) (allIsolated_iff_sites rules field)

end

end Rule

theorem Check.writes_of_isolated {check : Check} (hcheck : check.isolated) :
    check.writes = false := by
  cases check with
  | transform t field =>
    cases t with
    | apply => cases hcheck
    | null => cases hcheck
    | _ => rfl
  | _ => rfl

/-- An isolated check sees only the record, and leaves it as it is. -/
theorem Check.act_confined {check : Check} (hcheck : check.isolated) (env : Environment)
    (turn : Turn) : (check.act env turn).Confined RunState.record := by
  rw [Job.confined_iff]
  refine act_bounded (fun _ _ hrecord => hrecord) ?_ (fun model _ => rfl)
    (fun field stored hwritten => ?_) env
  · rintro fields wording rfl
    cases hcheck
  · rw [written?_eq_none (writes_of_isolated hcheck)] at hwritten
    cases hwritten

/-- So does an isolated rule. -/
theorem Rule.act_confined {rule : Rule} (hrule : rule.isolated) (env : Environment) (field : String)
    (value : Value) :
    (rule.act env ⟨field, rule.name, .running, value⟩).Confined RunState.record := by
  rw [Job.confined_iff, act_eq_actBy]
  refine (Job.bounded_within _ _).actBy (fun _ _ hrecord => hrecord) env rule field ?_ value
  intro site hsite branches value
  have hisolated := (rule.isolated_iff_sites field).mp hrule site hsite
  exact Job.confined_iff.mp (Check.act_confined hisolated _ _)

/-- The chain of a field with isolated rules sees only the record, and leaves it as it is. -/
theorem startRules_confined {rules : List Rule} (hrules : ∀ rule ∈ rules, rule.isolated)
    (env : Environment) (field : String) (value : Option Value) :
    (startRules env field rules value).Confined RunState.record := by
  have hchain : ∀ given, (Chain.runLinks field (rules.map (Rule.link env)) given false).Confined
      RunState.record := by
    intro given
    rw [Job.confined_iff]
    refine (Job.bounded_within _ _).runLinks ?_ given false
    rw [List.forall_mem_map]
    exact fun rule hrule value =>
      Job.confined_iff.mp (Rule.act_confined (hrules rule hrule) env field value)
  refine ⟨fun s t hrecord => ?_, fun s => hchain _⟩
  dsimp only
  rw [hrecord]

end FieldRules
