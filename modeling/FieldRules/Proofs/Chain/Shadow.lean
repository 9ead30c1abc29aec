import FieldRules.Proofs.Job.Shadow
import FieldRules.Validator

namespace FieldRules

variable {σ τ : Type} {view : τ → σ}

/-- A link that does in its turn what another one of the same name does, on a state of which that one
    sees only `view`. -/
def Link.Shadows (view : τ → σ) (shadow : Link τ) (link : Link σ) : Prop :=
  shadow.rule = link.rule ∧ ∀ turn, (shadow.act turn).Shadows view (link.act turn)

theorem Chain.shadows_runLinks {shadows : List (Link τ)} {links : List (Link σ)}
    (hlinks : List.Forall₂ (Link.Shadows view) shadows links) (field : String) (value : Value)
    (updated : Bool) :
    (runLinks field shadows value updated).Shadows view (runLinks field links value updated) := by
  induction hlinks generalizing value updated with
  | nil => exact .done _
  | cons hlink _ ih =>
    obtain ⟨hrule, hact⟩ := hlink
    rw [runLinks, runLinks, hrule]
    refine (hact _).bind fun calls => ?_
    obtain ⟨update, verdict⟩ := Call.settle calls
    cases verdict with
    | next => exact .observe fun t => ih _ _
    | stop => exact .done _
    | invalid message => exact .done _

/-- Validators shadow each other if they run chains that do, and note outcomes alike. -/
theorem Validator.shadows_join {note' : Outcome → τ → τ} {note : Outcome → σ → σ}
    {chain' : String → List Rule → Job τ Outcome} {chain : String → List Rule → Job σ Outcome}
    (hnote : ∀ outcome t, view (note' outcome t) = note outcome (view t))
    (hchain : ∀ field rules, (chain' field rules).Shadows view (chain field rules))
    (validator : Validator) :
    (validator.join note' chain').Shadows view (validator.join note chain) := by
  refine Job.Shadows.all ?_
  rw [List.forall₂_map_left_iff, List.forall₂_map_right_iff, List.forall₂_same]
  exact fun entry _ => (hchain entry.1 entry.2).bind fun outcome =>
    .modify (hnote outcome) (.done outcome)

/-- Whole runs shadow each other if their chains do, and if the same is told about them. -/
theorem Validator.shadows_conduct {tell' : Hook → τ → τ} {tell : Hook → σ → σ}
    {chains' : Job τ (List Outcome)} {chains : Job σ (List Outcome)}
    (htell : ∀ hook t, view (tell' hook t) = tell hook (view t))
    (hchains : chains'.Shadows view chains) :
    (conduct tell' chains').Shadows view (conduct tell chains) :=
  .modify (htell .start) (hchains.bind fun _ => .modify (htell _) (.done _))

end FieldRules
