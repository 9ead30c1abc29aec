import FieldRules.Proofs.Chain.Visit
import FieldRules.Proofs.Job.Matches

namespace FieldRules

section

variable (texts : String → String → Prop)

/-- Verdicts that differ at most in a message, and then in a way that `texts` allows. -/
inductive Verdict.Alike : Verdict → Verdict → Prop
  | next : Alike .next .next
  | stop : Alike .stop .stop
  | invalid {message message' : String} (hmessage : texts message message') :
    Alike (.invalid message) (.invalid message')

inductive Call.Alike : Call → Call → Prop
  | update (value : Value) : Alike (.update value) (.update value)
  | finish {verdict verdict' : Verdict} (hverdict : verdict.Alike texts verdict') :
    Alike (.finish verdict) (.finish verdict')

def Call.AllAlike : List Call → List Call → Prop := List.Forall₂ (Call.Alike texts)

/-- Outcomes that differ at most in the message of a failure. -/
inductive Outcome.Alike : Outcome → Outcome → Prop
  | valid (field : String) (value : Value) (updated : Bool) (state : ChainState) :
    Alike ⟨field, value, updated, none, state⟩ ⟨field, value, updated, none, state⟩
  | invalid (field : String) (value : Value) (updated : Bool) (rule : String)
    {message message' : String} (state : ChainState) (hmessage : texts message message') :
    Alike ⟨field, value, updated, some ⟨rule, message⟩, state⟩
      ⟨field, value, updated, some ⟨rule, message'⟩, state⟩

/-- Links of one name that do alike in their turns on states that `S` relates. -/
def Link.Matches {σ τ : Type} (S : σ → τ → Prop) (link : Link σ) (link' : Link τ) : Prop :=
  link.rule = link'.rule ∧
    ∀ turn, (link.act turn).Matches S (Call.AllAlike texts) (link'.act turn)

end

variable {texts : String → String → Prop}

theorem Call.settle_alike {calls calls' : List Call} (hcalls : AllAlike texts calls calls') :
    (settle calls).1 = (settle calls').1 ∧ (settle calls).2.Alike texts (settle calls').2 := by
  unfold AllAlike at hcalls
  induction hcalls with
  | nil => exact ⟨rfl, .stop⟩
  | cons hcall _ ih =>
    obtain ⟨hupdate, hverdict⟩ := ih
    cases hcall with
    | update value =>
      rw [settle_update_cons, settle_update_cons, hupdate]
      exact ⟨rfl, hverdict⟩
    | finish hverdict => exact ⟨rfl, hverdict⟩

namespace Outcome.Alike

variable {outcome outcome' : Outcome}

theorem valid_eq (halike : outcome.Alike texts outcome') : outcome.valid = outcome'.valid := by
  cases halike <;> rfl

end Outcome.Alike

theorem Outcome.countP_alike {outcomes outcomes' : List Outcome}
    (hall : List.Forall₂ (Outcome.Alike texts) outcomes outcomes') :
    outcomes.countP (!·.valid) = outcomes'.countP (!·.valid) := by
  induction hall with
  | nil => rfl
  | cons halike _ ih => rw [List.countP_cons, List.countP_cons, ih, halike.valid_eq]

theorem Call.allAlike_refl (htexts : ∀ message, texts message message) (calls : List Call) :
    AllAlike texts calls calls := by
  refine List.forall₂_same.mpr fun call _ => ?_
  rcases call with value | (_ | _ | message)
  · exact .update value
  · exact .finish .next
  · exact .finish .stop
  · exact .finish (.invalid (htexts message))

/-- Where links match, so do their chains. -/
theorem Chain.matches_runLinks {σ τ : Type} {S : σ → τ → Prop} {links : List (Link σ)}
    {links' : List (Link τ)} (hlinks : List.Forall₂ (Link.Matches texts S) links links')
    (field : String) (value : Value) (updated : Bool) :
    (runLinks field links value updated).Matches S (Outcome.Alike texts)
      (runLinks field links' value updated) := by
  induction hlinks generalizing value updated with
  | nil => exact .done (.valid field value updated .ended)
  | cons hlink _ ih =>
    obtain ⟨hrule, hact⟩ := hlink
    rw [runLinks, runLinks, hrule]
    refine (hact _).bind fun calls calls' hcalls => ?_
    obtain ⟨hupdate, hverdict⟩ := Call.settle_alike hcalls
    dsimp only
    rw [hupdate]
    generalize (Call.settle calls).2 = verdict at hverdict ⊢
    generalize (Call.settle calls').2 = verdict' at hverdict ⊢
    cases hverdict with
    | next => exact .observe fun _ _ _ => ih _ _
    | stop => exact .done (.valid field _ _ .ended)
    | invalid hmessage => exact .done (.invalid field _ _ _ .ended hmessage)

theorem Chain.matches_start {σ τ : Type} {S : σ → τ → Prop} {links : List (Link σ)}
    {links' : List (Link τ)} (hlinks : List.Forall₂ (Link.Matches texts S) links links')
    {field : String} {current : σ → String → Value} {current' : τ → String → Value}
    (hcurrent : ∀ s t, S s t → current s field = current' t field) (value : Option Value) :
    ((Chain.mk field links).start current value).Matches S (Outcome.Alike texts)
      ((Chain.mk field links').start current' value) := by
  refine .observe fun s t hst => ?_
  dsimp only
  rw [hcurrent s t hst]
  exact matches_runLinks hlinks field _ false

end FieldRules
