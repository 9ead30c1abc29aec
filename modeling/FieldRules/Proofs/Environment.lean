import FieldRules.Environment
import FieldRules.Proofs.Job.Matches

namespace FieldRules.Environment

theorem within_within (env : Environment) (branches branches' : List (String × String)) :
    (env.within branches).within branches' = env.within (branches ++ branches') := by
  simp only [within, List.append_assoc]

/-- A lookup that never ends is noted all the same, and every other one ends after a pause, no later
    than its query is answered. -/
theorem lookup_cases (env : Environment) (timeout : Option Nat) (query : Query) :
    (env.reply query = .pending ∧
        env.lookup timeout query = .modify (RunState.noteLookup query.model) .never) ∨
      ∃ ms answer,
        (∀ delay members, env.reply query = .answers delay members → ms ≤ delay) ∧
          env.lookup timeout query =
            .modify (RunState.noteLookup query.model) (.pause ms (.done answer)) := by
  unfold lookup
  cases env.reply query with
  | pending =>
    cases timeout with
    | none => exact .inl ⟨rfl, rfl⟩
    | some limit => exact .inr ⟨limit, none, by simp, rfl⟩
  | answers delay members =>
    right
    cases timeout with
    | none => exact ⟨delay, _, by simp, rfl⟩
    | some limit =>
      dsimp only
      split
      · exact ⟨delay, _, by simp, rfl⟩
      · refine ⟨limit, none, ?_, rfl⟩
        rintro _ _ ⟨⟩
        omega

/-- A lookup does the same on all states, besides being noted. -/
theorem lookup_matches {S : RunState → RunState → Prop}
    (hnote : ∀ {s t} model, S s t → S (s.noteLookup model) (t.noteLookup model))
    (env : Environment) (timeout : Option Nat) (query : Query) :
    (env.lookup timeout query).Matches S Eq (env.lookup timeout query) := by
  rcases env.lookup_cases timeout query with ⟨-, hlookup⟩ | ⟨ms, answer, -, hlookup⟩
  · rw [hlookup]
    exact .modify (fun _ _ => hnote query.model) .never
  · rw [hlookup]
    exact .modify (fun _ _ => hnote query.model) (.pause (.done rfl) ms)

end FieldRules.Environment
