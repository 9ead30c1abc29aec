import FieldRules.Job
import Mathlib.Data.List.Forall2

namespace FieldRules.Job

variable {σ τ α β γ δ : Type} {S : σ → τ → Prop} {R : α → β → Prop} {R' : γ → δ → Prop}

/-- A job that does what another one does, step by step: on related states it ends with related
    results, and leaves related states. It may also take steps of its own that keep the states
    related. -/
inductive Matches (S : σ → τ → Prop) (R : α → β → Prop) : Job σ α → Job τ β → Prop
  | done {a : α} {b : β} (hresult : R a b) : Matches S R (.done a) (.done b)
  | observe {next : σ → Job σ α} {next' : τ → Job τ β}
      (hnext : ∀ s t, S s t → Matches S R (next s) (next' t)) :
      Matches S R (.observe next) (.observe next')
  | modify {change : σ → σ} {change' : τ → τ} {next : Job σ α} {next' : Job τ β}
      (hchange : ∀ s t, S s t → S (change s) (change' t)) (hnext : Matches S R next next') :
      Matches S R (.modify change next) (.modify change' next')
  | note {change : σ → σ} {next : Job σ α} {next' : Job τ β}
      (hchange : ∀ s t, S s t → S (change s) t) (hnext : Matches S R next next') :
      Matches S R (.modify change next) next'
  | wait (ms : Nat) {next : Job σ α} {next' : Job τ β} (hnext : Matches S R next next') :
      Matches S R (.wait ms next) (.wait ms next')
  | never : Matches S R .never .never

namespace Matches

variable {job : Job σ α} {job' : Job τ β} {other : Job σ γ} {other' : Job τ δ}

theorem refl {R : α → α → Prop} (hR : ∀ a, R a a) (job : Job σ α) : job.Matches Eq R job := by
  induction job with
  | done a => exact .done (hR a)
  | observe next ih =>
    refine .observe ?_
    rintro s _ rfl
    exact ih s
  | modify change next ih => exact .modify (fun _ _ => congrArg change) ih
  | wait ms next ih => exact .wait ms ih
  | never => exact .never

/-- Matching jobs end in the same runs, with related results, and leave related states whether or
    not they end. -/
theorem run (hjob : job.Matches S R job') (patience : Nat) {s : σ} {t : τ} (hst : S s t) :
    Option.Rel R (job.run patience s).1 (job'.run patience t).1 ∧
      S (job.run patience s).2 (job'.run patience t).2 := by
  induction hjob generalizing patience s t with
  | done hresult => exact ⟨.some hresult, hst⟩
  | observe _ ih => exact ih s t hst patience hst
  | modify hchange _ ih => exact ih patience (hchange s t hst)
  | note hchange _ ih => exact ih patience (hchange s t hst)
  | wait ms _ ih =>
    simp only [Job.run]
    split
    · exact ih (patience - ms) hst
    · exact ⟨.none, hst⟩
  | never => exact ⟨.none, hst⟩

/-- What related results have in common, the results of matching jobs have in common. -/
theorem result_map_eq {f : α → γ} {f' : β → γ} (hjob : job.Matches S R job')
    (hf : ∀ a b, R a b → f a = f' b) (patience : Nat) {s : σ} {t : τ} (hst : S s t) :
    (job.run patience s).1.map f = (job'.run patience t).1.map f' := by
  obtain ⟨hresult, -⟩ := hjob.run patience hst
  generalize (job.run patience s).1 = result at hresult ⊢
  generalize (job'.run patience t).1 = result' at hresult ⊢
  cases hresult with
  | none => rfl
  | some hresult => exact congrArg some (hf _ _ hresult)

theorem result_eq {R : α → α → Prop} {job : Job σ α} {job' : Job τ α}
    (hjob : job.Matches S R job') (hR : ∀ a b, R a b → a = b) (patience : Nat) {s : σ} {t : τ}
    (hst : S s t) : (job.run patience s).1 = (job'.run patience t).1 := by
  have hresults : (job.run patience s).1.map id = (job'.run patience t).1.map id :=
    hjob.result_map_eq hR patience hst
  rwa [Option.map_id, id, id] at hresults

theorem bind {next : α → Job σ γ} {next' : β → Job τ δ} (hjob : job.Matches S R job')
    (hnext : ∀ a b, R a b → (next a).Matches S R' (next' b)) :
    (job.bind next).Matches S R' (job'.bind next') := by
  induction hjob with
  | done hresult => exact hnext _ _ hresult
  | observe _ ih => exact .observe ih
  | modify hchange _ ih => exact .modify hchange ih
  | note hchange _ ih => exact .note hchange ih
  | wait ms _ ih => exact .wait ms ih
  | never => exact .never

theorem map {f : α → γ} {f' : β → δ} (hjob : job.Matches S R job')
    (hf : ∀ a b, R a b → R' (f a) (f' b)) : (job.map f).Matches S R' (job'.map f') :=
  hjob.bind fun a b hresult => .done (hf a b hresult)

theorem pause (hjob : job.Matches S R job') (ms : Nat) :
    (Job.pause ms job).Matches S R (Job.pause ms job') := by
  unfold Job.pause
  split
  · exact hjob
  · exact .wait ms hjob

theorem beside {resume : Job σ γ → Job σ α} {resume' : Job τ δ → Job τ β}
    (hother : other.Matches S R' other')
    (hresume : ∀ {other : Job σ γ} {other' : Job τ δ}, other.Matches S R' other' →
      (resume other).Matches S R (resume' other')) (ms : Nat) :
    (Job.beside resume ms other).Matches S R (Job.beside resume' ms other') := by
  induction hother generalizing ms with
  | done hresult => exact .wait ms (hresume (.done hresult))
  | observe _ ih => exact .observe fun s t hst => ih s t hst ms
  | modify hchange _ ih => exact .modify hchange (ih ms)
  | note hchange _ ih => exact .note hchange (ih ms)
  | wait n hnext ih =>
    unfold Job.beside
    split
    · exact .wait ms (hresume (hnext.pause (n - ms)))
    · exact .wait n (ih (ms - n))
  | never => exact .wait ms (hresume .never)

theorem both (hjob : job.Matches S R job') (hother : other.Matches S R' other') :
    (Job.both job other).Matches S (fun r r' => R r.1 r'.1 ∧ R' r.2 r'.2)
      (Job.both job' other') := by
  induction hjob generalizing other other' with
  | done hresult => exact hother.map fun _ _ hother => ⟨hresult, hother⟩
  | observe _ ih => exact .observe fun s t hst => ih s t hst hother
  | modify hchange _ ih => exact .modify hchange (ih hother)
  | note hchange _ ih => exact .note hchange (ih hother)
  | wait ms _ ih => exact hother.beside (fun h => ih h) ms
  | never => exact hother.bind fun _ _ _ => .never

theorem all {jobs : List (Job σ α)} {jobs' : List (Job τ β)}
    (hjobs : List.Forall₂ (Matches S R) jobs jobs') :
    (Job.all jobs).Matches S (List.Forall₂ R) (Job.all jobs') := by
  induction hjobs with
  | nil => exact .done .nil
  | cons hjob _ ih => exact (hjob.both ih).map fun _ _ hresults => .cons hresults.1 hresults.2

end Matches

end FieldRules.Job
