import FieldRules.Proofs.Job.Alone
import FieldRules.Proofs.Job.Confined
import FieldRules.Proofs.Job.Ends
import FieldRules.Proofs.MapM

namespace FieldRules.Job

variable {σ ν α : Type} {job : Job σ α} {s t : σ} {a : α}

/-- What a job ends with alone, whatever state it leaves. -/
def ending (job : Job σ α) (s : σ) : Option α := (job.alone s).map Prod.fst

theorem ending_of_alone (hends : job.alone s = some (a, t)) : job.ending s = some a :=
  congrArg (Option.map Prod.fst) hends

theorem ending_map {β : Type} (f : α → β) (job : Job σ α) (s : σ) :
    (job.map f).ending s = (job.ending s).map f := by
  unfold ending map
  rw [alone_bind]
  cases job.alone s <;> rfl

/-- More patience does not change how a run ends. -/
theorem run_mono {patience patience' : Nat} (hrun : (job.run patience s).1 = some a)
    (hle : patience ≤ patience') : (job.run patience' s).1 = some a := by
  induction job generalizing patience patience' s with
  | done b => exact hrun
  | observe next ih => exact ih s hrun hle
  | modify change next ih => exact ih hrun hle
  | wait ms next ih =>
    rw [run_wait] at hrun ⊢
    split at hrun
    · next hms =>
      rw [if_pos (Nat.le_trans hms hle)]
      exact ih hrun (Nat.sub_le_sub_right hle ms)
    · cases hrun
  | never => cases hrun

theorem ending_eq_some_iff :
    job.ending s = some a ↔ ∃ patience, (job.run patience s).1 = some a := by
  constructor
  · intro hends
    obtain ⟨⟨_, t⟩, halone, rfl⟩ := Option.map_eq_some_iff.mp hends
    obtain ⟨patience, hrun⟩ := alone_eq_some_iff.mp halone
    exact ⟨patience, congrArg Prod.fst hrun⟩
  · rintro ⟨patience, hrun⟩
    exact ending_of_alone (alone_eq_some_iff.mpr ⟨patience, Prod.ext hrun rfl⟩)

/-- Some patience is enough for each of several jobs that end. -/
theorem exists_patience {jobs : List (Job σ α)} {as : List α}
    (hends : List.Forall₂ (fun job a => job.ending s = some a) jobs as) :
    ∃ patience, List.Forall₂ (fun job a => (job.run patience s).1 = some a) jobs as := by
  induction hends with
  | nil => exact ⟨0, .nil⟩
  | cons hjob _ ih =>
    obtain ⟨patience, hrun⟩ := ending_eq_some_iff.mp hjob
    obtain ⟨patience', hrest⟩ := ih
    refine ⟨max patience patience', .cons (run_mono hrun (Nat.le_max_left ..)) ?_⟩
    exact hrest.imp fun _ _ hrun => run_mono hrun (Nat.le_max_right ..)

/-- A confined job ends alike in states that it cannot tell apart. -/
theorem Confined.ending_congr {view : σ → ν} (hjob : job.Confined view) (hview : view s = view t) :
    job.ending s = job.ending t := by
  ext a
  simp only [ending_eq_some_iff, hjob.run_congr hview]

/-- A confined job ends as it does alone, if others change nothing that it sees. -/
theorem Confined.ending_of_ends {view : σ → ν} {interference : σ → σ → Prop}
    (hjob : job.Confined view) (hunseen : ∀ s t, interference s t → view t = view s)
    (hends : job.Ends interference s a t) : job.ending s = some a := by
  induction hends with
  | done a s => rfl
  | observe _ ih => exact ih (hjob.2 _)
  | modify _ ih => exact ih hjob.2
  | @wait _ next s t _ _ hothers _ ih =>
    have hsame : next.ending s = next.ending t :=
      Confined.ending_congr hjob (hunseen s t hothers).symm
    exact hsame.trans (ih hjob)

/-- Confined jobs all at once end as each of them does alone, and if one of them does not end,
    neither do they. -/
theorem Confined.ending_all {view : σ → ν} {jobs : List (Job σ α)}
    (hjobs : ∀ job ∈ jobs, job.Confined view) (s : σ) :
    (Job.all jobs).ending s = jobs.mapM fun job => job.ending s := by
  ext as
  rw [ending_eq_some_iff, mapM_eq_some_iff]
  simp only [Confined.run_all hjobs, mapM_eq_some_iff]
  constructor
  · rintro ⟨patience, hruns⟩
    exact hruns.imp fun _ _ hrun => ending_eq_some_iff.mpr ⟨patience, hrun⟩
  · exact exists_patience

end FieldRules.Job
