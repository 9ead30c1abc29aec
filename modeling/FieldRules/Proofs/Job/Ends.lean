import FieldRules.Job

namespace FieldRules

namespace Job

variable {σ α β : Type}

/-- Started in the state `s`, a job can end with `a` in the state `s'` while others share the state:
    whenever the job waits, they may take the state as far as `interference` allows. How long the
    waits are plays no part. -/
inductive Ends (interference : σ → σ → Prop) : Job σ α → σ → α → σ → Prop
  | done (a : α) (s : σ) : Ends interference (.done a) s a s
  | observe {next : σ → Job σ α} {s s' : σ} {a : α} (hnext : Ends interference (next s) s a s') :
      Ends interference (.observe next) s a s'
  | modify {change : σ → σ} {next : Job σ α} {s s' : σ} {a : α}
      (hnext : Ends interference next (change s) a s') :
      Ends interference (.modify change next) s a s'
  | wait {ms : Nat} {next : Job σ α} {s t s' : σ} {a : α} (hothers : interference s t)
      (hnext : Ends interference next t a s') : Ends interference (.wait ms next) s a s'

section

variable {interference : σ → σ → Prop} {s s' : σ}

theorem ends_done_iff {a b : α} :
    (Job.done a : Job σ α).Ends interference s b s' ↔ b = a ∧ s' = s := by
  constructor
  · intro hends
    cases hends
    exact ⟨rfl, rfl⟩
  · rintro ⟨rfl, rfl⟩
    exact .done _ _

theorem ends_observe_iff {next : σ → Job σ α} {a : α} :
    (Job.observe next).Ends interference s a s' ↔ (next s).Ends interference s a s' := by
  constructor
  · intro hends
    cases hends with
    | observe hnext => exact hnext
  · exact .observe

/-- A job in two parts ends when its first part has ended and then the second one does. -/
theorem ends_bind_iff {job : Job σ α} {next : α → Job σ β} {b : β} :
    (job.bind next).Ends interference s b s' ↔
      ∃ a t, job.Ends interference s a t ∧ (next a).Ends interference t b s' := by
  constructor
  · intro hends
    induction job generalizing s with
    | done a => exact ⟨a, s, .done a s, hends⟩
    | observe k ih =>
      cases hends with
      | observe hnext =>
        obtain ⟨a, t, hjob, hrest⟩ := ih s hnext
        exact ⟨a, t, .observe hjob, hrest⟩
    | modify f k ih =>
      cases hends with
      | modify hnext =>
        obtain ⟨a, t, hjob, hrest⟩ := ih hnext
        exact ⟨a, t, .modify hjob, hrest⟩
    | wait ms k ih =>
      cases hends with
      | wait hothers hnext =>
        obtain ⟨a, t, hjob, hrest⟩ := ih hnext
        exact ⟨a, t, .wait hothers hjob, hrest⟩
    | never => cases hends
  · rintro ⟨a, t, hjob, hrest⟩
    induction hjob with
    | done a t => exact hrest
    | observe _ ih => exact .observe (ih hrest)
    | modify _ ih => exact .modify (ih hrest)
    | wait hothers _ ih => exact .wait hothers (ih hrest)

end

/-- A run of a job by itself ends as the job can if nobody interferes. -/
theorem ends_of_run {job : Job σ α} {patience : Nat} {s s' : σ} {a : α}
    (hrun : job.run patience s = (some a, s')) : job.Ends Eq s a s' := by
  induction job generalizing patience s with
  | done b =>
    cases hrun
    exact .done _ _
  | observe k ih => exact .observe (ih s hrun)
  | modify f k ih => exact .modify (ih hrun)
  | wait ms k ih =>
    simp only [run] at hrun
    split at hrun
    · exact .wait rfl (ih hrun)
    · cases hrun
  | never => cases hrun

/-- What a job can end with if nobody interferes is what a run ends with that is patient enough. -/
theorem exists_run_of_ends {job : Job σ α} {s s' : σ} {a : α} (hends : job.Ends Eq s a s') :
    ∃ patience, job.run patience s = (some a, s') := by
  induction hends with
  | done a s => exact ⟨0, rfl⟩
  | observe _ ih => exact ih
  | modify _ ih => exact ih
  | @wait ms _ _ _ _ _ hothers _ ih =>
    obtain ⟨patience, hrun⟩ := ih
    subst hothers
    refine ⟨ms + patience, ?_⟩
    simp only [run, Nat.le_add_right, if_true, Nat.add_sub_cancel_left]
    exact hrun

end Job

end FieldRules
