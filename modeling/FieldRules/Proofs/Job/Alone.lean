import FieldRules.Proofs.Job.Bounded

namespace FieldRules.Job

variable {σ ν α β : Type}

/-- What a job ends with and the state that it leaves, if nobody else takes part and every wait but
    the endless one passes. -/
def alone : Job σ α → σ → Option (α × σ)
  | done a, s => some (a, s)
  | observe next, s => (next s).alone s
  | modify change next, s => next.alone (change s)
  | wait _ next, s => next.alone s
  | never, _ => none

/-- A job ends alone as it does in a run that is patient enough. -/
theorem alone_eq_some_iff {job : Job σ α} {s t : σ} {a : α} :
    job.alone s = some (a, t) ↔ ∃ patience, job.run patience s = (some a, t) := by
  induction job generalizing s with
  | done b =>
    constructor
    · intro hends
      cases hends
      exact ⟨0, rfl⟩
    · rintro ⟨_, hrun⟩
      cases hrun
      rfl
  | observe next ih => exact ih s
  | modify change next ih => exact ih
  | wait ms next ih =>
    constructor
    · intro hends
      obtain ⟨patience, hrun⟩ := ih.mp hends
      refine ⟨ms + patience, ?_⟩
      rw [run, if_pos (Nat.le_add_right ms patience), Nat.add_sub_cancel_left, hrun]
    · rintro ⟨patience, hrun⟩
      rw [run] at hrun
      split at hrun
      · exact ih.mpr ⟨_, hrun⟩
      · cases hrun
  | never =>
    constructor
    · intro hends
      cases hends
    · rintro ⟨_, hrun⟩
      cases hrun

theorem alone_bind (job : Job σ α) (next : α → Job σ β) (s : σ) :
    (job.bind next).alone s = (job.alone s).bind fun r => (next r.1).alone r.2 := by
  induction job generalizing s with
  | done a => rfl
  | observe k ih => exact ih s s
  | modify change k ih => exact ih (change s)
  | wait ms k ih => exact ih s
  | never => rfl

theorem Keeps.alone {view : σ → ν} {job : Job σ α} (hjob : job.Keeps view) {s t : σ} {a : α}
    (hends : job.alone s = some (a, t)) : view t = view s := by
  obtain ⟨patience, hrun⟩ := alone_eq_some_iff.mp hends
  have hview := hjob.run patience s
  rwa [hrun] at hview

/-- What a view shows of the end of a job. -/
def shown (view : σ → ν) (ends : Option (α × σ)) : Option (α × ν) :=
  ends.map fun r => (r.1, view r.2)

/-- A job that sees no more than a view, and respects it, ends alike in states that look alike. -/
theorem Bounded.shown_alone {view : σ → ν} {job : Job σ α} (hjob : job.Bounded view (Respects view))
    {s t : σ} (hview : view s = view t) : shown view (job.alone s) = shown view (job.alone t) := by
  induction job generalizing s t with
  | done a => exact congrArg (fun shows => some (a, shows)) hview
  | observe next ih =>
    rw [alone, alone, hjob.1 s t hview]
    exact ih t (hjob.2 t) hview
  | modify change next ih => exact ih hjob.2 (hjob.1 s t hview)
  | wait ms next ih => exact ih hjob hview
  | never => rfl

end FieldRules.Job
