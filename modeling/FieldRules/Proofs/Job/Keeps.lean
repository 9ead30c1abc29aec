import FieldRules.Proofs.Job.AtOnce
import FieldRules.Proofs.Job.Ensures

namespace FieldRules

/-- The contract of a job that leaves a part of the state alone, and counts on nothing. -/
def keeping {σ ν : Type} (view : σ → ν) : Contract σ where
  rely _ _ := True
  guarantee s t := view t = view s
  refl _ := trivial
  trans _ _ _ _ _ := trivial

namespace Job

variable {σ ν α β : Type}

/-- From any state on, the job leaves a part of the state alone. -/
def Keeps (view : σ → ν) (job : Job σ α) : Prop :=
  ∀ s, job.Ensures (keeping view) (fun _ _ => True) s

variable {view : σ → ν} {job : Job σ α} {s t : σ}

theorem keeps_done (a : α) : (done a : Job σ α).Keeps view :=
  fun _ _ _ => trivial

theorem keeps_never : (never : Job σ α).Keeps view :=
  fun _ => trivial

theorem Keeps.observe {next : σ → Job σ α} (hnext : ∀ s, (next s).Keeps view) :
    (observe next).Keeps view :=
  fun s => hnext s s

theorem Keeps.modify {change : σ → σ} (hchange : ∀ s, view (change s) = view s)
    (hjob : job.Keeps view) : (modify change job).Keeps view :=
  fun s => ⟨hchange s, hjob (change s)⟩

/-- A run leaves alone what its job does, whether or not it ends. -/
theorem Keeps.run (hjob : job.Keeps view) (patience : Nat) (s : σ) :
    view (job.run patience s).2 = view s := by
  have hsteps := (hjob s).steps_of_run patience
  generalize (job.run patience s).2 = t at hsteps
  induction hsteps with
  | refl => rfl
  | tail _ hstep ih => exact Eq.trans hstep ih

theorem Keeps.atOnce (hjob : job.Keeps view) {a : α} (hends : job.atOnce s = some (a, t)) :
    view t = view s := by
  have hview := hjob.run 0 s
  rwa [run_of_atOnce hends] at hview

end Job

end FieldRules
