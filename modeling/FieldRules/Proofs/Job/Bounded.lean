import FieldRules.Proofs.Job.Keeps

namespace FieldRules.Job

variable {σ ν α β : Type}

/-- A job that sees no more of the state than `view`, and makes no changes but allowed ones. -/
def Bounded (view : σ → ν) (allowed : (σ → σ) → Prop) : Job σ α → Prop
  | done _ => True
  | observe next =>
    (∀ s t, view s = view t → next s = next t) ∧ ∀ s, (next s).Bounded view allowed
  | modify change next => allowed change ∧ next.Bounded view allowed
  | wait _ next => next.Bounded view allowed
  | never => True

variable {view : σ → ν} {allowed : (σ → σ) → Prop} {job : Job σ α} {other : Job σ β} {s t : σ}

theorem Bounded.bind {next : α → Job σ β} (hjob : job.Bounded view allowed)
    (hnext : ∀ a, (next a).Bounded view allowed) : (job.bind next).Bounded view allowed := by
  induction job with
  | done a => exact hnext a
  | observe k ih =>
    refine ⟨fun s t hview => ?_, fun s => ih s (hjob.2 s)⟩
    exact congrArg (Job.bind next) (hjob.1 s t hview)
  | modify change k ih => exact ⟨hjob.1, ih hjob.2⟩
  | wait ms k ih => exact ih hjob
  | never => trivial

theorem Bounded.map (hjob : job.Bounded view allowed) (f : α → β) :
    (job.map f).Bounded view allowed :=
  hjob.bind fun _ => trivial

theorem Bounded.pause (hjob : job.Bounded view allowed) (ms : Nat) :
    (Job.pause ms job).Bounded view allowed := by
  unfold Job.pause
  split
  · exact hjob
  · exact hjob

theorem Bounded.beside {resume : Job σ α → Job σ β} (hjob : job.Bounded view allowed)
    (hresume : ∀ job, job.Bounded view allowed → (resume job).Bounded view allowed) (ms : Nat) :
    (Job.beside resume ms job).Bounded view allowed := by
  induction job generalizing ms with
  | done a => exact hresume _ trivial
  | observe k ih =>
    refine ⟨fun s t hview => ?_, fun s => ih s (hjob.2 s) ms⟩
    exact congrArg (Job.beside resume ms) (hjob.1 s t hview)
  | modify change k ih => exact ⟨hjob.1, ih hjob.2 ms⟩
  | wait n k ih =>
    have hk : k.Bounded view allowed := hjob
    unfold Job.beside
    split
    · exact hresume _ (hk.pause (n - ms))
    · exact ih hjob (ms - n)
  | never => exact hresume _ trivial

theorem Bounded.both (hjob : job.Bounded view allowed) (hother : other.Bounded view allowed) :
    (Job.both job other).Bounded view allowed := by
  induction job generalizing other with
  | done a => exact hother.map fun b => (a, b)
  | observe k ih =>
    refine ⟨fun s t hview => ?_, fun s => ih s (hjob.2 s) hother⟩
    exact congrArg (Job.both · other) (hjob.1 s t hview)
  | modify change k ih => exact ⟨hjob.1, ih hjob.2 hother⟩
  | wait ms k ih => exact hother.beside (fun job hjob' => ih hjob hjob') ms
  | never => exact hother.bind fun _ => trivial

theorem Bounded.all {jobs : List (Job σ α)} (hjobs : ∀ job ∈ jobs, job.Bounded view allowed) :
    (Job.all jobs).Bounded view allowed := by
  induction jobs with
  | nil => trivial
  | cons job jobs ih =>
    obtain ⟨hjob, hrest⟩ := List.forall_mem_cons.mp hjobs
    exact (hjob.both (ih hrest)).map _

/-- A job keeps what all of its changes keep. -/
theorem Bounded.keeps {kept : σ → β} (hjob : job.Bounded view allowed)
    (hallowed : ∀ change, allowed change → ∀ s, kept (change s) = kept s) : job.Keeps kept := by
  induction job with
  | done a => exact keeps_done a
  | observe k ih => exact .observe fun s => ih s (hjob.2 s)
  | modify change k ih => exact .modify (hallowed change hjob.1) (ih hjob.2)
  | wait ms k ih => exact fun s t _ => ih hjob t
  | never => exact keeps_never

/-- Whether or not a run ends, it preserves what all changes of its job preserve. -/
theorem Bounded.run_preserves {invariant : σ → Prop} (hjob : job.Bounded view allowed)
    (hallowed : ∀ change, allowed change → ∀ s, invariant s → invariant (change s))
    (patience : Nat) (hstart : invariant s) : invariant (job.run patience s).2 := by
  induction job generalizing patience s with
  | done a => exact hstart
  | observe k ih => exact ih s (hjob.2 s) patience hstart
  | modify change k ih => exact ih hjob.2 patience (hallowed change hjob.1 s hstart)
  | wait ms k ih =>
    rw [run]
    split
    · exact ih hjob (patience - ms) hstart
    · exact hstart
  | never => exact hstart

/-- A change of the state after which a view shows only what depends on what it showed before. -/
def Respects (view : σ → ν) (change : σ → σ) : Prop :=
  ∀ s t, view s = view t → view (change s) = view (change t)

theorem respects_of_keeps {change : σ → σ} (hkeeps : ∀ s, view (change s) = view s) :
    Respects view change := by
  intro s t hview
  rw [hkeeps, hkeeps, hview]

end FieldRules.Job
