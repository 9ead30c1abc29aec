import FieldRules.Job
import Mathlib.Data.List.Forall2

namespace FieldRules.Job

variable {σ α β : Type}

/-- The result of a job and the state that it leaves, unless it comes to a wait. -/
def atOnce : Job σ α → σ → Option (α × σ)
  | done a, s => some (a, s)
  | observe next, s => (next s).atOnce s
  | modify change next, s => next.atOnce (change s)
  | wait _ _, _ => none
  | never, _ => none

theorem run_of_atOnce {job : Job σ α} {s t : σ} {a : α} (hjob : job.atOnce s = some (a, t))
    (patience : Nat) : job.run patience s = (some a, t) := by
  induction job generalizing s with
  | done b =>
    cases hjob
    rfl
  | observe next ih => exact ih s hjob
  | modify change next ih => exact ih hjob
  | wait ms next => cases hjob
  | never => cases hjob

theorem atOnce_bind (job : Job σ α) (next : α → Job σ β) (s : σ) :
    (job.bind next).atOnce s = (job.atOnce s).bind fun r => (next r.1).atOnce r.2 := by
  induction job generalizing s with
  | done a => rfl
  | observe k ih => exact ih s s
  | modify change k ih => exact ih (change s)
  | wait ms k => rfl
  | never => rfl

theorem atOnce_map (f : α → β) (job : Job σ α) (s : σ) :
    (job.map f).atOnce s = (job.atOnce s).map fun r => (f r.1, r.2) := by
  unfold map
  rw [atOnce_bind]
  cases job.atOnce s <;> rfl

/-- A job beside a wait comes to a wait sooner or later. -/
theorem atOnce_beside (resume : Job σ α → Job σ β) (ms : Nat) (job : Job σ α) (s : σ) :
    (beside resume ms job).atOnce s = none := by
  induction job generalizing ms s with
  | done a => rfl
  | observe k ih => exact ih s ms s
  | modify change k ih => exact ih ms (change s)
  | wait n k =>
    unfold beside
    split <;> rfl
  | never => rfl

/-- Without waits, the second of two jobs starts when the first one is over. -/
theorem atOnce_both (job : Job σ α) (other : Job σ β) (s : σ) :
    (both job other).atOnce s =
      (job.atOnce s).bind fun r => (other.atOnce r.2).map fun r' => ((r.1, r'.1), r'.2) := by
  induction job generalizing s with
  | done a => exact atOnce_map _ other s
  | observe k ih => exact ih s s
  | modify change k ih => exact ih (change s)
  | wait ms k => exact atOnce_beside (both k) ms other s
  | never =>
    rw [both, atOnce_bind]
    cases other.atOnce s <;> rfl

theorem atOnce_all_cons (job : Job σ α) (jobs : List (Job σ α)) (s : σ) :
    (all (job :: jobs)).atOnce s =
      (job.atOnce s).bind fun r =>
        ((all jobs).atOnce r.2).map fun r' => (r.1 :: r'.1, r'.2) := by
  rw [all, atOnce_map, atOnce_both]
  cases job.atOnce s with
  | none => rfl
  | some r => cases hrest : (all jobs).atOnce r.2 <;> simp [hrest]

/-- Runs jobs one after another. -/
def inTurn : List (Job σ α) → Job σ (List α)
  | [] => done []
  | job :: jobs => job.bind fun a => (inTurn jobs).map (a :: ·)

theorem atOnce_inTurn_cons (job : Job σ α) (jobs : List (Job σ α)) (s : σ) :
    (inTurn (job :: jobs)).atOnce s =
      (job.atOnce s).bind fun r =>
        ((inTurn jobs).atOnce r.2).map fun r' => (r.1 :: r'.1, r'.2) := by
  rw [inTurn, atOnce_bind]
  simp only [atOnce_map]

/-- Without waits, jobs that run all at once run one after another. -/
theorem atOnce_all_eq_inTurn {jobs jobs' : List (Job σ α)}
    (hjobs : List.Forall₂ (fun job job' => job.atOnce = job'.atOnce) jobs jobs') :
    (all jobs).atOnce = (inTurn jobs').atOnce := by
  induction hjobs with
  | nil => rfl
  | cons hjob _ ih =>
    funext s
    rw [atOnce_all_cons, atOnce_inTurn_cons, hjob, ih]

/-- A job that comes to no wait, wherever it starts. -/
def Prompt (job : Job σ α) : Prop := ∀ s, ∃ a t, job.atOnce s = some (a, t)

theorem Prompt.bind {job : Job σ α} {next : α → Job σ β} (hjob : job.Prompt)
    (hnext : ∀ a, (next a).Prompt) : (job.bind next).Prompt := by
  intro s
  obtain ⟨a, t, hends⟩ := hjob s
  rw [atOnce_bind, hends]
  exact hnext a t

theorem Prompt.all {jobs : List (Job σ α)} (hjobs : ∀ job ∈ jobs, job.Prompt) :
    (Job.all jobs).Prompt := by
  intro s
  induction jobs generalizing s with
  | nil => exact ⟨[], s, rfl⟩
  | cons job jobs ih =>
    obtain ⟨hjob, hrest⟩ := List.forall_mem_cons.mp hjobs
    obtain ⟨a, t, hends⟩ := hjob s
    obtain ⟨as, u, hends'⟩ := ih hrest t
    rw [atOnce_all_cons, hends, Option.bind_some, hends']
    exact ⟨a :: as, u, rfl⟩

end FieldRules.Job
