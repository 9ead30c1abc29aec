import FieldRules.Proofs.Job.Bounded

namespace FieldRules.Job

variable {σ ν α β : Type}

/-- A job that sees no more of the state than `view`, and never changes that. -/
def Confined (view : σ → ν) : Job σ α → Prop
  | done _ => True
  | observe next =>
    (∀ s t, view s = view t → next s = next t) ∧ ∀ s, (next s).Confined view
  | modify change next => (∀ s, view (change s) = view s) ∧ next.Confined view
  | wait _ next => next.Confined view
  | never => True

variable {view : σ → ν} {job : Job σ α} {other : Job σ β} {s t : σ}

/-- A confined job is one whose changes are all out of its sight. -/
theorem confined_iff :
    job.Confined view ↔ job.Bounded view fun change => ∀ s, view (change s) = view s := by
  induction job with
  | done a => exact Iff.rfl
  | observe k ih => exact and_congr_right fun _ => forall_congr' ih
  | modify change k ih => exact and_congr_right fun _ => ih
  | wait ms k ih => exact ih
  | never => exact Iff.rfl

theorem Confined.bind {next : α → Job σ β} (hjob : job.Confined view)
    (hnext : ∀ a, (next a).Confined view) : (job.bind next).Confined view :=
  confined_iff.mpr ((confined_iff.mp hjob).bind fun a => confined_iff.mp (hnext a))

theorem Confined.pause (hjob : job.Confined view) (ms : Nat) :
    (Job.pause ms job).Confined view :=
  confined_iff.mpr ((confined_iff.mp hjob).pause ms)

theorem Confined.all {jobs : List (Job σ α)} (hjobs : ∀ job ∈ jobs, job.Confined view) :
    (Job.all jobs).Confined view :=
  confined_iff.mpr (Bounded.all fun job hjob => confined_iff.mp (hjobs job hjob))

theorem Confined.keeps (hjob : job.Confined view) : job.Keeps view :=
  (confined_iff.mp hjob).keeps fun _ hchange => hchange

/-- What a confined job ends with depends only on what it sees when it starts. -/
theorem Confined.run_congr (hjob : job.Confined view) (hview : view s = view t) (patience : Nat) :
    (job.run patience s).1 = (job.run patience t).1 := by
  induction job generalizing patience s t with
  | done a => rfl
  | observe k ih =>
    have hnext := hjob.1 s t hview
    simp only [run]
    rw [hnext]
    exact ih t (hjob.2 t) hview patience
  | modify change k ih =>
    have hchange : view (change s) = view (change t) := by rw [hjob.1 s, hjob.1 t, hview]
    exact ih hjob.2 hchange patience
  | wait ms k ih =>
    simp only [run]
    by_cases hms : ms ≤ patience
    · rw [if_pos hms, if_pos hms]
      exact ih hjob hview (patience - ms)
    · rw [if_neg hms, if_neg hms]
  | never => rfl

theorem run_wait (ms patience : Nat) (job : Job σ α) (s : σ) :
    ((wait ms job).run patience s).1 =
      if ms ≤ patience then (job.run (patience - ms) s).1 else none := by
  simp only [run]
  split <;> rfl

/-- A pause is a wait, even if there is nothing to wait for. -/
theorem run_pause (ms patience : Nat) (job : Job σ α) (s : σ) :
    ((pause ms job).run patience s).1 = ((wait ms job).run patience s).1 := by
  unfold pause
  split
  · next hzero => rw [run_wait, hzero, if_pos (Nat.zero_le patience), Nat.sub_zero]
  · rfl

/-- A job whose last step cannot fail to end, and keeps the result, ends as it does without it. -/
theorem run_bind_of_ends {next : α → Job σ β} {f : α → β}
    (hnext : ∀ a patience s, ((next a).run patience s).1 = some (f a)) (job : Job σ α)
    (patience : Nat) (s : σ) :
    ((job.bind next).run patience s).1 = (job.run patience s).1.map f := by
  induction job generalizing patience s with
  | done a => exact hnext a patience s
  | observe k ih => exact ih s patience s
  | modify change k ih => exact ih patience (change s)
  | wait ms k ih =>
    rw [Job.bind, run_wait, run_wait]
    by_cases hms : ms ≤ patience
    · rw [if_pos hms, if_pos hms]
      exact ih (patience - ms) s
    · rw [if_neg hms, if_neg hms]
      rfl
  | never => rfl

theorem run_map (f : α → β) (job : Job σ α) (patience : Nat) (s : σ) :
    ((job.map f).run patience s).1 = (job.run patience s).1.map f :=
  run_bind_of_ends (fun _ _ _ => rfl) job patience s

theorem run_bind_never (job : Job σ α) (patience : Nat) (s : σ) :
    ((job.bind fun _ => (never : Job σ β)).run patience s).1 = none := by
  induction job generalizing patience s with
  | done a => rfl
  | observe k ih => exact ih s patience s
  | modify change k ih => exact ih patience (change s)
  | wait ms k ih =>
    rw [Job.bind, run_wait]
    split
    · exact ih (patience - ms) s
    · rfl
  | never => rfl

/-- The results of two runs, if both have one. -/
def pair? (a : Option α) (b : Option β) : Option (α × β) := a.bind fun a => b.map fun b => (a, b)

theorem pair?_none (a : Option α) : pair? a (none : Option β) = none := by
  cases a <;> rfl

/-- Beside a wait, a confined job goes on as it does by itself. -/
theorem Confined.run_beside {resume : Job σ β → Job σ (α × β)} (hother : other.Confined view)
    (hresume : ∀ {other : Job σ β}, other.Confined view → ∀ patience s,
      ((resume other).run patience s).1 = pair? (job.run patience s).1 (other.run patience s).1)
    (hjob : job.Confined view) (ms patience : Nat) (s : σ) :
    ((Job.beside resume ms other).run patience s).1 =
      pair? ((wait ms job).run patience s).1 (other.run patience s).1 := by
  induction other generalizing ms patience s with
  | done b =>
    have hdone : (done b : Job σ β).Confined view := trivial
    rw [Job.beside, run_wait, run_wait]
    split
    · exact hresume hdone (patience - ms) s
    · rfl
  | observe k ih => exact ih s (hother.2 s) ms patience s
  | modify change k ih =>
    -- The change reaches the waiting job too, but out of its sight.
    have hkeeps : ((wait ms job).run patience (change s)).1 = ((wait ms job).run patience s).1 := by
      rw [run_wait, run_wait, hjob.run_congr (hother.1 s)]
    rw [Job.beside, run, ih hother.2, hkeeps, run]
  | wait n k ih =>
    have hk : k.Confined view := hother
    unfold Job.beside
    split
    -- The shorter of the two waits passes first, and what is left of the longer one is paused.
    · next hfirst =>
      rw [run_wait, run_wait ms patience job]
      by_cases hms : ms ≤ patience
      · have hrest : patience - ms - (n - ms) = patience - n := by omega
        have hwithin : n - ms ≤ patience - ms ↔ n ≤ patience := by omega
        rw [if_pos hms, if_pos hms, hresume (hk.pause _), run_pause, run_wait, run_wait]
        simp only [hrest, hwithin]
      · rw [if_neg hms, if_neg hms]
        rfl
    · next hlater =>
      rw [run_wait, run_wait n patience k]
      by_cases hn : n ≤ patience
      · have hrest : patience - n - (ms - n) = patience - ms := by omega
        have hwithin : ms - n ≤ patience - n ↔ ms ≤ patience := by omega
        rw [if_pos hn, if_pos hn, ih hk, run_wait, run_wait]
        simp only [hrest, hwithin]
      · rw [if_neg hn, if_neg hn, pair?_none]
  | never =>
    have hnever : (never : Job σ β).Confined view := trivial
    rw [Job.beside, run_wait, run_wait]
    split
    · exact hresume hnever (patience - ms) s
    · rfl

/-- Two confined jobs at once end as each of them does by itself. -/
theorem Confined.run_both (hjob : job.Confined view) (hother : other.Confined view)
    (patience : Nat) (s : σ) :
    ((Job.both job other).run patience s).1 =
      pair? (job.run patience s).1 (other.run patience s).1 := by
  induction job generalizing other patience s with
  | done a => exact run_map _ other patience s
  | observe k ih => exact ih s (hjob.2 s) hother patience s
  | modify change k ih =>
    rw [Job.both, run, ih hjob.2 hother, run, hother.run_congr (hjob.1 s)]
  | wait ms k ih =>
    exact hother.run_beside (fun hother' => ih hjob hother') hjob ms patience s
  | never => exact run_bind_never other patience s

/-- Confined jobs all at once end as they do one by one, if each of them has the patience of the
    whole. -/
theorem Confined.run_all {jobs : List (Job σ α)} (hjobs : ∀ job ∈ jobs, job.Confined view)
    (patience : Nat) (s : σ) :
    ((Job.all jobs).run patience s).1 = jobs.mapM fun job => (job.run patience s).1 := by
  induction jobs with
  | nil => rfl
  | cons job jobs ih =>
    obtain ⟨hjob, hrest⟩ := List.forall_mem_cons.mp hjobs
    rw [Job.all, run_map, hjob.run_both (Confined.all hrest), ih hrest, List.mapM_cons]
    cases (job.run patience s).1 with
    | none => rfl
    | some a => cases jobs.mapM fun job => (job.run patience s).1 <;> rfl

end FieldRules.Job
