import FieldRules.Proofs.Job.AtOnce
import FieldRules.Proofs.Job.Matches

namespace FieldRules.Job

variable {σ τ α β : Type} {view : τ → σ}

/-- A job that does what another does, on a state of which the other sees only `view`. It may also
    take steps of its own that change nothing in the view. -/
inductive Shadows (view : τ → σ) : Job τ α → Job σ α → Prop
  | done (a : α) : Shadows view (.done a) (.done a)
  | observe {next' : τ → Job τ α} {next : σ → Job σ α}
      (hnext : ∀ t, Shadows view (next' t) (next (view t))) :
      Shadows view (.observe next') (.observe next)
  | modify {change' : τ → τ} {change : σ → σ} {next' : Job τ α} {next : Job σ α}
      (hchange : ∀ t, view (change' t) = change (view t)) (hnext : Shadows view next' next) :
      Shadows view (.modify change' next') (.modify change next)
  | note {change' : τ → τ} {next' : Job τ α} {next : Job σ α}
      (hchange : ∀ t, view (change' t) = view t) (hnext : Shadows view next' next) :
      Shadows view (.modify change' next') next
  | wait (ms : Nat) {next' : Job τ α} {next : Job σ α} (hnext : Shadows view next' next) :
      Shadows view (.wait ms next') (.wait ms next)
  | never : Shadows view .never .never

/-- A shadow is a match whose state shows that of the job, and that ends with the same result. -/
theorem shadows_iff_matches {shadow : Job τ α} {job : Job σ α} :
    shadow.Shadows view job ↔ shadow.Matches (fun t s => view t = s) Eq job := by
  constructor
  · intro hshadow
    induction hshadow with
    | done a => exact .done rfl
    | observe _ ih =>
      refine .observe fun t s hview => ?_
      subst hview
      exact ih t
    | modify hchange _ ih =>
      refine .modify (fun t s hview => ?_) ih
      rw [hchange, hview]
    | note hchange _ ih => exact .note (fun t s hview => (hchange t).trans hview) ih
    | wait ms _ ih => exact .wait ms ih
    | never => exact .never
  · intro hmatches
    induction hmatches with
    | done hresult =>
      subst hresult
      exact .done _
    | observe _ ih => exact .observe fun t => ih t (view t) rfl
    | modify hchange _ ih => exact .modify (fun t => hchange t (view t) rfl) ih
    | note hchange _ ih => exact .note (fun t => hchange t (view t) rfl) ih
    | wait ms _ ih => exact .wait ms ih
    | never => exact .never

/-- A run of the shadow ends just when a run of the job does, with the same result, and leaves what
    the job leaves in the view. -/
theorem Shadows.run_eq {shadow : Job τ α} {job : Job σ α} (hshadow : shadow.Shadows view job)
    (patience : Nat) (t : τ) :
    (shadow.run patience t).1 = (job.run patience (view t)).1 ∧
      view (shadow.run patience t).2 = (job.run patience (view t)).2 := by
  have hmatches := shadows_iff_matches.mp hshadow
  exact ⟨hmatches.result_eq (fun _ _ heq => heq) patience rfl, (hmatches.run patience rfl).2⟩

/-- A job on a part of a larger state is a shadow of the job on this part. -/
theorem shadows_zoom {update : (σ → σ) → τ → τ} (hupdate : ∀ f t, view (update f t) = f (view t))
    (job : Job σ α) : (job.zoom view update).Shadows view job := by
  induction job with
  | done a => exact .done a
  | observe next ih => exact .observe fun t => ih (view t)
  | modify f next ih => exact .modify (hupdate f) ih
  | wait ms next ih => exact .wait ms ih
  | never => exact .never

/-- A job and its shadow may both work on the first part of a pair. -/
theorem Shadows.zoom_fst {ρ : Type} {shadow : Job τ α} {job : Job σ α}
    (hshadow : shadow.Shadows view job) :
    (shadow.zoom Prod.fst fun f => Prod.map f (id : ρ → ρ)).Shadows (Prod.map view id)
      (job.zoom Prod.fst fun f => Prod.map f id) := by
  induction hshadow with
  | done a => exact .done a
  | observe _ ih => exact .observe fun t => ih t.1
  | modify hchange _ ih => exact .modify (fun t => Prod.ext (hchange t.1) rfl) ih
  | note hchange _ ih => exact .note (fun t => Prod.ext (hchange t.1) rfl) ih
  | wait ms _ ih => exact .wait ms ih
  | never => exact .never

/-- A job on the first part of a pair leaves the second part alone. -/
theorem run_zoom_fst (job : Job σ α) (patience : Nat) (s : σ) (t : τ) :
    (job.zoom Prod.fst fun f => Prod.map f id).run patience (s, t) =
      ((job.run patience s).1, (job.run patience s).2, t) := by
  induction job generalizing patience s with
  | done a => rfl
  | observe next ih => exact ih s patience s
  | modify f next ih => exact ih patience (f s)
  | wait ms next ih =>
    simp only [zoom, run]
    split
    · exact ih (patience - ms) s
    · rfl
  | never => rfl

/-- Where a job comes to no wait, neither does its shadow. -/
theorem Shadows.prompt {shadow : Job τ α} {job : Job σ α} (hshadow : shadow.Shadows view job)
    (hjob : job.Prompt) : shadow.Prompt := by
  have hends : ∀ t a s, job.atOnce (view t) = some (a, s) →
      ∃ t', shadow.atOnce t = some (a, t') := by
    clear hjob
    intro t a s hends
    induction hshadow generalizing t with
    | done b =>
      cases hends
      exact ⟨t, rfl⟩
    | observe _ ih => exact ih t t hends
    | modify hchange _ ih =>
      refine ih _ ?_
      rwa [hchange]
    | note hchange _ ih =>
      refine ih _ ?_
      rwa [hchange]
    | wait ms _ => cases hends
    | never => cases hends
  intro t
  obtain ⟨a, s, hview⟩ := hjob (view t)
  obtain ⟨t', ht'⟩ := hends t a s hview
  exact ⟨a, t', ht'⟩

theorem Shadows.bind {shadow : Job τ α} {job : Job σ α} {next' : α → Job τ β} {next : α → Job σ β}
    (hshadow : shadow.Shadows view job) (hnext : ∀ a, (next' a).Shadows view (next a)) :
    (shadow.bind next').Shadows view (job.bind next) := by
  refine shadows_iff_matches.mpr ((shadows_iff_matches.mp hshadow).bind fun a b hresult => ?_)
  subst hresult
  exact shadows_iff_matches.mp (hnext a)

theorem Shadows.map {shadow : Job τ α} {job : Job σ α} (hshadow : shadow.Shadows view job)
    (f : α → β) : (shadow.map f).Shadows view (job.map f) :=
  hshadow.bind fun a => .done (f a)

/-- Jobs and their shadows can be run all at once, and the one run is the shadow of the other. -/
theorem Shadows.all {shadows : List (Job τ α)} {jobs : List (Job σ α)}
    (hshadows : List.Forall₂ (Shadows view) shadows jobs) :
    (Job.all shadows).Shadows view (Job.all jobs) := by
  have hmatches : List.Forall₂ (Matches (fun t s => view t = s) Eq) shadows jobs :=
    hshadows.imp fun _ _ => shadows_iff_matches.mp
  have hall := Matches.all hmatches
  rw [List.forall₂_eq_eq_eq] at hall
  exact shadows_iff_matches.mpr hall

end FieldRules.Job
