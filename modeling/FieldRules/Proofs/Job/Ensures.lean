import FieldRules.Proofs.Job.AtOnce
import Mathlib.Logic.Relation

namespace FieldRules

/-- What a job counts on while it shares its state with others, and what it promises them: `rely`
    holds between the states before and after the others have had the state to themselves for a
    while, and `guarantee` between the states before and after each change that the job makes. -/
structure Contract (σ : Type) where
  rely : σ → σ → Prop
  guarantee : σ → σ → Prop
  refl : ∀ s, rely s s
  trans : ∀ s t u, rely s t → rely t u → rely s u

namespace Contract

variable {σ ι : Type}

/-- The contract of two jobs side by side. -/
def beside (left right : Contract σ) : Contract σ where
  rely s t := left.rely s t ∧ right.rely s t
  guarantee s t := left.guarantee s t ∨ right.guarantee s t
  refl s := ⟨left.refl s, right.refl s⟩
  trans s t u hst htu := ⟨left.trans s t u hst.1 htu.1, right.trans s t u hst.2 htu.2⟩

/-- The contract of many jobs side by side. -/
def all (contract : ι → Contract σ) (is : List ι) : Contract σ where
  rely s t := ∀ i ∈ is, (contract i).rely s t
  guarantee s t := ∃ i ∈ is, (contract i).guarantee s t
  refl s i _ := (contract i).refl s
  trans s t u hst htu i hi := (contract i).trans s t u (hst i hi) (htu i hi)

/-- Two jobs can run side by side if each of them promises what the other counts on. -/
def Compatible (left right : Contract σ) : Prop :=
  (∀ s t, left.guarantee s t → right.rely s t) ∧ ∀ s t, right.guarantee s t → left.rely s t

end Contract

namespace Job

variable {σ α β ι : Type}

/-- From the state `s` on, a job keeps its contract, and if it ends, then with a result and in a state
    that satisfy `post`, also after others have gone on. -/
def Ensures (contract : Contract σ) (post : α → σ → Prop) : Job σ α → σ → Prop
  | done a, s => ∀ t, contract.rely s t → post a t
  | observe next, s => (next s).Ensures contract post s
  | modify change next, s =>
    contract.guarantee s (change s) ∧ next.Ensures contract post (change s)
  | wait _ next, s => ∀ t, contract.rely s t → next.Ensures contract post t
  | never, _ => True

/-- A job that keeps its contract while it waits for its first turn. -/
def Parked (contract : Contract σ) (post : α → σ → Prop) (job : Job σ α) (s : σ) : Prop :=
  ∀ t, contract.rely s t → job.Ensures contract post t

section

variable {contract : Contract σ} {post : α → σ → Prop} {job : Job σ α} {s t : σ}

theorem Parked.ensures (hparked : job.Parked contract post s) : job.Ensures contract post s :=
  hparked s (contract.refl s)

theorem Parked.of_rely (hparked : job.Parked contract post s) (hrely : contract.rely s t) :
    job.Parked contract post t := by
  intro u hu
  exact hparked u (contract.trans s t u hrely hu)

theorem Parked.pause (hparked : job.Parked contract post s) (ms : Nat) :
    (Job.pause ms job).Parked contract post s := by
  unfold Job.pause
  split
  · exact hparked
  · intro t hst u htu
    exact hparked u (contract.trans s t u hst htu)

theorem Ensures.mono {weaker : Contract σ} {post' : α → σ → Prop}
    (hensures : job.Ensures contract post s)
    (hrely : ∀ s t, weaker.rely s t → contract.rely s t)
    (hguarantee : ∀ s t, contract.guarantee s t → weaker.guarantee s t)
    (hpost : ∀ a t, post a t → post' a t) : job.Ensures weaker post' s := by
  induction job generalizing s with
  | done a => exact fun t ht => hpost a t (hensures t (hrely s t ht))
  | observe next ih => exact ih s hensures
  | modify change next ih => exact ⟨hguarantee s (change s) hensures.1, ih hensures.2⟩
  | wait ms next ih => exact fun t ht => ih (hensures t (hrely s t ht))
  | never => trivial

theorem Ensures.weaken {post' : α → σ → Prop} (hensures : job.Ensures contract post s)
    (hpost : ∀ a t, post a t → post' a t) : job.Ensures contract post' s :=
  hensures.mono (fun _ _ hrely => hrely) (fun _ _ hguarantee => hguarantee) hpost

theorem Ensures.bind {next : α → Job σ β} {post' : β → σ → Prop}
    (hjob : job.Ensures contract (fun a t => (next a).Ensures contract post' t) s) :
    (job.bind next).Ensures contract post' s := by
  induction job generalizing s with
  | done a => exact hjob s (contract.refl s)
  | observe k ih => exact ih s hjob
  | modify change k ih => exact ⟨hjob.1, ih hjob.2⟩
  | wait ms k ih => exact fun t ht => ih (hjob t ht)
  | never => trivial

theorem Ensures.map {f : α → β} {post' : β → σ → Prop}
    (hjob : job.Ensures contract (fun a t => post' (f a) t) s) :
    (job.map f).Ensures contract post' s := by
  induction job generalizing s with
  | done a => exact hjob
  | observe k ih => exact ih s hjob
  | modify change k ih => exact ⟨hjob.1, ih hjob.2⟩
  | wait ms k ih => exact fun t ht => ih (hjob t ht)
  | never => trivial

/-- A run that ends does so as its contract says. -/
theorem Ensures.of_run {patience : Nat} {a : α} (hensures : job.Ensures contract post s)
    (hrun : job.run patience s = (some a, t)) : post a t := by
  induction job generalizing patience s with
  | done b =>
    cases hrun
    exact hensures t (contract.refl t)
  | observe next ih => exact ih s hensures hrun
  | modify change next ih => exact ih hensures.2 hrun
  | wait ms next ih =>
    simp only [run] at hrun
    split at hrun
    · exact ih (hensures s (contract.refl s)) hrun
    · cases hrun
  | never => cases hrun

/-- A run, whether or not it ends, changes the state by guaranteed steps only. -/
theorem Ensures.steps_of_run (hensures : job.Ensures contract post s) (patience : Nat) :
    Relation.ReflTransGen contract.guarantee s (job.run patience s).2 := by
  induction job generalizing patience s with
  | done b => exact .refl
  | observe next ih => exact ih s hensures patience
  | modify change next ih => exact .head hensures.1 (ih hensures.2 patience)
  | wait ms next ih =>
    simp only [run]
    split
    · exact ih (hensures s (contract.refl s)) (patience - ms)
    · exact .refl
  | never => exact .refl

end

section

variable {left right : Contract σ} {post₁ : α → σ → Prop} {post₂ : β → σ → Prop} {s : σ}

/-- A job goes on by itself beside one that has ended. -/
theorem ensures_beside_done (hcompatible : left.Compatible right) {a : α} {job : Job σ β}
    (ha : ∀ t, left.rely s t → post₁ a t) (hjob : job.Ensures right post₂ s) :
    (job.map fun b => (a, b)).Ensures (left.beside right)
      (fun result t => post₁ result.1 t ∧ post₂ result.2 t) s := by
  induction job generalizing s with
  | done b => exact fun t ht => ⟨ha t ht.1, hjob t ht.2⟩
  | observe next ih => exact ih s ha hjob
  | modify change next ih =>
    refine ⟨.inr hjob.1, ih (fun t ht => ha t ?_) hjob.2⟩
    exact left.trans _ _ _ (hcompatible.2 s (change s) hjob.1) ht
  | wait ms next ih =>
    intro t ht
    exact ih (fun u hu => ha u (left.trans s t u ht.1 hu)) (hjob t ht.2)
  | never => trivial

/-- A job beside one that waits: it has the state to itself until one of the two waits is over. -/
theorem ensures_beside (hcompatible : left.Compatible right) {waiting : Job σ α} {job : Job σ β}
    {ms : Nat} {resume : Job σ β → Job σ (α × β)}
    (hresume : ∀ job t, waiting.Ensures left post₁ t → job.Parked right post₂ t →
      (resume job).Ensures (left.beside right)
        (fun result t => post₁ result.1 t ∧ post₂ result.2 t) t)
    (hwaiting : waiting.Parked left post₁ s) (hjob : job.Ensures right post₂ s) :
    (beside resume ms job).Ensures (left.beside right)
      (fun result t => post₁ result.1 t ∧ post₂ result.2 t) s := by
  induction job generalizing s ms with
  | done b =>
    intro t ht
    exact hresume _ t (hwaiting t ht.1) fun u hu v hv =>
      hjob v (right.trans s t v ht.2 (right.trans t u v hu hv))
  | observe next ih => exact ih s hwaiting hjob
  | modify change next ih =>
    refine ⟨.inr hjob.1, ih (hwaiting.of_rely ?_) hjob.2⟩
    exact hcompatible.2 s (change s) hjob.1
  | wait n next ih =>
    have hnext : next.Parked right post₂ s := hjob
    unfold beside
    split
    · intro t ht
      exact hresume _ t (hwaiting t ht.1) ((hnext.of_rely ht.2).pause (n - ms))
    · intro t ht
      exact ih (hwaiting.of_rely ht.1) (hnext t ht.2)
  | never =>
    intro t ht
    exact hresume _ t (hwaiting t ht.1) fun _ _ => trivial

/-- Two compatible jobs keep both contracts side by side, however their waits interleave them. -/
theorem ensures_both (hcompatible : left.Compatible right) {job : Job σ α} {other : Job σ β}
    (hjob : job.Ensures left post₁ s) (hother : other.Parked right post₂ s) :
    (both job other).Ensures (left.beside right)
      (fun result t => post₁ result.1 t ∧ post₂ result.2 t) s := by
  induction job generalizing other s with
  | done a => exact ensures_beside_done hcompatible hjob hother.ensures
  | observe next ih => exact ih s hjob hother
  | modify change next ih =>
    refine ⟨.inl hjob.1, ih hjob.2 (hother.of_rely ?_)⟩
    exact hcompatible.1 s (change s) hjob.1
  | wait ms next ih =>
    -- While the first job waits the second one leads, so the induction changes to the second job.
    exact ensures_beside hcompatible (fun job t hnext hjob => ih hnext hjob) hjob hother.ensures
  | never =>
    refine Ensures.bind (Ensures.mono hother.ensures (fun _ _ h => h.2) (fun _ _ => .inr) ?_)
    exact fun _ _ _ => trivial

/-- If the first job comes to no wait, the second one may count on what it has ended with. -/
theorem ensures_both_of_atOnce (hcompatible : left.Compatible right) {job : Job σ α}
    {other : Job σ β} {a : α} {t : σ} (hends : job.atOnce s = some (a, t))
    (hjob : job.Ensures left post₁ s)
    (hother : post₁ a t → right.rely s t → other.Parked right post₂ t) :
    (both job other).Ensures (left.beside right)
      (fun result t => post₁ result.1 t ∧ post₂ result.2 t) s := by
  induction job generalizing s with
  | done b =>
    cases hends
    exact ensures_beside_done hcompatible hjob
      (hother (hjob t (left.refl t)) (right.refl t)).ensures
  | observe next ih => exact ih s hends hjob hother
  | modify change next ih =>
    refine ⟨.inl hjob.1, ih hends hjob.2 fun ha ht => hother ha ?_⟩
    exact right.trans _ _ _ (hcompatible.1 s (change s) hjob.1) ht
  | wait ms next => cases hends
  | never => cases hends

end

section

variable {contract : ι → Contract σ} {job : ι → Job σ α} {post : ι → α → σ → Prop} {i : ι}
  {is : List ι} {s : σ}

theorem compatible_all (hcompatible : ∀ j ∈ is, (contract i).Compatible (contract j)) :
    (contract i).Compatible (.all contract is) := by
  constructor
  · intro t u htu j hj
    exact (hcompatible j hj).1 t u htu
  · rintro t u ⟨j, hj, htu⟩
    exact (hcompatible j hj).2 t u htu

/-- The first of many jobs, and the others beside it. -/
theorem ensures_all_cons (hboth : (both (job i) (Job.all (is.map job))).Ensures
      ((contract i).beside (.all contract is))
      (fun result t => post i result.1 t ∧
        List.Forall₂ (fun i a => post i a t) is result.2) s) :
    (Job.all ((i :: is).map job)).Ensures (.all contract (i :: is))
      (fun results t => List.Forall₂ (fun i a => post i a t) (i :: is) results) s := by
  refine Ensures.map (Ensures.mono hboth ?_ ?_ ?_)
  · intro t u htu
    exact ⟨htu i List.mem_cons_self, fun j hj => htu j (.tail i hj)⟩
  · rintro t u (htu | ⟨j, hj, htu⟩)
    · exact ⟨i, List.mem_cons_self, htu⟩
    · exact ⟨j, .tail i hj, htu⟩
  · rintro ⟨a, results⟩ t ⟨ha, hresults⟩
    exact .cons ha hresults

/-- Jobs of which any two are compatible keep all their contracts side by side, and their results
    come in the order of the jobs. -/
theorem ensures_all (hcompatible : is.Pairwise fun i j => (contract i).Compatible (contract j))
    (hjobs : ∀ i ∈ is, (job i).Parked (contract i) (post i) s) :
    (Job.all (is.map job)).Ensures (.all contract is)
      (fun results t => List.Forall₂ (fun i a => post i a t) is results) s := by
  induction is generalizing s with
  | nil => exact fun t _ => .nil
  | cons i is ih =>
    obtain ⟨hfirst, hothers⟩ := List.pairwise_cons.mp hcompatible
    have hrest : (Job.all (is.map job)).Parked (.all contract is)
        (fun results t => List.Forall₂ (fun i a => post i a t) is results) s := by
      intro t ht
      exact ih hothers fun j hj => (hjobs j (.tail i hj)).of_rely (ht j hj)
    exact ensures_all_cons
      (ensures_both (compatible_all hfirst) (hjobs i List.mem_cons_self).ensures hrest)

/-- A job that comes to no wait has ended before any job behind it starts, so these may count on what
    it has ended with. -/
theorem ensures_all_of_prompt {before after : List ι}
    (hcompatible : (before ++ i :: after).Pairwise fun i j =>
      (contract i).Compatible (contract j))
    (hbefore : ∀ j ∈ before, (job j).Parked (contract j) (post j) s)
    (hjob : (job i).Parked (contract i) (post i) s) (hprompt : (job i).Prompt)
    (hafter : ∀ a t, post i a t → ∀ j ∈ after, (contract j).rely s t →
      (job j).Parked (contract j) (post j) t) :
    (Job.all ((before ++ i :: after).map job)).Ensures (.all contract (before ++ i :: after))
      (fun results t => List.Forall₂ (fun i a => post i a t) (before ++ i :: after) results)
      s := by
  induction before generalizing s with
  | nil =>
    obtain ⟨hfirst, hothers⟩ := List.pairwise_cons.mp hcompatible
    obtain ⟨a, t, hends⟩ := hprompt s
    have hrest : post i a t → (Contract.all contract after).rely s t →
        (Job.all (after.map job)).Parked (.all contract after)
          (fun results t => List.Forall₂ (fun i a => post i a t) after results) t := by
      intro ha ht u hu
      exact ensures_all hothers fun j hj => (hafter a t ha j hj (ht j hj)).of_rely (hu j hj)
    exact ensures_all_cons
      (ensures_both_of_atOnce (compatible_all hfirst) hends hjob.ensures hrest)
  | cons k before ih =>
    obtain ⟨hfirst, hothers⟩ := List.pairwise_cons.mp hcompatible
    have hrest : (Job.all ((before ++ i :: after).map job)).Parked
        (.all contract (before ++ i :: after))
        (fun results t => List.Forall₂ (fun i a => post i a t) (before ++ i :: after) results)
        s := by
      intro t ht
      refine ih hothers (fun j hj => ?_) (hjob.of_rely ?_) fun a u ha j hj hu => ?_
      · exact (hbefore j (.tail k hj)).of_rely (ht j (List.mem_append_left _ hj))
      · exact ht i (List.mem_append_right _ List.mem_cons_self)
      · have hj' : j ∈ before ++ i :: after := List.mem_append_right _ (.tail i hj)
        exact hafter a u ha j hj ((contract j).trans s t u (ht j hj') hu)
    exact ensures_all_cons
      (ensures_both (compatible_all hfirst) (hbefore k List.mem_cons_self).ensures hrest)

end

end Job

end FieldRules
