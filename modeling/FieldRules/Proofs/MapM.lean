import Mathlib.Data.List.Perm.Basic

namespace FieldRules

variable {α β ε : Type} {f : α → Except ε β}

theorem bind_eq_ok_iff {x : Except ε α} {b : β} : x >>= f = .ok b ↔ ∃ a, x = .ok a ∧ f a = .ok b := by
  cases x with
  | error e => simp [bind, Except.bind]
  | ok a => simp [bind, Except.bind]

theorem map_eq_ok_iff {g : α → β} {x : Except ε α} {b : β} :
    x.map g = .ok b ↔ ∃ a, x = .ok a ∧ g a = b := by
  cases x with
  | error e => simp [Except.map]
  | ok a => simp [Except.map]

theorem forM_eq_ok_iff {g : α → Except ε Unit} {xs : List α} {u : Unit} :
    xs.forM g = .ok u ↔ ∀ x ∈ xs, g x = .ok u := by
  induction xs with
  | nil => simp [pure, Except.pure]
  | cons x xs ih =>
    rw [List.forM, bind_eq_ok_iff, List.forall_mem_cons, exists_and_right, ih]
    exact and_congr_left fun _ => ⟨fun ⟨_, hx⟩ => hx, fun hx => ⟨_, hx⟩⟩

theorem forall₂_imp_of_mem {R S : α → β → Prop} {xs : List α} {ys : List β}
    (hall : List.Forall₂ R xs ys) (hRS : ∀ x ∈ xs, ∀ y, R x y → S x y) : List.Forall₂ S xs ys := by
  induction hall with
  | nil => exact .nil
  | cons hR _ ih =>
    obtain ⟨hx, hxs⟩ := List.forall_mem_cons.mp hRS
    exact .cons (hx _ hR) (ih hxs)

theorem forall₂_congr {R S : α → β → Prop} {xs : List α} {ys : List β}
    (hRS : ∀ x ∈ xs, ∀ y, R x y ↔ S x y) : List.Forall₂ R xs ys ↔ List.Forall₂ S xs ys :=
  ⟨fun hall => forall₂_imp_of_mem hall fun x hx y => (hRS x hx y).mp,
    fun hall => forall₂_imp_of_mem hall fun x hx y => (hRS x hx y).mpr⟩

theorem forall₂_comp {γ : Type} {R : α → β → Prop} {S : β → γ → Prop} {xs : List α} {ys : List β}
    {zs : List γ} (hxy : List.Forall₂ R xs ys) (hyz : List.Forall₂ S ys zs) :
    List.Forall₂ (fun x z => ∃ y, R x y ∧ S y z) xs zs := by
  induction hxy generalizing zs with
  | nil =>
    cases hyz
    exact .nil
  | cons hx _ ih =>
    cases hyz with
    | cons hy hrest => exact .cons ⟨_, hx, hy⟩ (ih hrest)

/-- A list is mapped without an error just when each of its members is. -/
theorem mapM_eq_ok_iff {xs : List α} {ys : List β} :
    xs.mapM f = .ok ys ↔ List.Forall₂ (fun x y => f x = .ok y) xs ys := by
  induction xs generalizing ys with
  | nil =>
    rw [List.forall₂_nil_left_iff]
    exact ⟨fun h => (Except.ok.inj h).symm, fun h => congrArg Except.ok h.symm⟩
  | cons x xs ih =>
    rw [List.mapM_cons]
    constructor
    · intro hmap
      cases hx : f x with
      | error e =>
        rw [hx] at hmap
        cases hmap
      | ok y =>
        cases hxs : xs.mapM f with
        | error e =>
          rw [hx, hxs] at hmap
          cases hmap
        | ok rest =>
          rw [hx, hxs] at hmap
          cases hmap
          exact .cons hx (ih.mp hxs)
    · rintro (_ | ⟨hx, hrest⟩)
      rw [hx, ih.mpr hrest]
      rfl

/-- The error of a list is that of its first member with an error. -/
theorem mapM_eq_error_iff {xs : List α} {e : ε} :
    xs.mapM f = .error e ↔
      ∃ before x after, xs = before ++ x :: after ∧ (∀ y ∈ before, ∃ b, f y = .ok b) ∧
        f x = .error e := by
  induction xs with
  | nil => simp [pure, Except.pure]
  | cons x xs ih =>
    rw [List.mapM_cons]
    constructor
    · intro hmap
      cases hx : f x with
      | error e' =>
        rw [hx] at hmap
        cases hmap
        exact ⟨[], x, xs, rfl, by simp, hx⟩
      | ok b =>
        cases hxs : xs.mapM f with
        | ok rest =>
          rw [hx, hxs] at hmap
          cases hmap
        | error e' =>
          rw [hx, hxs] at hmap
          cases hmap
          obtain ⟨before, y, after, rfl, hbefore, hy⟩ := ih.mp hxs
          exact ⟨x :: before, y, after, rfl, List.forall_mem_cons.mpr ⟨⟨b, hx⟩, hbefore⟩, hy⟩
    · rintro ⟨before, y, after, hsplit, hbefore, hy⟩
      cases before with
      | nil =>
        cases hsplit
        rw [hy]
        rfl
      | cons z before =>
        cases hsplit
        obtain ⟨⟨b, hx⟩, hbefore⟩ := List.forall_mem_cons.mp hbefore
        rw [hx, ih.mpr ⟨before, y, after, rfl, hbefore, hy⟩]
        rfl

/-- Every member of a list is related to some member of a list related to it. -/
theorem exists_of_forall₂ {R : α → β → Prop} {xs : List α} {ys : List β}
    (hall : List.Forall₂ R xs ys) {x : α} (hx : x ∈ xs) : ∃ y ∈ ys, R x y := by
  induction hall with
  | nil => cases hx
  | cons hR _ ih =>
    rcases List.mem_cons.mp hx with rfl | hx
    · exact ⟨_, List.mem_cons_self, hR⟩
    · obtain ⟨y, hmem, hR⟩ := ih hx
      exact ⟨y, .tail _ hmem, hR⟩

/-- Every result comes from a member of the list. -/
theorem exists_of_mapM_ok {xs : List α} {ys : List β} (hmap : xs.mapM f = .ok ys) {y : β}
    (hy : y ∈ ys) : ∃ x ∈ xs, f x = .ok y :=
  exists_of_forall₂ (mapM_eq_ok_iff.mp hmap).flip hy

/-- A mapping that keeps a key keeps the keys of a list. -/
theorem map_eq_of_mapM_ok {κ : Type} {key : α → κ} {key' : β → κ}
    (hkey : ∀ x y, f x = .ok y → key' y = key x) {xs : List α} {ys : List β}
    (hmap : xs.mapM f = .ok ys) : ys.map key' = xs.map key := by
  have hall := mapM_eq_ok_iff.mp hmap
  clear hmap
  induction hall with
  | nil => rfl
  | cons hx _ ih => rw [List.map_cons, List.map_cons, hkey _ _ hx, ih]

/-- If a list is mapped without an error, so is any other order of it, to another order of the
    results. -/
theorem exists_mapM_eq_ok_of_perm {xs xs' : List α} (hperm : xs'.Perm xs) {ys : List β}
    (hmap : xs.mapM f = .ok ys) : ∃ ys', xs'.mapM f = .ok ys' ∧ ys'.Perm ys := by
  obtain ⟨ys', hall, hperm'⟩ := List.perm_comp_forall₂ hperm (mapM_eq_ok_iff.mp hmap)
  exact ⟨ys', mapM_eq_ok_iff.mpr hall, hperm'⟩

theorem mapM_eq_some_iff {g : α → Option β} {xs : List α} {ys : List β} :
    xs.mapM g = some ys ↔ List.Forall₂ (fun x y => g x = some y) xs ys := by
  induction xs generalizing ys with
  | nil =>
    rw [List.forall₂_nil_left_iff]
    exact ⟨fun h => (Option.some.inj h).symm, fun h => congrArg some h.symm⟩
  | cons x xs ih =>
    rw [List.mapM_cons]
    constructor
    · intro hmap
      obtain ⟨y, hx, hmap⟩ := Option.bind_eq_some_iff.mp hmap
      obtain ⟨rest, hxs, hmap⟩ := Option.bind_eq_some_iff.mp hmap
      cases hmap
      exact .cons hx (ih.mp hxs)
    · rintro (_ | ⟨hx, hrest⟩)
      rw [hx, ih.mpr hrest]
      rfl

theorem mapM_eq_none_iff {g : α → Option β} {xs : List α} :
    xs.mapM g = none ↔ ∃ x ∈ xs, g x = none := by
  induction xs with
  | nil => simp
  | cons x xs ih =>
    rw [List.mapM_cons, List.exists_mem_cons_iff, ← ih]
    cases g x with
    | none => simp
    | some y => cases xs.mapM g <;> simp

theorem mapM_map {γ : Type} (g : α → Option β) (h : β → γ) (xs : List α) :
    (xs.mapM fun x => (g x).map h) = (xs.mapM g).map (List.map h) := by
  induction xs with
  | nil => rfl
  | cons x xs ih =>
    rw [List.mapM_cons, List.mapM_cons, ih]
    cases g x with
    | none => rfl
    | some y => cases xs.mapM g <;> rfl

theorem exists_mapM_eq_some_of_perm {g : α → Option β} {xs xs' : List α} (hperm : xs'.Perm xs)
    {ys : List β} (hmap : xs.mapM g = some ys) : ∃ ys', xs'.mapM g = some ys' ∧ ys'.Perm ys := by
  obtain ⟨ys', hall, hperm'⟩ := List.perm_comp_forall₂ hperm (mapM_eq_some_iff.mp hmap)
  exact ⟨ys', mapM_eq_some_iff.mpr hall, hperm'⟩

theorem mapM_congr {g g' : α → Option β} {xs : List α} (hg : ∀ x ∈ xs, g x = g' x) :
    xs.mapM g = xs.mapM g' := by
  induction xs with
  | nil => rfl
  | cons x xs ih =>
    obtain ⟨hx, hxs⟩ := List.forall_mem_cons.mp hg
    rw [List.mapM_cons, List.mapM_cons, hx, ih hxs]

section

variable {g : α → Option (Option β)} {xs : List α}

/-- A search that comes to an end without success has looked at all members. -/
theorem findSomeM?_eq_none_iff : xs.findSomeM? g = some none ↔ ∀ x ∈ xs, g x = some none := by
  induction xs with
  | nil => simp [List.findSomeM?]
  | cons x xs ih =>
    rw [List.findSomeM?, List.forall_mem_cons, ← ih]
    rcases g x with _ | _ | b <;> simp

/-- A search ends with the first success. -/
theorem findSomeM?_eq_some_iff {b : β} :
    xs.findSomeM? g = some (some b) ↔
      ∃ before x after, xs = before ++ x :: after ∧ (∀ y ∈ before, g y = some none) ∧
        g x = some (some b) := by
  induction xs with
  | nil => simp [List.findSomeM?]
  | cons x xs ih =>
    rw [List.findSomeM?]
    constructor
    · intro hfound
      rcases hx : g x with _ | _ | c
      · rw [hx] at hfound
        cases hfound
      · rw [hx] at hfound
        obtain ⟨before, y, after, rfl, hbefore, hy⟩ := ih.mp hfound
        exact ⟨x :: before, y, after, rfl, List.forall_mem_cons.mpr ⟨hx, hbefore⟩, hy⟩
      · rw [hx] at hfound
        cases hfound
        exact ⟨[], x, xs, rfl, by simp, hx⟩
    · rintro ⟨before, y, after, hsplit, hbefore, hy⟩
      cases before with
      | nil =>
        cases hsplit
        rw [hy]
        rfl
      | cons z before =>
        cases hsplit
        obtain ⟨hx, hbefore⟩ := List.forall_mem_cons.mp hbefore
        rw [hx]
        exact ih.mpr ⟨before, y, after, rfl, hbefore, hy⟩

/-- A search whose every step comes to an end does so too. -/
theorem exists_findSomeM?_eq_some (hg : ∀ x ∈ xs, ∃ found, g x = some found) :
    ∃ found, xs.findSomeM? g = some found := by
  induction xs with
  | nil => exact ⟨none, rfl⟩
  | cons x xs ih =>
    obtain ⟨⟨found, hx⟩, hxs⟩ := List.forall_mem_cons.mp hg
    rw [List.findSomeM?, hx]
    cases found with
    | none => exact ih hxs
    | some b => exact ⟨some b, rfl⟩

end

/-- The same error, or related results. -/
inductive ExceptRel {γ : Type} (R : α → γ → Prop) : Except ε α → Except ε γ → Prop
  | error (e : ε) : ExceptRel R (.error e) (.error e)
  | ok {a : α} {c : γ} (hR : R a c) : ExceptRel R (.ok a) (.ok c)

namespace ExceptRel

variable {γ δ : Type} {R : α → γ → Prop} {R' : β → δ → Prop} {x : Except ε α} {x' : Except ε γ}

theorem error_iff (hx : ExceptRel R x x') {e : ε} : x = .error e ↔ x' = .error e := by
  cases hx <;> simp

theorem exists_ok (hx : ExceptRel R x x') {a : α} (ha : x = .ok a) : ∃ c, x' = .ok c ∧ R a c := by
  cases hx with
  | error e => cases ha
  | ok hR =>
    cases ha
    exact ⟨_, rfl, hR⟩

theorem imp {S : α → γ → Prop} (hx : ExceptRel R x x') (hS : ∀ a c, R a c → S a c) :
    ExceptRel S x x' := by
  cases hx with
  | error e => exact .error e
  | ok hR => exact .ok (hS _ _ hR)

theorem map {f : α → β} {f' : γ → δ} (hx : ExceptRel R x x')
    (hf : ∀ a c, R a c → R' (f a) (f' c)) : ExceptRel R' (x.map f) (x'.map f') := by
  cases hx with
  | error e => exact .error e
  | ok hR => exact .ok (hf _ _ hR)

theorem same {R : α → α → Prop} {x : Except ε α} (hx : ∀ a, x = .ok a → R a a) :
    ExceptRel R x x := by
  cases x with
  | error e => exact .error e
  | ok a => exact .ok (hx a rfl)

/-- A common first step need not be looked into. -/
theorem bind_same {f : α → Except ε β} {f' : α → Except ε δ}
    (hf : ∀ a, x = .ok a → ExceptRel R' (f a) (f' a)) : ExceptRel R' (x >>= f) (x >>= f') := by
  cases x with
  | error e => exact .error e
  | ok a => exact hf a rfl

theorem bind_ok {f : α → Except ε β} {f' : γ → Except ε δ} {a : α} {c : γ} (hx : x = .ok a)
    (hx' : x' = .ok c) (hf : ExceptRel R' (f a) (f' c)) : ExceptRel R' (x >>= f) (x' >>= f') := by
  rw [hx, hx']
  exact hf

theorem mapM {f : α → Except ε β} {f' : γ → Except ε δ} {xs : List α} {xs' : List γ}
    (hall : List.Forall₂ (fun x x' => ExceptRel R' (f x) (f' x')) xs xs') :
    ExceptRel (List.Forall₂ R') (xs.mapM f) (xs'.mapM f') := by
  induction hall with
  | nil => exact .ok .nil
  | @cons x x' xs xs' hx _ ih =>
    rw [List.mapM_cons, List.mapM_cons]
    generalize f x = head at hx ⊢
    generalize f' x' = head' at hx ⊢
    generalize xs.mapM f = tail at ih ⊢
    generalize xs'.mapM f' = tail' at ih ⊢
    cases hx with
    | error e => exact .error e
    | ok hhead =>
      cases ih with
      | error e => exact .error e
      | ok htail => exact .ok (.cons hhead htail)

end ExceptRel

end FieldRules
