import FieldRules.Pattern.Basic
import Mathlib.Logic.Function.Iterate

namespace FieldRules.Pattern

/-- So many steps of a relation in a row. -/
def Steps (R : Nat → Nat → Prop) : Nat → Nat → Nat → Prop
  | 0, i, j => i = j
  | n + 1, i, j => ∃ k, R i k ∧ Steps R n k j

/-- A function on lists of positions takes the steps of a relation, from positions up to a bound. The
    relation never leads back, and never past the bound. -/
structure Takes (step : List Nat → List Nat) (R : Nat → Nat → Prop) (bound : Nat) : Prop where
  mem_iff : ∀ {starts j}, (∀ i ∈ starts, i ≤ bound) → (j ∈ step starts ↔ ∃ i ∈ starts, R i j)
  le : ∀ {i j}, R i j → i ≤ j
  le_bound : ∀ {i j}, R i j → j ≤ bound

variable {R : Nat → Nat → Prop} {step : List Nat → List Nat} {bound i j m n count : Nat}
  {starts seen fresh : List Nat}

theorem steps_add_iff : Steps R (m + n) i j ↔ ∃ k, Steps R m i k ∧ Steps R n k j := by
  induction m generalizing i with
  | zero => simp [Steps]
  | succ m ih =>
    rw [Nat.add_right_comm]
    simp only [Steps, ih]
    constructor
    · rintro ⟨k, hik, l, hkl, hlj⟩
      exact ⟨l, ⟨k, hik, hkl⟩, hlj⟩
    · rintro ⟨l, ⟨k, hik, hkl⟩, hlj⟩
      exact ⟨k, hik, l, hkl, hlj⟩

namespace Takes

variable (htakes : Takes step R bound)

include htakes

theorem le_bound_of_mem (hstarts : ∀ i ∈ starts, i ≤ bound) (hj : j ∈ step starts) : j ≤ bound := by
  obtain ⟨i, -, hij⟩ := (htakes.mem_iff hstarts).mp hj
  exact htakes.le_bound hij

omit htakes in
/-- Stopping early where a step changes nothing makes no difference. -/
theorem stepTimes_eq_iterate (n : Nat) (starts : List Nat) :
    stepTimes step n starts = step^[n] starts := by
  induction n generalizing starts with
  | zero => rfl
  | succ n ih =>
    rw [stepTimes]
    split
    · next hfixed => rw [Function.iterate_fixed hfixed]
    · rw [ih, Function.iterate_succ_apply]

theorem mem_stepTimes_iff (hstarts : ∀ i ∈ starts, i ≤ bound) :
    j ∈ stepTimes step n starts ↔ ∃ i ∈ starts, Steps R n i j := by
  rw [stepTimes_eq_iterate]
  induction n generalizing starts with
  | zero => simp [Steps]
  | succ n ih =>
    rw [Function.iterate_succ_apply, ih fun i => htakes.le_bound_of_mem hstarts]
    simp only [htakes.mem_iff hstarts, Steps]
    constructor
    · rintro ⟨k, ⟨i, hi, hik⟩, hkj⟩
      exact ⟨i, hi, k, hik, hkj⟩
    · rintro ⟨i, hi, k, hik, hkj⟩
      exact ⟨k, ⟨i, hi, hik⟩, hkj⟩

omit htakes in
/-- Where only the fresh positions lead out of the ones that have been seen, steps that start at a
    seen position stay among these or come through a fresh one. -/
theorem mem_or_exists_of_steps (hclosed : ∀ {i j}, i ∈ seen → R i j → j ∈ seen ∨ i ∈ fresh)
    (hi : i ∈ seen) (hsteps : Steps R m i j) :
    j ∈ seen ∨ ∃ k ∈ fresh, ∃ l ≤ m, Steps R l k j := by
  induction m generalizing i with
  | zero =>
    cases hsteps
    exact .inl hi
  | succ m ih =>
    obtain ⟨k, hik, hkj⟩ := hsteps
    rcases hclosed hi hik with hk | hfresh
    · exact (ih hk hkj).imp_right fun ⟨l, hl, n, hn, hlj⟩ => ⟨l, hl, n, by omega, hlj⟩
    · exact .inr ⟨i, hfresh, m + 1, Nat.le_refl _, k, hik, hkj⟩

theorem stepUpTo_nil (count : Nat) (seen : List Nat) : stepUpTo step count seen [] = seen := by
  cases count with
  | zero => rfl
  | succ count =>
    have hnone : step [] = [] := by
      refine List.eq_nil_iff_forall_not_mem.mpr fun j hj => ?_
      obtain ⟨i, hi, -⟩ := (htakes.mem_iff (by simp)).mp hj
      simp at hi
    rw [stepUpTo, hnone, List.filter_nil]

/-- The positions that have been seen, and those that few steps reach from the fresh ones: by
    induction on how many steps are left, as the successors of fresh positions that have not been
    seen are the only fresh ones then. -/
theorem mem_stepUpTo_iff (hseen : ∀ i ∈ seen, i ≤ bound) (hfresh : ∀ i ∈ fresh, i ∈ seen)
    (hclosed : ∀ {i j}, i ∈ seen → R i j → j ∈ seen ∨ i ∈ fresh) :
    j ∈ stepUpTo step count seen fresh ↔
      j ∈ seen ∨ ∃ i ∈ fresh, ∃ m ≤ count, Steps R m i j := by
  induction count generalizing seen fresh with
  | zero =>
    rw [stepUpTo, iff_self_or]
    rintro ⟨i, hi, m, hm, hsteps⟩
    cases Nat.le_zero.mp hm
    cases hsteps
    exact hfresh j hi
  | succ count ih =>
    let new := (step fresh).filter (!seen.contains ·)
    have hmem : ∀ {k}, k ∈ new ↔ (∃ i ∈ fresh, R i k) ∧ k ∉ seen := by
      intro k
      rw [List.mem_filter, htakes.mem_iff fun i hi => hseen i (hfresh i hi)]
      simp
    have hrest : stepUpTo step (count + 1) seen fresh = stepUpTo step count (seen ++ new) new := by
      rw [stepUpTo]
      split
      · next hnone =>
        have hnew : new = [] := hnone
        rw [hnew, htakes.stepUpTo_nil, List.append_nil]
      · rfl
    have hnext : ∀ {i k}, i ∈ fresh → R i k → k ∈ seen ++ new := by
      intro i k hi hik
      rw [List.mem_append, hmem, or_iff_not_imp_left]
      exact fun hk => ⟨⟨i, hi, hik⟩, hk⟩
    have hbound : ∀ k ∈ seen ++ new, k ≤ bound := by
      intro k hk
      rcases List.mem_append.mp hk with hk | hk
      · exact hseen k hk
      · obtain ⟨⟨i, -, hik⟩, -⟩ := hmem.mp hk
        exact htakes.le_bound hik
    have hclosed' : ∀ {i k}, i ∈ seen ++ new → R i k → k ∈ seen ++ new ∨ i ∈ new := by
      intro i k hi hik
      rcases List.mem_append.mp hi with hi | hi
      · exact .inl ((hclosed hi hik).elim (List.mem_append_left new) fun hi => hnext hi hik)
      · exact .inr hi
    rw [hrest, ih hbound (fun i => List.mem_append_right seen) hclosed']
    constructor
    · rintro (hj | ⟨k, hk, m, hm, hkj⟩)
      · rcases List.mem_append.mp hj with hj | hj
        · exact .inl hj
        · obtain ⟨⟨i, hi, hij⟩, -⟩ := hmem.mp hj
          exact .inr ⟨i, hi, 1, by omega, j, hij, rfl⟩
      · obtain ⟨⟨i, hi, hik⟩, -⟩ := hmem.mp hk
        exact .inr ⟨i, hi, m + 1, by omega, k, hik, hkj⟩
    · rintro (hj | ⟨i, hi, m, hm, hsteps⟩)
      · exact .inl (List.mem_append_left new hj)
      · cases m with
        | zero =>
          cases hsteps
          exact .inl (List.mem_append_left new (hfresh j hi))
        | succ m =>
          obtain ⟨k, hik, hkj⟩ := hsteps
          exact (mem_or_exists_of_steps hclosed' (hnext hi hik) hkj).imp_right
            fun ⟨l, hl, n, hn, hlj⟩ => ⟨l, hl, n, by omega, hlj⟩

theorem mem_stepUpTo_self_iff (hstarts : ∀ i ∈ starts, i ≤ bound) :
    j ∈ stepUpTo step count starts starts ↔ ∃ i ∈ starts, ∃ m ≤ count, Steps R m i j := by
  rw [htakes.mem_stepUpTo_iff hstarts (fun _ => id) fun hi _ => .inr hi, or_iff_right_of_imp]
  exact fun hj => ⟨j, hj, 0, Nat.zero_le _, rfl⟩

theorem le_of_steps (hsteps : Steps R m i j) : i ≤ j := by
  induction m generalizing i with
  | zero => exact Nat.le_of_eq hsteps
  | succ m ih =>
    obtain ⟨k, hik, hkj⟩ := hsteps
    exact Nat.le_trans (htakes.le hik) (ih hkj)

theorem steps_le_bound (hi : i ≤ bound) (hsteps : Steps R m i j) : j ≤ bound := by
  induction m generalizing i with
  | zero =>
    cases hsteps
    exact hi
  | succ m ih =>
    obtain ⟨k, hik, hkj⟩ := hsteps
    exact ih (htakes.le_bound hik) hkj

/-- Steps that stay where they are can be left out, and then each leads further towards the end. -/
theorem exists_steps_le (hsteps : Steps R m i j) : ∃ n ≤ j - i, Steps R n i j := by
  induction m generalizing i with
  | zero =>
    cases hsteps
    exact ⟨0, Nat.zero_le _, rfl⟩
  | succ m ih =>
    obtain ⟨k, hik, hkj⟩ := hsteps
    obtain ⟨n, hn, hsteps⟩ := ih hkj
    have hle := htakes.le_of_steps hkj
    rcases Nat.lt_or_eq_of_le (htakes.le hik) with hlt | rfl
    · exact ⟨n + 1, by omega, k, hik, hsteps⟩
    · exact ⟨n, hn, hsteps⟩

end Takes

end FieldRules.Pattern
