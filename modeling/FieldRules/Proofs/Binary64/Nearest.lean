import FieldRules.Proofs.Binary64.Exact
import Mathlib.Order.Monotone.Basic
import Mathlib.Tactic.Linarith
import Mathlib.Tactic.Ring

namespace FieldRules.Binary64

/-- The value of the number with the given bits below the sign, in units. -/
def unitsOf (m : Nat) : Nat :=
  if m / binade = 0 then m % binade else (binade + m % binade) * Nat.pow 2 (m / binade - 1)

/-- How far it is from a number to the next larger one. -/
def gap (m : Nat) : Nat := Nat.pow 2 (m / binade - 1)

/-- Twice the middle between a number and the next larger one. -/
def middle (m : Nat) : Nat := unitsOf m + unitsOf (m + 1)

/-- The number with the bits `m` is the one to which `num / den` units round: they lie between the
    middles to its two neighbours, and if they lie on one of these, its last bit is zero. -/
structure Rounds (num den m : Nat) : Prop where
  above : 2 * num < middle m * den ∨ 2 * num = middle m * den ∧ m % 2 = 0
  below : ∀ k, m = k + 1 → middle k * den < 2 * num ∨ middle k * den = 2 * num ∧ m % 2 = 0

variable {num den num' den' m s d : Nat}

theorem absUnits_eq (x : Binary64) : x.absUnits = unitsOf x.magnitude := rfl

theorem gap_pos (m : Nat) : 0 < gap m := Nat.two_pow_pos _

theorem unitsOf_succ (m : Nat) : unitsOf (m + 1) = unitsOf m + gap m := by
  unfold unitsOf gap
  by_cases hcarry : (m + 1) % binade = 0
  · -- The last number of a binade is followed by the first one of the next.
    have hexponent : (m + 1) / binade = m / binade + 1 := by
      unfold binade at *
      omega
    have hfraction : m % binade = binade - 1 := by
      unfold binade at *
      omega
    rw [hcarry, hexponent, hfraction]
    cases m / binade with
    | zero => simp [binade]
    | succ e =>
      have hpow : Nat.pow 2 (e + 1) = 2 * Nat.pow 2 e := by rw [Nat.pow_eq, Nat.pow_eq, pow_succ']
      simp only [Nat.add_sub_cancel, Nat.succ_ne_zero, if_false, hpow, binade]
      omega
  · have hexponent : (m + 1) / binade = m / binade := by
      unfold binade at *
      omega
    have hfraction : (m + 1) % binade = m % binade + 1 := by
      unfold binade at *
      omega
    rw [hexponent, hfraction]
    cases m / binade with
    | zero => simp
    | succ e => simp [Nat.add_mul, Nat.add_assoc]

theorem unitsOf_strictMono : StrictMono unitsOf :=
  strictMono_nat_of_lt_succ fun m => by
    have hgap := gap_pos m
    rw [unitsOf_succ]
    omega

theorem middle_strictMono : StrictMono middle := fun _ _ hlt =>
  Nat.add_lt_add (unitsOf_strictMono hlt) (unitsOf_strictMono (Nat.succ_lt_succ hlt))

/-- A number of units rounds to one number only. -/
theorem Rounds.unique {m' : Nat} (hden : 0 < den) (hm : Rounds num den m)
    (hm' : Rounds num den m') : m = m' := by
  have hwlog : ∀ {m m' : Nat}, Rounds num den m → Rounds num den m' → ¬m < m' := by
    intro m m' hm hm' hlt
    obtain ⟨k, rfl⟩ := Nat.exists_eq_add_one_of_ne_zero (Nat.ne_of_gt (Nat.zero_lt_of_lt hlt))
    have hle : middle m * den ≤ middle k * den :=
      Nat.mul_le_mul_right den (middle_strictMono.monotone (Nat.le_of_lt_succ hlt))
    -- Only one middle can be met from both sides, and the numbers beside it are not both even.
    rcases hm.above with habove | ⟨habove, heven⟩ <;>
      rcases hm'.below k rfl with hbelow | ⟨hbelow, heven'⟩
    any_goals omega
    have hmiddles : middle m = middle k :=
      Nat.eq_of_mul_eq_mul_right hden (habove.symm.trans hbelow.symm)
    have hk := middle_strictMono.injective hmiddles
    omega
  exact Nat.le_antisymm (Nat.le_of_not_lt (hwlog hm' hm)) (Nat.le_of_not_lt (hwlog hm hm'))

theorem divNearest_spec (hden : 0 < den) (num : Nat) :
    (2 * num < (2 * divNearest num den + 1) * den ∨
      2 * num = (2 * divNearest num den + 1) * den ∧ divNearest num den % 2 = 0) ∧
    (2 * divNearest num den * den < 2 * num + den ∨
      2 * divNearest num den * den = 2 * num + den ∧ divNearest num den % 2 = 0) := by
  have hdivision := Nat.div_add_mod num den
  have hrest := Nat.mod_lt num hden
  unfold divNearest
  dsimp only
  generalize num / den = q at *
  generalize num % den = rest at *
  subst hdivision
  have hproducts : ∀ q, (2 * q + 1) * den = 2 * (den * q) + den ∧ 2 * q * den = 2 * (den * q) ∧
      den * (q + 1) = den * q + den := fun q => ⟨by ring, by ring, by ring⟩
  obtain ⟨hodd, heven, hsucc⟩ := hproducts q
  obtain ⟨hodd', heven', -⟩ := hproducts (q + 1)
  split
  · omega
  · split
    · omega
    · rcases Nat.mod_two_eq_zero_or_one q with hq | hq
      · simp only [hq, Nat.add_zero, and_true]
        omega
      · simp only [hq]
        omega

theorem le_divNearest {q : Nat} (hden : 0 < den) (hq : q * den ≤ num) : q ≤ divNearest num den := by
  have hquotient := (Nat.le_div_iff_mul_le hden).mpr hq
  unfold divNearest
  dsimp only
  split
  · exact hquotient
  · split <;> omega

theorem divNearest_le_of_lt {q : Nat} (hden : 0 < den) (hq : num < q * den) :
    divNearest num den ≤ q := by
  have hquotient := (Nat.div_lt_iff_lt_mul hden).mpr hq
  unfold divNearest
  dsimp only
  split
  · omega
  · split <;> omega

/-- With 53 significant bits, or fewer in the units themselves, the bits of a number are its digits
    after a shift. -/
theorem unitsOf_shift (hd : d ≤ 2 * binade) (hs : s = 0 ∨ binade ≤ d) :
    unitsOf (s * binade + d) = d * Nat.pow 2 s := by
  by_cases hsmall : d < binade
  · obtain rfl : s = 0 := by omega
    have hexponent : (0 * binade + d) / binade = 0 := by
      unfold binade at *
      omega
    have hfraction : (0 * binade + d) % binade = d := by
      unfold binade at *
      omega
    rw [unitsOf, hexponent, hfraction, if_pos rfl]
    exact (Nat.mul_one d).symm
  · by_cases hfull : d = 2 * binade
    · have hexponent : (s * binade + d) / binade = s + 2 := by
        unfold binade at *
        omega
      have hfraction : (s * binade + d) % binade = 0 := by
        unfold binade at *
        omega
      have hpow : Nat.pow 2 (s + 1) = 2 * Nat.pow 2 s := by rw [Nat.pow_eq, Nat.pow_eq, pow_succ']
      rw [unitsOf, hexponent, hfraction, if_neg (by omega), hfull]
      dsimp only [Nat.add_zero, Nat.add_succ_sub_one]
      rw [hpow]
      ring
    · have hexponent : (s * binade + d) / binade = s + 1 := by
        unfold binade at *
        omega
      have hfraction : (s * binade + d) % binade = d - binade := by
        unfold binade at *
        omega
      rw [unitsOf, hexponent, hfraction, if_neg (Nat.succ_ne_zero s),
        Nat.add_sub_cancel' (Nat.le_of_not_lt hsmall), Nat.add_sub_cancel]

/-- What is kept of a quotient: its leading bits after a shift. -/
theorem exists_nearestMagnitude_eq (hden : 0 < den) (num : Nat) :
    ∃ s d, nearestMagnitude num den = s * binade + d ∧ d = divNearest num (den * Nat.pow 2 s) ∧
      num < 2 * binade * (den * Nat.pow 2 s) ∧
      (s = 0 ∨ binade * (den * Nat.pow 2 s) ≤ num) := by
  let s := Nat.log2 (num / den) - 52
  refine ⟨s, divNearest num (den * Nat.pow 2 s), rfl, rfl, ?_, ?_⟩
  · have hlog : num / den < 2 ^ (Nat.log2 (num / den) + 1) := Nat.lt_log2_self
    have hpow : 2 ^ (Nat.log2 (num / den) + 1) ≤ 2 * binade * 2 ^ s := by
      have hbinade : 2 * binade = 2 ^ 53 := by rfl
      rw [hbinade, ← pow_add]
      exact Nat.pow_le_pow_right (by omega) (by omega)
    have hquotient := (Nat.div_lt_iff_lt_mul hden).mp (Nat.lt_of_lt_of_le hlog hpow)
    rw [Nat.pow_eq]
    linarith
  · by_cases hs : s = 0
    · exact .inl hs
    · have hlog : Nat.log2 (num / den) = 52 + s := by omega
      have hpos : num / den ≠ 0 := by
        intro hzero
        rw [hzero, Nat.log2_zero] at hlog
        omega
      have hpow : binade * 2 ^ s ≤ num / den := by
        have hbinade : binade = 2 ^ 52 := by rfl
        rw [hbinade, ← pow_add, ← hlog]
        exact Nat.log2_self_le hpos
      have hproduct := (Nat.le_div_iff_mul_le hden).mp hpow
      refine .inr ?_
      rw [Nat.pow_eq]
      linarith

/-- The computed bits are those of the number to which the quotient rounds. -/
theorem rounds_nearestMagnitude (hden : 0 < den) (num : Nat) :
    Rounds num den (nearestMagnitude num den) := by
  obtain ⟨s, d, hm, hd, hhigh, hlow⟩ := exists_nearestMagnitude_eq hden num
  have hpos : 0 < den * Nat.pow 2 s := Nat.mul_pos hden (Nat.two_pow_pos s)
  have hdigits : d ≤ 2 * binade := hd ▸ divNearest_le_of_lt hpos hhigh
  have hnormal : s = 0 ∨ binade ≤ d := hlow.imp_right fun hnum => hd ▸ le_divNearest hpos hnum
  have hunits : unitsOf (s * binade + d) = d * Nat.pow 2 s := unitsOf_shift hdigits hnormal
  obtain ⟨habove, hbelow⟩ := divNearest_spec hpos num
  rw [← hd] at habove hbelow
  have hparity : (s * binade + d) % 2 = d % 2 := by
    unfold binade
    omega
  rw [hm]
  constructor
  · have hgap : Nat.pow 2 s ≤ gap (s * binade + d) := by
      refine Nat.pow_le_pow_right (by omega) ?_
      unfold binade at *
      omega
    have hmiddle : (2 * d + 1) * (den * Nat.pow 2 s) ≤ middle (s * binade + d) * den := by
      rw [middle, unitsOf_succ, hunits]
      calc (2 * d + 1) * (den * Nat.pow 2 s)
          = (2 * (d * Nat.pow 2 s) + Nat.pow 2 s) * den := by ring
        _ ≤ _ := Nat.mul_le_mul_right den (by omega)
    rw [hparity]
    omega
  · intro k hk
    have hsucc := unitsOf_succ k
    rw [← hk, hunits] at hsucc
    have hmiddle : (middle k + gap k) * den = 2 * d * (den * Nat.pow 2 s) := by
      rw [middle, ← hk, hunits]
      calc (unitsOf k + d * Nat.pow 2 s + gap k) * den
          = (unitsOf k + gap k + d * Nat.pow 2 s) * den := by ring
        _ = _ := by rw [← hsucc]; ring
    rw [Nat.add_mul] at hmiddle
    rw [hparity]
    -- At the first number of a binade the gap below it is half as wide as the one above.
    by_cases hfirst : s ≠ 0 ∧ d = binade
    · obtain ⟨hs, rfl⟩ := hfirst
      have hnum := hlow.resolve_left hs
      have hgapPos := Nat.mul_pos (gap_pos k) hden
      refine .inl ?_
      linarith
    · have hgap : gap k = Nat.pow 2 s := by
        have hexponent : k / binade - 1 = s := by
          unfold binade at *
          omega
        rw [gap, hexponent]
      rw [hgap, Nat.mul_comm (Nat.pow 2 s)] at hmiddle
      omega

theorem nearestMagnitude_eq_iff (hden : 0 < den) :
    nearestMagnitude num den = m ↔ Rounds num den m := by
  have hrounds := rounds_nearestMagnitude hden num
  constructor
  · rintro rfl
    exact hrounds
  · exact hrounds.unique hden

theorem nearestMagnitude_le (hden : 0 < den) (hnum : num ≤ unitsOf m * den) :
    nearestMagnitude num den ≤ m := by
  by_contra hlarger
  obtain ⟨k, hk⟩ := Nat.exists_eq_add_one_of_ne_zero (Nat.ne_of_gt (Nat.zero_lt_of_lt
    (Nat.lt_of_not_le hlarger)))
  have hbelow := (rounds_nearestMagnitude hden num).below k hk
  have hfirst : unitsOf m * den ≤ unitsOf k * den :=
    Nat.mul_le_mul_right den (unitsOf_strictMono.monotone (by omega))
  have hsecond : unitsOf m * den < unitsOf (k + 1) * den :=
    Nat.mul_lt_mul_of_pos_right (unitsOf_strictMono (by omega)) hden
  rw [middle, Nat.add_mul] at hbelow
  omega

/-- The number nearest to a quotient does not depend on how the quotient is written. -/
theorem nearestMagnitude_congr (hden : 0 < den) (hden' : 0 < den')
    (hquotient : num * den' = num' * den) :
    nearestMagnitude num den = nearestMagnitude num' den' := by
  have hcompare : ∀ a, (2 * num < a * den ↔ 2 * num' < a * den') ∧
      (2 * num = a * den ↔ 2 * num' = a * den') ∧ (a * den < 2 * num ↔ a * den' < 2 * num') := by
    intro a
    have hleft : 2 * num * den' = 2 * num' * den := by linarith
    have hright : a * den * den' = a * den' * den := by ring
    refine ⟨?_, ?_, ?_⟩
    · rw [← Nat.mul_lt_mul_right hden', hleft, hright, Nat.mul_lt_mul_right hden]
    · rw [← Nat.mul_left_inj hden'.ne', hleft, hright, Nat.mul_left_inj hden.ne']
    · rw [← Nat.mul_lt_mul_right hden', hleft, hright, Nat.mul_lt_mul_right hden]
  obtain ⟨habove, hbelow⟩ := rounds_nearestMagnitude hden' num'
  refine (nearestMagnitude_eq_iff hden).mpr ⟨?_, fun k hk => ?_⟩
  · obtain ⟨hlt, heq, -⟩ := hcompare (middle (nearestMagnitude num' den'))
    rwa [hlt, heq]
  · obtain ⟨-, heq, hgt⟩ := hcompare (middle k)
    have hk' := hbelow k hk
    rwa [hgt, eq_comm, heq, eq_comm]

/-- No other number is closer than the one to which a quotient rounds. -/
theorem Rounds.closest (hrounds : Rounds num den m) (k : Nat) :
    ((num : Int) - (unitsOf m * den : Nat)).natAbs ≤
      ((num : Int) - (unitsOf k * den : Nat)).natAbs := by
  rcases Nat.lt_trichotomy k m with hlt | rfl | hlt
  · obtain ⟨j, rfl⟩ := Nat.exists_eq_add_one_of_ne_zero (Nat.ne_of_gt (Nat.zero_lt_of_lt hlt))
    have hk : unitsOf k * den ≤ unitsOf j * den :=
      Nat.mul_le_mul_right den (unitsOf_strictMono.monotone (Nat.le_of_lt_succ hlt))
    have hj : unitsOf j * den ≤ unitsOf (j + 1) * den :=
      Nat.mul_le_mul_right den (unitsOf_strictMono.monotone (Nat.le_succ j))
    have hbelow := hrounds.below j rfl
    rw [middle, Nat.add_mul] at hbelow
    omega
  · exact le_rfl
  · have hk : unitsOf (m + 1) * den ≤ unitsOf k * den :=
      Nat.mul_le_mul_right den (unitsOf_strictMono.monotone hlt)
    have hm : unitsOf m * den ≤ unitsOf (m + 1) * den :=
      Nat.mul_le_mul_right den (unitsOf_strictMono.monotone (Nat.le_succ m))
    have habove := hrounds.above
    rw [middle, Nat.add_mul] at habove
    omega

end FieldRules.Binary64
