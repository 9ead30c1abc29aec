import FieldRules.Binary64.Basic

namespace FieldRules.Binary64

theorem divNearest_mul {den : Nat} (hden : 0 < den) (num : Nat) :
    divNearest (num * den) den = num := by
  have hquotient : num * den / den = num := Nat.mul_div_cancel num hden
  have hrest : num * den % den = 0 := Nat.mul_mod_left num den
  unfold divNearest
  rw [hquotient, hrest, if_pos hden]

theorem log2_mul_two_pow {m : Nat} (hm : m ≠ 0) (k : Nat) :
    Nat.log2 (m * Nat.pow 2 k) = Nat.log2 m + k := by
  induction k with
  | zero => rw [Nat.pow_eq, Nat.pow_zero, Nat.mul_one, Nat.add_zero]
  | succ k ih =>
    have hne : m * Nat.pow 2 k ≠ 0 := Nat.mul_ne_zero hm (Nat.ne_of_gt (Nat.two_pow_pos k))
    have hdouble : m * Nat.pow 2 (k + 1) = 2 * (m * Nat.pow 2 k) := by
      rw [Nat.pow_eq, Nat.pow_eq, Nat.pow_succ, Nat.mul_comm 2, Nat.mul_assoc]
    rw [hdouble, Nat.log2_two_mul hne, ih, Nat.add_assoc]

/-- A number of units with 53 significant bits is not rounded. -/
theorem nearestMagnitude_mul_two_pow {m : Nat} (hlow : binade ≤ m) (hhigh : m < 2 * binade)
    (k : Nat) : nearestMagnitude (m * Nat.pow 2 k) 1 = k * binade + m := by
  have hm : m ≠ 0 := Nat.ne_of_gt (Nat.lt_of_lt_of_le (by decide) hlow)
  have hlog : Nat.log2 m = 52 := (Nat.log2_eq_iff hm).mpr ⟨hlow, hhigh⟩
  have hshift : Nat.log2 (m * Nat.pow 2 k / 1) - 52 = k := by
    rw [Nat.div_one, log2_mul_two_pow hm, hlog, Nat.add_sub_cancel_left]
  unfold nearestMagnitude
  dsimp only
  rw [hshift, Nat.one_mul]
  exact congrArg (k * binade + ·) (divNearest_mul (Nat.two_pow_pos k) m)

theorem nearestMagnitude_of_lt {m : Nat} (hm : m < binade) : nearestMagnitude m 1 = m := by
  have hshift : Nat.log2 (m / 1) - 52 = 0 := by
    rw [Nat.div_one]
    by_cases hzero : m = 0
    · rw [hzero]
      rfl
    · have hlog : Nat.log2 m < 52 := (Nat.log2_lt hzero).mpr hm
      omega
  have hnearest := divNearest_mul Nat.one_pos m
  rw [Nat.mul_one] at hnearest
  unfold nearestMagnitude
  dsimp only
  rw [hshift, Nat.zero_mul, Nat.zero_add]
  exact hnearest

theorem absUnits_of_lt {x : Binary64} (hx : x.magnitude < binade) : x.absUnits = x.magnitude := by
  unfold absUnits
  dsimp only
  rw [Nat.div_eq_of_lt hx, Nat.mod_eq_of_lt hx, if_pos rfl]

theorem absUnits_of_eq {x : Binary64} {k m : Nat} (hlow : binade ≤ m) (hhigh : m < 2 * binade)
    (hx : x.magnitude = k * binade + m) : x.absUnits = m * Nat.pow 2 k := by
  have hexponent : x.magnitude / binade = k + 1 := by
    unfold binade at *
    omega
  have hfraction : x.magnitude % binade = m - binade := by
    unfold binade at *
    omega
  unfold absUnits
  dsimp only
  rw [hexponent, hfraction, if_neg (Nat.succ_ne_zero k), Nat.add_sub_cancel' hlow,
    Nat.add_sub_cancel]

/-- The number nearest to a binary64 number is that number. -/
theorem nearestMagnitude_absUnits (x : Binary64) : nearestMagnitude x.absUnits 1 = x.magnitude := by
  by_cases hsmall : x.magnitude < binade
  · rw [absUnits_of_lt hsmall, nearestMagnitude_of_lt hsmall]
  · obtain ⟨k, m, hlow, hhigh, hx⟩ :
        ∃ k m, binade ≤ m ∧ m < 2 * binade ∧ x.magnitude = k * binade + m := by
      refine ⟨x.magnitude / binade - 1, binade + x.magnitude % binade, ?_⟩
      unfold binade at *
      omega
    rw [absUnits_of_eq hlow hhigh hx, nearestMagnitude_mul_two_pow hlow hhigh, hx]

theorem natAbs_units (x : Binary64) : x.units.natAbs = x.absUnits := by
  unfold units
  split <;> omega

theorem units_eq_of_absUnits {x : Binary64} {n : Int} {unit : Nat}
    (hsign : x.negative = decide (n < 0)) (hx : x.absUnits = n.natAbs * unit) :
    x.units = n * unit := by
  rw [units, hsign, hx, Int.natCast_mul]
  by_cases hneg : n < 0
  · have hcast : (n.natAbs : Int) = -n := by omega
    rw [if_pos (decide_eq_true hneg), hcast, Int.neg_mul, Int.neg_neg]
  · have hcast : (n.natAbs : Int) = n := by omega
    rw [if_neg (by simpa using hneg), hcast]

/-- A whole number that is a binary64 number is not rounded. -/
theorem units_ofInt {n : Int} (hn : ∃ x : Binary64, x.units = n * unitsPerOne) :
    (ofInt n).units = n * unitsPerOne := by
  obtain ⟨x, hx⟩ := hn
  have habs : x.absUnits = n.natAbs * unitsPerOne := by
    rw [← natAbs_units, hx, Int.natAbs_mul, Int.natAbs_natCast]
  have hmagnitude : nearestMagnitude (n.natAbs * unitsPerOne) 1 = x.magnitude := by
    rw [← habs, nearestMagnitude_absUnits]
  have hnearest : ofInt n = ⟨decide (n < 0), x.magnitude, x.finite⟩ := by
    unfold ofInt nearest?
    simp only [hmagnitude, dif_pos x.finite, Option.getD_some]
  rw [hnearest]
  exact units_eq_of_absUnits rfl habs

/-- Up to 53 significant bits make a number, if there are not too many zeros after them. -/
theorem exists_absUnits_eq (negative : Bool) {m k : Nat} (hm : m < 2 * binade) (hk : k < 2046) :
    ∃ x : Binary64, x.negative = negative ∧ x.absUnits = m * Nat.pow 2 k := by
  induction k generalizing m with
  | zero =>
    have hfinite : m < 0x7FF0000000000000 := by
      unfold binade at hm
      omega
    refine ⟨⟨negative, m, hfinite⟩, rfl, ?_⟩
    by_cases hsmall : m < binade
    · exact (absUnits_of_lt hsmall).trans (Nat.mul_one m).symm
    · exact absUnits_of_eq (Nat.le_of_not_lt hsmall) hm (by simp)
  | succ k ih =>
    by_cases hsmall : m < binade
    · obtain ⟨x, hnegative, hx⟩ := ih (m := 2 * m) (by omega) (by omega)
      refine ⟨x, hnegative, ?_⟩
      rw [hx, Nat.pow_eq, Nat.pow_eq, Nat.pow_succ, Nat.mul_comm 2, Nat.mul_assoc,
        Nat.mul_comm 2]
    · have hfinite : (k + 1) * binade + m < 0x7FF0000000000000 := by
        unfold binade at *
        omega
      exact ⟨⟨negative, _, hfinite⟩, rfl, absUnits_of_eq (Nat.le_of_not_lt hsmall) hm rfl⟩

theorem exists_units_eq_mul_two_pow {n : Int} {k : Nat} (hn : n.natAbs ≤ 2 * binade)
    (hk : k + 1 < 2046) : ∃ x : Binary64, x.units = n * (Nat.pow 2 k : Nat) := by
  have hunits : ∃ x : Binary64, x.negative = decide (n < 0) ∧
      x.absUnits = n.natAbs * Nat.pow 2 k := by
    by_cases hlt : n.natAbs < 2 * binade
    · exact exists_absUnits_eq _ hlt (Nat.lt_of_succ_lt hk)
    · obtain ⟨x, hnegative, hx⟩ := exists_absUnits_eq (decide (n < 0)) (m := binade) (by decide) hk
      have heq : n.natAbs = binade * 2 := by omega
      refine ⟨x, hnegative, ?_⟩
      rw [hx, heq, Nat.pow_eq, Nat.pow_eq, Nat.pow_succ, Nat.mul_comm _ 2, Nat.mul_assoc]
  obtain ⟨x, hnegative, hx⟩ := hunits
  exact ⟨x, units_eq_of_absUnits hnegative hx⟩

theorem exists_unitsPerOne_eq : ∃ k, 52 ≤ k ∧ k < 1900 ∧ unitsPerOne = Nat.pow 2 k := by
  refine ⟨1074, by decide, by decide, ?_⟩
  unfold unitsPerOne
  with_reducible rfl

theorem unitsPerOne_pos : 0 < unitsPerOne := by
  obtain ⟨k, _, _, hone⟩ := exists_unitsPerOne_eq
  rw [hone]
  exact Nat.two_pow_pos k

/-- The whole numbers up to `2^53` are binary64 numbers. -/
theorem exists_units_eq {n : Int} (hn : n.natAbs ≤ 2 * binade) :
    ∃ x : Binary64, x.units = n * unitsPerOne := by
  obtain ⟨k, _, hk, hone⟩ := exists_unitsPerOne_eq
  rw [hone]
  exact exists_units_eq_mul_two_pow hn (by omega)

end FieldRules.Binary64
