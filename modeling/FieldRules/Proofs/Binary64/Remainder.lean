import FieldRules.Proofs.Binary64.Whole

namespace FieldRules.Binary64

variable {x y : Binary64}

/-- A number has 53 significant bits, with zeros after them. -/
theorem exists_absUnits_eq_mul_two_pow (x : Binary64) :
    ∃ m k, m < 2 * binade ∧ k < 2046 ∧ x.absUnits = m * Nat.pow 2 k := by
  have hfinite := x.finite
  by_cases hsmall : x.magnitude < binade
  · refine ⟨x.magnitude, 0, by omega, by omega, ?_⟩
    simp [absUnits_of_lt hsmall]
  · have hbits : binade ≤ binade + x.magnitude % binade ∧
        binade + x.magnitude % binade < 2 * binade ∧ x.magnitude / binade - 1 < 2046 ∧
        x.magnitude = (x.magnitude / binade - 1) * binade + (binade + x.magnitude % binade) := by
      unfold binade at *
      omega
    obtain ⟨hlow, hhigh, hexponent, heq⟩ := hbits
    exact ⟨_, _, hhigh, hexponent, absUnits_of_eq hlow hhigh heq⟩

/-- The remainder of two numbers is a number again. It counts in the smaller one of the units in
    which the last bits of the two count: if this is the dividend's, it has no more bits than the
    dividend, and else no more than the divisor. -/
theorem exists_absUnits_eq_mod (negative : Bool) (x : Binary64) (hy : y.absUnits ≠ 0) :
    ∃ z : Binary64, z.negative = negative ∧ z.absUnits = x.absUnits % y.absUnits := by
  obtain ⟨m, k, hm, hk, hx⟩ := x.exists_absUnits_eq_mul_two_pow
  obtain ⟨n, j, hn, hj, hdivisor⟩ := y.exists_absUnits_eq_mul_two_pow
  have hscale : ∀ (bits : Nat) {i l : Nat}, i ≤ l →
      bits * Nat.pow 2 l = bits * Nat.pow 2 (l - i) * Nat.pow 2 i := by
    intro bits i l hle
    simp [Nat.mul_assoc, ← Nat.pow_add, Nat.sub_add_cancel hle]
  rw [hx, hdivisor]
  rcases Nat.le_total k j with hle | hle
  · rw [hscale n hle, Nat.mul_mod_mul_right]
    exact exists_absUnits_eq negative (Nat.lt_of_le_of_lt (Nat.mod_le _ _) hm) hk
  · have hpos : 0 < n := by
      refine Nat.pos_of_ne_zero fun hzero => hy ?_
      rw [hdivisor, hzero, Nat.zero_mul]
    rw [hscale m hle, Nat.mul_mod_mul_right]
    exact exists_absUnits_eq negative (Nat.lt_trans (Nat.mod_lt _ hpos) hn) hj

theorem isZero_iff : x.isZero = true ↔ x.units = 0 := by
  rw [isZero, beq_iff_eq, ← natAbs_units, Int.natAbs_eq_zero]

theorem units_eq_of_negative (hsign : x.negative = y.negative) {n : Nat} (hx : x.absUnits = n) :
    x.units = if y.negative then -(n : Int) else n := by
  rw [units, hsign, hx]

/-- The remainder by a number other than zero is exact, and it is the one of the division toward
    zero. -/
theorem exists_remainder?_eq (x : Binary64) (hy : y.units ≠ 0) :
    ∃ z, x.remainder? y = some z ∧ z.units = x.units.tmod y.units := by
  have hzero : ¬y.isZero = true := fun hzero => hy (isZero_iff.mp hzero)
  have habs : y.absUnits ≠ 0 := by rwa [← natAbs_units, Int.natAbs_ne_zero]
  obtain ⟨z, hsign, hz⟩ := exists_absUnits_eq_mod x.negative x habs
  refine ⟨z, ?_, ?_⟩
  · rw [remainder?, if_neg hzero, ← hz]
    exact nearest?_eq_some hsign.symm (nearestMagnitude_absUnits z)
  · rw [units_eq_of_negative hsign hz, Int.ofNat_tmod, units, units]
    split <;> split <;> simp

theorem remainder?_of_zero (x : Binary64) (hy : y.units = 0) : x.remainder? y = none := by
  rw [remainder?, if_pos (isZero_iff.mpr hy)]

end FieldRules.Binary64
