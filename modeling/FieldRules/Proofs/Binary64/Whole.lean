import FieldRules.Proofs.Binary64.Nearest
import FieldRules.Proofs.Value.Equal

namespace FieldRules

namespace Binary64

variable {x : Binary64} {n : Int} {num den m h : Nat}

/-- Quotients far beyond the 64-bit words still have a nearest finite number. -/
theorem exists_nearest? (negative : Bool) (hden : 0 < den)
    (hnum : num ≤ Nat.pow 2 100 * unitsPerOne * den) :
    ∃ x, nearest? negative num den = some x ∧ x.negative = negative ∧
      x.magnitude = nearestMagnitude num den := by
  obtain ⟨k, _, hk, hone⟩ := exists_unitsPerOne_eq
  have hunits : Nat.pow 2 100 * unitsPerOne ≤ unitsOf ((k + 48) * binade + binade) := by
    rw [unitsOf_shift (by omega) (.inr le_rfl), hone]
    have hpow : binade * Nat.pow 2 (k + 48) = Nat.pow 2 100 * Nat.pow 2 k := by
      have hbinade : binade = 2 ^ 52 := by rfl
      have hexponent : 52 + (k + 48) = 100 + k := by omega
      rw [hbinade, Nat.pow_eq, Nat.pow_eq, Nat.pow_eq, ← pow_add, ← pow_add, hexponent]
    exact hpow.ge
  have hle := nearestMagnitude_le hden (hnum.trans (Nat.mul_le_mul_right den hunits))
  have hfinite : nearestMagnitude num den < 0x7FF0000000000000 := by
    unfold binade at hle
    omega
  exact ⟨⟨negative, nearestMagnitude num den, hfinite⟩, dif_pos hfinite, rfl, rfl⟩

theorem ofInt_eq (hn : n.natAbs ≤ Nat.pow 2 100) :
    (ofInt n).negative = decide (n < 0) ∧
      (ofInt n).magnitude = nearestMagnitude (n.natAbs * unitsPerOne) 1 := by
  have hnum : n.natAbs * unitsPerOne ≤ Nat.pow 2 100 * unitsPerOne * 1 := by
    rw [Nat.mul_one]
    exact Nat.mul_le_mul_right _ hn
  obtain ⟨x, hx, hnegative, hmagnitude⟩ :=
    exists_nearest? (decide (n < 0)) Nat.one_pos hnum
  rw [ofInt, hx]
  exact ⟨hnegative, hmagnitude⟩

theorem abs_of_not_negative (hx : x.negative = false) : x.abs = x := by
  obtain ⟨_, m, hfinite⟩ := x
  subst hx
  rfl

theorem natAbs_sub_le_of_natAbs {a b whole : Int} (hsign : a < 0 → whole < 0)
    (hsign' : 0 < a → 0 ≤ whole)
    (hclosest : ((whole.natAbs : Int) - a.natAbs).natAbs ≤
      ((whole.natAbs : Int) - b.natAbs).natAbs) :
    (a - whole).natAbs ≤ (b - whole).natAbs := by
  omega

/-- No number is closer to a whole number than the one that it is converted to. -/
theorem ofInt_closest (hn : n.natAbs ≤ Nat.pow 2 100) (x : Binary64) :
    ((ofInt n).units - n * unitsPerOne).natAbs ≤ (x.units - n * unitsPerOne).natAbs := by
  obtain ⟨hnegative, hmagnitude⟩ := ofInt_eq hn
  have hone : 0 < (unitsPerOne : Int) := by exact_mod_cast unitsPerOne_pos
  have hclosest := ((nearestMagnitude_eq_iff Nat.one_pos).mp hmagnitude.symm).closest x.magnitude
  rw [Nat.mul_one, Nat.mul_one, ← absUnits_eq, ← absUnits_eq] at hclosest
  refine natAbs_sub_le_of_natAbs (fun hneg => ?_) (fun hpos => ?_) ?_
  · by_contra hwhole
    have hn : ¬n < 0 := fun hlt => hwhole (Int.mul_neg_of_neg_of_pos hlt hone)
    rw [units, hnegative, if_neg (by simpa using hn)] at hneg
    omega
  · by_contra hwhole
    have hn : n < 0 := by
      by_contra hle
      exact hwhole (Int.mul_nonneg (by omega) hone.le)
    rw [units, hnegative, if_pos (by simpa using hn)] at hpos
    omega
  · rwa [natAbs_units, natAbs_units, Int.natAbs_mul, Int.natAbs_natCast]

theorem isWhole_iff : x.isWhole = true ↔ ∃ n : Int, x.units = n * unitsPerOne := by
  rw [isWhole, beq_iff_eq, ← natAbs_units, ← Nat.dvd_iff_mod_eq_zero]
  constructor
  · intro hdvd
    obtain ⟨n, hn⟩ := Int.natCast_dvd.mpr hdvd
    exact ⟨n, hn.trans (Int.mul_comm _ _)⟩
  · rintro ⟨n, hn⟩
    rw [hn, Int.natAbs_mul, Int.natAbs_natCast]
    exact Nat.dvd_mul_left _ _

/-- The binary64 numbers beyond `2^53` are whole, and so are those to which whole numbers are
    converted. -/
theorem isWhole_ofInt (hn : n.natAbs ≤ Nat.pow 2 100) : (ofInt n).isWhole = true := by
  by_cases hexact : n.natAbs ≤ 2 * binade
  · exact isWhole_iff.mpr ⟨n, units_ofInt (exists_units_eq hexact)⟩
  · obtain ⟨k, _, _, hone⟩ := exists_unitsPerOne_eq
    obtain ⟨s, d, hm, hd, hhigh, hlow⟩ :=
      exists_nearestMagnitude_eq Nat.one_pos (n.natAbs * unitsPerOne)
    have hpos := Nat.mul_pos Nat.one_pos (Nat.two_pow_pos s)
    have hunits : (ofInt n).absUnits = d * Nat.pow 2 s := by
      rw [absUnits_eq, (ofInt_eq hn).2, hm]
      exact unitsOf_shift (hd ▸ divNearest_le_of_lt hpos hhigh)
        (hlow.imp_right fun hnum => hd ▸ le_divNearest hpos hnum)
    have hks : k ≤ s := by
      rw [hone, Nat.one_mul] at hhigh
      have hpow : 2 * binade * Nat.pow 2 k < 2 * binade * Nat.pow 2 s :=
        Nat.lt_of_le_of_lt (Nat.mul_le_mul_right _ (by omega)) hhigh
      have hlt := Nat.lt_of_mul_lt_mul_left hpow
      exact ((Nat.pow_lt_pow_iff_right (by omega)).mp hlt).le
    rw [isWhole, beq_iff_eq, hunits, hone, ← Nat.dvd_iff_mod_eq_zero]
    exact (Nat.pow_dvd_pow 2 hks).mul_left d

/-- At most half the gap above a number, added to it, is lost again, unless the tie goes to the next
    number. -/
theorem nearestMagnitude_add_half (hgap : 2 * h ≤ gap m) :
    nearestMagnitude (unitsOf m + h) 1 = if 2 * h = gap m ∧ m % 2 = 1 then m + 1 else m := by
  have hmiddle : middle m = 2 * unitsOf m + gap m := by
    rw [middle, unitsOf_succ]
    omega
  rw [nearestMagnitude_eq_iff Nat.one_pos]
  split
  · next htie =>
    have hlater : middle m < middle (m + 1) := middle_strictMono (Nat.lt_succ_self m)
    refine ⟨by omega, fun k hk => ?_⟩
    obtain rfl : k = m := by omega
    omega
  · refine ⟨by omega, fun k hk => ?_⟩
    have hearlier : unitsOf k < unitsOf m := unitsOf_strictMono (by omega)
    rw [middle, ← hk]
    omega

theorem nearestMagnitude_sub_half (hgap : 2 * h ≤ gap m) :
    nearestMagnitude (unitsOf (m + 1) - h) 1 = if 2 * h = gap m ∧ m % 2 = 0 then m else m + 1 := by
  have hsucc := unitsOf_succ m
  have hmiddle : middle m = 2 * unitsOf (m + 1) - gap m := by
    rw [middle, hsucc]
    omega
  rw [nearestMagnitude_eq_iff Nat.one_pos]
  split
  · next htie =>
    refine ⟨by omega, fun k hk => ?_⟩
    have hearlier : middle k < middle m := middle_strictMono (by omega)
    omega
  · have hlater : unitsOf (m + 1) < unitsOf (m + 1 + 1) := unitsOf_strictMono (Nat.lt_succ_self _)
    refine ⟨by rw [middle]; omega, fun k hk => ?_⟩
    obtain rfl : k = m := by omega
    omega

/-- From `2^(k + 52)` units on a number is made of 53 bits and at least `k` zeros. -/
theorem exists_bits_of_large (hm : binade * Nat.pow 2 k ≤ unitsOf m) :
    ∃ zeros bits, binade ≤ bits ∧ bits < 2 * binade ∧ m = (k + zeros) * binade + bits ∧
      unitsOf m = bits * 2 ^ zeros * Nat.pow 2 k := by
  have hbinade : binade ≤ m := by
    by_contra hsmall
    have hunits : unitsOf (0 * binade + m) = m * Nat.pow 2 0 := unitsOf_shift (by omega) (.inl rfl)
    have hpos := Nat.le_mul_of_pos_right binade (Nat.two_pow_pos k)
    simp only [Nat.zero_mul, Nat.zero_add, Nat.pow_eq, pow_zero, Nat.mul_one] at hunits hpos hm
    omega
  obtain ⟨s, bits, hlow, hhigh, rfl⟩ :
      ∃ s bits, binade ≤ bits ∧ bits < 2 * binade ∧ m = s * binade + bits := by
    refine ⟨m / binade - 1, binade + m % binade, ?_⟩
    unfold binade at *
    omega
  have hunits := unitsOf_shift hhigh.le (.inr hlow) (s := s)
  rw [hunits] at hm
  have hks : k ≤ s := by
    by_contra hlt
    have hpow : 2 * Nat.pow 2 s ≤ Nat.pow 2 k := by
      rw [Nat.pow_eq, Nat.pow_eq, ← pow_succ']
      exact Nat.pow_le_pow_right (by omega) (by omega)
    have hproduct := Nat.mul_le_mul_left binade hpow
    have hless := Nat.mul_lt_mul_of_pos_right hhigh (Nat.two_pow_pos s)
    simp only [Nat.pow_eq] at *
    linarith
  obtain ⟨zeros, rfl⟩ := Nat.exists_eq_add_of_le hks
  refine ⟨zeros, bits, hlow, hhigh, rfl, ?_⟩
  rw [hunits, Nat.pow_eq, Nat.pow_eq, pow_add]
  ring

/-- A large whole number as 53 bits and as many zeros as its gap has above one. -/
theorem exists_bits_of_whole {whole : Nat} (hone : unitsPerOne = Nat.pow 2 k)
    (hm : unitsOf m = whole * unitsPerOne) (hwhole : binade ≤ whole) :
    ∃ zeros bits, binade ≤ bits ∧ bits < 2 * binade ∧ m = (k + zeros) * binade + bits ∧
      whole = bits * 2 ^ zeros := by
  rw [hone] at hm
  obtain ⟨zeros, bits, hlow, hhigh, hbits, hunits⟩ :=
    exists_bits_of_large (hm ▸ Nat.mul_le_mul_right _ hwhole)
  exact ⟨zeros, bits, hlow, hhigh, hbits,
    Nat.mul_right_cancel (Nat.two_pow_pos k) (hm.symm.trans hunits)⟩

/-- The gap above a number is one in the last of its 53 bits. -/
theorem gap_of_bits (hlow : binade ≤ bits) (hhigh : bits < 2 * binade)
    (hm : m = s * binade + bits) : gap m = Nat.pow 2 s := by
  have hexponent : m / binade - 1 = s := by
    unfold binade at *
    omega
  rw [gap, hexponent]

/-- Where the gap beside a large whole number is one, its last bit tells whether it is odd, and
    beside an odd one it is one. -/
theorem gap_of_whole {j whole : Nat} (hm : unitsOf m = whole * unitsPerOne)
    (hwhole : binade ≤ whole) (hj : j = m ∨ j + 1 = m ∧ binade < whole) :
    unitsPerOne ≤ gap j ∧ (gap j = unitsPerOne → m % 2 = whole % 2) ∧
      (whole % 2 = 1 → gap j = unitsPerOne) := by
  obtain ⟨k, _, _, hone⟩ := exists_unitsPerOne_eq
  obtain ⟨zeros, bits, hlow, hhigh, rfl, rfl⟩ := exists_bits_of_whole hone hm hwhole
  have heven : zeros ≠ 0 → bits * 2 ^ zeros % 2 = 0 := by
    intro hzeros
    obtain ⟨fewer, rfl⟩ := Nat.exists_eq_add_one_of_ne_zero hzeros
    rw [pow_succ, ← Nat.mul_assoc]
    exact Nat.mul_mod_left _ 2
  have hwide : ∀ {wider}, gap j = Nat.pow 2 (k + wider) →
      unitsPerOne ≤ gap j ∧ (gap j = unitsPerOne → wider = 0) := by
    intro wider hgap
    rw [hgap, hone]
    refine ⟨Nat.pow_le_pow_right (by omega) (by omega), fun hsame => ?_⟩
    have hexponent := Nat.pow_right_injective le_rfl hsame
    omega
  by_cases hfirst : bits = binade ∧ j + 1 = (k + zeros) * binade + bits
  · -- Below the first number of a binade the gap is half as wide.
    obtain ⟨rfl, hj'⟩ := hfirst
    have hzeros : zeros ≠ 0 := by
      rintro rfl
      rw [pow_zero, Nat.mul_one] at hj
      omega
    obtain ⟨fewer, rfl⟩ := Nat.exists_eq_add_one_of_ne_zero hzeros
    have hbelow : j = (k + fewer) * binade + (2 * binade - 1) := by
      unfold binade at *
      omega
    have hgap : gap j = Nat.pow 2 (k + fewer) := gap_of_bits (by decide) (by decide) hbelow
    have hwhole := heven hzeros
    refine ⟨(hwide hgap).1, fun _ => ?_, fun hodd => by omega⟩
    rw [hwhole]
    unfold binade
    omega
  · have hgap : gap j = Nat.pow 2 (k + zeros) := by
      rcases hj with rfl | ⟨hj, _⟩
      · exact gap_of_bits hlow hhigh rfl
      · have hbelow : j = (k + zeros) * binade + (bits - 1) := by omega
        exact gap_of_bits (by omega) (by omega) hbelow
    refine ⟨(hwide hgap).1, fun hsame => ?_, fun hodd => ?_⟩
    · obtain rfl := (hwide hgap).2 hsame
      rw [pow_zero, Nat.mul_one]
      unfold binade
      omega
    · have hzeros : zeros = 0 := by
        by_contra hne
        have hwhole := heven hne
        omega
      rw [hgap, hzeros, hone, Nat.add_zero]

theorem nearest?_eq_some {negative : Bool} (hnegative : negative = x.negative)
    (hmagnitude : nearestMagnitude num den = x.magnitude) :
    nearest? negative num den = some x := by
  subst hnegative
  simp only [nearest?, hmagnitude, dif_pos x.finite]

/-- A sum that is a number is not rounded. -/
theorem nearest?_natAbs_units (hx : x.negative = decide (x.units < 0)) :
    nearest? (decide (x.units < 0)) x.units.natAbs 1 = some x :=
  nearest?_eq_some hx.symm (by rw [natAbs_units, nearestMagnitude_absUnits])

/-- One half as a number of units. -/
theorem exists_half_eq :
    ∃ j, j < 1900 ∧ unitsPerOne = 2 * Nat.pow 2 j ∧ unitsPerOne / 2 = Nat.pow 2 j := by
  obtain ⟨k, hk, hklt, hone⟩ := exists_unitsPerOne_eq
  obtain ⟨j, rfl⟩ := Nat.exists_eq_add_one_of_ne_zero (by omega : k ≠ 0)
  have hpow : Nat.pow 2 (j + 1) = 2 * Nat.pow 2 j := by rw [Nat.pow_eq, Nat.pow_eq, pow_succ']
  refine ⟨j, by omega, hone.trans hpow, ?_⟩
  rw [hone, hpow]
  omega

theorem exists_half : ∃ half, unitsPerOne = 2 * half ∧ unitsPerOne / 2 = half ∧ 0 < half := by
  obtain ⟨j, -, htwice, hhalf⟩ := exists_half_eq
  exact ⟨Nat.pow 2 j, htwice, hhalf, Nat.two_pow_pos j⟩

/-- A number with a gap of one beside it is far from the largest numbers. -/
theorem lt_of_gap_eq (hgap : gap m = unitsPerOne) : m + 1 < 0x7FF0000000000000 := by
  obtain ⟨k, _, hk, hone⟩ := exists_unitsPerOne_eq
  have hexponent : m / binade - 1 = k := Nat.pow_right_injective le_rfl (hgap.trans hone)
  unfold binade at hexponent
  omega

theorem unitsOf_of_whole (hx : x.units = n * unitsPerOne) :
    unitsOf x.magnitude = n.natAbs * unitsPerOne := by
  rw [← absUnits_eq, ← natAbs_units, hx, Int.natAbs_mul, Int.natAbs_natCast]

theorem negative_eq (hx : x.units ≠ 0) : x.negative = decide (x.units < 0) := by
  have hunits : x.units = if x.negative then -(x.absUnits : Int) else x.absUnits := rfl
  cases hsign : x.negative with
  | false =>
    rw [hsign, if_neg Bool.false_ne_true] at hunits
    rw [eq_comm, decide_eq_false_iff_not]
    omega
  | true =>
    rw [hsign, if_pos rfl] at hunits
    rw [eq_comm, decide_eq_true_iff]
    omega

/-! From `2^52` on the binary64 numbers are whole, one half more is a tie, which goes to the even
number, and from `2^53` on it is too little to matter. -/

theorem units_addHalf_of_pos (hx : x.units = n * unitsPerOne) (hn : binade ≤ n) :
    x.addHalf.units = (if n % 2 = 1 then n + 1 else n) * unitsPerOne := by
  obtain ⟨half, htwice, hhalf, hpos⟩ := exists_half
  have habs := unitsOf_of_whole hx
  obtain ⟨hgap, hparity, hone⟩ := gap_of_whole habs (by omega) (.inl rfl)
  have hnear := nearestMagnitude_add_half (h := half) (htwice ▸ hgap)
  have hpositive : 0 < x.units := by
    rw [hx]
    exact Int.mul_pos (by unfold binade at hn; omega) (by exact_mod_cast unitsPerOne_pos)
  have hunits : x.units = unitsOf x.magnitude := by
    have hnatAbs := natAbs_units x
    rw [absUnits_eq] at hnatAbs
    omega
  have hsign : x.negative = false := by
    rw [negative_eq (by omega), decide_eq_false_iff_not]
    omega
  have hsum : decide (x.units + (half : Int) < 0) = false ∧
      (x.units + (half : Int)).natAbs = unitsOf x.magnitude + half := by
    rw [decide_eq_false_iff_not]
    omega
  rw [addHalf, hhalf, hsum.1, hsum.2]
  by_cases hodd : n % 2 = 1
  · have hwide : gap x.magnitude = unitsPerOne := hone (by omega)
    have hlast := hparity hwide
    rw [if_pos ⟨htwice.symm.trans hwide.symm, by omega⟩] at hnear
    rw [nearest?_eq_some (x := ⟨false, x.magnitude + 1, lt_of_gap_eq hwide⟩) rfl hnear,
      Option.getD_some, if_pos hodd, units, if_neg Bool.false_ne_true, absUnits_eq, unitsOf_succ,
      hwide, Int.natCast_add, ← hunits, hx]
    ring
  · have hkept : ¬(2 * half = gap x.magnitude ∧ x.magnitude % 2 = 1) := by
      rintro ⟨htie, hlast⟩
      have hwhole := hparity (htie.symm.trans htwice.symm)
      omega
    rw [if_neg hkept] at hnear
    rw [nearest?_eq_some hsign.symm hnear, Option.getD_some, if_neg hodd, hx]

theorem units_addHalf_of_neg (hx : x.units = n * unitsPerOne) (hn : n < -binade) :
    x.addHalf.units = (if n % 2 = 1 then n + 1 else n) * unitsPerOne := by
  obtain ⟨half, htwice, hhalf, hpos⟩ := exists_half
  have habs := unitsOf_of_whole hx
  have hnegative : x.units < 0 := by
    rw [hx]
    exact Int.mul_neg_of_neg_of_pos (by unfold binade at hn; omega)
      (by exact_mod_cast unitsPerOne_pos)
  have hunits : x.units = -unitsOf x.magnitude := by
    have hnatAbs := natAbs_units x
    rw [absUnits_eq] at hnatAbs
    omega
  obtain ⟨j, hj⟩ : ∃ j, x.magnitude = j + 1 := by
    refine Nat.exists_eq_add_one_of_ne_zero fun hzero => ?_
    have hnone : unitsOf 0 = 0 := by rfl
    rw [hzero, hnone] at hunits
    omega
  obtain ⟨hgap, hparity, hone⟩ := gap_of_whole habs (by omega) (.inr ⟨hj.symm, by omega⟩)
  have hnear := nearestMagnitude_sub_half (h := half) (htwice ▸ hgap)
  have hsucc := unitsOf_succ j
  rw [← hj] at hnear hsucc
  have hsign : x.negative = true := by
    rw [negative_eq (by omega), decide_eq_true_iff]
    exact hnegative
  have hsum : decide (x.units + (half : Int) < 0) = true ∧
      (x.units + (half : Int)).natAbs = unitsOf x.magnitude - half := by
    rw [decide_eq_true_iff]
    omega
  rw [addHalf, hhalf, hsum.1, hsum.2]
  by_cases hodd : n % 2 = 1
  · have hwide : gap j = unitsPerOne := hone (by omega)
    have hlast := hparity hwide
    rw [if_pos ⟨htwice.symm.trans hwide.symm, by omega⟩] at hnear
    rw [nearest?_eq_some (x := ⟨true, j, Nat.lt_of_succ_lt (lt_of_gap_eq hwide)⟩) rfl hnear,
      Option.getD_some, if_pos hodd, units, if_pos rfl, absUnits_eq]
    rw [hsucc, hwide, Int.natCast_add, hx] at hunits
    dsimp only
    linarith
  · have hkept : ¬(2 * half = gap j ∧ j % 2 = 0) := by
      rintro ⟨htie, hlast⟩
      have hwhole := hparity (htie.symm.trans htwice.symm)
      omega
    rw [if_neg hkept] at hnear
    rw [nearest?_eq_some hsign.symm hnear, Option.getD_some, if_neg hodd, hx]

/-- Below, the sum is a number itself. -/
theorem units_addHalf_of_small (hx : x.units = n * unitsPerOne) (hlow : -binade ≤ n)
    (hhigh : n < binade) : x.addHalf.units = n * unitsPerOne + (unitsPerOne / 2 : Nat) := by
  obtain ⟨j, hj, htwice, hhalf⟩ := exists_half_eq
  have hsum : x.units + (unitsPerOne / 2 : Nat) = (2 * n + 1) * (Nat.pow 2 j : Nat) := by
    rw [hx, hhalf, htwice]
    push_cast
    ring
  obtain ⟨y, hy⟩ := exists_units_eq_mul_two_pow (n := 2 * n + 1) (k := j)
    (by unfold binade at *; omega) (by omega)
  have hne : y.units ≠ 0 := by
    rw [hy]
    exact Int.mul_ne_zero (by omega) (by exact_mod_cast (Nat.two_pow_pos j).ne')
  rw [addHalf, hsum, ← hy, nearest?_natAbs_units (negative_eq hne), Option.getD_some, hy, ← hsum,
    hx]

/-- A number with a fraction is below `2^52`. -/
theorem absUnits_lt_of_not_isWhole (hx : x.isWhole = false) :
    x.absUnits < binade * unitsPerOne := by
  obtain ⟨k, _, _, hone⟩ := exists_unitsPerOne_eq
  rw [hone]
  by_contra hlarge
  obtain ⟨zeros, bits, -, -, -, hunits⟩ := exists_bits_of_large (Nat.le_of_not_lt hlarge)
  rw [isWhole, beq_eq_false_iff_ne, absUnits_eq, hunits, hone] at hx
  exact hx (Nat.mul_mod_left _ _)

theorem natAbs_fdiv_le {a : Int} {b c : Nat} (hb : 0 < b) (ha : a.natAbs < c * b) :
    (a.fdiv b).natAbs ≤ c := by
  have hb' : (0 : Int) < b := by exact_mod_cast hb
  have hproduct : ((c * b : Nat) : Int) = c * b := Int.natCast_mul c b
  rw [Int.fdiv_eq_ediv_of_nonneg _ hb'.le]
  have hlow : -(c : Int) ≤ a / b := by
    apply Int.le_ediv_of_mul_le hb'
    rw [Int.neg_mul]
    omega
  have hhigh : a / b < c := by
    apply Int.ediv_lt_of_lt_mul hb'
    omega
  omega

theorem isWhole_floor (x : Binary64) : x.floor.isWhole = true := by
  rw [floor]
  split
  · next hwhole => exact hwhole
  · next hwhole =>
    have hsmall := absUnits_lt_of_not_isWhole (Bool.eq_false_of_not_eq_true hwhole)
    rw [← natAbs_units] at hsmall
    exact isWhole_ofInt ((natAbs_fdiv_le unitsPerOne_pos hsmall).trans (by decide))

theorem isWhole_ceil (x : Binary64) : x.ceil.isWhole = true := by
  rw [ceil]
  split
  · next hwhole => exact hwhole
  · next hwhole =>
    have hsmall := absUnits_lt_of_not_isWhole (Bool.eq_false_of_not_eq_true hwhole)
    rw [← natAbs_units, ← Int.natAbs_neg] at hsmall
    apply isWhole_ofInt
    rw [Int.natAbs_neg]
    exact (natAbs_fdiv_le unitsPerOne_pos hsmall).trans (by decide)

/-- The largest whole number that is not larger. -/
theorem units_floor {q : Int} (hlow : q * unitsPerOne ≤ x.units)
    (hhigh : x.units < (q + 1) * unitsPerOne) (hq : q.natAbs ≤ 2 * binade) :
    x.floor.units = q * unitsPerOne := by
  have hone : 0 < (unitsPerOne : Int) := by exact_mod_cast unitsPerOne_pos
  have hquotient : x.units.fdiv unitsPerOne = q := by
    rw [Int.fdiv_eq_ediv_of_nonneg _ hone.le]
    exact Int.le_antisymm (Int.lt_add_one_iff.mp (Int.ediv_lt_of_lt_mul hone hhigh))
      (Int.le_ediv_of_mul_le hone hlow)
  unfold floor
  split
  · next hwhole =>
    obtain ⟨n, hn⟩ := isWhole_iff.mp hwhole
    rw [hn, Int.mul_fdiv_cancel _ hone.ne'] at hquotient
    rw [hn, hquotient]
  · rw [hquotient]
    exact units_ofInt (exists_units_eq hq)

/-- A whole number is rounded to itself, but for the odd ones from which the next halves cannot be
    told apart. -/
theorem units_roundHalfUp (hx : x.units = n * unitsPerOne) :
    x.roundHalfUp.units =
      (if n % 2 = 1 ∧ binade < n.natAbs then n + 1 else n) * unitsPerOne := by
  have hfloor : ∀ {y : Binary64} {q : Int}, y.units = q * unitsPerOne →
      y.floor.units = q * unitsPerOne := by
    intro y q hy
    rw [floor, if_pos (isWhole_iff.mpr ⟨q, hy⟩), hy]
  by_cases hlarge : binade ≤ n ∨ n < -binade
  · have hsum : x.addHalf.units = (if n % 2 = 1 then n + 1 else n) * unitsPerOne := by
      rcases hlarge with hpos | hneg
      · exact units_addHalf_of_pos hx hpos
      · exact units_addHalf_of_neg hx hneg
    have hodd : n % 2 = 1 ↔ n % 2 = 1 ∧ binade < n.natAbs := by
      unfold binade at *
      omega
    rw [roundHalfUp, hfloor hsum]
    simp only [← hodd]
  · have hsum := units_addHalf_of_small hx (by omega) (by omega)
    obtain ⟨half, htwice, hhalf, hpos⟩ := exists_half
    have hone : (unitsPerOne : Int) = 2 * half := by exact_mod_cast htwice
    rw [if_neg (by omega), roundHalfUp]
    apply units_floor
    · rw [hsum]
      omega
    · rw [hsum, hhalf, Int.add_mul, hone]
      omega
    · unfold binade at *
      omega

/-- No odd number from `2^53` on is a binary64 number. -/
theorem natAbs_lt_of_odd (hx : x.units = n * unitsPerOne) (hodd : n % 2 = 1) :
    n.natAbs < 2 * binade := by
  by_contra hlarge
  obtain ⟨k, _, _, hone⟩ := exists_unitsPerOne_eq
  have habs := unitsOf_of_whole hx
  obtain ⟨-, -, hwide⟩ := gap_of_whole habs (by omega) (.inl rfl)
  have hgap : gap x.magnitude = unitsPerOne := hwide (by omega)
  have hexponent : x.magnitude / binade - 1 = k :=
    Nat.pow_right_injective le_rfl (hgap.trans hone)
  have hlater : unitsOf x.magnitude < unitsOf ((k + 1) * binade + binade) := by
    apply unitsOf_strictMono
    unfold binade at *
    omega
  have hpow : Nat.pow 2 (k + 1) = 2 * Nat.pow 2 k := by rw [Nat.pow_eq, Nat.pow_eq, pow_succ']
  rw [unitsOf_shift (by omega) (.inr le_rfl), habs, hone, hpow, ← Nat.mul_assoc] at hlater
  have hless := Nat.lt_of_mul_lt_mul_right hlater
  omega

/-- The conversion to binary64 makes no large number odd. -/
theorem units_ofInt_of_odd {q : Int} (hn : n.natAbs ≤ Nat.pow 2 100)
    (hq : (ofInt n).units = q * unitsPerOne) (hodd : q % 2 = 1) : q = n := by
  have hone : 0 < (unitsPerOne : Int) := by exact_mod_cast unitsPerOne_pos
  have hsmall := natAbs_lt_of_odd hq hodd
  by_cases hexact : n.natAbs ≤ 2 * binade
  · have hunits := units_ofInt (exists_units_eq hexact)
    exact Int.eq_of_mul_eq_mul_right hone.ne' (hq.symm.trans hunits)
  · exfalso
    let border : Int := if n < 0 then -(2 * binade : Nat) else (2 * binade : Nat)
    have hborder : border.natAbs ≤ 2 * binade := by
      simp only [border]
      split <;> omega
    obtain ⟨y, hy⟩ := exists_units_eq hborder
    have hclosest := ofInt_closest hn y
    rw [hq, hy, ← Int.sub_mul, ← Int.sub_mul, Int.natAbs_mul, Int.natAbs_mul,
      Int.natAbs_natCast] at hclosest
    have hcloser := Nat.le_of_mul_le_mul_right hclosest unitsPerOne_pos
    simp only [border] at hcloser
    split at hcloser <;> omega

end Binary64

namespace Number

variable {x : Binary64} {n : Int}

theorem truncate_of_whole (hx : x.units = n * Binary64.unitsPerOne) : x.truncate = n := by
  have hone : (Binary64.unitsPerOne : Int) ≠ 0 :=
    Int.natCast_ne_zero.mpr (Nat.ne_of_gt Binary64.unitsPerOne_pos)
  rw [Binary64.truncate, hx, Int.mul_tdiv_cancel _ hone]

theorem units_ofBinary64 (x : Binary64) : (ofBinary64 x).units = x.units := by
  unfold ofBinary64
  split
  · next hwhole =>
    obtain ⟨n, hn⟩ := Binary64.isWhole_iff.mp (Bool.and_eq_true_iff.mp hwhole).1
    rw [truncate_of_whole hn, units, hn]
  · rfl

theorem absBelow_of_whole (hx : x.units = n * Binary64.unitsPerOne) (bound : Nat) :
    x.absBelow bound = decide (n.natAbs < bound) := by
  rw [Binary64.absBelow, Binary64.absUnits_eq, Binary64.unitsOf_of_whole hx, decide_eq_decide]
  exact Nat.mul_lt_mul_right Binary64.unitsPerOne_pos

/-- Whole numbers below the limit of whole numbers are made integers again. -/
theorem ofBinary64_of_whole (hx : x.units = n * Binary64.unitsPerOne)
    (hn : n.natAbs < 9000000000000000) : ofBinary64 x = .integer n := by
  rw [ofBinary64, absBelow_of_whole hx, Binary64.isWhole_iff.mpr ⟨n, hx⟩, Bool.true_and,
    if_pos (decide_eq_true hn), truncate_of_whole hx]

end Number

end FieldRules
