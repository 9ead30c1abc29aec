import FieldRules.Proofs.Binary64.Decimal

namespace FieldRules.Binary64

variable {x : Binary64} {tie : Decimal.Tie} {num den step m n : Nat}

/-! Two decimals of seventeen digits that are neighbours are closer to each other than two binary64
numbers are: every number but zero is less than `10^16` times as large as the gap below it. -/

theorem unitsOf_succ_le (k : Nat) : unitsOf (k + 1) ≤ 2 * binade * gap k := by
  have hfraction : k % binade + 1 ≤ binade := Nat.mod_lt k (by decide)
  rw [unitsOf_succ]
  unfold unitsOf gap
  split
  · next hsmall =>
    rw [hsmall]
    simp only [Nat.zero_sub, Nat.pow_eq, pow_zero]
    omega
  · calc (binade + k % binade) * Nat.pow 2 (k / binade - 1) + Nat.pow 2 (k / binade - 1)
        = (binade + (k % binade + 1)) * Nat.pow 2 (k / binade - 1) := by ring
      _ ≤ 2 * binade * Nat.pow 2 (k / binade - 1) := Nat.mul_le_mul_right _ (by omega)

theorem gap_mono {j k : Nat} (hle : j ≤ k) : gap j ≤ gap k :=
  Nat.pow_le_pow_right (by omega) (Nat.sub_le_sub_right (Nat.div_le_div_right hle) 1)

/-- Whatever is at most half a small step away from a number rounds to it. -/
theorem rounds_of_near (hm : unitsOf m ≠ 0) (hden : 0 < den)
    (hstep : step * 10 ^ 16 ≤ unitsOf m * den) (hlow : 2 * (unitsOf m * den) ≤ 2 * num + step)
    (hhigh : 2 * num ≤ 2 * (unitsOf m * den) + step) : Rounds num den m := by
  obtain ⟨k, rfl⟩ : ∃ k, m = k + 1 := by
    refine Nat.exists_eq_add_one_of_ne_zero ?_
    rintro rfl
    exact hm rfl
  have hsmall : step < gap k * den := by
    have hgap := Nat.mul_le_mul_right den (unitsOf_succ_le k)
    have hpos := Nat.mul_pos (gap_pos k) hden
    rw [Nat.mul_assoc] at hgap
    unfold binade at hgap
    omega
  have hsucc := congrArg (· * den) (unitsOf_succ k)
  have hsucc' := congrArg (· * den) (unitsOf_succ (k + 1))
  have hwider := Nat.mul_le_mul_right den (gap_mono (Nat.le_add_right k 1))
  simp only [Nat.add_mul] at hsucc hsucc'
  refine ⟨.inl ?_, fun j hj => .inl ?_⟩
  · rw [middle, Nat.add_mul]
    omega
  · obtain rfl : j = k := by omega
    rw [middle, Nat.add_mul]
    omega

theorem absUnits_lt {exponent : Nat} (hexponent : exponent = 2046) (x : Binary64) :
    x.absUnits < binade * 2 ^ exponent := by
  have hlimit : unitsOf (exponent * binade + binade) = binade * 2 ^ exponent :=
    unitsOf_shift (by omega) (.inr le_rfl)
  rw [absUnits_eq, ← hlimit]
  apply unitsOf_strictMono
  have hfinite := x.finite
  unfold binade
  omega

/-- The point of a number stands after its first digit that is not zero. -/
theorem decimalPoint_bounds {places : Nat} (hplaces : places = 400) (hx : x.absUnits ≠ 0) :
    ∃ length : Nat, x.decimalPoint = length - places ∧ 0 < length ∧ length ≤ 709 ∧
      10 ^ (length - 1) * unitsPerOne ≤ x.absUnits * 10 ^ places ∧
      x.absUnits * 10 ^ places < 10 ^ length * unitsPerOne := by
  have hone := unitsPerOne_pos
  have hscale : 0 < 10 ^ places := by positivity
  have hunit : unitsPerOne ≤ 10 ^ places := by
    rw [hplaces]
    decide +kernel
  have hlimit : ∀ exponent, exponent = 2046 →
      binade * 2 ^ exponent * 10 ^ places ≤ 10 ^ 709 * unitsPerOne := by
    rintro _ rfl
    subst hplaces
    decide +kernel
  have hpoint : x.decimalPoint =
      (decimalLength (x.absUnits * Nat.pow 10 places / unitsPerOne) : Int) - places := by
    have hcast : (400 : Int) = places := by omega
    rw [decimalPoint, hcast, ← hplaces]
  rw [Nat.pow_eq] at hpoint
  obtain ⟨exponent, hexponent⟩ : ∃ exponent, exponent = 2046 := ⟨_, rfl⟩
  have hless := absUnits_lt hexponent x
  specialize hlimit exponent hexponent
  have hsome : x.absUnits * 10 ^ places / unitsPerOne ≠ 0 := by
    have hscaled : 1 ≤ x.absUnits * 10 ^ places / unitsPerOne := by
      refine (Nat.le_div_iff_mul_le hone).mpr ?_
      rw [Nat.one_mul]
      exact hunit.trans (Nat.le_mul_of_pos_left _ (Nat.pos_of_ne_zero hx))
    omega
  refine ⟨_, hpoint, decimalLength_pos _, ?_, ?_, ?_⟩
  · refine (decimalLength_le_iff (by decide)).mpr ((Nat.div_lt_iff_lt_mul hone).mpr ?_)
    exact (Nat.mul_lt_mul_of_pos_right hless hscale).trans_le hlimit
  · exact (Nat.le_div_iff_mul_le hone).mp (ten_pow_le_of_lt_decimalLength hsome
      (Nat.sub_lt (decimalLength_pos _) Nat.one_pos))
  · exact (Nat.div_lt_iff_lt_mul hone).mp (lt_ten_pow_decimalLength _)

/-- At the seventeenth place after the point, a number has seventeen digits before the fraction. -/
theorem seventeen_digits (hx : x.absUnits ≠ 0) :
    unitsPerOne * 10 ^ (x.decimalPoint - 17).toNat * 10 ^ 16 ≤
        x.absUnits * 10 ^ (-(x.decimalPoint - 17)).toNat ∧
      x.absUnits * 10 ^ (-(x.decimalPoint - 17)).toNat <
        unitsPerOne * 10 ^ (x.decimalPoint - 17).toNat * 10 ^ 17 := by
  obtain ⟨places, hplaces⟩ : ∃ places, places = 400 := ⟨_, rfl⟩
  obtain ⟨length, hpoint, hpos, -, hlow, hhigh⟩ := decimalPoint_bounds hplaces hx
  rw [hpoint]
  generalize hnum : (-((length : Int) - places - 17)).toNat = a
  generalize hden : ((length : Int) - places - 17).toNat = b
  constructor
  · have hexponents : places + (b + 16) = a + (length - 1) := by omega
    have hproduct : unitsPerOne * 10 ^ b * 10 ^ 16 * 10 ^ (length - 1) ≤
        x.absUnits * 10 ^ a * 10 ^ (length - 1) := by
      calc unitsPerOne * 10 ^ b * 10 ^ 16 * 10 ^ (length - 1)
          = 10 ^ (length - 1) * unitsPerOne * 10 ^ (b + 16) := by
            rw [pow_add]
            ring
        _ ≤ x.absUnits * 10 ^ places * 10 ^ (b + 16) := Nat.mul_le_mul_right _ hlow
        _ = x.absUnits * 10 ^ a * 10 ^ (length - 1) := by
            rw [Nat.mul_assoc, ← pow_add, hexponents, pow_add, Nat.mul_assoc]
    exact Nat.le_of_mul_le_mul_right hproduct (by positivity)
  · obtain ⟨more, hmore⟩ : ∃ more, a + length = places + more := Nat.exists_eq_add_of_le (by omega)
    have hexponents : more = b + 17 := by omega
    have hproduct : x.absUnits * 10 ^ a * 10 ^ length <
        unitsPerOne * 10 ^ b * 10 ^ 17 * 10 ^ length := by
      calc x.absUnits * 10 ^ a * 10 ^ length
          = x.absUnits * 10 ^ places * 10 ^ more := by
            rw [Nat.mul_assoc, ← pow_add, hmore, pow_add, Nat.mul_assoc]
        _ < 10 ^ length * unitsPerOne * 10 ^ more :=
            Nat.mul_lt_mul_of_pos_right hhigh (by positivity)
        _ = unitsPerOne * 10 ^ b * 10 ^ 17 * 10 ^ length := by
            rw [hexponents, pow_add]
            ring
    exact Nat.lt_of_mul_lt_mul_right hproduct

theorem toBinary64?_of_neighbour? {exponent : Int} {d : Decimal}
    (hneighbour : x.neighbour? tie exponent = some d) :
    d.toBinary64? = some x ∧ d.negative = x.negative ∧ d.exponent = exponent := by
  unfold neighbour? at hneighbour
  dsimp only at hneighbour
  split at hneighbour
  · next hbelow habove =>
    rw [Option.some.injEq] at hneighbour
    subst hneighbour
    split
    · exact ⟨beq_iff_eq.mp hbelow, rfl, rfl⟩
    · exact ⟨beq_iff_eq.mp habove, rfl, rfl⟩
  · next hbelow _ =>
    cases hneighbour
    exact ⟨beq_iff_eq.mp hbelow, rfl, rfl⟩
  · next habove =>
    cases hneighbour
    exact ⟨beq_iff_eq.mp habove, rfl, rfl⟩
  · cases hneighbour

/-- There is a neighbour that reads back if one of the two does. -/
theorem isSome_neighbour? {exponent : Int} {digits : Nat}
    (hdigits : digits = x.absUnits * Nat.pow 10 (-exponent).toNat /
        (unitsPerOne * Nat.pow 10 exponent.toNat) ∨
      digits = x.absUnits * Nat.pow 10 (-exponent).toNat /
        (unitsPerOne * Nat.pow 10 exponent.toNat) + 1)
    (hreads : (⟨x.negative, digits, exponent⟩ : Decimal).toBinary64? = some x) :
    (x.neighbour? tie exponent).isSome = true := by
  have hback := beq_iff_eq.mpr hreads
  unfold neighbour?
  dsimp only
  split
  · rfl
  · rfl
  · rfl
  · next hbelow habove =>
    rcases hdigits with rfl | rfl
    · rw [hback] at hbelow
      cases hbelow
    · rw [hback] at habove
      cases habove

/-- The nearer one of two neighbours with seventeen digits reads back. -/
theorem isSome_neighbour?_seventeen (hx : x.absUnits ≠ 0) (tie : Decimal.Tie) :
    (x.neighbour? tie (x.decimalPoint - 17)).isSome = true := by
  obtain ⟨hlow, hhigh⟩ := seventeen_digits hx
  obtain ⟨places, hplaces⟩ : ∃ places, places = 400 := ⟨_, rfl⟩
  obtain ⟨length, hpoint, hpos, hlength, -, -⟩ := decimalPoint_bounds hplaces hx
  generalize hexponent : x.decimalPoint - 17 = exponent at *
  let den := unitsPerOne * 10 ^ exponent.toNat
  let scale := 10 ^ (-exponent).toNat
  have hden : 0 < den := Nat.mul_pos unitsPerOne_pos (by positivity)
  have hscale : 0 < scale := by positivity
  have hreads : ∀ digits, 10 ^ 16 ≤ digits → digits ≤ 10 ^ 17 →
      2 * (x.absUnits * scale) ≤ 2 * (digits * den) + den →
      2 * (digits * den) ≤ 2 * (x.absUnits * scale) + den →
      (⟨x.negative, digits, exponent⟩ : Decimal).toBinary64? = some x := by
    intro digits hfirst hlast hnear hnear'
    have hshort : decimalLength digits ≤ 18 :=
      (decimalLength_le_iff (by decide)).mpr (by omega)
    have hlong : 16 < decimalLength digits := by
      rw [← Nat.not_le, decimalLength_le_iff (by decide)]
      omega
    have hrounds : Rounds (digits * den) scale x.magnitude :=
      rounds_of_near hx hscale hlow hnear hnear'
    have hmagnitude := (nearestMagnitude_eq_iff hscale).mpr hrounds
    rw [Decimal.toBinary64?_eq_nearest? (by dsimp only; omega)
      (by rw [Decimal.point]; dsimp only; omega) (by rw [Decimal.point]; dsimp only; omega)]
    exact nearest?_eq_some rfl hmagnitude
  have hdivision := Nat.div_add_mod (x.absUnits * scale) den
  have hrest := Nat.mod_lt (x.absUnits * scale) hden
  have hquotient : 10 ^ 16 ≤ x.absUnits * scale / den ∧ x.absUnits * scale / den < 10 ^ 17 := by
    refine ⟨(Nat.le_div_iff_mul_le hden).mpr ?_, (Nat.div_lt_iff_lt_mul hden).mpr ?_⟩
    · rw [Nat.mul_comm]
      exact hlow
    · rw [Nat.mul_comm (10 ^ 17)]
      exact hhigh
  rw [Nat.mul_comm] at hdivision
  generalize hdigits : x.absUnits * scale / den = digits at *
  generalize x.absUnits * scale % den = rest at *
  have hnext : (digits + 1) * den = digits * den + den := Nat.succ_mul digits den
  rcases Nat.lt_or_ge den (2 * rest) with habove | hbelow
  · exact isSome_neighbour? (.inr (congrArg (· + 1) hdigits.symm))
      (hreads (digits + 1) (by omega) (by omega) (by omega) (by omega))
  · exact isSome_neighbour? (.inl hdigits.symm)
      (hreads digits hquotient.1 hquotient.2.le (by omega) (by omega))

theorem exists_findSome?_range {α : Type} {n : Nat} {f : Nat → Option α}
    (hsome : ∃ i < n, (f i).isSome = true) :
    ∃ i a, i < n ∧ f i = some a ∧ (∀ j < i, f j = none) ∧ (List.range n).findSome? f = some a := by
  induction n with
  | zero =>
    obtain ⟨i, hi, -⟩ := hsome
    cases hi
  | succ n ih =>
    rw [List.range_succ, List.findSome?_append]
    by_cases hearlier : ∃ i < n, (f i).isSome = true
    · obtain ⟨i, a, hi, ha, hnone, hfound⟩ := ih hearlier
      exact ⟨i, a, Nat.lt_succ_of_lt hi, ha, hnone, by rw [hfound, Option.some_or]⟩
    · have hnone : ∀ j < n, f j = none := fun j hj =>
        Option.not_isSome_iff_eq_none.mp fun hj' => hearlier ⟨j, hj, hj'⟩
      obtain ⟨i, hi, hlast⟩ := hsome
      obtain rfl : i = n := by
        by_contra hne
        exact hearlier ⟨i, by omega, hlast⟩
      obtain ⟨a, ha⟩ := Option.isSome_iff_exists.mp hlast
      have hrange : (List.range i).findSome? f = none := by
        rw [List.findSome?_eq_none_iff]
        exact fun j hj => hnone j (List.mem_range.mp hj)
      exact ⟨i, a, Nat.lt_succ_self i, ha, hnone, by simp [hrange, ha]⟩

/-- The shortest decimal of a number is a neighbour with so few digits that no neighbour with fewer
    reads back. -/
theorem exists_shortest_eq (hx : x.absUnits ≠ 0) (tie : Decimal.Tie) :
    ∃ (i : Nat) (d : Decimal), x.neighbour? tie (x.decimalPoint - (i + 1 : Nat)) = some d ∧
      (∀ j < i, x.neighbour? tie (x.decimalPoint - (j + 1 : Nat)) = none) ∧
      x.shortest tie = d.stripZeros := by
  have hzero : x.isZero = false := by
    rw [isZero, beq_eq_false_iff_ne]
    exact hx
  have hlast : (x.neighbour? tie (x.decimalPoint - (16 + 1 : Nat))).isSome = true := by
    have hplace : x.decimalPoint - (16 + 1 : Nat) = x.decimalPoint - 17 := by norm_num
    rw [hplace]
    exact isSome_neighbour?_seventeen hx tie
  obtain ⟨i, d, -, hd, hnone, hfound⟩ := exists_findSome?_range (n := 17)
    (f := fun i => x.neighbour? tie (x.decimalPoint - (i + 1 : Nat))) ⟨16, by decide, hlast⟩
  refine ⟨i, d, hd, hnone, ?_⟩
  rw [shortest, hzero, if_neg Bool.false_ne_true]
  dsimp only
  rw [List.findSome?_map, Function.comp_def, hfound, Option.getD_some]

/-- The shortest decimal of a number reads back. -/
theorem toBinary64?_shortest (x : Binary64) (tie : Decimal.Tie) :
    (x.shortest tie).toBinary64? = some x := by
  by_cases hx : x.absUnits = 0
  · have hzero : x.isZero = true := beq_iff_eq.mpr hx
    have hmagnitude : x.magnitude = 0 := by
      have hnone : unitsOf x.magnitude = unitsOf 0 := hx
      exact unitsOf_strictMono.injective hnone
    obtain ⟨negative, _, hfinite⟩ := x
    subst hmagnitude
    rw [shortest, hzero, if_pos rfl, Decimal.toBinary64?_of_digits_eq_zero rfl]
    rfl
  · obtain ⟨i, d, hd, -, hshortest⟩ := exists_shortest_eq hx tie
    rw [hshortest, Decimal.toBinary64?_stripZeros]
    exact (toBinary64?_of_neighbour? hd).1

/-- Reading the text of a number undoes writing it. -/
theorem readBinary64?_text (x : Binary64) : Text.readBinary64? (x.text .plain).toList = some x := by
  rw [text, Decimal.readBinary64?_render_plain, toBinary64?_shortest]

/-! A whole number up to `2^53` is written with all its digits: a decimal without a fraction that
reads back as it is the number itself. -/

theorem absUnits_zero (negative : Bool) :
    ({ zero with negative := negative } : Binary64).absUnits = 0 := by
  cases negative <;> decide

theorem eq_of_units {y : Binary64} (hunits : x.units = y.units) (hne : x.units ≠ 0) : x = y := by
  have hnegative : x.negative = y.negative := by
    rw [negative_eq hne, negative_eq (hunits ▸ hne), hunits]
  have hmagnitude : x.magnitude = y.magnitude := by
    have habs := congrArg Int.natAbs hunits
    rw [natAbs_units, natAbs_units] at habs
    exact unitsOf_strictMono.injective habs
  obtain ⟨_, _, _⟩ := x
  obtain ⟨_, _, _⟩ := y
  subst hnegative hmagnitude
  rfl

/-- A whole numeral is read as the number nearest to it. -/
theorem magnitude_of_toBinary64? {negative : Bool} {digits : Nat} (hdigits : digits ≠ 0)
    (hread : (⟨negative, digits, 0⟩ : Decimal).toBinary64? = some x) :
    x.negative = negative ∧ x.magnitude = nearestMagnitude (digits * unitsPerOne) 1 := by
  have hlength := decimalLength_pos digits
  have hpoint : (⟨negative, digits, 0⟩ : Decimal).point = decimalLength digits := Int.zero_add _
  by_cases hlong : 400 < (⟨negative, digits, 0⟩ : Decimal).point
  · rw [Decimal.toBinary64?_of_point_gt hdigits hlong] at hread
    cases hread
  · rw [Decimal.toBinary64?_eq_nearest? hdigits (by omega) (by omega), nearest?] at hread
    simp only [Int.neg_zero, Int.toNat_zero, pow_zero, Nat.mul_one] at hread
    split at hread
    · cases hread
      exact ⟨rfl, rfl⟩
    · cases hread

theorem digits_eq_of_toBinary64? {negative : Bool} {digits : Nat} (hdigits : digits ≠ 0)
    (hread : (⟨negative, digits, 0⟩ : Decimal).toBinary64? = some x)
    (hx : x.absUnits = n * unitsPerOne) (hn : n < 2 * binade) : digits = n := by
  obtain ⟨-, hmagnitude⟩ := magnitude_of_toBinary64? hdigits hread
  have hone := unitsPerOne_pos
  have hexact : ∀ k : Nat, k ≤ 2 * binade → ∃ y : Binary64, y.absUnits = k * unitsPerOne := by
    intro k hk
    obtain ⟨y, hy⟩ := exists_units_eq (n := k) (by omega)
    refine ⟨y, ?_⟩
    rw [← natAbs_units, hy, Int.natAbs_mul, Int.natAbs_natCast, Int.natAbs_natCast]
  by_cases hsmall : digits ≤ 2 * binade
  · obtain ⟨y, hy⟩ := hexact digits hsmall
    rw [← hy, nearestMagnitude_absUnits] at hmagnitude
    rw [absUnits_eq, hmagnitude, ← absUnits_eq, hy] at hx
    exact Nat.eq_of_mul_eq_mul_right hone hx
  · -- The number `2^53` is closer to all larger numbers.
    obtain ⟨y, hy⟩ := hexact (2 * binade) le_rfl
    have hclosest := ((nearestMagnitude_eq_iff Nat.one_pos).mp hmagnitude.symm).closest y.magnitude
    rw [Nat.mul_one, Nat.mul_one, ← absUnits_eq, ← absUnits_eq, hx, hy] at hclosest
    have hless := Nat.mul_lt_mul_of_pos_right hn hone
    have hmore := Nat.mul_lt_mul_of_pos_right (Nat.lt_of_not_le hsmall) hone
    generalize 2 * binade * unitsPerOne = limit at *
    generalize n * unitsPerOne = value at *
    generalize digits * unitsPerOne = read at *
    omega

theorem decimalPoint_of_whole (hx : x.absUnits = n * unitsPerOne) (hn : n ≠ 0) :
    x.decimalPoint = decimalLength n := by
  obtain ⟨places, hplaces⟩ : ∃ places, places = 400 := ⟨_, rfl⟩
  have hcast : (400 : Int) = places := by omega
  have hscaled : n * unitsPerOne * 10 ^ places / unitsPerOne = n * 10 ^ places := by
    rw [Nat.mul_right_comm, Nat.mul_div_cancel _ unitsPerOne_pos]
  rw [decimalPoint, hcast, ← hplaces, Nat.pow_eq, hx, hscaled, decimalLength_mul_ten_pow hn]
  omega

/-- Whatever decimal is chosen for a whole number, it has no fraction and denotes the number. -/
theorem shortest_of_whole (hread : (⟨x.negative, n, 0⟩ : Decimal).toBinary64? = some x)
    (hx : x.absUnits = n * unitsPerOne) (hne : n ≠ 0) (hn : n < 2 * binade) (tie : Decimal.Tie) :
    (x.shortest tie).negative = x.negative ∧ 0 ≤ (x.shortest tie).exponent ∧
      (x.shortest tie).digits * 10 ^ (x.shortest tie).exponent.toNat = n := by
  have hone := unitsPerOne_pos
  have hnonzero : x.absUnits ≠ 0 := by
    rw [hx]
    exact Nat.mul_ne_zero hne hone.ne'
  have hlength := decimalLength_pos n
  have hpoint := decimalPoint_of_whole hx hne
  -- The search ends where no digit is cut off, if not before.
  have hwhole : (x.neighbour? tie (x.decimalPoint - (decimalLength n - 1 + 1 : Nat))).isSome =
      true := by
    have hplace : x.decimalPoint - (decimalLength n - 1 + 1 : Nat) = 0 := by omega
    rw [hplace]
    refine isSome_neighbour? (.inl ?_) hread
    rw [hx, Nat.pow_eq, Nat.pow_eq]
    simp [hone]
  obtain ⟨i, d, hd, hnone, hshortest⟩ := exists_shortest_eq hnonzero tie
  have hi : i ≤ decimalLength n - 1 := by
    by_contra hlate
    rw [hnone _ (Nat.lt_of_not_le hlate)] at hwhole
    cases hwhole
  obtain ⟨hback, hnegative, hexponent⟩ := toBinary64?_of_neighbour? hd
  obtain ⟨zeros, hdigits, hnegative', hexponent'⟩ := d.exists_stripZeros
  rw [hshortest, hnegative', hexponent']
  have hsplit : (d.exponent + zeros).toNat = zeros + d.exponent.toNat := by omega
  refine ⟨hnegative, by omega, ?_⟩
  rw [hsplit, pow_add, ← Nat.mul_assoc, hdigits]
  have hsame := Decimal.toBinary64?_mul_ten_pow d.negative d.digits d.exponent.toNat 0
  have hplace : (0 : Int) + d.exponent.toNat = d.exponent := by omega
  rw [hplace, hback] at hsame
  refine digits_eq_of_toBinary64? (fun hzero => ?_) hsame hx hn
  rw [Decimal.toBinary64?_of_digits_eq_zero hzero, Option.some.injEq] at hsame
  rw [← hsame] at hnonzero
  exact hnonzero (absUnits_zero _)

/-- A whole number up to `2^53` has the same text as a number and as an integer. -/
theorem text_ofInt {n : Int} (hne : n ≠ 0) (hn : n.natAbs ≤ 2 * binade) :
    (ofInt n).text .plain = toString n := by
  by_cases hlast : n.natAbs = 2 * binade
  · have hcases : n = (2 * binade : Nat) ∨ n = -(2 * binade : Nat) := Int.natAbs_eq_iff.mp hlast
    rcases hcases with rfl | rfl <;> decide +kernel
  have hunits := units_ofInt (exists_units_eq hn)
  have hlimit : n.natAbs < 0x10000000000000000 := by
    unfold binade at hn
    omega
  have hnegative : (ofInt n).negative = decide (n < 0) :=
    (ofInt_eq (by unfold binade at hn; rw [Nat.pow_eq]; omega)).1
  have habs : (ofInt n).absUnits = n.natAbs * unitsPerOne := by
    rw [← natAbs_units, hunits, Int.natAbs_mul, Int.natAbs_natCast]
  have hread := toBinary64?_eq_ofInt hlimit
  rw [← hnegative] at hread
  have hdigits : n.natAbs ≠ 0 := Int.natAbs_ne_zero.mpr hne
  obtain ⟨hsign, hexponent, hvalue⟩ :=
    shortest_of_whole hread habs hdigits (by omega) Decimal.Layout.plain.tie
  have hsome : ((ofInt n).shortest Decimal.Layout.plain.tie).digits ≠ 0 := by
    intro hzero
    rw [hzero, Nat.zero_mul] at hvalue
    exact hdigits hvalue.symm
  apply String.toList_inj.mp
  rw [text, Decimal.toList_render_of_whole hsome hexponent, hvalue, hsign, hnegative,
    Text.toList_toString]
  simp

end FieldRules.Binary64
