import FieldRules.Proofs.Binary64.Whole
import FieldRules.Proofs.Text.Numeral

namespace FieldRules

section

variable {n k : Nat}

theorem digitsValue_append_zeros (cs : List Char) (k : Nat) :
    digitsValue (cs ++ List.replicate k '0') = digitsValue cs * 10 ^ k := by
  induction k with
  | zero => simp
  | succ k ih =>
    rw [List.replicate_succ', ← List.append_assoc, digitsValue, List.foldl_append, ← digitsValue,
      ih]
    simp only [List.foldl_cons, List.foldl_nil]
    have hzero : '0'.toNat - 48 = 0 := by rfl
    rw [hzero, pow_succ]
    ring

theorem digitsValue_zeros_append (k : Nat) (cs : List Char) :
    digitsValue (List.replicate k '0' ++ cs) = digitsValue cs := by
  have hzeros : (List.replicate k '0').foldl (fun n c => 10 * n + (c.toNat - 48)) 0 = 0 := by
    induction k with
    | zero => rfl
    | succ k ih => exact ih
  rw [digitsValue, List.foldl_append, hzeros, ← digitsValue]

/-- A power of ten appends zeros. -/
theorem toDigits_mul_ten_pow (hn : n ≠ 0) (k : Nat) :
    Nat.toDigits 10 (n * 10 ^ k) = Nat.toDigits 10 n ++ List.replicate k '0' := by
  induction k with
  | zero => simp
  | succ k ih =>
    have hpos : 0 < n * 10 ^ k := Nat.mul_pos (Nat.pos_of_ne_zero hn) (by positivity)
    have hnext : n * 10 ^ (k + 1) = 10 * (n * 10 ^ k) + 0 := by ring
    rw [hnext, ← Nat.toDigits_append_toDigits (by decide) hpos (by decide), ih,
      List.replicate_succ', List.append_assoc]
    rfl

theorem decimalLength_mul_ten_pow (hn : n ≠ 0) (k : Nat) :
    decimalLength (n * 10 ^ k) = decimalLength n + k := by
  rw [decimalLength, toDigits_mul_ten_pow hn, List.length_append, List.length_replicate,
    decimalLength]

theorem decimalLength_pos (n : Nat) : 0 < decimalLength n := Nat.length_toDigits_pos

theorem lt_ten_pow_decimalLength (n : Nat) : n < 10 ^ decimalLength n :=
  (Nat.length_toDigits_le_iff (by decide) (decimalLength_pos n)).mp le_rfl

theorem decimalLength_le_iff (hk : 0 < k) : decimalLength n ≤ k ↔ n < 10 ^ k :=
  Nat.length_toDigits_le_iff (by decide) hk

theorem ten_pow_le_of_lt_decimalLength (hn : n ≠ 0) (hk : k < decimalLength n) : 10 ^ k ≤ n := by
  by_cases hzero : k = 0
  · rw [hzero, pow_zero]
    exact Nat.pos_of_ne_zero hn
  · rw [← Nat.not_lt, ← decimalLength_le_iff (Nat.pos_of_ne_zero hzero), Nat.not_le]
    exact hk

end

namespace Decimal

open Binary64

variable {d : Decimal} {x : Binary64}

/-- The place of the point of a decimal, counted from its first digit. -/
def point (d : Decimal) : Int := d.exponent + decimalLength d.digits

/-- In whichever unit a decimal is counted, it is rounded once. -/
theorem toBinary64?_eq_nearest? (hdigits : d.digits ≠ 0) (hlow : -400 ≤ d.point)
    (hhigh : d.point ≤ 400) :
    d.toBinary64? = nearest? d.negative (d.digits * (unitsPerOne * 10 ^ d.exponent.toNat))
      (10 ^ (-d.exponent).toNat) := by
  rw [point] at hlow hhigh
  rw [toBinary64?]
  dsimp only
  rw [if_neg hdigits, if_neg (by omega), if_neg (by omega)]
  split
  · next hexponent =>
    have hden : (-d.exponent).toNat = 0 := by omega
    rw [hden, pow_zero, Nat.pow_eq, Nat.mul_assoc, Nat.mul_comm unitsPerOne]
  · next hexponent =>
    have hnum : d.exponent.toNat = 0 := by omega
    rw [hnum, pow_zero, Nat.mul_one, Nat.pow_eq]

theorem toBinary64?_of_digits_eq_zero (hdigits : d.digits = 0) :
    d.toBinary64? = some { zero with negative := d.negative } := by
  rw [toBinary64?]
  dsimp only
  rw [if_pos hdigits]

theorem toBinary64?_of_point_gt (hdigits : d.digits ≠ 0) (hpoint : 400 < d.point) :
    d.toBinary64? = none := by
  rw [point] at hpoint
  rw [toBinary64?]
  dsimp only
  rw [if_neg hdigits, if_pos hpoint]

theorem toBinary64?_of_point_lt (hdigits : d.digits ≠ 0) (hpoint : d.point < -400) :
    d.toBinary64? = some { zero with negative := d.negative } := by
  rw [point] at hpoint
  rw [toBinary64?]
  dsimp only
  rw [if_neg hdigits, if_neg (by omega), if_pos hpoint]

/-- Zeros after the digits count as much as a larger exponent. -/
theorem toBinary64?_mul_ten_pow (negative : Bool) (digits zeros : Nat) (exponent : Int) :
    (⟨negative, digits * 10 ^ zeros, exponent⟩ : Decimal).toBinary64? =
      (⟨negative, digits, exponent + zeros⟩ : Decimal).toBinary64? := by
  by_cases hdigits : digits = 0
  · rw [toBinary64?_of_digits_eq_zero (by simp [hdigits]),
      toBinary64?_of_digits_eq_zero (by simp [hdigits])]
  have hproduct : digits * 10 ^ zeros ≠ 0 := Nat.mul_ne_zero hdigits (by positivity)
  have hpoint : (⟨negative, digits * 10 ^ zeros, exponent⟩ : Decimal).point =
      (⟨negative, digits, exponent + zeros⟩ : Decimal).point := by
    simp only [point, decimalLength_mul_ten_pow hdigits]
    omega
  rcases lt_or_ge 400 (⟨negative, digits, exponent + zeros⟩ : Decimal).point with
    hlarge | hhigh
  · rw [toBinary64?_of_point_gt hproduct (hpoint ▸ hlarge), toBinary64?_of_point_gt hdigits hlarge]
  rcases lt_or_ge (⟨negative, digits, exponent + zeros⟩ : Decimal).point (-400) with
    hsmall | hlow
  · rw [toBinary64?_of_point_lt hproduct (hpoint ▸ hsmall), toBinary64?_of_point_lt hdigits hsmall]
  · rw [toBinary64?_eq_nearest? hproduct (hpoint ▸ hlow) (hpoint ▸ hhigh),
      toBinary64?_eq_nearest? hdigits hlow hhigh]
    dsimp only
    have hexponents : zeros + exponent.toNat + (-(exponent + zeros)).toNat =
        (exponent + zeros).toNat + (-exponent).toNat := by omega
    have hquotient : digits * 10 ^ zeros * (unitsPerOne * 10 ^ exponent.toNat) *
          10 ^ (-(exponent + zeros)).toNat =
        digits * (unitsPerOne * 10 ^ (exponent + zeros).toNat) * 10 ^ (-exponent).toNat := by
      calc digits * 10 ^ zeros * (unitsPerOne * 10 ^ exponent.toNat) *
            10 ^ (-(exponent + zeros)).toNat
          = digits * unitsPerOne *
              10 ^ (zeros + exponent.toNat + (-(exponent + zeros)).toNat) := by
            rw [pow_add, pow_add]
            ring
        _ = _ := by
            rw [hexponents, pow_add]
            ring
    have hnearest := nearestMagnitude_congr (by positivity) (by positivity) hquotient
    simp only [nearest?, hnearest]

/-- The zeros at the end of the digits go into the exponent. -/
theorem exists_stripZeros (d : Decimal) : ∃ zeros : Nat,
    d.stripZeros.digits * 10 ^ zeros = d.digits ∧ d.stripZeros.negative = d.negative ∧
      d.stripZeros.exponent = d.exponent + zeros := by
  rw [stripZeros]
  split
  · exact ⟨0, by simp⟩
  · next hdigits =>
    let ends := (Nat.toDigits 10 d.digits).reverse
    let zeros := (ends.takeWhile (· == '0')).length
    have hall : ends.takeWhile (· == '0') = List.replicate zeros '0' := by
      refine List.eq_replicate_iff.mpr ⟨rfl, fun c hc => ?_⟩
      simpa using List.mem_takeWhile_imp hc
    have hsplit : (Nat.toDigits 10 d.digits) =
        (ends.dropWhile (· == '0')).reverse ++ List.replicate zeros '0' := by
      have hreverse := congrArg List.reverse (ends.takeWhile_append_dropWhile (p := (· == '0')))
      rwa [hall, List.reverse_append, List.reverse_replicate, List.reverse_reverse,
        eq_comm] at hreverse
    have hvalue := congrArg digitsValue hsplit
    rw [Text.digitsValue_toDigits, digitsValue_append_zeros] at hvalue
    refine ⟨zeros, ?_, rfl, rfl⟩
    change d.digits / 10 ^ zeros * 10 ^ zeros = d.digits
    rw [hvalue, Nat.mul_div_cancel _ (by positivity)]

theorem toBinary64?_stripZeros (d : Decimal) : d.stripZeros.toBinary64? = d.toBinary64? := by
  obtain ⟨zeros, hdigits, hnegative, hexponent⟩ := d.exists_stripZeros
  have hsame := toBinary64?_mul_ten_pow d.negative d.stripZeros.digits zeros d.exponent
  rw [hdigits, ← hexponent, ← hnegative] at hsame
  rw [← hsame, hnegative]

/-- All digits are written out, with zeros between them and the point where there are none. -/
theorem toList_render_plain (hdigits : d.digits ≠ 0) :
    (d.render .plain).toList = (if d.negative then ['-'] else []) ++
      if d.point ≤ 0 then
        Text.pointed ['0'] (List.replicate (-d.point).toNat '0' ++ Nat.toDigits 10 d.digits)
      else if decimalLength d.digits ≤ d.point.toNat then
        Nat.toDigits 10 d.digits ++ List.replicate d.exponent.toNat '0'
      else
        Text.pointed ((Nat.toDigits 10 d.digits).take d.point.toNat)
          ((Nat.toDigits 10 d.digits).drop d.point.toNat) := by
  have hsign : (if d.negative then "-" else "").toList = if d.negative then ['-'] else [] := by
    cases d.negative <;> rfl
  have hsome : Nat.toDigits 10 d.digits ≠ [] := Nat.toDigits_ne_nil
  have hlength : (Nat.toDigits 10 d.digits).length = decimalLength d.digits := rfl
  have hpoint : d.exponent + (decimalLength d.digits : Int) = d.point := rfl
  simp only [render, if_neg hdigits, Layout.plain, Bool.not_true, if_neg Bool.false_ne_true,
    hlength, hpoint]
  by_cases hbelow : d.point ≤ 0
  · rw [if_pos hbelow, if_pos hbelow]
    simp [hsign, Text.pointed, hsome]
  · rw [if_neg hbelow, if_neg hbelow]
    by_cases hwhole : decimalLength d.digits ≤ d.point.toNat
    · rw [if_pos hwhole, if_pos hwhole]
      simp [hsign]
    · have hrest : (Nat.toDigits 10 d.digits).drop d.point.toNat ≠ [] :=
        fun hnone => hwhole (List.drop_eq_nil_iff.mp hnone)
      rw [if_neg hwhole, if_neg hwhole, Text.pointed, if_neg hrest, String.toList_append, hsign,
        String.toList_ofList]

/-- A decimal without a fraction is written as a whole number. -/
theorem toList_render_of_whole (hdigits : d.digits ≠ 0) (hexponent : 0 ≤ d.exponent) :
    (d.render .plain).toList = (if d.negative then ['-'] else []) ++
      Nat.toDigits 10 (d.digits * 10 ^ d.exponent.toNat) := by
  have hlength := decimalLength_pos d.digits
  have hpoint : ¬d.point ≤ 0 ∧ decimalLength d.digits ≤ d.point.toNat := by
    rw [point]
    omega
  rw [toList_render_plain hdigits, toDigits_mul_ten_pow hdigits, if_neg hpoint.1, if_pos hpoint.2]

theorem readBinary64?_render_of_zero (hdigits : d.digits = 0) :
    Text.readBinary64? (d.render .plain).toList = d.toBinary64? := by
  have htext : (d.render .plain).toList =
      (if d.negative then ['-'] else []) ++ Text.pointed ['0'] [] := by
    rw [render, if_pos hdigits]
    cases d.negative <;> rfl
  rw [Text.readBinary64?, htext, Text.readDecimal?_signed d.negative (List.cons_ne_nil _ _)
    (List.forall_mem_singleton.mpr rfl) (List.forall_mem_nil _), Option.bind_some,
    toBinary64?_of_digits_eq_zero (by rfl), toBinary64?_of_digits_eq_zero hdigits]

theorem readBinary64?_render_of_whole (hdigits : d.digits ≠ 0) (hwhole : 0 ≤ d.exponent) :
    Text.readBinary64? (d.render .plain).toList = d.toBinary64? := by
  have hnumeral := Text.readDecimal?_digits d.negative Nat.toDigits_ne_nil
    (Text.isDigit_of_mem_toDigits (d.digits * 10 ^ d.exponent.toNat))
  have hexponent : (0 : Int) + d.exponent.toNat = d.exponent := by omega
  rw [Text.readBinary64?, toList_render_of_whole hdigits hwhole, hnumeral,
    Text.digitsValue_toDigits, Option.bind_some, toBinary64?_mul_ten_pow, hexponent]

/-- The digits of a fraction are read with the exponent that they have been written with. -/
theorem readDecimal?_render_of_fraction (hdigits : d.digits ≠ 0) (hfraction : d.exponent < 0) :
    Text.readDecimal? (d.render .plain).toList = some d := by
  have hlength : (Nat.toDigits 10 d.digits).length = decimalLength d.digits := rfl
  have hdigit := Text.isDigit_of_mem_toDigits d.digits
  rw [toList_render_plain hdigits]
  by_cases hbelow : d.point ≤ 0
  · have hzeros : ∀ c ∈ List.replicate (-d.point).toNat '0' ++ Nat.toDigits 10 d.digits,
        c.isDigit = true := by
      intro c hc
      rcases List.mem_append.mp hc with hc | hc
      · rw [List.eq_of_mem_replicate hc]
        rfl
      · exact hdigit c hc
    have hvalue : digitsValue (['0'] ++
        (List.replicate (-d.point).toNat '0' ++ Nat.toDigits 10 d.digits)) = d.digits := by
      have hzero := digitsValue_zeros_append 1
      rw [List.replicate_one] at hzero
      rw [hzero, digitsValue_zeros_append, Text.digitsValue_toDigits]
    have hexponent : -((List.replicate (-d.point).toNat '0' ++
        Nat.toDigits 10 d.digits).length : Int) = d.exponent := by
      rw [List.length_append, List.length_replicate, hlength]
      rw [point] at hbelow ⊢
      omega
    rw [if_pos hbelow, Text.readDecimal?_signed d.negative (List.cons_ne_nil _ _)
      (List.forall_mem_singleton.mpr rfl) hzeros, hvalue, hexponent]
  · have hplaces : ¬decimalLength d.digits ≤ d.point.toNat := by
      rw [point] at hbelow ⊢
      omega
    have hsome : (Nat.toDigits 10 d.digits).take d.point.toNat ≠ [] := by
      rw [Ne, List.take_eq_nil_iff, not_or]
      exact ⟨by omega, Nat.toDigits_ne_nil⟩
    have hexponent : -(((Nat.toDigits 10 d.digits).drop d.point.toNat).length : Int) =
        d.exponent := by
      rw [List.length_drop, hlength]
      rw [point] at hbelow ⊢
      omega
    rw [if_neg hbelow, if_neg hplaces,
      Text.readDecimal?_signed d.negative hsome (fun c hc => hdigit c (List.mem_of_mem_take hc))
        fun c hc => hdigit c (List.mem_of_mem_drop hc),
      List.take_append_drop, Text.digitsValue_toDigits, hexponent]

/-- What is written with all digits is read as the same number. -/
theorem readBinary64?_render_plain (d : Decimal) :
    Text.readBinary64? (d.render .plain).toList = d.toBinary64? := by
  by_cases hdigits : d.digits = 0
  · exact readBinary64?_render_of_zero hdigits
  by_cases hwhole : 0 ≤ d.exponent
  · exact readBinary64?_render_of_whole hdigits hwhole
  · rw [Text.readBinary64?, readDecimal?_render_of_fraction hdigits (by omega), Option.bind_some]

end Decimal

end FieldRules
