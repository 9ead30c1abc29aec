import FieldRules.Proofs.Binary64.Exact
import FieldRules.Proofs.Text.Name
import FieldRules.Text.Number
import Mathlib.Data.List.TakeDrop
import Mathlib.Data.List.TakeWhile

namespace FieldRules

namespace Binary64

theorem divNearest_le (num den : Nat) : divNearest num den ≤ num / den + 1 := by
  unfold divNearest
  dsimp only
  split
  · omega
  · split <;> omega

/-- A number of 64 bits does not leave the range, whatever unit near one it is counted in. -/
theorem nearestMagnitude_lt {m k : Nat} (hm : m < 0x10000000000000000) (hlow : 52 ≤ k)
    (hhigh : k < 1900) :
    nearestMagnitude (m * Nat.pow 2 k) 1 < 0x7FF0000000000000 := by
  by_cases hzero : m = 0
  · rw [hzero, Nat.zero_mul, nearestMagnitude_of_lt (by decide)]
    decide
  have hlog : Nat.log2 m < 64 := (Nat.log2_lt hzero).mpr (hm.trans_eq (by decide))
  have hbits : m < 2 ^ (Nat.log2 m + 1) := (Nat.log2_lt hzero).mp (Nat.lt_succ_self _)
  have hshift : Nat.log2 (m * Nat.pow 2 k / 1) - 52 = Nat.log2 m + (k - 52) := by
    rw [Nat.div_one, log2_mul_two_pow hzero]
    omega
  have hquotient : m * Nat.pow 2 k / Nat.pow 2 (Nat.log2 m + (k - 52)) < 2 * binade := by
    refine Nat.div_lt_of_lt_mul ?_
    have hbinade : 2 * binade = 2 ^ 53 := by decide
    have hexponent : Nat.log2 m + 1 + k = Nat.log2 m + (k - 52) + 53 := by omega
    calc m * Nat.pow 2 k < 2 ^ (Nat.log2 m + 1) * Nat.pow 2 k :=
          Nat.mul_lt_mul_of_pos_right hbits (Nat.two_pow_pos k)
      _ = Nat.pow 2 (Nat.log2 m + (k - 52)) * (2 * binade) := by
          rw [hbinade, Nat.pow_eq, Nat.pow_eq, ← Nat.pow_add, ← Nat.pow_add, hexponent]
  have hnearest := divNearest_le (m * Nat.pow 2 k) (Nat.pow 2 (Nat.log2 m + (k - 52)))
  unfold nearestMagnitude
  dsimp only
  rw [hshift, Nat.one_mul]
  unfold binade at *
  omega

/-- A numeral of 64 bits is read as the number nearest to it. -/
theorem toBinary64?_eq_ofInt {n : Int} (hn : n.natAbs < 0x10000000000000000) :
    (⟨decide (n < 0), n.natAbs, 0⟩ : Decimal).toBinary64? = some (ofInt n) := by
  have hfinite : nearestMagnitude (n.natAbs * unitsPerOne) 1 < 0x7FF0000000000000 := by
    obtain ⟨k, hlow, hhigh, hone⟩ := exists_unitsPerOne_eq
    rw [hone]
    exact nearestMagnitude_lt hn hlow hhigh
  have hofInt : ofInt n = ⟨decide (n < 0), _, hfinite⟩ := by
    rw [ofInt, nearest?, dif_pos hfinite, Option.getD_some]
  by_cases hzero : n = 0
  · subst hzero
    have hmagnitude : nearestMagnitude ((0 : Int).natAbs * unitsPerOne) 1 = 0 := by
      rw [Int.natAbs_zero, Nat.zero_mul, nearestMagnitude_of_lt (by decide)]
    simp only [hofInt, hmagnitude]
    rfl
  · have hdigits : n.natAbs ≠ 0 := Int.natAbs_ne_zero.mpr hzero
    have hlength : decimalLength n.natAbs ≤ 20 :=
      (Nat.length_toDigits_le_iff (by decide) (by decide)).mpr (Nat.lt_trans hn (by decide))
    have hlong : ¬400 < (0 : Int) + decimalLength n.natAbs := by omega
    have hshort : ¬(0 : Int) + decimalLength n.natAbs < -400 := by omega
    have hwhole : n.natAbs * Nat.pow 10 (0 : Int).toNat * unitsPerOne =
        n.natAbs * unitsPerOne := by
      rw [Int.toNat_zero, Nat.pow_eq, Nat.pow_zero, Nat.mul_one]
    rw [Decimal.toBinary64?]
    dsimp only
    rw [if_neg hdigits, if_neg hlong, if_neg hshort, if_pos (Int.le_refl 0), hwhole, nearest?,
      dif_pos hfinite, hofInt]

end Binary64

namespace Text

section

variable {c : Char}

theorem isBlank_of_isDigit (hc : c.isDigit = true) : isBlank c = false := by
  obtain ⟨hlow, hhigh⟩ := Char.isDigit_iff_toNat.mp hc
  have hzero : '0'.toNat = 48 := rfl
  have hnine : '9'.toNat = 57 := rfl
  simp only [isBlank, Bool.or_eq_false_iff, Bool.and_eq_false_iff, decide_eq_false_iff_not,
    beq_eq_false_iff_ne]
  omega

/-- The ASCII digits are among the digits of all scripts. -/
theorem isDigit_of_isDigit (hc : c.isDigit = true) : isDigit c = true := by
  obtain ⟨hlow, hhigh⟩ := Char.isDigit_iff_toNat.mp hc
  refine List.any_eq_true.mpr ⟨(48, 57), by decide, ?_⟩
  simpa using And.intro hlow hhigh

theorem digitsValue_toDigits (n : Nat) : digitsValue (Nat.toDigits 10 n) = n :=
  Nat.ofDigitChars_eq_foldl.symm.trans Nat.ofDigitChars_ten_toDigits

theorem isDigit_of_mem_toDigits (n : Nat) : ∀ c ∈ Nat.toDigits 10 n, c.isDigit = true :=
  fun _ hc => Nat.isDigit_of_mem_toDigits (by decide) (by decide) hc

end

/-- The decimal digits of a whole number, with a minus sign where it is negative. -/
theorem toList_toString (n : Int) :
    (toString n).toList = (if n < 0 then ['-'] else []) ++ Nat.toDigits 10 n.natAbs := by
  cases n with
  | ofNat m =>
    have htext : toString (Int.ofNat m) = toString m := rfl
    have hsign : ¬Int.ofNat m < 0 := by simp
    rw [htext, if_neg hsign, Nat.toString_eq_ofList_toDigits, String.toList_ofList]
    rfl
  | negSucc m =>
    have htext : toString (Int.negSucc m) = "-" ++ toString (m + 1) := rfl
    have hsign : Int.negSucc m < 0 := Int.negSucc_lt_zero m
    rw [htext, if_pos hsign, Nat.toString_eq_ofList_toDigits, String.toList_append,
      String.toList_ofList, String.toList_ofList]
    rfl

theorem mem_toString {n : Int} {c : Char} (hc : c ∈ (toString n).toList) :
    c = '-' ∨ c.isDigit = true := by
  rw [toList_toString, List.mem_append] at hc
  rcases hc with hc | hc
  · split at hc
    · exact .inl (List.mem_singleton.mp hc)
    · cases hc
  · exact .inr (isDigit_of_mem_toDigits _ c hc)

theorem tight_of_no_blanks {cs : List Char} (hcs : ∀ c ∈ cs, isBlank c = false) : Tight cs := by
  refine ⟨?_, ?_⟩
  · cases hhead : cs.head? with
    | none => rfl
    | some c => exact hcs c (List.mem_of_head? hhead)
  · cases hlast : cs.getLast? with
    | none => rfl
    | some c => exact hcs c (List.mem_of_getLast? hlast)

/-- Whole numbers are written without marks and blanks. -/
theorem isName_toString (n : Int) : IsName (toString n) where
  some := by
    rw [toList_toString]
    exact List.append_ne_nil_of_right_ne_nil _ Nat.toDigits_ne_nil
  tight := by
    refine tight_of_no_blanks fun c hc => ?_
    rcases mem_toString hc with rfl | hdigit
    · rfl
    · exact isBlank_of_isDigit hdigit
  unmarked := by
    rintro c hc hmark
    rcases mem_toString hc with rfl | hdigit
    · simp [escapeChar] at hmark
    · simp only [List.mem_cons, List.not_mem_nil, or_false] at hmark
      rcases hmark with rfl | rfl | rfl | rfl <;> cases hdigit

theorem span_eq_of_all {p : Char → Bool} {cs : List Char} (hcs : ∀ c ∈ cs, p c = true) :
    cs.span p = (cs, []) := by
  rw [List.span_eq_takeWhile_dropWhile, List.takeWhile_eq_self_iff.mpr hcs,
    List.dropWhile_eq_nil_iff.mpr hcs]

section

variable {digits : List Char}

/-- Digits that may have a minus sign are a numeral as a whole. -/
theorem numeralPrefix?_digits (negative : Bool) (hsome : digits ≠ [])
    (hdigits : ∀ c ∈ digits, c.isDigit = true) :
    numeralPrefix? ((if negative then ['-'] else []) ++ digits) =
      some ((if negative then ['-'] else []) ++ digits) := by
  have hspan : (digits.span isDigit) = (digits, []) :=
    span_eq_of_all fun c hc => isDigit_of_isDigit (hdigits c hc)
  obtain ⟨d, ds, rfl⟩ := List.exists_cons_of_ne_nil hsome
  have hd := hdigits d List.mem_cons_self
  cases negative with
  | true =>
    have hblank : isBlank '-' = false := rfl
    simp [-List.span_eq_takeWhile_dropWhile, numeralPrefix?, hblank, hspan, readExponent?]
  | false =>
    have hblank := isBlank_of_isDigit hd
    have hunsigned : ¬(d = '-' ∨ d = '+') := by
      rintro (rfl | rfl) <;> cases hd
    simp [-List.span_eq_takeWhile_dropWhile, numeralPrefix?, hblank, hspan, readExponent?,
      hunsigned]

theorem readSign_append (negative : Bool) {cs : List Char}
    (hcs : ∀ c ∈ cs.head?, c.isDigit = true) :
    readSign ((if negative then ['-'] else []) ++ cs) = (negative, cs) := by
  cases negative with
  | true => rfl
  | false =>
    rw [if_neg Bool.false_ne_true, List.nil_append]
    unfold readSign
    split
    · exact absurd (hcs '-' rfl) (by decide)
    · exact absurd (hcs '+' rfl) (by decide)
    · rfl

/-- Digits with a point before the fraction, if there is one. -/
def pointed (whole fraction : List Char) : List Char :=
  whole ++ if fraction = [] then [] else '.' :: fraction

theorem readDecimal?_pointed {cs whole fraction : List Char} {negative : Bool}
    (hsign : readSign cs = (negative, pointed whole fraction)) (hsome : whole ≠ [])
    (hwhole : ∀ c ∈ whole, c.isDigit = true) (hfraction : ∀ c ∈ fraction, c.isDigit = true) :
    readDecimal? cs = some ⟨negative, digitsValue (whole ++ fraction), -fraction.length⟩ := by
  rw [readDecimal?, hsign, pointed]
  have hend := span_eq_of_all hfraction
  by_cases hnone : fraction = []
  · subst hnone
    simp [-List.span_eq_takeWhile_dropWhile, span_eq_of_all hwhole, hsome]
  · have hspan : (whole ++ '.' :: fraction).span Char.isDigit = (whole, '.' :: fraction) := by
      apply span_append hwhole
      intro d hd
      cases hd
      rfl
    simp [-List.span_eq_takeWhile_dropWhile, hnone, hspan, hend, hsome]

theorem readDecimal?_signed (negative : Bool) {whole fraction : List Char} (hsome : whole ≠ [])
    (hwhole : ∀ c ∈ whole, c.isDigit = true) (hfraction : ∀ c ∈ fraction, c.isDigit = true) :
    readDecimal? ((if negative then ['-'] else []) ++ pointed whole fraction) =
      some ⟨negative, digitsValue (whole ++ fraction), -fraction.length⟩ := by
  refine readDecimal?_pointed (readSign_append negative fun c hc => ?_) hsome hwhole hfraction
  obtain ⟨first, rest, rfl⟩ := List.exists_cons_of_ne_nil hsome
  cases hc
  exact hwhole c List.mem_cons_self

theorem readDecimal?_digits (negative : Bool) (hsome : digits ≠ [])
    (hdigits : ∀ c ∈ digits, c.isDigit = true) :
    readDecimal? ((if negative then ['-'] else []) ++ digits) =
      some ⟨negative, digitsValue digits, 0⟩ := by
  have hwhole : pointed digits [] = digits := List.append_nil digits
  have hread := readDecimal?_signed negative hsome hdigits (List.forall_mem_nil _)
  rwa [hwhole, List.append_nil, List.length_nil, Int.natCast_zero, Int.neg_zero] at hread

theorem readDecimal?_toString (n : Int) :
    readDecimal? (toString n).toList = some ⟨decide (n < 0), n.natAbs, 0⟩ := by
  have hread := readDecimal?_digits (decide (n < 0)) Nat.toDigits_ne_nil
    (isDigit_of_mem_toDigits n.natAbs)
  rw [digitsValue_toDigits] at hread
  rw [toList_toString, ← hread]
  simp

/-- Reading a whole number undoes writing it, up to rounding. -/
theorem leadingBinary64?_toString {n : Int} (hn : n.natAbs < 0x10000000000000000) :
    leadingBinary64? (toString n) = some (Binary64.ofInt n) := by
  have hprefix : numeralPrefix? (toString n).toList = some (toString n).toList := by
    have hall := numeralPrefix?_digits (decide (n < 0)) Nat.toDigits_ne_nil
      (isDigit_of_mem_toDigits n.natAbs)
    rw [toList_toString]
    simpa using hall
  rw [leadingBinary64?, hprefix, Option.bind_some, readBinary64?, readDecimal?_toString,
    Option.bind_some, Binary64.toBinary64?_eq_ofInt hn]

end

end Text

end FieldRules
