import FieldRules.Proofs.Binary64.Whole
import FieldRules.Proofs.Calendar.Time

namespace FieldRules

namespace Number

open Binary64

variable {n : Number} {x : Binary64}

/-- A number as the numeric rules leave it: whole numbers are integers below `9·10^15`, and binary64
    numbers from there on. -/
def IsCanonical : Number → Prop
  | integer n => n.natAbs < 9000000000000000
  | float x => ∀ n : Int, x.units = n * unitsPerOne → 9000000000000000 ≤ n.natAbs

/-- A number without a fraction, in either kind. -/
def IsWhole (n : Number) : Prop := ∃ k : Int, n.units = k * unitsPerOne

def IsNonNegative (n : Number) : Prop := 0 ≤ n.units

theorem isWhole_ofBinary64 (hx : x.isWhole = true) : (ofBinary64 x).IsWhole := by
  rw [IsWhole, units_ofBinary64]
  exact isWhole_iff.mp hx

theorem isNonNegative_ofBinary64_abs (x : Binary64) : (ofBinary64 x.abs).IsNonNegative := by
  rw [IsNonNegative, units_ofBinary64]
  exact Int.natCast_nonneg _

theorem isCanonical_ofBinary64 (x : Binary64) : (ofBinary64 x).IsCanonical := by
  by_cases hwhole : ∃ n : Int, x.units = n * unitsPerOne ∧ n.natAbs < 9000000000000000
  · obtain ⟨n, hn, hsmall⟩ := hwhole
    rw [ofBinary64_of_whole hn hsmall]
    exact hsmall
  · have hfloat : ofBinary64 x = float x := by
      refine if_neg fun hboth => hwhole ?_
      obtain ⟨hx, hbelow⟩ := Bool.and_eq_true_iff.mp hboth
      obtain ⟨n, hn⟩ := isWhole_iff.mp hx
      rw [absBelow_of_whole hn, decide_eq_true_iff] at hbelow
      exact ⟨n, hn, hbelow⟩
    rw [hfloat]
    intro n hn
    exact Nat.le_of_not_lt fun hsmall => hwhole ⟨n, hn, hsmall⟩

namespace IsCanonical

variable (hn : n.IsCanonical)

include hn

theorem isBinary64 : n.IsBinary64 := by
  cases n with
  | integer n =>
    have hsmall : n.natAbs < 9000000000000000 := hn
    exact isBinary64_of_natAbs_le (by unfold binade; omega)
  | float x => exact ⟨x, rfl⟩

theorem ofBinary64_toBinary64 : ofBinary64 n.toBinary64 = n := by
  have hunits := hn.isBinary64.units_toBinary64
  cases n with
  | integer n => exact ofBinary64_of_whole hunits hn
  | float x =>
    refine if_neg fun hboth => ?_
    obtain ⟨hx, hbelow⟩ := Bool.and_eq_true_iff.mp hboth
    obtain ⟨n, hn'⟩ := isWhole_iff.mp hx
    rw [absBelow_of_whole hn', decide_eq_true_iff] at hbelow
    exact Nat.not_lt.mpr (hn n hn') hbelow

theorem isWhole_toBinary64 (hwhole : n.IsWhole) : n.toBinary64.isWhole = true := by
  rw [isWhole_iff, hn.isBinary64.units_toBinary64]
  exact hwhole

/-- There is no negative zero among these numbers. -/
theorem abs_toBinary64 (hpos : n.IsNonNegative) : n.toBinary64.abs = n.toBinary64 := by
  apply abs_of_not_negative
  cases n with
  | integer n =>
    have hsmall : n.natAbs ≤ Nat.pow 2 100 := by
      have hbelow : n.natAbs < 9000000000000000 := hn
      rw [Nat.pow_eq]
      omega
    have hone : (0 : Int) < unitsPerOne := by exact_mod_cast unitsPerOne_pos
    rw [toBinary64, (ofInt_eq hsmall).1, decide_eq_false_iff_not]
    exact fun hneg => Int.not_lt.mpr hpos (Int.mul_neg_of_neg_of_pos hneg hone)
  | float x =>
    have hnonzero : x.units ≠ 0 := by
      intro hzero
      have hlarge := hn 0 (hzero.trans (Int.zero_mul _).symm)
      simp at hlarge
    have hpos' : 0 ≤ x.units := hpos
    rw [toBinary64, negative_eq hnonzero, decide_eq_false_iff_not]
    omega

end IsCanonical

end Number

namespace Value

/-- A number as the numeric rules leave it, which fits besides. -/
def IsNumber (Fits : Number → Prop) (value : Value) : Prop :=
  ∃ n : Number, value = .number n ∧ n.IsCanonical ∧ Fits n

/-- A time of the calendar as a number of milliseconds, which fits besides. -/
def IsTime (Fits : Int → Prop) (value : Value) : Prop :=
  ∃ time : Int, value = .int time ∧ Calendar.minTime ≤ time ∧ time ≤ Calendar.maxTime ∧ Fits time

/-- An array or object without nulls in it, or any other value. -/
def NullFree : Value → Prop
  | .array items => ∀ item ∈ items, item.isNull = false
  | .object entries => ∀ entry ∈ entries, entry.2.isNull = false
  | _ => True

variable {x : Binary64} {Fits : Number → Prop}

theorem isNumber_ofBinary64 (hx : Fits (.ofBinary64 x)) : (ofBinary64 x).IsNumber Fits :=
  ⟨_, rfl, Number.isCanonical_ofBinary64 x, hx⟩

end Value

end FieldRules
