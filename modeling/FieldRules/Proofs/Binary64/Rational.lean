import FieldRules.Proofs.Binary64.Decimal
import Mathlib.Algebra.Order.Field.Rat
import Mathlib.Tactic.FieldSimp
import Mathlib.Tactic.Positivity

namespace FieldRules

namespace Binary64

/-- The exact value of a number. -/
def value (x : Binary64) : ℚ := x.units / unitsPerOne

/-- The middle between the largest number and the power of two after it: what is not below it rounds
    to an infinity. -/
def overflow : ℚ := 2 ^ 1024 - 2 ^ 970

/-- The number to which a rational one rounds if it is finite: no other is closer, and if another is
    as close, the last bit is zero. -/
structure IsNearest (x : Binary64) (q : ℚ) : Prop where
  closest : ∀ y : Binary64, |x.value - q| ≤ |y.value - q|
  even : ∀ y : Binary64, y ≠ x → |y.value - q| = |x.value - q| → x.magnitude % 2 = 0

def signed (negative : Bool) (n : Nat) : Int := if negative then -n else n

/-- How far a number is from `num / den` units, in parts of a unit of which `den` make one. -/
def distance (num : Int) (den : Nat) (x : Binary64) : Nat := (x.units * den - num).natAbs

variable {negative : Bool} {num den m k : Nat} {x y : Binary64}

theorem units_eq_signed (x : Binary64) : x.units = signed x.negative (unitsOf x.magnitude) := rfl

theorem eq_of_magnitude_eq (hnegative : y.negative = x.negative)
    (hmagnitude : y.magnitude = x.magnitude) : y = x := by
  cases y
  cases hnegative
  cases hmagnitude
  rfl

theorem abs_value_sub (hden : 0 < den) (num : Int) (x : Binary64) :
    |x.value - (num : ℚ) / (den * unitsPerOne)| = distance num den x / (den * unitsPerOne) := by
  have hone : (0 : ℚ) < unitsPerOne := by exact_mod_cast unitsPerOne_pos
  have hden' : (0 : ℚ) < den := by exact_mod_cast hden
  have hdifference : x.value - (num : ℚ) / (den * unitsPerOne) =
      ((x.units * den - num : Int) : ℚ) / (den * unitsPerOne) := by
    rw [value]
    push_cast
    field_simp
  rw [hdifference, abs_div, abs_of_pos (mul_pos hden' hone), distance, Nat.cast_natAbs,
    Int.cast_abs]

theorem isNearest_iff (hden : 0 < den) {num : Int} :
    x.IsNearest ((num : ℚ) / (den * unitsPerOne)) ↔
      (∀ y, distance num den x ≤ distance num den y) ∧
        ∀ y, y ≠ x → distance num den y = distance num den x → x.magnitude % 2 = 0 := by
  have hscale : (0 : ℚ) < den * unitsPerOne := by
    exact_mod_cast Nat.mul_pos hden unitsPerOne_pos
  have hle : ∀ y, |x.value - (num : ℚ) / (den * unitsPerOne)| ≤
      |y.value - (num : ℚ) / (den * unitsPerOne)| ↔ distance num den x ≤ distance num den y := by
    intro y
    rw [abs_value_sub hden, abs_value_sub hden, div_le_div_iff_of_pos_right hscale, Nat.cast_le]
  have heq : ∀ y, |y.value - (num : ℚ) / (den * unitsPerOne)| =
      |x.value - (num : ℚ) / (den * unitsPerOne)| ↔ distance num den y = distance num den x := by
    intro y
    rw [abs_value_sub hden, abs_value_sub hden, div_left_inj' hscale.ne', Nat.cast_inj]
  constructor
  · rintro ⟨hclosest, heven⟩
    exact ⟨fun y => (hle y).mp (hclosest y), fun y hy hsame => heven y hy ((heq y).mpr hsame)⟩
  · rintro ⟨hclosest, heven⟩
    exact ⟨fun y => (hle y).mpr (hclosest y), fun y hy hsame => heven y hy ((heq y).mp hsame)⟩

/-- Rounding stays in the range up to the middle after the largest number. -/
theorem nearestMagnitude_lt_iff (hden : 0 < den) :
    nearestMagnitude num den < 0x7FF0000000000000 ↔
      2 * num < middle 0x7FEFFFFFFFFFFFFF * den := by
  have hrounds := rounds_nearestMagnitude hden num
  generalize nearestMagnitude num den = m at hrounds
  have hmono : ∀ {j k}, j ≤ k → middle j * den ≤ middle k * den := fun hle =>
    Nat.mul_le_mul_right den (middle_strictMono.monotone hle)
  constructor
  · intro hfinite
    by_cases hlast : m = 0x7FEFFFFFFFFFFFFF
    · rcases hrounds.above with habove | ⟨-, heven⟩
      · exact hlast ▸ habove
      · omega
    · have hnext : middle m * den < middle 0x7FEFFFFFFFFFFFFF * den :=
        Nat.mul_lt_mul_of_pos_right (middle_strictMono (by omega)) hden
      have habove := hrounds.above
      omega
  · intro hlt
    by_contra hlarge
    obtain ⟨k, rfl⟩ := Nat.exists_eq_add_one_of_ne_zero (by omega : m ≠ 0)
    have hbelow := hrounds.below k rfl
    have hle := hmono (by omega : 0x7FEFFFFFFFFFFFFF ≤ k)
    omega

theorem distance_signed (negative : Bool) (num den : Nat) (x : Binary64) :
    distance (signed negative num) den x =
      if x.negative = negative then ((num : Int) - (unitsOf x.magnitude * den : Nat)).natAbs
      else num + unitsOf x.magnitude * den := by
  rw [distance, units_eq_signed]
  generalize hproduct : unitsOf x.magnitude * den = product
  have hcast : (unitsOf x.magnitude : Int) * den = product := by rw [← hproduct, Int.natCast_mul]
  cases hx : x.negative <;> cases negative <;>
    simp only [signed, if_true, if_false, Bool.false_eq_true, Bool.true_eq_false, hcast,
      Int.neg_mul] <;>
    omega

theorem unitsOf_mul_le (den : Nat) (hle : m ≤ k) : unitsOf m * den ≤ unitsOf k * den :=
  Nat.mul_le_mul_right den (unitsOf_strictMono.monotone hle)

theorem unitsOf_mul_lt (hden : 0 < den) (hlt : m < k) : unitsOf m * den < unitsOf k * den :=
  Nat.mul_lt_mul_of_pos_right (unitsOf_strictMono hlt) hden

/-- An odd number to which a quotient rounds is closer to it than all others. -/
theorem Rounds.distance_lt (hrounds : Rounds num den x.magnitude) (hden : 0 < den)
    (hodd : x.magnitude % 2 = 1) (hy : y ≠ x) :
    distance (signed x.negative num) den x < distance (signed x.negative num) den y := by
  obtain ⟨k, hk⟩ := Nat.exists_eq_add_one_of_ne_zero (by omega : x.magnitude ≠ 0)
  have habove := hrounds.above.resolve_right (by omega)
  have hbelow := (hrounds.below k hk).resolve_right (by omega)
  have hlow := unitsOf_mul_lt hden (by omega : k < x.magnitude)
  have hhigh := unitsOf_mul_lt hden (by omega : x.magnitude < x.magnitude + 1)
  rw [middle, Nat.add_mul] at habove hbelow
  rw [← hk] at hbelow
  rw [distance_signed, distance_signed, if_pos rfl]
  split
  · next hsign =>
    rcases Nat.lt_trichotomy y.magnitude x.magnitude with hlt | heq | hgt
    · have hle := unitsOf_mul_le den (by omega : y.magnitude ≤ k)
      omega
    · exact absurd (eq_of_magnitude_eq hsign heq) hy
    · have hle := unitsOf_mul_le den (by omega : x.magnitude + 1 ≤ y.magnitude)
      omega
  · omega

theorem Rounds.isNearest (hrounds : Rounds num den x.magnitude) (hden : 0 < den) :
    x.IsNearest (signed x.negative num / (den * unitsPerOne)) := by
  refine (isNearest_iff hden).mpr ⟨fun y => ?_, fun y hy hsame => ?_⟩
  · have hclosest := hrounds.closest y.magnitude
    rw [distance_signed, distance_signed, if_pos rfl]
    split
    · exact hclosest
    · omega
  · by_contra hodd
    have hlt := hrounds.distance_lt hden (by omega) hy
    omega

/-- Conversely, the nearest number lies between the middles to its neighbours. -/
theorem IsNearest.rounds (hnearest : x.IsNearest (signed x.negative num / (den * unitsPerOne)))
    (hden : 0 < den) (hfinite : 2 * num < middle 0x7FEFFFFFFFFFFFFF * den) :
    Rounds num den x.magnitude := by
  obtain ⟨hclosest, heven⟩ := (isNearest_iff hden).mp hnearest
  -- What holds for a neighbour with the same sign.
  have hneighbour : ∀ j, j ≠ x.magnitude → j < 0x7FF0000000000000 →
      ((num : Int) - (unitsOf x.magnitude * den : Nat)).natAbs ≤
          ((num : Int) - (unitsOf j * den : Nat)).natAbs ∧
        (((num : Int) - (unitsOf j * den : Nat)).natAbs =
          ((num : Int) - (unitsOf x.magnitude * den : Nat)).natAbs → x.magnitude % 2 = 0) := by
    intro j hj hlt
    have hcloser := hclosest ⟨x.negative, j, hlt⟩
    have hsame := heven ⟨x.negative, j, hlt⟩ fun heq => hj (congrArg magnitude heq)
    rw [distance_signed, distance_signed, if_pos rfl, if_pos rfl] at hcloser hsame
    exact ⟨hcloser, hsame⟩
  constructor
  · by_cases hlast : x.magnitude = 0x7FEFFFFFFFFFFFFF
    · exact .inl (hlast ▸ hfinite)
    · have hx := x.finite
      obtain ⟨hcloser, hsame⟩ := hneighbour (x.magnitude + 1) (by omega) (by omega)
      have hgap := unitsOf_mul_lt hden (by omega : x.magnitude < x.magnitude + 1)
      rw [middle, Nat.add_mul]
      omega
  · intro k hk
    have hx := x.finite
    obtain ⟨hcloser, hsame⟩ := hneighbour k (by omega) (by omega)
    have hgap := unitsOf_mul_lt hden (by omega : k < x.magnitude)
    rw [middle, Nat.add_mul, ← hk]
    omega

theorem unitsOf_of_binade {exponent : Nat} (hexponent : exponent = 2045) :
    unitsOf 0x7FEFFFFFFFFFFFFF = (2 * binade - 1) * Nat.pow 2 exponent ∧
      unitsOf 0x7FF0000000000000 = 2 * binade * Nat.pow 2 exponent := by
  have hlast : exponent * binade + (2 * binade - 1) = 0x7FEFFFFFFFFFFFFF := by
    rw [hexponent]
    rfl
  have hnext : exponent * binade + 2 * binade = 0x7FF0000000000000 := by
    rw [hexponent]
    rfl
  rw [← hlast, ← hnext]
  exact ⟨unitsOf_shift (by omega) (.inr (by decide)), unitsOf_shift le_rfl (.inr (by decide))⟩

theorem overflow_eq : overflow * (2 * unitsPerOne) = middle 0x7FEFFFFFFFFFFFFF := by
  obtain ⟨exponent, hexponent⟩ : ∃ exponent, exponent = 2045 := ⟨_, rfl⟩
  obtain ⟨hlast, hnext⟩ := unitsOf_of_binade hexponent
  -- The exponents are variables here, as nothing may compute the powers.
  obtain ⟨j, hj⟩ : ∃ j, j = 970 := ⟨_, rfl⟩
  obtain ⟨k, hk, hone⟩ : ∃ k, k = 1074 ∧ unitsPerOne = Nat.pow 2 k := by
    refine ⟨_, rfl, ?_⟩
    unfold unitsPerOne
    with_reducible rfl
  have hbound : overflow = 2 ^ (j + 54) - 2 ^ j := by
    rw [hj]
    rfl
  have hexponents : exponent = j + k + 1 := by omega
  rw [middle, hlast, hnext, hone, hbound, hexponents, Nat.pow_eq, Nat.pow_eq]
  unfold binade
  push_cast
  rw [pow_succ, pow_add, pow_add]
  ring

theorem abs_signed (negative : Bool) (n : Nat) : |(signed negative n : ℚ)| = n := by
  rw [signed]
  split
  · rw [Int.cast_neg, Int.cast_natCast, abs_neg, Nat.abs_cast]
  · rw [Int.cast_natCast, Nat.abs_cast]

theorem abs_lt_overflow_iff (hden : 0 < den) :
    |(signed negative num : ℚ) / (den * unitsPerOne)| < overflow ↔
      2 * num < middle 0x7FEFFFFFFFFFFFFF * den := by
  have hscale : (0 : ℚ) < den * unitsPerOne := by
    exact_mod_cast Nat.mul_pos hden unitsPerOne_pos
  have hbound : overflow * (2 * (den * unitsPerOne)) = middle 0x7FEFFFFFFFFFFFFF * den := by
    rw [← overflow_eq]
    ring
  rw [abs_div, abs_signed, abs_of_pos hscale, div_lt_iff₀ hscale, ← mul_lt_mul_iff_right₀ two_pos,
    mul_left_comm, hbound]
  exact_mod_cast Iff.rfl

/-- The number nearest to a quotient, if that does not round to an infinity. -/
theorem nearest?_eq_some_iff (hden : 0 < den) :
    nearest? negative num den = some x ↔
      |(signed negative num : ℚ) / (den * unitsPerOne)| < overflow ∧ x.negative = negative ∧
        x.IsNearest (signed negative num / (den * unitsPerOne)) := by
  rw [abs_lt_overflow_iff hden]
  constructor
  · intro hnearest
    rw [nearest?] at hnearest
    split at hnearest
    · next hfinite =>
      cases hnearest
      exact ⟨(nearestMagnitude_lt_iff hden).mp hfinite, rfl,
        Rounds.isNearest (x := ⟨negative, _, hfinite⟩) (rounds_nearestMagnitude hden num) hden⟩
    · cases hnearest
  · rintro ⟨hfinite, rfl, hnearest⟩
    exact nearest?_eq_some rfl ((nearestMagnitude_eq_iff hden).mpr (hnearest.rounds hden hfinite))

theorem nearest?_eq_none_iff (hden : 0 < den) :
    nearest? negative num den = none ↔ middle 0x7FEFFFFFFFFFFFFF * den ≤ 2 * num := by
  rw [← Nat.not_lt, ← nearestMagnitude_lt_iff hden, nearest?]
  split <;> simp [*]

/-- Less than half a unit rounds to zero. -/
theorem nearest?_of_small (negative : Bool) (hsmall : 2 * num < den) :
    nearest? negative num den = some { zero with negative := negative } := by
  refine nearest?_eq_some rfl ((nearestMagnitude_eq_iff (by omega)).mpr ⟨.inl ?_, ?_⟩)
  · have hmiddle : middle 0 = 1 := rfl
    change 2 * num < middle 0 * den
    rw [hmiddle, Nat.one_mul]
    exact hsmall
  · rintro k ⟨⟩

theorem middle_le {places : Nat} (hplaces : places = 400) :
    middle 0x7FEFFFFFFFFFFFFF ≤ 2 * (unitsPerOne * 10 ^ places) := by
  obtain ⟨exponent, hexponent⟩ : ∃ exponent, exponent = 2045 := ⟨_, rfl⟩
  obtain ⟨hlast, hnext⟩ := unitsOf_of_binade hexponent
  have hpower : 2 * binade * Nat.pow 2 exponent ≤ unitsPerOne * 10 ^ places := by
    rw [hexponent, hplaces]
    decide +kernel
  have hle : (2 * binade - 1) * Nat.pow 2 exponent ≤ 2 * binade * Nat.pow 2 exponent :=
    Nat.mul_le_mul_right _ (Nat.sub_le _ _)
  rw [middle, hlast, hnext]
  omega

end Binary64

namespace Decimal

open Binary64

variable {d : Decimal} {x : Binary64}

/-- The number that a decimal denotes. -/
def value (d : Decimal) : ℚ := signed d.negative d.digits * 10 ^ d.exponent

theorem nearest?_of_point_gt (hdigits : d.digits ≠ 0) (hpoint : 400 < d.point) :
    nearest? d.negative (d.digits * (unitsPerOne * 10 ^ d.exponent.toNat))
      (10 ^ (-d.exponent).toNat) = none := by
  obtain ⟨places, hplaces⟩ : ∃ places, places = 400 := ⟨_, rfl⟩
  have hexponents :
      places + (-d.exponent).toNat ≤ decimalLength d.digits - 1 + d.exponent.toNat := by
    rw [point] at hpoint
    omega
  have hlow := ten_pow_le_of_lt_decimalLength hdigits
    (Nat.sub_lt (decimalLength_pos d.digits) Nat.one_pos)
  refine (nearest?_eq_none_iff (by positivity)).mpr ?_
  calc middle 0x7FEFFFFFFFFFFFFF * 10 ^ (-d.exponent).toNat
      ≤ 2 * (unitsPerOne * 10 ^ places) * 10 ^ (-d.exponent).toNat :=
        Nat.mul_le_mul_right _ (middle_le hplaces)
    _ = 2 * (unitsPerOne * 10 ^ (places + (-d.exponent).toNat)) := by
        rw [pow_add]
        ring
    _ ≤ 2 * (unitsPerOne * 10 ^ (decimalLength d.digits - 1 + d.exponent.toNat)) :=
        Nat.mul_le_mul_left _ (Nat.mul_le_mul_left _ (Nat.pow_le_pow_right (by decide) hexponents))
    _ = 2 * (10 ^ (decimalLength d.digits - 1) * (unitsPerOne * 10 ^ d.exponent.toNat)) := by
        rw [pow_add]
        ring
    _ ≤ 2 * (d.digits * (unitsPerOne * 10 ^ d.exponent.toNat)) :=
        Nat.mul_le_mul_left _ (Nat.mul_le_mul_right _ hlow)

theorem nearest?_of_point_lt (hpoint : d.point < -400) :
    nearest? d.negative (d.digits * (unitsPerOne * 10 ^ d.exponent.toNat))
      (10 ^ (-d.exponent).toNat) = some { zero with negative := d.negative } := by
  obtain ⟨places, hplaces⟩ : ∃ places, places = 401 := ⟨_, rfl⟩
  have hexponents :
      decimalLength d.digits + (d.exponent.toNat + places) ≤ (-d.exponent).toNat := by
    rw [point] at hpoint
    omega
  have hone : 2 * unitsPerOne ≤ 10 ^ places := by
    rw [hplaces]
    decide +kernel
  refine nearest?_of_small _ ?_
  calc 2 * (d.digits * (unitsPerOne * 10 ^ d.exponent.toNat))
      = d.digits * (10 ^ d.exponent.toNat * (2 * unitsPerOne)) := by ring
    _ < 10 ^ decimalLength d.digits * (10 ^ d.exponent.toNat * (2 * unitsPerOne)) :=
        Nat.mul_lt_mul_of_pos_right (lt_ten_pow_decimalLength d.digits)
          (Nat.mul_pos (by positivity) (Nat.mul_pos two_pos unitsPerOne_pos))
    _ ≤ 10 ^ decimalLength d.digits * (10 ^ d.exponent.toNat * 10 ^ places) :=
        Nat.mul_le_mul_left _ (Nat.mul_le_mul_left _ hone)
    _ = 10 ^ (decimalLength d.digits + (d.exponent.toNat + places)) := by rw [pow_add, pow_add]
    _ ≤ 10 ^ (-d.exponent).toNat := Nat.pow_le_pow_right (by decide) hexponents

/-- The decimals that are answered by their size alone are rounded like the others. -/
theorem toBinary64?_eq (d : Decimal) :
    d.toBinary64? = nearest? d.negative (d.digits * (unitsPerOne * 10 ^ d.exponent.toNat))
      (10 ^ (-d.exponent).toNat) := by
  by_cases hdigits : d.digits = 0
  · rw [toBinary64?_of_digits_eq_zero hdigits, hdigits, Nat.zero_mul,
      nearest?_of_small _ (by positivity)]
  rcases lt_or_ge 400 d.point with hlarge | hhigh
  · rw [toBinary64?_of_point_gt hdigits hlarge, nearest?_of_point_gt hdigits hlarge]
  rcases lt_or_ge d.point (-400) with hsmall | hlow
  · rw [toBinary64?_of_point_lt hdigits hsmall, nearest?_of_point_lt hsmall]
  · exact toBinary64?_eq_nearest? hdigits hlow hhigh

theorem value_eq (d : Decimal) :
    d.value = (signed d.negative (d.digits * (unitsPerOne * 10 ^ d.exponent.toNat)) : ℚ) /
      ((10 ^ (-d.exponent).toNat : Nat) * unitsPerOne) := by
  have hone : (unitsPerOne : ℚ) ≠ 0 := by exact_mod_cast unitsPerOne_pos.ne'
  have hpower : (10 : ℚ) ^ d.exponent = 10 ^ d.exponent.toNat / 10 ^ (-d.exponent).toNat := by
    rw [← zpow_natCast, ← zpow_natCast, ← zpow_sub₀ (by norm_num)]
    congr 1
    omega
  have hsigned : (signed d.negative (d.digits * (unitsPerOne * 10 ^ d.exponent.toNat)) : ℚ) =
      signed d.negative d.digits * (unitsPerOne * 10 ^ d.exponent.toNat) := by
    rw [signed, signed]
    split <;> push_cast <;> ring
  rw [value, hpower, hsigned]
  push_cast
  field_simp

/-- A decimal is read as the number nearest to it, if it does not round to an infinity. -/
theorem toBinary64?_eq_some_iff :
    d.toBinary64? = some x ↔
      |d.value| < overflow ∧ x.negative = d.negative ∧ x.IsNearest d.value := by
  rw [toBinary64?_eq, nearest?_eq_some_iff (by positivity), value_eq]

theorem toBinary64?_eq_none_iff : d.toBinary64? = none ↔ overflow ≤ |d.value| := by
  rw [toBinary64?_eq, nearest?_eq_none_iff (by positivity), ← Nat.not_lt,
    ← abs_lt_overflow_iff (by positivity), ← value_eq, not_lt]

end Decimal

end FieldRules
