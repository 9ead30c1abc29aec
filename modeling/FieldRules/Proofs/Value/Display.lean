import FieldRules.Proofs.Binary64.Shortest
import FieldRules.Value.Text

namespace FieldRules

namespace Number

open Binary64

variable {m n : Number} {x y : Binary64}

/-- The integers that are binary64 numbers up to the first gap, and all binary64 numbers: those
    whose text does not depend on how they are kept. -/
def IsSafe : Number → Prop
  | integer n => n.natAbs ≤ 2 * binade
  | float _ => True

/-- The text of a binary64 number is always a numeral, and it is read as the number up to the sign of
    zero. -/
theorem exists_readBinary64?_display (x : Binary64) :
    ∃ y, Text.readBinary64? (float x).display.toList = some y ∧ y.units = x.units := by
  rw [display]
  split
  · next hsmall =>
    obtain ⟨hwhole, hbelow⟩ := Bool.and_eq_true_iff.mp hsmall
    obtain ⟨k, hk⟩ := isWhole_iff.mp hwhole
    rw [absBelow_of_whole hk, decide_eq_true_iff] at hbelow
    rw [truncate_of_whole hk, Text.readBinary64?, Text.readDecimal?_toString, Option.bind_some,
      toBinary64?_eq_ofInt (by omega), hk]
    exact ⟨_, rfl, units_ofInt (exists_units_eq (by unfold binade; omega))⟩
  · exact ⟨x, readBinary64?_text x, rfl⟩

/-- The text of a number is read as its binary64 number, up to the sign of zero. -/
theorem units_of_readBinary64?_display
    (hread : Text.readBinary64? n.display.toList = some y) : y.units = n.toBinary64.units := by
  cases n with
  | integer n =>
    rw [display, Text.readBinary64?, Text.readDecimal?_toString, Option.bind_some] at hread
    by_cases hzero : n = 0
    · subst hzero
      rw [Decimal.toBinary64?_of_digits_eq_zero (by rfl), Option.some.injEq] at hread
      rw [← hread]
      decide +kernel
    · obtain ⟨hnegative, hmagnitude⟩ :=
        magnitude_of_toBinary64? (Int.natAbs_ne_zero.mpr hzero) hread
      have hnearest := nearest?_eq_some hnegative.symm hmagnitude.symm
      rw [toBinary64, ofInt, hnearest, Option.getD_some]
  | float x =>
    obtain ⟨z, hz, hunits⟩ := exists_readBinary64?_display x
    cases hread.symm.trans hz
    rw [hunits, toBinary64]

/-- Numbers with the same text have the same binary64 value. -/
theorem sameValue_of_display_eq (hdisplay : m.display = n.display) :
    m.toBinary64.sameValue n.toBinary64 = true := by
  rw [sameValue, beq_iff_eq]
  have hread : ∀ {x : Binary64}, m = float x ∨ n = float x →
      m.toBinary64.units = n.toBinary64.units := by
    intro x hfloat
    obtain ⟨y, hy, -⟩ := exists_readBinary64?_display x
    have hm : Text.readBinary64? m.display.toList = some y := by
      rcases hfloat with rfl | rfl
      · exact hy
      · rw [hdisplay, hy]
    rw [← units_of_readBinary64?_display hm, ← units_of_readBinary64?_display (hdisplay ▸ hm)]
  cases m with
  | float x => exact hread (.inl rfl)
  | integer j =>
    cases n with
    | float x => exact hread (.inr rfl)
    | integer k =>
      have hdecimals := congrArg (Text.readDecimal? ∘ String.toList) hdisplay
      rw [Function.comp_apply, Function.comp_apply, display, display, Text.readDecimal?_toString,
        Text.readDecimal?_toString] at hdecimals
      simp only [Option.some.injEq, Decimal.mk.injEq, decide_eq_decide, and_true] at hdecimals
      have hsame : j = k := by omega
      rw [hsame]

/-- Of a whole number up to `2^53`, only the value shows in the text. -/
theorem display_of_whole {k : Int} (hsafe : n.IsSafe) (hn : n.units = k * unitsPerOne)
    (hk : k.natAbs ≤ 2 * binade) : n.display = toString k := by
  cases n with
  | integer j => rw [units_injective_integer (k := k) hn, display]
  | float x =>
    have hx : x.units = k * unitsPerOne := hn
    rw [display, absBelow_of_whole hx, isWhole_iff.mpr ⟨k, hx⟩, Bool.true_and]
    split
    · rw [truncate_of_whole hx]
    · next hlarge =>
      rw [decide_eq_true_iff] at hlarge
      have hne : k ≠ 0 := by
        rintro rfl
        omega
      have hunits : x.units ≠ 0 := by
        rw [hx]
        exact Int.mul_ne_zero hne (by exact_mod_cast unitsPerOne_pos.ne')
      have hofInt : x = ofInt k :=
        eq_of_units (hx.trans (units_ofInt (exists_units_eq hk)).symm) hunits
      rw [hofInt, text_ofInt hne hk]

theorem display_eq_of_sameValue (hm : m.IsSafe) (hn : n.IsSafe)
    (hsame : m.toBinary64.sameValue n.toBinary64 = true) : m.display = n.display := by
  rw [sameValue, beq_iff_eq] at hsame
  have hexact : ∀ {n : Number}, n.IsSafe → n.toBinary64.units = n.units := by
    intro n hn
    cases n with
    | integer k => exact IsBinary64.units_toBinary64 (isBinary64_of_natAbs_le hn)
    | float x => rfl
  rw [hexact hm, hexact hn] at hsame
  have hwhole : ∀ {k : Int}, k.natAbs ≤ 2 * binade → m.units = k * unitsPerOne →
      m.display = n.display := by
    intro k hk hvalue
    rw [display_of_whole hm hvalue hk, display_of_whole hn (hsame ▸ hvalue) hk]
  cases m with
  | integer j => exact hwhole hm rfl
  | float x =>
    cases n with
    | integer k => exact hwhole hn hsame
    | float y =>
      by_cases hzero : x.units = 0
      · exact hwhole (k := 0) (Nat.zero_le _) (by rw [units, hzero, Int.zero_mul])
      · rw [eq_of_units hsame hzero]

end Number

namespace Value

/-- The texts of two values tell as much as the values themselves: they do not have the same text in
    different types, and as numbers they have no value in common that an integer does not have
    exactly. -/
structure Comparable (a b : Value) : Prop where
  tag : a.display = b.display → a.tag? = b.tag?
  safe : ∀ m n, a = .number m → b = .number n →
    m.toBinary64.sameValue n.toBinary64 = true → m = n ∨ m.IsSafe ∧ n.IsSafe

variable {a b : Value}

theorem tag?_eq_of_equal (hequal : a.equal b = true) : a.tag? = b.tag? := by
  cases a <;> cases b <;> first | rfl | simp [equal] at hequal

theorem tag?_eq_object_iff : a.tag? = some .object ↔ a.isScalar = false := by
  cases a <;> simp [tag?, isScalar]

/-- Comparable scalars are equal just if they have the same text. -/
theorem Comparable.display_eq_iff (hcomparable : a.Comparable b) (ha : a.isScalar = true)
    (hb : b.isScalar = true) : a.display = b.display ↔ a.equal b = true := by
  by_cases htag : a.tag? = b.tag?
  · cases a with
    | array | object => cases ha
    | null =>
      cases b with
      | null => exact iff_of_true rfl (by rw [equal])
      | bool c => cases c <;> decide
      | number | string | array | object => cases htag
    | bool c =>
      cases b with
      | null => cases c <;> decide
      | bool c' => cases c <;> cases c' <;> decide
      | number | string | array | object => cases htag
    | number m =>
      cases b with
      | number n =>
        rw [equal]
        refine ⟨Number.sameValue_of_display_eq, fun hsame => ?_⟩
        rcases hcomparable.safe m n rfl rfl hsame with rfl | ⟨hm, hn⟩
        · rfl
        · exact Number.display_eq_of_sameValue hm hn hsame
      | null | bool | string | array | object => cases htag
    | string s =>
      cases b with
      | string t => rw [equal, beq_iff_eq, display, display]
      | null | bool | number | array | object => cases htag
  · exact iff_of_false (mt hcomparable.tag htag) (mt tag?_eq_of_equal htag)

end Value

end FieldRules
