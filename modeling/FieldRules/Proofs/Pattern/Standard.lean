import FieldRules.Pattern.Standard
import FieldRules.Proofs.Pattern.Matches

namespace FieldRules

namespace CharSet

variable {c d : Char}

theorem contains_single : (single d).contains c = true ↔ c = d := by
  simp [single, range, contains, containsCode, ← Char.toNat_inj]
  omega

theorem isAlpha_iff :
    c.isAlpha = true ↔
      (0x41 ≤ c.toNat ∧ c.toNat ≤ 0x5A) ∨ (0x61 ≤ c.toNat ∧ c.toNat ≤ 0x7A) := by
  have halpha : c.isAlpha = (decide ('A'.val ≤ c.val ∧ c.val ≤ 'Z'.val) ||
      decide ('a'.val ≤ c.val) && decide (c.val ≤ 'z'.val)) := rfl
  simp [halpha, UInt32.le_iff_toNat_le]

theorem isAlphanum_iff :
    c.isAlphanum = true ↔ c.isAlpha = true ∨ (0x30 ≤ c.toNat ∧ c.toNat ≤ 0x39) := by
  simp [Char.isAlphanum, Char.isDigit_iff_toNat]

theorem contains_asciiLetters : asciiLetters.contains c = true ↔ c.isAlpha = true := by
  simp [asciiLetters, contains, containsCode, isAlpha_iff]

theorem contains_asciiAlphanumerics :
    asciiAlphanumerics.contains c = true ↔ c.isAlphanum = true := by
  simp [asciiAlphanumerics, contains, containsCode, isAlphanum_iff, isAlpha_iff]
  omega

end CharSet

namespace Pattern

variable {p q : Pattern} {set : CharSet} {before word after : List Char} {c : Char} {s : String}
  {n : Nat}

theorem contains_inLine : inLine.contains c = true ↔ c ≠ '\n' := by
  have hinLine : inLine = ⟨[(0, 9), (11, CharSet.lastCode)]⟩ := rfl
  have hc : c.toNat < 0x110000 := by
    rcases c.valid with hlow | ⟨-, hhigh⟩
    · exact Nat.lt_trans hlow (by simp)
    · exact hhigh
  simp [hinLine, CharSet.contains, CharSet.containsCode, CharSet.lastCode, ← Char.toNat_inj]
  omega

/-! The words that the parts of patterns for whole texts match. -/

theorem matches_seq :
    (seq p q).Matches before word after ↔
      ∃ u v, word = u ++ v ∧ p.Matches before u (v ++ after) ∧ q.Matches (before ++ u) v after :=
  Iff.rfl

theorem matches_textStart :
    (anchor .textStart).Matches before word after ↔ word = [] ∧ before = [] := by
  simp [Matches, Anchor.holds]

theorem matches_textEnd :
    (anchor .textEnd).Matches before word after ↔ word = [] ∧ after = [] := by
  simp [Matches, Anchor.holds]

theorem matches_single : (char (.single c)).Matches before word after ↔ word = [c] := by
  simp [Matches, CharSet.contains_single]

theorem power_char :
    (char set).Matches.power n before word after ↔
      word.length = n ∧ ∀ c ∈ word, set.contains c = true := by
  induction n generalizing before word with
  | zero =>
    rw [Language.power, List.length_eq_zero_iff, iff_self_and]
    rintro rfl
    simp
  | succ n ih =>
    simp only [Language.power, Language.append, ih]
    constructor
    · rintro ⟨u, v, rfl, ⟨c, rfl, hc⟩, rfl, hv⟩
      simpa [hc] using hv
    · rintro ⟨hlength, hword⟩
      cases word with
      | nil => simp at hlength
      | cons c v =>
        rw [List.forall_mem_cons] at hword
        exact ⟨[c], v, rfl, ⟨c, rfl, hword.1⟩, by simpa using hlength, hword.2⟩

theorem matches_star_char :
    (star (char set)).Matches before word after ↔ ∀ c ∈ word, set.contains c = true := by
  rw [star, Matches]
  simp only [power_char]
  simp

theorem matches_plus_char :
    (plus (char set)).Matches before word after ↔
      word ≠ [] ∧ ∀ c ∈ word, set.contains c = true := by
  rw [plus, Matches]
  simp only [power_char]
  constructor
  · rintro ⟨n, hn, -, rfl, hword⟩
    exact ⟨List.length_pos_iff.mp hn, hword⟩
  · rintro ⟨hne, hword⟩
    exact ⟨word.length, List.length_pos_iff.mpr hne, by simp, rfl, hword⟩

/-- A whole text of characters of a set. -/
theorem isMatch_allOf : (allOf set).isMatch s = true ↔ ∀ c ∈ s.toList, set.contains c = true := by
  simp only [isMatch_iff, allOf, all, matches_seq, matches_textStart, matches_star_char,
    matches_textEnd]
  constructor
  · rintro ⟨before, word, after, htext, -, -, rfl, ⟨rfl, rfl⟩, u, -, rfl, hu, rfl, rfl⟩
    simpa [htext] using hu
  · intro hs
    exact ⟨[], s.toList, [], by simp, [], s.toList, rfl, ⟨rfl, rfl⟩, s.toList, [], by simp, hs,
      rfl, rfl⟩

theorem isMatch_alpha : alpha.isMatch s = true ↔ ∀ c ∈ s.toList, c.isAlpha = true := by
  simp only [alpha, isMatch_allOf, CharSet.contains_asciiLetters]

theorem isMatch_alphaNum : alphaNum.isMatch s = true ↔ ∀ c ∈ s.toList, c.isAlphanum = true := by
  simp only [alphaNum, isMatch_allOf, CharSet.contains_asciiAlphanumerics]

theorem isMatch_alphaDash :
    alphaDash.isMatch s = true ↔ ∀ c ∈ s.toList, c.isAlphanum = true ∨ c = '_' ∨ c = '-' := by
  rw [alphaDash, isMatch_allOf]
  refine forall_congr' fun c => forall_congr' fun _ => ?_
  simp [CharSet.contains, CharSet.containsCode, CharSet.isAlphanum_iff, CharSet.isAlpha_iff,
    ← Char.toNat_inj]
  omega

/-- The at sign and the point may be any of those in the line that have something beside them. -/
theorem isMatch_email :
    email.isMatch s = true ↔
      '\n' ∉ s.toList ∧ ∃ u v w, u ≠ [] ∧ v ≠ [] ∧ w ≠ [] ∧
        s.toList = u ++ '@' :: (v ++ '.' :: w) := by
  simp only [isMatch_iff, email, all, matches_seq, matches_textStart, matches_plus_char,
    matches_single, matches_textEnd, contains_inLine]
  constructor
  · rintro ⟨before, word, after, htext, -, -, rfl, ⟨rfl, rfl⟩, u, -, rfl, ⟨hu, hu'⟩, -, -, rfl, rfl,
      v, -, rfl, ⟨hv, hv'⟩, -, -, rfl, rfl, w, -, rfl, ⟨hw, hw'⟩, rfl, rfl⟩
    have htext : s.toList = u ++ '@' :: (v ++ '.' :: w) := by simpa using htext
    refine ⟨?_, u, v, w, hu, hv, hw, htext⟩
    rw [htext]
    simp only [List.mem_append, List.mem_cons, not_or]
    exact ⟨fun h => hu' _ h rfl, by simp, fun h => hv' _ h rfl, by simp, fun h => hw' _ h rfl⟩
  · rintro ⟨hline, u, v, w, hu, hv, hw, htext⟩
    have hne : ∀ c ∈ s.toList, c ≠ '\n' := fun c hc h => hline (h ▸ hc)
    simp only [htext, List.forall_mem_append, List.forall_mem_cons] at hne
    exact ⟨[], s.toList, [], by simp, [], s.toList, rfl, ⟨rfl, rfl⟩, u, _, htext,
      ⟨hu, hne.1⟩, ['@'], _, rfl, rfl, v, _, rfl, ⟨hv, hne.2.2.1⟩, ['.'], _, rfl, rfl, w, [],
      by simp, ⟨hw, hne.2.2.2.2⟩, rfl, rfl⟩

end Pattern

end FieldRules
