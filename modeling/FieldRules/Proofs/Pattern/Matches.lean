import FieldRules.Proofs.Pattern.Steps

namespace FieldRules.Pattern

/-- What is said of words in their places: of what stands before a word, the word itself, and what
    stands after it. -/
abbrev Language := List Char → List Char → List Char → Prop

namespace Language

/-- A word of the one and a word of the other after it, each in its place. -/
def append (L M : Language) : Language := fun before word after =>
  ∃ u v, word = u ++ v ∧ L before u (v ++ after) ∧ M (before ++ u) v after

/-- So many words, one after the other. -/
def power (L : Language) : Nat → Language
  | 0 => fun _ word _ => word = []
  | n + 1 => L.append (L.power n)

/-- Whether a word stands between two positions of a text. -/
def Spans (L : Language) (text : List Char) (i j : Nat) : Prop :=
  ∃ before word after, text = before ++ (word ++ after) ∧ before.length = i ∧
    i + word.length = j ∧ L before word after

variable {L M : Language} {text : List Char} {i j n : Nat}

theorem Spans.le (hspans : L.Spans text i j) : i ≤ j := by
  obtain ⟨before, word, after, -, -, rfl, -⟩ := hspans
  exact Nat.le_add_right _ _

theorem Spans.le_length (hspans : L.Spans text i j) : j ≤ text.length := by
  obtain ⟨before, word, after, rfl, rfl, rfl, -⟩ := hspans
  simp only [List.length_append]
  omega

theorem spans_append : (L.append M).Spans text i j ↔ ∃ k, L.Spans text i k ∧ M.Spans text k j := by
  constructor
  · rintro ⟨before, word, after, rfl, rfl, rfl, u, v, rfl, hu, hv⟩
    exact ⟨_, ⟨before, u, v ++ after, by simp, rfl, rfl, hu⟩,
      before ++ u, v, after, by simp, by simp, by simp [Nat.add_assoc], hv⟩
  · rintro ⟨-, ⟨before, u, rest, htext, rfl, rfl, hu⟩, before', v, after, rfl, hlength, rfl, hv⟩
    rw [← List.append_assoc before] at htext
    obtain ⟨rfl, rfl⟩ := List.append_inj htext (by simpa using hlength)
    exact ⟨before, u ++ v, after, by simp, rfl, by simp [Nat.add_assoc], u, v, rfl, hu, hv⟩

theorem spans_nil (hi : i ≤ text.length) :
    Spans (fun _ word _ => word = []) text i j ↔ i = j := by
  constructor
  · rintro ⟨before, word, after, -, -, rfl, rfl⟩
    simp
  · rintro rfl
    exact ⟨text.take i, [], text.drop i, by simp, List.length_take_of_le hi, rfl, rfl⟩

theorem spans_or :
    Spans (fun before word after => L before word after ∨ M before word after) text i j ↔
      L.Spans text i j ∨ M.Spans text i j := by
  simp only [Spans, and_or_left, exists_or]

theorem spans_power (hi : i ≤ text.length) :
    (L.power n).Spans text i j ↔ Steps (L.Spans text) n i j := by
  induction n generalizing i with
  | zero => exact spans_nil hi
  | succ n ih =>
    rw [power, spans_append, Steps]
    exact exists_congr fun k => and_congr_right fun hik => ih hik.le_length

end Language

/-- What words a pattern matches in their places. -/
def Matches : Pattern → Language
  | empty => fun _ word _ => word = []
  | literal cs => fun _ word _ => word = cs
  | char set => fun _ word _ => ∃ c, word = [c] ∧ set.contains c = true
  | anchor a => fun before word after =>
    word = [] ∧ a.holds (before ++ after).toArray before.length = true
  | seq p q => p.Matches.append q.Matches
  | alt p q => fun before word after => p.Matches before word after ∨ q.Matches before word after
  | times p least most => fun before word after =>
    ∃ n, least ≤ n ∧ (∀ m ∈ most, n ≤ max least m) ∧ p.Matches.power n before word after
  | group p => p.Matches

variable {p : Pattern} {set : CharSet} {a : Anchor} {cs text : List Char} {starts : List Nat}
  {s : String} {i j : Nat}

/-! The places of the words that a pattern without parts matches. -/

theorem literalEnd?_eq_some_iff :
    literalEnd? text.toArray i cs = some j ↔ cs <+: text.drop i ∧ i + cs.length = j := by
  induction cs generalizing i with
  | nil => simp [literalEnd?]
  | cons c cs ih =>
    rw [literalEnd?, List.getElem?_toArray]
    by_cases hi : i < text.length
    · rw [List.drop_eq_getElem_cons hi, List.cons_prefix_cons, List.getElem?_eq_getElem hi]
      by_cases hc : c = text[i]
      · simp [ih, hc, Nat.add_right_comm, Nat.add_assoc]
      · simp [hc, eq_comm]
    · simp [hi, List.drop_eq_nil_of_le (Nat.le_of_not_lt hi)]

theorem spans_literal (hi : i ≤ text.length) :
    (literal cs).Matches.Spans text i j ↔ cs <+: text.drop i ∧ i + cs.length = j := by
  constructor
  · rintro ⟨before, word, after, rfl, rfl, rfl, rfl⟩
    simp
  · rintro ⟨⟨after, htext⟩, rfl⟩
    exact ⟨text.take i, cs, after, by simp [htext], List.length_take_of_le hi, rfl, rfl⟩

theorem spans_char :
    (char set).Matches.Spans text i j ↔
      ∃ c, text[i]? = some c ∧ set.contains c = true ∧ i + 1 = j := by
  constructor
  · rintro ⟨before, word, after, rfl, rfl, rfl, c, rfl, hc⟩
    exact ⟨c, by simp, hc, rfl⟩
  · rintro ⟨c, htext, hc, rfl⟩
    obtain ⟨hi, rfl⟩ := List.getElem?_eq_some_iff.mp htext
    exact ⟨text.take i, [text[i]], text.drop (i + 1), by simp, by simp [Nat.le_of_lt hi], rfl,
      text[i], rfl, hc⟩

theorem spans_anchor (hi : i ≤ text.length) :
    (anchor a).Matches.Spans text i j ↔ a.holds text.toArray i = true ∧ i = j := by
  constructor
  · rintro ⟨before, word, after, rfl, rfl, rfl, rfl, ha⟩
    exact ⟨by simpa using ha, by simp⟩
  · rintro ⟨ha, rfl⟩
    exact ⟨text.take i, [], text.drop i, by simp, List.length_take_of_le hi, rfl, rfl, by
      simpa [hi] using ha⟩

theorem mem_joinPositions {xs ys : List Nat} : i ∈ joinPositions xs ys ↔ i ∈ xs ∨ i ∈ ys := by
  simp only [joinPositions, List.mem_append, List.mem_filter]
  by_cases hi : i ∈ xs <;> simp [hi]

/-- A repetition matches what so many steps of the pattern lead over. -/
theorem spans_times {least : Nat} {most : Option Nat} (hi : i ≤ text.length) :
    (times p least most).Matches.Spans text i j ↔
      ∃ n, least ≤ n ∧ (∀ m ∈ most, n ≤ max least m) ∧ Steps (p.Matches.Spans text) n i j := by
  simp only [← Language.spans_power hi]
  constructor
  · rintro ⟨before, word, after, htext, hbefore, hword, n, hleast, hmost, hpower⟩
    exact ⟨n, hleast, hmost, before, word, after, htext, hbefore, hword, hpower⟩
  · rintro ⟨n, hleast, hmost, before, word, after, htext, hbefore, hword, hpower⟩
    exact ⟨before, word, after, htext, hbefore, hword, n, hleast, hmost, hpower⟩

/-- Taking steps up to a number is enough: with a greatest number there are no more of them, and
    without one steps that stay where they are can be left out. -/
theorem mem_ends_times {least : Nat} {most : Option Nat}
    (htakes : Takes (p.ends text.toArray) (p.Matches.Spans text) text.length)
    (hstarts : ∀ i ∈ starts, i ≤ text.length) :
    j ∈ (times p least most).ends text.toArray starts ↔
      ∃ i ∈ starts, (times p least most).Matches.Spans text i j := by
  have hmid : ∀ k ∈ stepTimes (p.ends text.toArray) least starts, k ≤ text.length := by
    intro k hk
    obtain ⟨i, hi, hik⟩ := (htakes.mem_stepTimes_iff hstarts).mp hk
    exact htakes.steps_le_bound (hstarts i hi) hik
  unfold ends
  rw [htakes.mem_stepUpTo_self_iff hmid]
  simp only [htakes.mem_stepTimes_iff hstarts]
  constructor
  · rintro ⟨k, ⟨i, hi, hik⟩, m, hm, hkj⟩
    refine ⟨i, hi, (spans_times (hstarts i hi)).mpr ⟨least + m, by omega, ?_,
      steps_add_iff.mpr ⟨k, hik, hkj⟩⟩⟩
    rintro most rfl
    dsimp only at hm
    omega
  · rintro ⟨i, hi, hspans⟩
    obtain ⟨n, hleast, hmost, hsteps⟩ := (spans_times (hstarts i hi)).mp hspans
    obtain ⟨m, rfl⟩ := Nat.exists_eq_add_of_le hleast
    obtain ⟨k, hik, hkj⟩ := steps_add_iff.mp hsteps
    refine ⟨k, ⟨i, hi, hik⟩, ?_⟩
    cases most with
    | some most =>
      have hm := hmost most rfl
      exact ⟨m, by dsimp only; omega, hkj⟩
    | none =>
      obtain ⟨l, hl, hsteps⟩ := htakes.exists_steps_le hkj
      have hj := hspans.le_length
      exact ⟨l, by simp; omega, hsteps⟩

/-- The matcher finds the places of the words that the pattern matches, and no others. -/
theorem mem_ends_iff (hstarts : ∀ i ∈ starts, i ≤ text.length) :
    j ∈ p.ends text.toArray starts ↔ ∃ i ∈ starts, p.Matches.Spans text i j := by
  induction p generalizing starts j with
  | empty =>
    simp only [ends, Matches]
    constructor
    · exact fun hj => ⟨j, hj, (Language.spans_nil (hstarts j hj)).mpr rfl⟩
    · rintro ⟨i, hi, hspans⟩
      exact (Language.spans_nil (hstarts i hi)).mp hspans ▸ hi
  | literal cs =>
    rw [ends, List.mem_filterMap]
    exact exists_congr fun i => and_congr_right fun hi =>
      literalEnd?_eq_some_iff.trans (spans_literal (hstarts i hi)).symm
  | char set =>
    rw [ends, List.mem_filterMap]
    refine exists_congr fun i => and_congr_right fun _ => ?_
    rw [spans_char, List.getElem?_toArray]
    cases text[i]? <;> simp
  | anchor a =>
    rw [ends, List.mem_filter]
    constructor
    · rintro ⟨hj, ha⟩
      exact ⟨j, hj, (spans_anchor (hstarts j hj)).mpr ⟨ha, rfl⟩⟩
    · rintro ⟨i, hi, hspans⟩
      obtain ⟨ha, rfl⟩ := (spans_anchor (hstarts i hi)).mp hspans
      exact ⟨hi, ha⟩
  | seq p q ihp ihq =>
    have hmid : ∀ k ∈ p.ends text.toArray starts, k ≤ text.length := by
      intro k hk
      obtain ⟨i, -, hspans⟩ := (ihp hstarts).mp hk
      exact hspans.le_length
    simp only [ends, ihq hmid, ihp hstarts, Matches, Language.spans_append]
    constructor
    · rintro ⟨k, ⟨i, hi, hik⟩, hkj⟩
      exact ⟨i, hi, k, hik, hkj⟩
    · rintro ⟨i, hi, k, hik, hkj⟩
      exact ⟨k, ⟨i, hi, hik⟩, hkj⟩
  | alt p q ihp ihq =>
    simp only [ends, mem_joinPositions, ihp hstarts, ihq hstarts, Matches, Language.spans_or,
      and_or_left, exists_or]
  | times p least most ih =>
    exact mem_ends_times ⟨ih, Language.Spans.le, Language.Spans.le_length⟩ hstarts
  | group p ih => exact ih hstarts

/-- A pattern is found in a text if the text has a part that the pattern matches in its place. -/
theorem isMatch_iff :
    p.isMatch s = true ↔
      ∃ before word after, s.toList = before ++ (word ++ after) ∧ p.Matches before word after := by
  have hstarts : ∀ i ∈ List.range (s.toList.length + 1), i ≤ s.toList.length := by
    intro i hi
    exact Nat.le_of_lt_succ (List.mem_range.mp hi)
  rw [isMatch, Bool.not_eq_true', List.isEmpty_eq_false_iff_exists_mem, List.size_toArray]
  simp only [mem_ends_iff hstarts]
  constructor
  · rintro ⟨j, i, -, before, word, after, htext, -, -, hword⟩
    exact ⟨before, word, after, htext, hword⟩
  · rintro ⟨before, word, after, htext, hword⟩
    refine ⟨_, before.length, ?_, before, word, after, htext, rfl, rfl, hword⟩
    rw [List.mem_range, htext, List.length_append]
    omega

end FieldRules.Pattern
