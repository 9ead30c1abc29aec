import FieldRules.Text.Split
import Mathlib.Data.List.Defs
import Mathlib.Data.List.TakeDrop
import Mathlib.Data.List.TakeWhile

namespace FieldRules.Text

/-- A text in which a delimiter stands only directly after an escape. -/
structure Guarded (delimiter : Char) (cs : List Char) : Prop where
  head : cs.head? ≠ some delimiter
  chain : cs.IsChain fun c d => d = delimiter → c = escapeChar

section

variable {delimiter : Char} {cs rest : List Char}

theorem Guarded.tail {c d : Char} (hguarded : Guarded delimiter (c :: d :: cs))
    (hpair : ¬(c = escapeChar ∧ d = delimiter)) : Guarded delimiter (d :: cs) := by
  obtain ⟨hcd, hchain⟩ := List.isChain_cons_cons.mp hguarded.chain
  refine ⟨fun hd => hpair ?_, hchain⟩
  have heq : d = delimiter := Option.some.inj hd
  exact ⟨hcd heq, heq⟩

/-- What follows an escaped delimiter is guarded, as the delimiter is no escape itself. -/
theorem Guarded.tail_tail (hdelimiter : delimiter ≠ escapeChar) {c : Char}
    (hguarded : Guarded delimiter (c :: delimiter :: cs)) : Guarded delimiter cs := by
  obtain ⟨_, hchain⟩ := List.isChain_cons_cons.mp hguarded.chain
  cases cs with
  | nil => exact ⟨by simp, .nil⟩
  | cons e cs =>
    obtain ⟨hpair, hchain⟩ := List.isChain_cons_cons.mp hchain
    exact ⟨fun he => hdelimiter (hpair (Option.some.inj he)), hchain⟩

theorem splitChars_ne_nil (delimiter : Char) (cs : List Char) : splitChars delimiter cs ≠ [] := by
  have hextend : ∀ front parts, extendFirst front parts ≠ [] := by
    intro front parts
    cases parts <;> exact List.cons_ne_nil _ _
  fun_cases splitChars delimiter cs <;> first | exact List.cons_ne_nil _ _ | exact hextend _ _

theorem extendFirst_nil {parts : List (List Char)} (hparts : parts ≠ []) :
    extendFirst [] parts = parts := by
  cases parts with
  | nil => exact absurd rfl hparts
  | cons part parts => rfl

theorem extendFirst_extendFirst (front back : List Char) (parts : List (List Char)) :
    extendFirst front (extendFirst back parts) = extendFirst (front ++ back) parts := by
  cases parts with
  | nil => rfl
  | cons part parts => simp only [extendFirst, List.append_assoc]

theorem splitChars_delimiter (hdelimiter : delimiter ≠ escapeChar) (rest : List Char) :
    splitChars delimiter (delimiter :: rest) = [] :: splitChars delimiter rest := by
  cases rest with
  | nil => simp only [splitChars, if_true]
  | cons d rest => rw [splitChars, if_neg fun h => hdelimiter h.1, if_pos rfl]

/-- A character that is no delimiter and no escape joins the part after it. -/
theorem splitChars_cons {c : Char} (hdelimiter : c ≠ delimiter) (hescape : c ≠ escapeChar)
    (rest : List Char) :
    splitChars delimiter (c :: rest) = extendFirst [c] (splitChars delimiter rest) := by
  cases rest with
  | nil => simp only [splitChars, if_neg hdelimiter, extendFirst, List.append_nil]
  | cons d rest => rw [splitChars, if_neg fun h => hescape h.1, if_neg hdelimiter]

/-- A guarded text is not split, and what comes after it is split as it is by itself: by induction
    along the recursion of the split. An escape at the end would reach over to what comes after. -/
theorem splitChars_append (hdelimiter : delimiter ≠ escapeChar) (hguarded : Guarded delimiter cs)
    (hend : cs.getLast? ≠ some escapeChar) (rest : List Char) :
    splitChars delimiter (cs ++ rest) = extendFirst cs (splitChars delimiter rest) := by
  fun_induction splitChars delimiter cs with
  | case1 => exact (extendFirst_nil (splitChars_ne_nil delimiter rest)).symm
  | case2 => exact absurd rfl hguarded.head
  | case3 c hc =>
    have hescape : c ≠ escapeChar := fun h => hend (congrArg some h)
    exact splitChars_cons hc hescape rest
  | case4 c d cs hpair ih =>
    obtain ⟨rfl, rfl⟩ := hpair
    have hend' : cs.getLast? ≠ some escapeChar := by
      cases cs with
      | nil => simp
      | cons e cs => simpa only [List.getLast?_cons_cons] using hend
    rw [List.cons_append, List.cons_append, splitChars, if_pos ⟨rfl, rfl⟩,
      ih (hguarded.tail_tail hdelimiter) hend', extendFirst_extendFirst]
    rfl
  | case5 d cs hpair ih => exact absurd rfl hguarded.head
  | case6 c d cs hpair hc ih =>
    have hrest := ih (hguarded.tail hpair) (by simpa only [List.getLast?_cons_cons] using hend)
    rw [List.cons_append] at hrest ⊢
    rw [List.cons_append, splitChars, if_neg hpair, if_neg hc, hrest, extendFirst_extendFirst]
    rfl

theorem splitChars_of_guarded (hdelimiter : delimiter ≠ escapeChar)
    (hguarded : Guarded delimiter cs) : splitChars delimiter cs = [cs] := by
  fun_induction splitChars delimiter cs with
  | case1 => rfl
  | case2 => exact absurd rfl hguarded.head
  | case3 => rfl
  | case4 c d cs hpair ih =>
    obtain ⟨rfl, rfl⟩ := hpair
    rw [ih (hguarded.tail_tail hdelimiter), extendFirst]
    rfl
  | case5 => exact absurd rfl hguarded.head
  | case6 c d cs hpair hc ih =>
    rw [ih (hguarded.tail hpair), extendFirst]
    rfl

/-- Splitting undoes joining. The last part may end with an escape, as no delimiter follows it. -/
theorem splitChars_intercalate_of_closed (hdelimiter : delimiter ≠ escapeChar)
    {parts : List (List Char)} (hparts : ∀ part ∈ parts, Guarded delimiter part)
    (hclosed : ∀ part ∈ parts.dropLast, part.getLast? ≠ some escapeChar) (hsome : parts ≠ []) :
    splitChars delimiter ([delimiter].intercalate parts) = parts := by
  induction parts with
  | nil => exact absurd rfl hsome
  | cons part parts ih =>
    obtain ⟨hguarded, hrest⟩ := List.forall_mem_cons.mp hparts
    cases parts with
    | nil =>
      rw [List.intercalate_singleton]
      exact splitChars_of_guarded hdelimiter hguarded
    | cons next parts =>
      rw [List.dropLast_cons_cons] at hclosed
      obtain ⟨hend, hclosed⟩ := List.forall_mem_cons.mp hclosed
      rw [List.intercalate_cons_cons, List.append_assoc, List.singleton_append,
        splitChars_append hdelimiter hguarded hend, splitChars_delimiter hdelimiter,
        ih hrest hclosed (List.cons_ne_nil _ _), extendFirst, List.append_nil]

theorem splitChars_intercalate (hdelimiter : delimiter ≠ escapeChar) {parts : List (List Char)}
    (hparts : ∀ part ∈ parts, Guarded delimiter part ∧ part.getLast? ≠ some escapeChar)
    (hsome : parts ≠ []) :
    splitChars delimiter ([delimiter].intercalate parts) = parts :=
  splitChars_intercalate_of_closed hdelimiter (fun part hpart => (hparts part hpart).1)
    (fun part hpart => (hparts part (List.dropLast_subset parts hpart)).2) hsome

end

/-- A text is split at a mark that comes after a front without the mark. -/
theorem splitOnce_append {mark : Char} {front : String} {before : List Char}
    (hfront : front.toList = before ++ [mark]) (hbefore : mark ∉ before) (after : String) :
    splitOnce mark (front ++ after) = some (String.ofList before, after) := by
  have hpass : ∀ c ∈ before, (c != mark) = true :=
    fun c hc => bne_iff_ne.mpr (ne_of_mem_of_not_mem hc hbefore)
  have hsplit : (front ++ after).toList = before ++ mark :: after.toList := by
    rw [String.toList_append, hfront, List.append_assoc, List.singleton_append]
  rw [splitOnce, hsplit, List.dropWhile_append_of_pos hpass, List.takeWhile_append_of_pos hpass]
  simp

theorem splitOnce_of_not_mem {mark : Char} {s : String} (hmark : mark ∉ s.toList) :
    splitOnce mark s = none := by
  have hpass : ∀ c ∈ s.toList, (c != mark) = true :=
    fun c hc => bne_iff_ne.mpr (ne_of_mem_of_not_mem hc hmark)
  have hnone : s.toList.dropWhile (· != mark) = [] := List.dropWhile_eq_nil_iff.mpr hpass
  rw [splitOnce, hnone]

/-- A text that neither begins nor ends with a blank. -/
structure Tight (cs : List Char) : Prop where
  head : cs.head?.any isBlank = false
  last : cs.getLast?.any isBlank = false

instance (cs : List Char) : Decidable (Tight cs) :=
  decidable_of_iff (cs.head?.any isBlank = false ∧ cs.getLast?.any isBlank = false)
    ⟨fun ⟨hhead, hlast⟩ => ⟨hhead, hlast⟩, fun htight => ⟨htight.head, htight.last⟩⟩

theorem trimChars_of_tight {cs : List Char} (htight : Tight cs) : trimChars cs = cs := by
  have hdrop : ∀ ds : List Char, ds.head?.any isBlank = false → ds.dropWhile isBlank = ds := by
    intro ds hhead
    cases ds with
    | nil => rfl
    | cons d ds =>
      have hd : isBlank d = false := hhead
      rw [List.dropWhile_cons, hd, if_neg (by decide)]
  have hlast : cs.reverse.head?.any isBlank = false := by
    rw [List.head?_reverse]
    exact htight.last
  rw [trimChars, hdrop cs htight.head, hdrop cs.reverse hlast, List.reverse_reverse]

theorem tight_trimChars (cs : List Char) : Tight (trimChars cs) := by
  have hfirst : ∀ ds : List Char, (ds.dropWhile isBlank).head?.any isBlank = false := by
    intro ds
    have hhead := List.head?_dropWhile_not isBlank ds
    cases hds : (ds.dropWhile isBlank).head? with
    | none => rfl
    | some d =>
      rw [hds] at hhead
      simpa using hhead
  have hprefix : trimChars cs <+: cs.dropWhile isBlank := by
    rw [← List.reverse_suffix, trimChars, List.reverse_reverse]
    exact List.dropWhile_suffix isBlank
  constructor
  · obtain ⟨rest, hrest⟩ := hprefix
    have hhead := hfirst cs
    rw [← hrest] at hhead
    cases htrimmed : trimChars cs with
    | nil => rfl
    | cons c trimmed =>
      rw [htrimmed] at hhead
      exact hhead
  · rw [trimChars, List.getLast?_reverse]
    exact hfirst _

/-! A stretch of characters of one kind, up to one that is not of this kind. -/

theorem takeWhile_append {p : Char → Bool} {cs tail : List Char} (hcs : ∀ c ∈ cs, p c = true)
    (htail : ∀ d ∈ tail.head?, p d = false) : (cs ++ tail).takeWhile p = cs := by
  rw [List.takeWhile_append_of_pos hcs]
  cases tail with
  | nil => simp
  | cons d tail => simp [htail d rfl]

theorem span_append {p : Char → Bool} {cs tail : List Char} (hcs : ∀ c ∈ cs, p c = true)
    (htail : ∀ d ∈ tail.head?, p d = false) : (cs ++ tail).span p = (cs, tail) := by
  rw [List.span_eq_takeWhile_dropWhile, takeWhile_append hcs htail,
    List.dropWhile_append_of_pos hcs]
  cases tail with
  | nil => simp
  | cons d tail => simp [htail d rfl]

/-- Blanks at the end are trimmed. -/
theorem trimChars_append {cs blanks : List Char} (htight : Tight cs) (hcs : cs ≠ [])
    (hblanks : ∀ c ∈ blanks, isBlank c = true) : trimChars (cs ++ blanks) = cs := by
  have hfront : (cs ++ blanks).dropWhile isBlank = cs.dropWhile isBlank ++ blanks := by
    obtain ⟨c, cs, rfl⟩ := List.exists_cons_of_ne_nil hcs
    have hc : isBlank c = false := htight.head
    simp [hc]
  have hback : ((cs.dropWhile isBlank) ++ blanks).reverse.dropWhile isBlank =
      (cs.dropWhile isBlank).reverse.dropWhile isBlank := by
    rw [List.reverse_append, List.dropWhile_append_of_pos]
    simpa using hblanks
  have htrim := trimChars_of_tight htight
  rw [trimChars] at htrim ⊢
  rw [hfront, hback, htrim]

end FieldRules.Text
