import FieldRules.Proofs.Text.Split
import Mathlib.Data.List.Chain

namespace FieldRules.Text

/-- Puts an escape before each of the marks in a text. -/
def escapeChars (marks cs : List Char) : List Char :=
  cs.flatMap fun c => if c ∈ marks then [escapeChar, c] else [c]

def escape (marks : List Char) (s : String) : String := String.ofList (escapeChars marks s.toList)

section

variable {marks cs : List Char} {c delimiter : Char}

theorem escapeChars_cons_of_mem (hc : c ∈ marks) (cs : List Char) :
    escapeChars marks (c :: cs) = escapeChar :: c :: escapeChars marks cs := by
  rw [escapeChars, List.flatMap_cons, if_pos hc]
  rfl

theorem escapeChars_cons_of_not_mem (hc : c ∉ marks) (cs : List Char) :
    escapeChars marks (c :: cs) = c :: escapeChars marks cs := by
  rw [escapeChars, List.flatMap_cons, if_neg hc]
  rfl

theorem escapeChars_of_no_marks (hmarks : ∀ c ∈ cs, c ∉ marks) : escapeChars marks cs = cs := by
  induction cs with
  | nil => rfl
  | cons c cs ih =>
    obtain ⟨hc, hrest⟩ := List.forall_mem_cons.mp hmarks
    rw [escapeChars_cons_of_not_mem hc, ih hrest]

theorem escape_of_no_marks {s : String} (hmarks : ∀ c ∈ s.toList, c ∉ marks) :
    escape marks s = s := by
  rw [escape, escapeChars_of_no_marks hmarks, String.ofList_toList]

/-- An escaped text ends as it did before. -/
theorem getLast?_escapeChars (marks cs : List Char) :
    (escapeChars marks cs).getLast? = cs.getLast? := by
  induction cs with
  | nil => rfl
  | cons c cs ih =>
    by_cases hc : c ∈ marks
    · rw [escapeChars_cons_of_mem hc, List.getLast?_cons_cons, List.getLast?_cons, ih,
        List.getLast?_cons]
    · rw [escapeChars_cons_of_not_mem hc, List.getLast?_cons, ih, List.getLast?_cons]

/-- What is guarded may follow any character. -/
theorem Guarded.isChain_cons (hguarded : Guarded delimiter cs) (c : Char) :
    (c :: cs).IsChain fun c d => d = delimiter → c = escapeChar := by
  cases cs with
  | nil => exact .singleton c
  | cons d cs =>
    refine List.isChain_cons_cons.mpr ⟨fun hd => ?_, hguarded.chain⟩
    exact absurd (congrArg some hd) hguarded.head

theorem Guarded.cons (hguarded : Guarded delimiter cs) (hc : c ≠ delimiter) :
    Guarded delimiter (c :: cs) :=
  ⟨fun h => hc (Option.some.inj h), hguarded.isChain_cons c⟩

/-- An escape guards whatever character comes after it. -/
theorem Guarded.escaped (hguarded : Guarded delimiter cs) (hdelimiter : delimiter ≠ escapeChar)
    (c : Char) : Guarded delimiter (escapeChar :: c :: cs) :=
  ⟨fun h => hdelimiter (Option.some.inj h).symm,
    List.isChain_cons_cons.mpr ⟨fun _ => rfl, hguarded.isChain_cons c⟩⟩

theorem Guarded.append {ds : List Char} (hcs : Guarded delimiter cs) (hds : Guarded delimiter ds) :
    Guarded delimiter (cs ++ ds) := by
  refine ⟨?_, List.isChain_append.mpr ⟨hcs.chain, hds.chain, ?_⟩⟩
  · rw [List.head?_append]
    cases cs with
    | nil => exact hds.head
    | cons c cs => exact hcs.head
  · intro c _ d hd hdelimiter
    rw [hdelimiter] at hd
    exact absurd hd hds.head

theorem guarded_escapeChars (hdelimiter : delimiter ≠ escapeChar) (hmark : delimiter ∈ marks)
    (cs : List Char) : Guarded delimiter (escapeChars marks cs) := by
  induction cs with
  | nil => exact ⟨by simp [Text.escapeChars], .nil⟩
  | cons c cs ih =>
    by_cases hc : c ∈ marks
    · rw [escapeChars_cons_of_mem hc]
      exact ih.escaped hdelimiter c
    · rw [escapeChars_cons_of_not_mem hc]
      exact ih.cons fun h => hc (h ▸ hmark)

theorem unescapeCommas_cons (hc : c ≠ escapeChar) (cs : List Char) :
    unescapeCommas (c :: cs) = c :: unescapeCommas cs := by
  cases cs with
  | nil => rfl
  | cons d cs => rw [unescapeCommas, if_neg fun h => hc h.1]

theorem unescapeCommas_escaped (hc : c ≠ ',') (cs : List Char) :
    unescapeCommas (escapeChar :: c :: cs) = escapeChar :: unescapeCommas (c :: cs) := by
  rw [unescapeCommas, if_neg fun h => hc h.2]

/-- Only commas are unescaped: before other marks the escapes stay. -/
theorem unescapeCommas_escapeChars (hcomma : ',' ∉ marks) (hescape : escapeChar ∉ cs) :
    unescapeCommas (escapeChars (',' :: marks) cs) = escapeChars marks cs := by
  induction cs with
  | nil => rfl
  | cons c cs ih =>
    obtain ⟨hc, hrest⟩ := List.ne_and_not_mem_of_not_mem_cons hescape
    by_cases hmark : c ∈ marks
    · have hne : c ≠ ',' := fun h => hcomma (h ▸ hmark)
      rw [escapeChars_cons_of_mem (.tail _ hmark), escapeChars_cons_of_mem hmark,
        unescapeCommas_escaped hne, unescapeCommas_cons hc.symm, ih hrest]
    · rw [escapeChars_cons_of_not_mem hmark]
      by_cases hne : c = ','
      · rw [hne, escapeChars_cons_of_mem List.mem_cons_self, unescapeCommas, if_pos ⟨rfl, rfl⟩,
          ih hrest]
      · rw [escapeChars_cons_of_not_mem (by simp [hne, hmark]), unescapeCommas_cons hc.symm,
          ih hrest]

theorem guarded_intercalate {mark : Char} (hmark : mark ≠ delimiter) {parts : List (List Char)}
    (hparts : ∀ part ∈ parts, Guarded delimiter part) :
    Guarded delimiter ([mark].intercalate parts) := by
  induction parts with
  | nil => exact ⟨by simp, .nil⟩
  | cons part parts ih =>
    obtain ⟨hpart, hrest⟩ := List.forall_mem_cons.mp hparts
    cases parts with
    | nil =>
      rw [List.intercalate_singleton]
      exact hpart
    | cons next parts =>
      rw [List.intercalate_cons_cons, List.append_assoc, List.singleton_append]
      exact hpart.append ((ih hrest).cons hmark)

/-- Joined parts end as one of them does. -/
theorem exists_getLast?_intercalate (separator : List Char) {parts : List (List Char)}
    (hparts : ∀ part ∈ parts, part ≠ []) (hsome : parts ≠ []) :
    ∃ part ∈ parts, (separator.intercalate parts).getLast? = part.getLast? := by
  induction parts with
  | nil => exact absurd rfl hsome
  | cons part parts ih =>
    cases parts with
    | nil => exact ⟨part, List.mem_cons_self, by rw [List.intercalate_singleton]⟩
    | cons next parts =>
      obtain ⟨_, hrest⟩ := List.forall_mem_cons.mp hparts
      obtain ⟨last, hlast, hends⟩ := ih hrest (List.cons_ne_nil _ _)
      refine ⟨last, .tail _ hlast, ?_⟩
      have hsome : last.getLast?.isSome := by
        rw [Option.isSome_iff_ne_none, Ne, List.getLast?_eq_none_iff]
        exact hrest last hlast
      rw [List.intercalate_cons_cons, List.getLast?_append, hends, Option.or_of_isSome hsome]

end

/-- A text that can be an item of a list as it is, but for its commas and bars. -/
structure IsItem (item : String) : Prop where
  some : item.toList ≠ []
  tight : Tight item.toList
  plain : escapeChar ∉ item.toList

/-- The items of a list that is written between bars: those of a comma list, with an escape before
    each comma and bar that belongs to an item. -/
def writeItems (items : List String) : String :=
  ",".intercalate (items.map (escape [',', '|']))

/-- The characters of a comma list of escaped texts. -/
theorem toList_intercalate_escape (marks : List Char) (texts : List String) :
    (",".intercalate (texts.map (escape marks))).toList =
      [','].intercalate (texts.map fun text => escapeChars marks text.toList) := by
  have hcomma : ",".toList = [','] := rfl
  rw [String.toList_intercalate, hcomma, List.map_map]
  congr 2
  funext text
  exact String.toList_ofList

theorem toList_writeItems (items : List String) :
    (writeItems items).toList =
      [','].intercalate (items.map fun item => escapeChars [',', '|'] item.toList) :=
  toList_intercalate_escape [',', '|'] items

/-- No bar in a list of items ends a rule. -/
theorem guarded_writeItems (items : List String) : Guarded '|' (writeItems items).toList := by
  rw [toList_writeItems]
  refine guarded_intercalate (by decide) ?_
  rw [List.forall_mem_map]
  exact fun item _ => guarded_escapeChars (by decide) (by decide) item.toList

variable {items : List String}

/-- A list of items ends as one of them does. -/
theorem exists_getLast?_writeItems (hsome : items ≠ [])
    (hitems : ∀ item ∈ items, item.toList ≠ []) :
    ∃ item ∈ items, (writeItems items).toList.getLast? = item.toList.getLast? := by
  have hparts : ∀ part ∈ items.map fun item => escapeChars [',', '|'] item.toList, part ≠ [] := by
    rw [List.forall_mem_map]
    intro item hitem hnil
    have hlast := getLast?_escapeChars [',', '|'] item.toList
    rw [hnil, List.getLast?_nil, eq_comm, List.getLast?_eq_none_iff] at hlast
    exact hitems item hitem hlast
  obtain ⟨part, hpart, hends⟩ := exists_getLast?_intercalate [','] hparts
    (by simpa using hsome)
  obtain ⟨item, hitem, rfl⟩ := List.mem_map.mp hpart
  exact ⟨item, hitem, by rw [toList_writeItems, hends, getLast?_escapeChars]⟩

theorem toList_writeItems_ne_nil (hsome : items ≠ [])
    (hitems : ∀ item ∈ items, item.toList ≠ []) : (writeItems items).toList ≠ [] := by
  obtain ⟨item, hitem, hends⟩ := exists_getLast?_writeItems hsome hitems
  intro hnil
  rw [hnil, List.getLast?_nil, eq_comm, List.getLast?_eq_none_iff] at hends
  exact hitems item hitem hends

/-- Reading the items takes back the escapes before commas, and no others. -/
theorem splitList_writeItems (hsome : items ≠ [])
    (hitems : ∀ item ∈ items, escapeChar ∉ item.toList) :
    splitList (writeItems items) = items.map (escape ['|']) := by
  have hparts : ∀ part ∈ items.map fun item => escapeChars [',', '|'] item.toList,
      Guarded ',' part ∧ part.getLast? ≠ some escapeChar := by
    rw [List.forall_mem_map]
    intro item hitem
    refine ⟨guarded_escapeChars (by decide) (by decide) _, ?_⟩
    rw [getLast?_escapeChars]
    exact fun hlast => hitems item hitem (List.mem_of_getLast? hlast)
  rw [splitList, toList_writeItems,
    splitChars_intercalate (by decide) hparts (by simpa using hsome), List.map_map]
  refine List.map_congr_left fun item hitem => ?_
  exact congrArg String.ofList (unescapeCommas_escapeChars (by decide) (hitems item hitem))

end FieldRules.Text
