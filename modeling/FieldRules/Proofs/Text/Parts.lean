import FieldRules.Proofs.Text.Escape

namespace FieldRules.Text

/-- A text in parts: joined by the delimiter they are the text again, a delimiter stands in them
    only directly after an escape, and only the last one may end with an escape, which would keep a
    delimiter after it in the part. There is at least one part, although no part at all would be
    joined to the empty text too. -/
structure IsSplit (delimiter : Char) (cs : List Char) (parts : List (List Char)) : Prop where
  joined : [delimiter].intercalate parts = cs
  guarded : ∀ part ∈ parts, Guarded delimiter part
  closed : ∀ part ∈ parts.dropLast, part.getLast? ≠ some escapeChar
  some : parts ≠ []

section

variable {delimiter : Char} {cs : List Char} {parts : List (List Char)}

theorem intercalate_extendFirst (separator front : List Char) (hsome : parts ≠ []) :
    separator.intercalate (extendFirst front parts) = front ++ separator.intercalate parts := by
  obtain ⟨part, parts, rfl⟩ := List.exists_cons_of_ne_nil hsome
  cases parts with
  | nil => rw [extendFirst, List.intercalate_singleton, List.intercalate_singleton]
  | cons next parts =>
    rw [extendFirst, List.intercalate_cons_cons, List.intercalate_cons_cons, List.append_assoc,
      List.append_assoc, List.append_assoc]

/-- Splitting loses nothing, whatever the delimiter is: joining undoes it. -/
theorem intercalate_splitChars (delimiter : Char) (cs : List Char) :
    [delimiter].intercalate (splitChars delimiter cs) = cs := by
  fun_induction splitChars delimiter cs with
  | case1 => rfl
  | case2 => rfl
  | case3 => rfl
  | case4 c d rest hpair ih =>
    rw [intercalate_extendFirst _ _ (splitChars_ne_nil delimiter rest), ih]
    rfl
  | case5 d rest hpair ih =>
    rw [List.intercalate_cons_of_ne_nil (splitChars_ne_nil delimiter (d :: rest)), ih]
    rfl
  | case6 c d rest hpair hc ih =>
    rw [intercalate_extendFirst _ _ (splitChars_ne_nil delimiter (d :: rest)), ih]
    rfl

theorem guarded_nil : Guarded delimiter [] := ⟨by simp, .nil⟩

theorem IsSplit.nil : IsSplit delimiter [] [[]] :=
  ⟨rfl, List.forall_mem_singleton.mpr guarded_nil, List.forall_mem_nil _, List.cons_ne_nil _ _⟩

theorem IsSplit.cut (hsplit : IsSplit delimiter cs parts) :
    IsSplit delimiter (delimiter :: cs) ([] :: parts) where
  joined := by
    rw [List.intercalate_cons_of_ne_nil hsplit.some, hsplit.joined]
    rfl
  guarded := List.forall_mem_cons.mpr ⟨guarded_nil, hsplit.guarded⟩
  closed := by
    rw [List.dropLast_cons_of_ne_nil hsplit.some]
    exact List.forall_mem_cons.mpr ⟨by simp, hsplit.closed⟩
  some := List.cons_ne_nil _ _

/-- Something may be put before the first part as long as this part stays guarded, and does not end
    with an escape unless it is the last one. -/
theorem IsSplit.extendFirst (hsplit : IsSplit delimiter cs parts) (front : List Char)
    (hguarded : ∀ part, Guarded delimiter part → Guarded delimiter (front ++ part))
    (hend : front.getLast? = Option.some escapeChar → cs.head? ≠ Option.some delimiter) :
    IsSplit delimiter (front ++ cs) (extendFirst front parts) := by
  have hjoined := intercalate_extendFirst [delimiter] front hsplit.some
  rw [hsplit.joined] at hjoined
  obtain ⟨part, parts, rfl⟩ := List.exists_cons_of_ne_nil hsplit.some
  obtain ⟨hpart, hparts⟩ := List.forall_mem_cons.mp hsplit.guarded
  refine ⟨hjoined, List.forall_mem_cons.mpr ⟨hguarded part hpart, hparts⟩, ?_,
    List.cons_ne_nil _ _⟩
  cases parts with
  | nil => exact List.forall_mem_nil _
  | cons next parts =>
    have hclosed := hsplit.closed
    rw [List.dropLast_cons_cons] at hclosed
    obtain ⟨hlast, hclosed⟩ := List.forall_mem_cons.mp hclosed
    rw [Text.extendFirst, List.dropLast_cons_cons]
    refine List.forall_mem_cons.mpr ⟨?_, hclosed⟩
    cases part with
    | nil =>
      -- An empty first part that is not the last one stands before a delimiter.
      have hhead : cs.head? = Option.some delimiter := by
        rw [← hsplit.joined, List.intercalate_cons_cons]
        rfl
      rw [List.append_nil]
      exact fun hescape => hend hescape hhead
    | cons d part => rwa [List.getLast?_append_of_ne_nil _ (List.cons_ne_nil _ _)]

/-- The parts are found by going along the text: each step of the split adds to them what the
    recursion puts before the rest. -/
theorem isSplit_splitChars (hdelimiter : delimiter ≠ escapeChar) (cs : List Char) :
    IsSplit delimiter cs (splitChars delimiter cs) := by
  fun_induction splitChars delimiter cs with
  | case1 => exact .nil
  | case2 => exact IsSplit.nil.cut
  | case3 c hc => exact IsSplit.nil.extendFirst [c] (fun _ hpart => hpart.cons hc) (by simp)
  | case4 c d rest hpair ih =>
    obtain ⟨rfl, rfl⟩ := hpair
    refine ih.extendFirst [escapeChar, d] (fun _ hpart => hpart.escaped hdelimiter d)
      fun hescape => ?_
    exact absurd (Option.some.inj hescape) hdelimiter
  | case5 d rest hpair ih => exact ih.cut
  | case6 c d rest hpair hc ih =>
    refine ih.extendFirst [c] (fun _ hpart => hpart.cons hc) fun hescape hhead => hpair ?_
    exact ⟨Option.some.inj hescape, Option.some.inj hhead⟩

theorem isSplit_iff (hdelimiter : delimiter ≠ escapeChar) :
    IsSplit delimiter cs parts ↔ parts = splitChars delimiter cs := by
  constructor
  · intro hsplit
    rw [← hsplit.joined, splitChars_intercalate_of_closed hdelimiter hsplit.guarded hsplit.closed
      hsplit.some]
  · rintro rfl
    exact isSplit_splitChars hdelimiter cs

end

/-- Splitting at a delimiter is undone by joining, also at the escape itself. At any other delimiter
    there is just one way to split a text, and this is the one. -/
theorem splitEscaped_unique (delimiter : Char) (s : String) :
    (String.singleton delimiter).intercalate (splitEscaped delimiter s) = s ∧
      (delimiter ≠ escapeChar → ∀ parts : List String,
        IsSplit delimiter s.toList (parts.map String.toList) ↔
          parts = splitEscaped delimiter s) := by
  have htexts : (splitEscaped delimiter s).map String.toList = splitChars delimiter s.toList := by
    rw [splitEscaped, List.map_map]
    exact (List.map_congr_left fun part _ => String.toList_ofList).trans (List.map_id _)
  refine ⟨?_, fun hdelimiter parts => ?_⟩
  · rw [← String.toList_inj, String.toList_intercalate, htexts, String.toList_singleton,
      intercalate_splitChars]
  · rw [isSplit_iff hdelimiter, ← htexts, List.map_inj_right fun _ _ => String.toList_inj.mp]

theorem splitEscaped_unique_bars :
    '|' ≠ escapeChar ∧
      IsSplit '|' "a\\\\|b||c\\".toList (["a\\\\|b", "", "c\\"].map String.toList) ∧
      ["a\\\\|b", "", "c\\"] = splitEscaped '|' "a\\\\|b||c\\" := by
  have hdelimiter : '|' ≠ escapeChar := by decide
  have hparts : ["a\\\\|b", "", "c\\"] = splitEscaped '|' "a\\\\|b||c\\" := by decide
  exact ⟨hdelimiter, ((splitEscaped_unique '|' _).2 hdelimiter _).mpr hparts, hparts⟩

section

variable {cs : List Char} {delimiter : Char} {parts : List (List Char)}

/-- A delimiter after a guarded text that ends with an escape is escaped. -/
theorem Guarded.append_delimiter (hguarded : Guarded delimiter cs)
    (hend : cs.getLast? = some escapeChar) : Guarded delimiter (cs ++ [delimiter]) := by
  refine ⟨?_, List.isChain_append.mpr ⟨hguarded.chain, .singleton delimiter, ?_⟩⟩
  · have hsome : cs ≠ [] := by
      rintro rfl
      cases hend
    rw [List.head?_append_of_ne_nil _ hsome]
    exact hguarded.head
  · intro c hc _ _ _
    rw [hend] at hc
    exact (Option.some.inj hc).symm

theorem length_extendFirst {front : List Char} (hsome : parts ≠ []) :
    (extendFirst front parts).length = parts.length := by
  obtain ⟨part, parts, rfl⟩ := List.exists_cons_of_ne_nil hsome
  rfl

/-- Each escape at the end of a part makes one of this part and the next: by induction on the
    parts. -/
theorem length_splitChars_intercalate (hdelimiter : delimiter ≠ escapeChar)
    (hparts : ∀ part ∈ parts, Guarded delimiter part) (hsome : parts ≠ []) :
    (splitChars delimiter ([delimiter].intercalate parts)).length +
      parts.dropLast.countP (fun part => part.getLast? = some escapeChar) = parts.length := by
  induction parts with
  | nil => exact absurd rfl hsome
  | cons part parts ih =>
    obtain ⟨hguarded, hrest⟩ := List.forall_mem_cons.mp hparts
    cases parts with
    | nil =>
      rw [List.intercalate_singleton, splitChars_of_guarded hdelimiter hguarded]
      rfl
    | cons next parts =>
      have hlength := ih hrest (List.cons_ne_nil _ _)
      have hlast : (part ++ [delimiter]).getLast? ≠ some escapeChar := by
        rw [List.getLast?_concat]
        exact fun h => hdelimiter (Option.some.inj h)
      rw [List.length_cons, ← hlength, List.intercalate_cons_cons, List.dropLast_cons_cons,
        List.countP_cons]
      by_cases hend : part.getLast? = some escapeChar
      · rw [splitChars_append hdelimiter (hguarded.append_delimiter hend) hlast,
          length_extendFirst (splitChars_ne_nil _ _), if_pos (decide_eq_true hend), Nat.add_assoc]
      · rw [List.append_assoc, List.singleton_append, splitChars_append hdelimiter hguarded hend,
          length_extendFirst (splitChars_ne_nil _ _), splitChars_delimiter hdelimiter,
          List.length_cons, if_neg (by simpa using hend), Nat.add_right_comm]
        rfl

/-- Taking back the escapes before commas gives back every text, whatever escapes it has of its
    own. -/
theorem unescapeCommas_escapeCommas (cs : List Char) :
    unescapeCommas (escapeChars [','] cs) = cs := by
  induction cs with
  | nil => rfl
  | cons c cs ih =>
    by_cases hcomma : c = ','
    · rw [hcomma, escapeChars_cons_of_mem List.mem_cons_self, unescapeCommas, if_pos ⟨rfl, rfl⟩, ih]
    · rw [escapeChars_cons_of_not_mem (by simpa using hcomma)]
      by_cases hescape : c = escapeChar
      · have hguarded : Guarded ',' (escapeChars [','] cs) :=
          guarded_escapeChars (by decide) List.mem_cons_self cs
        rw [hescape]
        cases hrest : escapeChars [','] cs with
        | nil =>
          rw [hrest] at ih
          rw [← ih]
          rfl
        | cons d rest =>
          have hd : d ≠ ',' := fun h => hguarded.head (by rw [hrest, h]; rfl)
          rw [unescapeCommas_escaped hd, ← hrest, ih]
      · rw [unescapeCommas_cons hescape, ih]

end

section

variable {items : List String}

theorem guarded_of_mem_escaped :
    ∀ part ∈ items.map fun item => escapeChars [','] item.toList, Guarded ',' part := by
  rw [List.forall_mem_map]
  exact fun item _ => guarded_escapeChars (by decide) List.mem_cons_self item.toList

/-- A list of as many items as were written has been split at all the commas between them. -/
theorem closed_of_length_splitList (hsome : items ≠ [])
    (hsame : (splitList (",".intercalate (items.map (escape [','])))).length = items.length) :
    ∀ item ∈ items.dropLast, item.toList.getLast? ≠ some escapeChar := by
  have hcount := length_splitChars_intercalate (by decide) guarded_of_mem_escaped
    (List.map_eq_nil_iff.not.mpr hsome)
  rw [splitList, List.length_map, toList_intercalate_escape] at hsame
  rw [hsame, List.length_map, ← List.map_dropLast, List.countP_map] at hcount
  have hzero := List.countP_eq_zero.mp (Nat.add_eq_left.mp hcount)
  intro item hitem hend
  refine hzero item hitem (decide_eq_true ?_)
  rw [getLast?_escapeChars, hend]

theorem splitList_of_closed (hsome : items ≠ [])
    (hends : ∀ item ∈ items.dropLast, item.toList.getLast? ≠ some escapeChar) :
    splitList (",".intercalate (items.map (escape [',']))) = items := by
  have hclosed : ∀ part ∈ (items.map fun item => escapeChars [','] item.toList).dropLast,
      part.getLast? ≠ some escapeChar := by
    rw [← List.map_dropLast, List.forall_mem_map]
    intro item hitem
    rw [getLast?_escapeChars]
    exact hends item hitem
  rw [splitList, toList_intercalate_escape, splitChars_intercalate_of_closed (by decide)
    guarded_of_mem_escaped hclosed (List.map_eq_nil_iff.not.mpr hsome), List.map_map]
  refine (List.map_congr_left fun item _ => ?_).trans (List.map_id items)
  exact (congrArg String.ofList (unescapeCommas_escapeCommas item.toList)).trans
    String.ofList_toList

end

/-- Reading a comma list undoes writing it with its commas escaped just if no item but the last ends
    with an escape, which would keep the comma after it too. Blanks around the items are trimmed or
    not. -/
theorem splitList_escaped_iff {items : List String} (hsome : items ≠ []) :
    (splitList (",".intercalate (items.map (escape [',']))) = items ↔
      ∀ item ∈ items.dropLast, item.toList.getLast? ≠ some escapeChar) ∧
    (splitTrimmedList (",".intercalate (items.map (escape [',']))) = items.map trim ↔
      ∀ item ∈ items.dropLast, item.toList.getLast? ≠ some escapeChar) := by
  refine ⟨⟨fun hsame => ?_, splitList_of_closed hsome⟩, fun hsame => ?_, fun hends => ?_⟩
  · exact closed_of_length_splitList hsome (congrArg List.length hsame)
  · have hlength := congrArg List.length hsame
    rw [splitTrimmedList, List.length_map, List.length_map] at hlength
    exact closed_of_length_splitList hsome hlength
  · rw [splitTrimmedList, splitList_of_closed hsome hends]

theorem splitList_escaped_iff_backslashes :
    let items := [" a\\,b ", "", "c\\"]
    items ≠ [] ∧ splitList " a\\\\,b ,,c\\" = items ∧
      splitTrimmedList " a\\\\,b ,,c\\" = ["a\\,b", "", "c\\"] ∧
      splitList "a\\,b" ≠ ["a\\", "b"] := by
  intro items
  have hsome : items ≠ [] := List.cons_ne_nil _ _
  have hends : ∀ item ∈ items.dropLast, item.toList.getLast? ≠ some escapeChar := by decide
  have hopen : ["a\\", "b"] ≠ [] := List.cons_ne_nil _ _
  obtain ⟨hlist, htrimmed⟩ := splitList_escaped_iff hsome
  obtain ⟨hlist', -⟩ := splitList_escaped_iff hopen
  exact ⟨hsome, hlist.mpr hends, htrimmed.mpr hends,
    fun hsame => absurd (hlist'.mp hsame) (by decide)⟩

end FieldRules.Text
