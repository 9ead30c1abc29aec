import FieldRules.Proofs.Text.Entities

namespace FieldRules.Text

/-- A `<` and what follows it up to the first `>`. -/
def IsTag (cs : List Char) : Prop := ∃ inner, '>' ∉ inner ∧ cs = '<' :: (inner ++ ['>'])

/-- Whether a `>` comes anywhere after a `<`. -/
def HasTag (cs : List Char) : Prop :=
  ∃ before middle after, cs = before ++ '<' :: (middle ++ '>' :: after)

section

variable {c : Char} {cs rest plain tag inner : List Char} {parts : List (List Char × List Char)}

theorem hasTag_iff_sublist : HasTag cs ↔ ['<', '>'].Sublist cs := by
  constructor
  · rintro ⟨before, middle, after, rfl⟩
    have hlast : ['>'].Sublist (middle ++ '>' :: after) := List.singleton_sublist.mpr (by simp)
    exact (hlast.cons_cons '<').trans (List.sublist_append_right before _)
  · intro hsublist
    obtain ⟨front, back, rfl, hfront, hback⟩ := List.cons_sublist_iff.mp hsublist
    obtain ⟨before, middle, rfl⟩ := List.append_of_mem hfront
    obtain ⟨middle', after, rfl⟩ := List.append_of_mem (List.singleton_sublist.mp hback)
    exact ⟨before, middle ++ middle', after, by simp⟩

/-- Nothing that is left out makes a tag. -/
theorem HasTag.of_sublist (hrest : HasTag rest) (hsublist : rest.Sublist cs) : HasTag cs :=
  hasTag_iff_sublist.mpr ((hasTag_iff_sublist.mp hrest).trans hsublist)

theorem hasTag_lt_cons : HasTag ('<' :: cs) ↔ '>' ∈ cs := by
  rw [hasTag_iff_sublist, List.cons_sublist_cons, List.singleton_sublist]

theorem hasTag_cons (hc : c ≠ '<') : HasTag (c :: cs) ↔ HasTag cs := by
  rw [hasTag_iff_sublist, hasTag_iff_sublist, List.sublist_cons_iff, or_iff_left]
  rintro ⟨_, hsame, -⟩
  exact hc (List.cons.inj hsame).1.symm

theorem hasTag_append (hplain : '<' ∉ plain) : HasTag (plain ++ cs) ↔ HasTag cs := by
  induction plain with
  | nil => rfl
  | cons c plain ih =>
    rw [List.mem_cons, not_or] at hplain
    rw [List.cons_append, hasTag_cons (Ne.symm hplain.1), ih hplain.2]

/-- A text without a tag has no `<`, or no `>` after its first `<`. -/
theorem not_hasTag_iff : ¬HasTag cs ↔
    '<' ∉ cs ∨ ∃ plain back, cs = plain ++ '<' :: back ∧ '<' ∉ plain ∧ '>' ∉ back := by
  constructor
  · intro hcs
    refine or_iff_not_imp_left.mpr fun hmem => ?_
    obtain ⟨plain, back, rfl, hplain⟩ := List.eq_append_cons_of_mem (not_not.mp hmem)
    rw [hasTag_append hplain, hasTag_lt_cons] at hcs
    exact ⟨plain, back, rfl, hplain, hcs⟩
  · rintro (hplain | ⟨plain, back, rfl, hplain, hback⟩)
    · rintro ⟨before, middle, after, rfl⟩
      simp at hplain
    · rwa [hasTag_append hplain, hasTag_lt_cons]

theorem stripTagsFrom_plain (hplain : '<' ∉ plain) (cs : List Char) :
    stripTagsFrom none (plain ++ cs) = plain ++ stripTagsFrom none cs := by
  induction plain with
  | nil => rfl
  | cons c plain ih =>
    rw [List.mem_cons, not_or] at hplain
    rw [List.cons_append, stripTagsFrom, if_neg (Ne.symm hplain.1), ih hplain.2, List.cons_append]

/-- While a `<` is open, all is held. -/
theorem stripTagsFrom_inner (held : List Char) (hinner : '>' ∉ inner) (cs : List Char) :
    stripTagsFrom (some held) (inner ++ cs) =
      stripTagsFrom (some (inner.reverse ++ held)) cs := by
  induction inner generalizing held with
  | nil => rfl
  | cons c inner ih =>
    rw [List.mem_cons, not_or] at hinner
    rw [List.cons_append, stripTagsFrom, if_neg (Ne.symm hinner.1), ih (c :: held) hinner.2]
    simp

theorem stripTagsFrom_tag (htag : IsTag tag) (cs : List Char) :
    stripTagsFrom none (tag ++ cs) = stripTagsFrom none cs := by
  obtain ⟨inner, hinner, rfl⟩ := htag
  rw [List.cons_append, stripTagsFrom, if_pos rfl, List.append_assoc,
    stripTagsFrom_inner ['<'] hinner, List.singleton_append, stripTagsFrom, if_pos rfl]

theorem stripTagsFrom_of_not_hasTag (hcs : ¬HasTag cs) : stripTagsFrom none cs = cs := by
  rcases not_hasTag_iff.mp hcs with hplain | ⟨plain, back, rfl, hplain, hback⟩
  · have hscan := stripTagsFrom_plain hplain []
    rwa [List.append_nil, stripTagsFrom, List.append_nil] at hscan
  · have hheld := stripTagsFrom_inner ['<'] hback []
    rw [List.append_nil, stripTagsFrom] at hheld
    rw [stripTagsFrom_plain hplain, stripTagsFrom, if_pos rfl, hheld]
    simp

end

/-- A text cut into tags, each with what stands before it, and a rest that has no tag. No `<` stands
    before a tag, so the tags are the ones that a search from the left finds. -/
structure TagDivision where
  parts : List (List Char × List Char)
  rest : List Char
  parts_tag : ∀ part ∈ parts, '<' ∉ part.1 ∧ IsTag part.2
  rest_plain : ¬HasTag rest

namespace TagDivision

def text (division : TagDivision) : List Char :=
  division.parts.flatMap (fun part => part.1 ++ part.2) ++ division.rest

/-- The text without its tags. -/
def kept (division : TagDivision) : List Char :=
  division.parts.flatMap Prod.fst ++ division.rest

/-- Every text can be cut so: by induction on its length, up to the first tag. -/
theorem exists_text_eq (cs : List Char) : ∃ division : TagDivision, division.text = cs := by
  induction hlength : cs.length using Nat.strongRecOn generalizing cs with
  | ind n ih =>
    by_cases hcs : HasTag cs
    · have hmem : '<' ∈ cs := by
        obtain ⟨before, middle, after, rfl⟩ := hcs
        simp
      obtain ⟨plain, back, rfl, hplain⟩ := List.eq_append_cons_of_mem hmem
      rw [hasTag_append hplain, hasTag_lt_cons] at hcs
      obtain ⟨inner, after, rfl, hinner⟩ := List.eq_append_cons_of_mem hcs
      have hshorter : after.length < n := by
        rw [← hlength]
        simp only [List.length_append, List.length_cons]
        omega
      obtain ⟨division, rfl⟩ := ih after.length hshorter after rfl
      have hfirst : '<' ∉ plain ∧ IsTag ('<' :: (inner ++ ['>'])) :=
        ⟨hplain, inner, hinner, rfl⟩
      refine ⟨⟨(plain, '<' :: (inner ++ ['>'])) :: division.parts, division.rest,
        List.forall_mem_cons.mpr ⟨hfirst, division.parts_tag⟩, division.rest_plain⟩, ?_⟩
      simp [text]
    · exact ⟨⟨[], cs, by simp, hcs⟩, rfl⟩

/-- What precedes the tags has no `<`, so that none comes before what is kept of the rest. -/
theorem not_hasTag_kept (division : TagDivision) : ¬HasTag division.kept := by
  have hplain : '<' ∉ division.parts.flatMap Prod.fst := by
    intro hmem
    obtain ⟨part, hpart, hlt⟩ := List.mem_flatMap.mp hmem
    exact (division.parts_tag part hpart).1 hlt
  rw [kept, hasTag_append hplain]
  exact division.rest_plain

/-- The scan drops the tags and keeps all else. -/
theorem stripTagsFrom_text (division : TagDivision) :
    stripTagsFrom none division.text = division.kept := by
  obtain ⟨parts, rest, hparts, hrest⟩ := division
  simp only [text, kept]
  induction parts with
  | nil => exact stripTagsFrom_of_not_hasTag hrest
  | cons part parts ih =>
    obtain ⟨⟨hplain, htag⟩, hparts⟩ := List.forall_mem_cons.mp hparts
    rw [List.flatMap_cons, List.flatMap_cons, List.append_assoc, List.append_assoc,
      List.append_assoc, stripTagsFrom_plain hplain, stripTagsFrom_tag htag, ih hparts]

end TagDivision

section

variable {s : String}

/-- Whichever way a text is cut into tags and what stands between them, the latter is left. -/
theorem toList_stripTags {division : TagDivision} (htext : division.text = s.toList) :
    (stripTags s).toList = division.kept := by
  rw [stripTags, String.toList_ofList, ← htext, division.stripTagsFrom_text]

theorem not_hasTag_stripTags (s : String) : ¬HasTag (stripTags s).toList := by
  obtain ⟨division, htext⟩ := TagDivision.exists_text_eq s.toList
  rw [toList_stripTags htext]
  exact division.not_hasTag_kept

theorem stripTags_eq_self_iff : stripTags s = s ↔ ¬HasTag s.toList := by
  constructor
  · intro hsame
    rw [← hsame]
    exact not_hasTag_stripTags s
  · intro hs
    rw [stripTags, stripTagsFrom_of_not_hasTag hs, String.ofList_toList]

theorem stripTags_stripTags (s : String) : stripTags (stripTags s) = stripTags s :=
  stripTags_eq_self_iff.mpr (not_hasTag_stripTags s)

/-- A `<` and a `>` that entities are dropped around make no tag that was not there before. -/
theorem HasTag.of_stripEntities (hs : HasTag (stripEntities s).toList) : HasTag s.toList :=
  hs.of_sublist (strips_stripEntities s).sublist

end

end FieldRules.Text
