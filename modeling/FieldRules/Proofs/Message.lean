import FieldRules.Message

namespace FieldRules

namespace Template

/-- A text in which every opening brace has a closing one somewhere after it. -/
def EachClosed (cs : List Char) : Prop := ∀ after, opening :: after <:+ cs → closing ∈ after

/-- What of a text has been read since an opening brace, with the brace. -/
def heldText : Option (List Char) → List Char
  | none => []
  | some held => opening :: held.reverse

variable {lookup : String → Option String} {held : Option (List Char)} {cs rest : List Char}
  {c : Char} {template front name text : String}

theorem eachClosed_cons_iff :
    EachClosed (c :: cs) ↔ (c = opening → closing ∈ cs) ∧ EachClosed cs := by
  simp only [EachClosed, List.suffix_cons_iff, List.cons.injEq]
  constructor
  · intro h
    exact ⟨fun hc => h cs (.inl ⟨hc.symm, rfl⟩), fun after hafter => h after (.inr hafter)⟩
  · rintro ⟨hc, hcs⟩ after (⟨rfl, rfl⟩ | hafter)
    · exact hc rfl
    · exact hcs after hafter

theorem eachClosed_append_closing (cs : List Char) : EachClosed (cs ++ [closing]) := by
  induction cs with
  | nil => simp [EachClosed, List.suffix_cons_iff, opening, closing]
  | cons c cs ih =>
    rw [List.cons_append, eachClosed_cons_iff]
    exact ⟨fun _ => by simp, ih⟩

/-- The pieces of a template are the whole of it, in order: they are what is written there. -/
theorem flatMap_segmentsFrom_of_unknown (hlookup : ∀ name, lookup name = none) :
    (segmentsFrom held cs).flatMap (fillSegment lookup) = heldText held ++ cs := by
  induction cs generalizing held with
  | nil =>
    cases held with
    | none => simp [segmentsFrom, heldText]
    | some held =>
      rw [segmentsFrom, List.flatMap_map]
      simp [heldText, fillSegment]
  | cons c cs ih =>
    cases held with
    | none =>
      rw [segmentsFrom]
      split
      · next hc => simp [ih, hc, heldText]
      · simp [ih, heldText, fillSegment]
    | some held =>
      rw [segmentsFrom]
      split
      · next hc => simp [ih, hc, heldText, fillSegment, hlookup]
      · simp [ih, heldText]

/-- Where every brace is closed, the next text begins outside of all slots: by induction on the text
    before it, in which an open slot is closed again. -/
theorem segmentsFrom_append (hclosed : EachClosed cs) (hheld : held ≠ none → closing ∈ cs) :
    segmentsFrom held (cs ++ rest) = segmentsFrom held cs ++ segmentsFrom none rest := by
  induction cs generalizing held with
  | nil =>
    cases held with
    | none => simp [segmentsFrom]
    | some held => simp at hheld
  | cons c cs ih =>
    obtain ⟨hc, hcs⟩ := eachClosed_cons_iff.mp hclosed
    cases held with
    | none =>
      simp only [List.cons_append, segmentsFrom]
      split
      · next hopening => exact ih hcs fun _ => hc hopening
      · rw [ih hcs (by simp), List.cons_append]
    | some held =>
      simp only [List.cons_append, segmentsFrom]
      split
      · rw [ih hcs (by simp), List.cons_append]
      · next hclosing =>
        have hmem := hheld (by simp)
        exact ih hcs fun _ => List.mem_of_ne_of_mem (Ne.symm hclosing) hmem

/-- The first closing brace after an opening one ends the name of a slot. -/
theorem segmentsFrom_closing {held name : List Char} (hname : closing ∉ name) :
    segmentsFrom (some held) (name ++ closing :: rest) =
      .slot (held.reverse ++ name) :: segmentsFrom none rest := by
  induction name generalizing held with
  | nil => simp [segmentsFrom]
  | cons c name ih =>
    rw [List.mem_cons, not_or] at hname
    rw [List.cons_append, segmentsFrom, if_neg (Ne.symm hname.1), ih hname.2]
    simp

theorem segments_slot (hname : closing ∉ name.toList) :
    segments (slot name) = [.slot name.toList] := by
  have hslot : (slot name).toList = opening :: (name.toList ++ closing :: []) := by simp [slot]
  rw [segments, hslot, segmentsFrom, if_pos rfl, segmentsFrom_closing hname]
  simp [segmentsFrom]

theorem fill_of_unknown (hlookup : ∀ name, lookup name = none) : fill lookup template = template := by
  rw [fill, segments, flatMap_segmentsFrom_of_unknown hlookup]
  simp [heldText]

theorem fill_append (hclosed : EachClosed front.toList) :
    fill lookup (front ++ template) = fill lookup front ++ fill lookup template := by
  simp only [fill, segments, String.toList_append]
  rw [segmentsFrom_append hclosed (by simp), List.flatMap_append, String.ofList_append]

theorem fill_slot (hname : closing ∉ name.toList) (hlookup : lookup name = some text) :
    fill lookup (slot name) = text := by
  simp [fill, segments_slot hname, fillSegment, hlookup]

theorem fill_append_slot (hclosed : EachClosed front.toList) (hname : closing ∉ name.toList)
    (hlookup : lookup name = some text) :
    fill lookup (front ++ slot name ++ template) =
      fill lookup front ++ text ++ fill lookup template := by
  have hslot : EachClosed (slot name).toList := by
    rw [slot, String.toList_ofList]
    exact eachClosed_append_closing _
  rw [String.append_assoc, fill_append hclosed, fill_append hslot, fill_slot hname hlookup,
    String.append_assoc]

example :
    fill (fun name => if name = "a" then some "x" else none)
      (slot "a" ++ " and " ++ slot "b" ++ " and \x7b") = "x and " ++ slot "b" ++ " and \x7b" := by
  rfl

/-- The slots of a template are filled in one pass. Without a known name the template stays as it
    is, braces that are not closed too. What follows a template of which every brace is closed is
    filled on its own. A known name has its text put in place of its slot as it is: braces in it
    mean nothing, there and with whatever stands before and after. -/
theorem fill_single_pass (lookup : String → Option String) :
    ((∀ name, lookup name = none) → ∀ template, fill lookup template = template) ∧
    (∀ front rest : String, EachClosed front.toList →
      fill lookup (front ++ rest) = fill lookup front ++ fill lookup rest) ∧
    ∀ name text, closing ∉ name.toList → lookup name = some text →
      fill lookup (slot name) = text ∧
      ∀ front rest : String, EachClosed front.toList →
        fill lookup (front ++ slot name ++ rest) =
          fill lookup front ++ text ++ fill lookup rest := by
  refine ⟨fun hlookup template => ?_, fun front rest hclosed => ?_,
    fun name text hname hlookup => ⟨?_, fun front rest hclosed => ?_⟩⟩
  · exact fill_of_unknown hlookup
  · exact fill_append hclosed
  · exact fill_slot hname hlookup
  · exact fill_append_slot hclosed hname hlookup

theorem fill_single_pass_slot :
    let lookup : String → Option String := fun name => if name = "a" then some (slot "b") else none
    fill (fun _ => none) (slot "a" ++ " and \x7b") = slot "a" ++ " and \x7b" ∧
    fill lookup (slot "a" ++ " and \x7b") = fill lookup (slot "a") ++ fill lookup " and \x7b" ∧
    fill lookup (slot "a") = slot "b" ∧
    fill lookup ("-" ++ slot "a" ++ "\x7d") = fill lookup "-" ++ slot "b" ++ fill lookup "\x7d" := by
  intro lookup
  have hclosed : EachClosed (slot "a").toList := eachClosed_append_closing [opening, 'a']
  have hplain : EachClosed "-".toList := by simp [EachClosed, List.suffix_cons_iff, opening]
  have hname : closing ∉ "a".toList := by simp [closing]
  obtain ⟨-, happend, hknown⟩ := fill_single_pass lookup
  obtain ⟨hslot, hcontext⟩ := hknown "a" (slot "b") hname (by simp [lookup])
  exact ⟨(fill_single_pass _).1 (fun _ => rfl) _, happend _ _ hclosed, hslot, hcontext _ _ hplain⟩

end Template

namespace Message

theorem lookup_filterMap_forTag? (message : Message) (tag : TypeTag) (tags : List TypeTag) :
    (tags.filterMap fun tag => (message.forTag? tag).map (tag, ·)).lookup tag =
      if tag ∈ tags then message.forTag? tag else none := by
  induction tags with
  | nil => simp
  | cons first tags ih =>
    by_cases hfirst : tag = first
    · subst hfirst
      cases htag : message.forTag? tag with
      | none => simp [htag, ih]
      | some template => simp [htag]
    · have hother : (tag == first) = false := beq_false_of_ne hfirst
      cases htag : message.forTag? first with
      | none => simp [htag, ih, hfirst]
      | some template => simp [htag, ih, hfirst, List.lookup_cons, hother]

/-- The template of a message for a type of value is found in its list of templates. -/
theorem lookup_templates (message : Message) (tag : TypeTag) :
    message.templates.lookup tag = message.forTag? tag := by
  have htag : tag ∈ TypeTag.all := by cases tag <;> simp [TypeTag.all]
  rw [templates, lookup_filterMap_forTag?, if_pos htag]

end Message

end FieldRules
