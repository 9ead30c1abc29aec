import FieldRules.Proofs.Text.Split
import FieldRules.Text.Markup
import Mathlib.Data.List.Infix
import Mathlib.Logic.Function.Iterate

namespace FieldRules.Text

/-- An ampersand, a name of one or more letters, and a semicolon. -/
def IsEntity (cs : List Char) : Prop :=
  ∃ name, name ≠ [] ∧ (∀ c ∈ name, isEntityLetter c = true) ∧ cs = '&' :: (name ++ [';'])

/-- Whether an entity stands anywhere in a text. -/
def HasEntity (cs : List Char) : Prop := ∃ entity, IsEntity entity ∧ entity <:+: cs

/-- Whether a text begins with an entity. -/
def BeginsEntity (cs : List Char) : Prop := ∃ entity, IsEntity entity ∧ entity <+: cs

/-- What a scan from the left leaves of a text: each entity that begins where the scan has come to
    is dropped, and any other character is kept. -/
inductive Strips : List Char → List Char → Prop
  | nil : Strips [] []
  | keep {c : Char} {cs rest : List Char} (hplain : ¬BeginsEntity (c :: cs))
      (hrest : Strips cs rest) : Strips (c :: cs) (c :: rest)
  | drop {entity cs rest : List Char} (hentity : IsEntity entity) (hrest : Strips cs rest) :
      Strips (entity ++ cs) rest

/-- Whether some ampersand and semicolon would make an entity of the letters between them, if they
    were not interrupted by other entities. -/
def HasInterruptedEntity (cs : List Char) : Prop :=
  ∃ before middle after name, cs = before ++ '&' :: (middle ++ ';' :: after) ∧ name ≠ [] ∧
    (∀ c ∈ name, isEntityLetter c = true) ∧ middle ≠ name ∧ Strips middle name

section

variable {c : Char} {cs tail name rest rest' entity : List Char}

theorem isEntityLetter_amp : isEntityLetter '&' = false := by decide

theorem isEntityLetter_semicolon : isEntityLetter ';' = false := by decide

theorem IsEntity.length_pos (hentity : IsEntity entity) : 0 < entity.length := by
  obtain ⟨name, -, -, rfl⟩ := hentity
  simp

theorem not_hasEntity_nil : ¬HasEntity [] := by
  rintro ⟨entity, hentity, hinfix⟩
  have hlength := hentity.length_pos
  simp_all

theorem hasEntity_cons : HasEntity (c :: cs) ↔ BeginsEntity (c :: cs) ∨ HasEntity cs := by
  unfold HasEntity BeginsEntity
  simp only [List.infix_cons_iff, and_or_left, exists_or]

theorem beginsEntity_cons_iff :
    BeginsEntity (c :: cs) ↔ c = '&' ∧ ∃ name after, name ≠ [] ∧
      (∀ d ∈ name, isEntityLetter d = true) ∧ cs = name ++ ';' :: after := by
  constructor
  · rintro ⟨entity, ⟨name, hname, hletters, rfl⟩, after, hcs⟩
    obtain ⟨rfl, rfl⟩ := List.cons.inj hcs.symm
    exact ⟨rfl, name, after, hname, hletters, by simp⟩
  · rintro ⟨rfl, name, after, hname, hletters, rfl⟩
    exact ⟨_, ⟨name, hname, hletters, rfl⟩, after, by simp⟩

/-- No entity begins inside the name of another one. -/
theorem not_beginsEntity_of_letter (hc : isEntityLetter c = true) : ¬BeginsEntity (c :: cs) := by
  rw [beginsEntity_cons_iff]
  rintro ⟨rfl, -⟩
  simp [isEntityLetter_amp] at hc

/-- Where only letters are left, the scan stands between two entities afterwards. -/
theorem Strips.append_of_letters (hcs : Strips cs name)
    (hletters : ∀ d ∈ name, isEntityLetter d = true) (htail : Strips tail rest) :
    Strips (cs ++ tail) (name ++ rest) := by
  induction hcs with
  | nil => exact htail
  | keep _ _ ih =>
    obtain ⟨hc, hname⟩ := List.forall_mem_cons.mp hletters
    exact .keep (not_beginsEntity_of_letter hc) (ih hname)
  | drop hentity _ ih => simpa using Strips.drop hentity (ih hletters)

theorem strips_letters (hletters : ∀ d ∈ name, isEntityLetter d = true) : Strips name name := by
  induction name with
  | nil => exact .nil
  | cons d name ih =>
    obtain ⟨hd, hname⟩ := List.forall_mem_cons.mp hletters
    exact .keep (not_beginsEntity_of_letter hd) (ih hname)

/-- While letters are held, the scan goes on to the end of the name. -/
theorem stripEntitiesFrom_letters (held : List Char)
    (hletters : ∀ d ∈ name, isEntityLetter d = true) (cs : List Char) :
    stripEntitiesFrom (some held) (name ++ cs) =
      stripEntitiesFrom (some (name.reverse ++ held)) cs := by
  induction name generalizing held with
  | nil => rfl
  | cons d name ih =>
    obtain ⟨hd, hname⟩ := List.forall_mem_cons.mp hletters
    have hamp : d ≠ '&' := by
      rintro rfl
      simp [isEntityLetter_amp] at hd
    rw [List.cons_append, stripEntitiesFrom, if_neg hamp, if_pos hd, ih (d :: held) hname]
    simp

/-- What comes after the letters decides whether they are the name of an entity. -/
theorem beginsEntity_name_iff (hletters : ∀ d ∈ name, isEntityLetter d = true)
    (hend : ∀ d ∈ cs.head?, isEntityLetter d = false) :
    BeginsEntity ('&' :: (name ++ cs)) ↔ name ≠ [] ∧ cs.head? = some ';' := by
  rw [beginsEntity_cons_iff]
  constructor
  · rintro ⟨-, other, after, hother, hothers, hsame⟩
    have hname : name = other := by
      have hwhile := congrArg (List.takeWhile isEntityLetter) hsame
      rwa [takeWhile_append hletters hend,
        takeWhile_append hothers (by simp [isEntityLetter_semicolon])] at hwhile
    subst hname
    rw [List.append_cancel_left hsame]
    exact ⟨hother, rfl⟩
  · rintro ⟨hname, hhead⟩
    cases cs with
    | nil => cases hhead
    | cons d after =>
      obtain rfl : d = ';' := by simpa using hhead
      exact ⟨rfl, name, after, hname, hletters, rfl⟩

/-- A name that has come to its end is dropped with the entity, or else it stays, with the ampersand
    before it. -/
theorem stripEntitiesFrom_name (hletters : ∀ d ∈ name, isEntityLetter d = true)
    (hend : ∀ d ∈ cs.head?, isEntityLetter d = false) :
    stripEntitiesFrom none ('&' :: (name ++ cs)) =
      if name ≠ [] ∧ cs.head? = some ';' then stripEntitiesFrom none cs.tail
      else '&' :: (name ++ stripEntitiesFrom none cs) := by
  have hheld : stripEntitiesFrom none ('&' :: (name ++ cs)) =
      stripEntitiesFrom (some (name.reverse ++ ['&'])) cs := by
    rw [stripEntitiesFrom, if_pos rfl, stripEntitiesFrom_letters ['&'] hletters]
  rw [hheld]
  cases cs with
  | nil => simp [stripEntitiesFrom]
  | cons d cs =>
    have hd : isEntityLetter d = false := hend d rfl
    by_cases hamp : d = '&'
    · subst hamp
      simp [stripEntitiesFrom]
    · by_cases hclosed : d = ';' ∧ name ≠ []
      · simp [stripEntitiesFrom, hclosed, isEntityLetter_semicolon, List.length_pos_iff]
      · have hopen : ¬(name ≠ [] ∧ (d :: cs).head? = some ';') := by
          simpa [and_comm] using hclosed
        have hheldOpen : ¬(d = ';' ∧ 1 < (name.reverse ++ ['&']).length) := by
          simpa [List.length_pos_iff] using hclosed
        rw [if_neg hopen, stripEntitiesFrom, stripEntitiesFrom, if_neg hamp, if_neg hamp, hd,
          if_neg Bool.false_ne_true, if_neg hheldOpen]
        simp

/-- The scan drops the entities and keeps all else: by induction on the length of the text, as it
    takes a whole name at a time. -/
theorem strips_stripEntitiesFrom (cs : List Char) : Strips cs (stripEntitiesFrom none cs) := by
  induction hlength : cs.length using Nat.strongRecOn generalizing cs with
  | ind n ih =>
    subst hlength
    cases cs with
    | nil => exact .nil
    | cons c cs =>
      by_cases hamp : c = '&'
      · subst hamp
        obtain ⟨name, tail, rfl, hletters, hend⟩ : ∃ name tail, cs = name ++ tail ∧
            (∀ d ∈ name, isEntityLetter d = true) ∧
            ∀ d ∈ tail.head?, isEntityLetter d = false := by
          refine ⟨cs.takeWhile isEntityLetter, cs.dropWhile isEntityLetter,
            List.takeWhile_append_dropWhile.symm, fun d hd => List.mem_takeWhile_imp hd, ?_⟩
          intro d hd
          have hnot := List.head?_dropWhile_not isEntityLetter cs
          rw [Option.mem_def.mp hd] at hnot
          simpa using hnot
        have hbegins := beginsEntity_name_iff hletters hend
        have hshorter : tail.length < ('&' :: (name ++ tail)).length := by
          rw [List.length_cons, List.length_append]
          omega
        rw [stripEntitiesFrom_name hletters hend]
        split
        · next hclosed =>
          obtain ⟨after, rfl⟩ : ∃ after, tail = ';' :: after := by
            cases tail with
            | nil => cases hclosed.2
            | cons d after => exact ⟨after, by simpa using hclosed.2⟩
          have hentity : IsEntity ('&' :: (name ++ [';'])) := ⟨name, hclosed.1, hletters, rfl⟩
          have hafter := ih after.length (Nat.lt_of_succ_lt hshorter) after rfl
          simpa using Strips.drop hentity hafter
        · next hopen =>
          have htail := ih tail.length hshorter tail rfl
          exact .keep (fun h => hopen (hbegins.mp h))
            ((strips_letters hletters).append_of_letters hletters htail)
      · rw [stripEntitiesFrom, if_neg hamp]
        refine .keep (fun hbegins => ?_) (ih cs.length (by simp) cs rfl)
        exact hamp (beginsEntity_cons_iff.mp hbegins).1

theorem Strips.sublist (hstrips : Strips cs rest) : rest.Sublist cs := by
  induction hstrips with
  | nil => exact .slnil
  | keep _ _ ih => exact ih.cons_cons _
  | drop _ _ ih => exact ih.trans (List.sublist_append_right _ _)

theorem Strips.length_le (hstrips : Strips cs rest) : rest.length ≤ cs.length :=
  hstrips.sublist.length_le

/-- A text with an entity in it becomes shorter, and any other one stays as it is. -/
theorem Strips.length_lt_of_hasEntity (hstrips : Strips cs rest) (hcs : HasEntity cs) :
    rest.length < cs.length := by
  induction hstrips with
  | nil => exact absurd hcs not_hasEntity_nil
  | keep hplain _ ih =>
    have hrest := (hasEntity_cons.mp hcs).resolve_left hplain
    simpa using ih hrest
  | drop hentity hrest _ =>
    have hlength := hentity.length_pos
    have hle := hrest.length_le
    simp only [List.length_append]
    omega

theorem Strips.eq_of_not_hasEntity (hstrips : Strips cs rest) (hcs : ¬HasEntity cs) :
    rest = cs := by
  induction hstrips with
  | nil => rfl
  | keep hplain _ ih => rw [ih fun hrest => hcs (hasEntity_cons.mpr (.inr hrest))]
  | @drop entity cs _ hentity _ _ =>
    exact absurd ⟨entity, hentity, (List.prefix_append entity cs).isInfix⟩ hcs

/-- No entity is the beginning of a longer one. -/
theorem IsEntity.append_inj {entity' cs' : List Char} (hentity : IsEntity entity)
    (hentity' : IsEntity entity') (hsame : entity ++ cs = entity' ++ cs') :
    entity = entity' ∧ cs = cs' := by
  obtain ⟨name, -, hletters, rfl⟩ := hentity
  obtain ⟨name', -, hletters', rfl⟩ := hentity'
  have htails : name ++ ';' :: cs = name' ++ ';' :: cs' := by simpa using hsame
  have hname : name = name' := by
    have hwhile := congrArg (List.takeWhile isEntityLetter) htails
    rwa [takeWhile_append hletters (by simp [isEntityLetter_semicolon]),
      takeWhile_append hletters' (by simp [isEntityLetter_semicolon])] at hwhile
  subst hname
  simpa using htails

/-- A scan can leave only one text. -/
theorem Strips.unique (hstrips : Strips cs rest) (hstrips' : Strips cs rest') : rest = rest' := by
  induction hstrips generalizing rest' with
  | nil =>
    generalize hcs : [] = cs at hstrips'
    cases hstrips' with
    | nil => rfl
    | keep => cases hcs
    | drop hentity =>
      have hlength := hentity.length_pos
      simp_all
  | @keep c cs _ hplain _ ih =>
    generalize hcs : c :: cs = cs' at hstrips'
    cases hstrips' with
    | nil => cases hcs
    | keep _ hrest' =>
      cases hcs
      rw [ih hrest']
    | drop hentity => exact absurd ⟨_, hentity, _, hcs.symm⟩ hplain
  | @drop entity cs _ hentity _ ih =>
    generalize hcs : entity ++ cs = cs' at hstrips'
    cases hstrips' with
    | nil =>
      have hlength := hentity.length_pos
      simp_all
    | keep hplain => exact absurd ⟨_, hentity, _, hcs⟩ hplain
    | drop hentity' hrest' =>
      obtain ⟨-, rfl⟩ := hentity.append_inj hentity' hcs
      exact ih hrest'

/-- An ampersand ends every name before it, so that the scan starts anew. -/
theorem Strips.append_amp (hcs : Strips cs rest) (htail : Strips ('&' :: tail) rest') :
    Strips (cs ++ '&' :: tail) (rest ++ rest') := by
  induction hcs with
  | nil => exact htail
  | @keep c cs _ hplain _ ih =>
    refine .keep (fun hbegins => hplain ?_) ih
    obtain ⟨rfl, name, after, hname, hletters, hsame⟩ := beginsEntity_cons_iff.mp hbegins
    refine beginsEntity_cons_iff.mpr ⟨rfl, name, ?_⟩
    rcases List.append_eq_append_iff.mp hsame with ⟨more, rfl, hmore⟩ | ⟨more, rfl, hmore⟩
    · cases more with
      | nil => simp at hmore
      | cons d more =>
        obtain ⟨rfl, -⟩ := List.cons.inj hmore
        have hamp := hletters '&' (by simp)
        simp [isEntityLetter_amp] at hamp
    · cases more with
      | nil => simp at hmore
      | cons d more =>
        obtain ⟨rfl, -⟩ := List.cons.inj hmore
        exact ⟨more, hname, hletters, rfl⟩
  | drop hentity _ ih => simpa using Strips.drop hentity ih

/-- A character that is left has stood in the text, and the scan has passed what was before it. -/
theorem Strips.exists_append_cons (hstrips : Strips cs (name ++ c :: rest)) :
    ∃ middle after, cs = middle ++ c :: after ∧ Strips middle name := by
  generalize hleft : name ++ c :: rest = left at hstrips
  induction hstrips generalizing name with
  | nil => simp at hleft
  | @keep d cs _ hplain _ ih =>
    cases name with
    | nil =>
      obtain ⟨rfl, -⟩ := List.cons.inj hleft
      exact ⟨[], cs, rfl, .nil⟩
    | cons e name =>
      obtain ⟨rfl, hlater⟩ := List.cons.inj hleft
      obtain ⟨middle, after, rfl, hmiddle⟩ := ih hlater
      refine ⟨e :: middle, after, rfl, .keep ?_ hmiddle⟩
      rintro ⟨entity, hentity, hprefix⟩
      exact hplain ⟨entity, hentity, hprefix.trans (by simp)⟩
  | @drop entity _ _ hentity _ ih =>
    obtain ⟨middle, after, rfl, hmiddle⟩ := ih hleft
    exact ⟨entity ++ middle, after, by simp, .drop hentity hmiddle⟩

/-- What the scan has shortened to letters has an entity after its first letters. -/
theorem Strips.exists_entity (hstrips : Strips cs name)
    (hletters : ∀ d ∈ name, isEntityLetter d = true) (hcs : cs ≠ name) :
    ∃ front entity after, (∀ d ∈ front, isEntityLetter d = true) ∧ IsEntity entity ∧
      cs = front ++ (entity ++ after) := by
  induction hstrips with
  | nil => exact absurd rfl hcs
  | @keep c cs _ _ _ ih =>
    obtain ⟨hc, hname⟩ := List.forall_mem_cons.mp hletters
    obtain ⟨front, entity, after, hfront, hentity, rfl⟩ :=
      ih hname fun hsame => hcs (congrArg (c :: ·) hsame)
    exact ⟨c :: front, entity, after, List.forall_mem_cons.mpr ⟨hc, hfront⟩, hentity, rfl⟩
  | @drop entity cs _ hentity _ _ => exact ⟨[], entity, cs, by simp, hentity, rfl⟩

/-- An entity that is left has come together from what stood around other entities. -/
theorem Strips.hasEntity_iff (hstrips : Strips cs rest) :
    HasEntity rest ↔ HasInterruptedEntity cs := by
  constructor
  · intro hrest
    induction hstrips with
    | nil => exact absurd hrest not_hasEntity_nil
    | @keep c cs rest hplain hstrips ih =>
      rcases hasEntity_cons.mp hrest with hbegins | hlater
      · obtain ⟨rfl, name, after, hname, hletters, rfl⟩ := beginsEntity_cons_iff.mp hbegins
        obtain ⟨middle, after, rfl, hmiddle⟩ := hstrips.exists_append_cons
        refine ⟨[], middle, after, name, rfl, hname, hletters, ?_, hmiddle⟩
        rintro rfl
        exact hplain (beginsEntity_cons_iff.mpr ⟨rfl, middle, after, hname, hletters, rfl⟩)
      · obtain ⟨before, middle, after, name, rfl, hname⟩ := ih hlater
        exact ⟨c :: before, middle, after, name, rfl, hname⟩
    | @drop entity cs rest hentity _ ih =>
      obtain ⟨before, middle, after, name, rfl, hname⟩ := ih hrest
      exact ⟨entity ++ before, middle, after, name, by simp, hname⟩
  · rintro ⟨before, middle, after, name, rfl, hname, hletters, hne, hmiddle⟩
    have hafter : Strips (';' :: after) (';' :: stripEntitiesFrom none after) := by
      refine .keep (fun hbegins => ?_) (strips_stripEntitiesFrom after)
      simp [beginsEntity_cons_iff] at hbegins
    have hplain : ¬BeginsEntity ('&' :: (middle ++ ';' :: after)) := by
      obtain ⟨front, entity, back, hfront, ⟨inner, -, -, rfl⟩, rfl⟩ :=
        hmiddle.exists_entity hletters hne
      rw [List.append_assoc, beginsEntity_name_iff hfront (by simp [isEntityLetter_amp])]
      simp
    have hwhole := (strips_stripEntitiesFrom before).append_amp
      (.keep hplain (hmiddle.append_of_letters hletters hafter))
    rw [hstrips.unique hwhole]
    exact ⟨_, ⟨name, hname, hletters, rfl⟩, stripEntitiesFrom none before,
      stripEntitiesFrom none after, by simp⟩

/-- The text divides into entities and what stands between them, and the latter is left. -/
theorem Strips.exists_division (hstrips : Strips cs rest) :
    ∃ front : List Char, ∃ parts : List (List Char × List Char),
      cs = front ++ parts.flatMap (fun part => part.1 ++ part.2) ∧
      rest = front ++ parts.flatMap Prod.snd ∧
      ¬HasEntity front ∧ ∀ part ∈ parts, IsEntity part.1 ∧ ¬HasEntity part.2 := by
  induction hstrips with
  | nil => exact ⟨[], [], rfl, rfl, not_hasEntity_nil, by simp⟩
  | @keep c cs rest hplain hrest ih =>
    obtain ⟨front, parts, rfl, rfl, hfront, hparts⟩ := ih
    refine ⟨c :: front, parts, rfl, rfl, ?_, hparts⟩
    rw [hasEntity_cons, not_or]
    refine ⟨?_, hfront⟩
    rintro ⟨entity, hentity, hprefix⟩
    exact hplain ⟨entity, hentity, hprefix.trans (List.prefix_append _ _)⟩
  | @drop entity cs rest hentity hrest ih =>
    obtain ⟨front, parts, rfl, rfl, hfront, hparts⟩ := ih
    exact ⟨[], (entity, front) :: parts, by simp, by simp, not_hasEntity_nil,
      List.forall_mem_cons.mpr ⟨⟨hentity, hfront⟩, hparts⟩⟩

end

section

variable {s : String}

theorem strips_stripEntities (s : String) : Strips s.toList (stripEntities s).toList := by
  rw [stripEntities, String.toList_ofList]
  exact strips_stripEntitiesFrom s.toList

theorem stripEntities_eq_self_iff : stripEntities s = s ↔ ¬HasEntity s.toList := by
  have hstrips := strips_stripEntities s
  constructor
  · intro hsame hs
    have hlength := hstrips.length_lt_of_hasEntity hs
    rw [hsame] at hlength
    omega
  · intro hs
    exact String.toList_inj.mp (hstrips.eq_of_not_hasEntity hs)

/-- Each scan that finds an entity makes the text shorter. -/
theorem not_hasEntity_iterate {n : Nat} (hlength : s.toList.length ≤ n) :
    ¬HasEntity (stripEntities^[n] s).toList := by
  induction n generalizing s with
  | zero =>
    have hempty : s.toList = [] := List.length_eq_zero_iff.mp (by omega)
    rw [Function.iterate_zero, id, hempty]
    exact not_hasEntity_nil
  | succ n ih =>
    by_cases hs : HasEntity s.toList
    · have hshorter := (strips_stripEntities s).length_lt_of_hasEntity hs
      rw [Function.iterate_succ_apply]
      exact ih (by omega)
    · rwa [Function.iterate_fixed (stripEntities_eq_self_iff.mpr hs)]

end

end FieldRules.Text
