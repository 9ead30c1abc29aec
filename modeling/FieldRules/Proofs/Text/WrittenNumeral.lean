import FieldRules.Proofs.Text.Numeral

namespace FieldRules.Text

/-- A sign that may be missing. -/
def IsSign (cs : List Char) : Prop := cs = [] ∨ cs = ['-'] ∨ cs = ['+']

/-- The parts of an exponent as it is written. -/
structure Exponent where
  mark : Char
  sign : List Char
  digits : List Char

/-- The parts of a numeral as it is written: the fraction is what stands after a point. -/
structure Numeral where
  sign : List Char
  whole : List Char
  fraction : Option (List Char)
  exponent : Option Exponent

namespace Exponent

def text (e : Exponent) : List Char := e.mark :: (e.sign ++ e.digits)

def value (e : Exponent) : Int :=
  if e.sign = ['-'] then -(digitsValue e.digits : Int) else digitsValue e.digits

/-- An exponent has a digit, and its digits are of the given kind. -/
structure IsIn (isDigit : Char → Bool) (e : Exponent) : Prop where
  mark : e.mark = 'e' ∨ e.mark = 'E'
  sign : IsSign e.sign
  some : e.digits ≠ []
  digits : ∀ c ∈ e.digits, isDigit c = true

end Exponent

namespace Numeral

/-- The digits before and after the point. -/
def digits (n : Numeral) : List Char := n.whole ++ n.fraction.getD []

def mantissa (n : Numeral) : List Char := n.whole ++ n.fraction.elim [] ('.' :: ·)

def text (n : Numeral) : List Char := n.sign ++ (n.mantissa ++ n.exponent.elim [] Exponent.text)

/-- The decimal that a numeral denotes: each digit after the point counts a tenth of the one before
    it. -/
def decimal (n : Numeral) : Decimal :=
  ⟨decide (n.sign = ['-']), digitsValue n.digits,
    n.exponent.elim 0 Exponent.value - (n.fraction.getD []).length⟩

/-- A numeral has a digit before or after the point, and its digits are of the given kind. -/
structure IsIn (isDigit : Char → Bool) (n : Numeral) : Prop where
  sign : IsSign n.sign
  some : n.digits ≠ []
  digits : ∀ c ∈ n.digits, isDigit c = true
  exponent : ∀ e ∈ n.exponent, e.IsIn isDigit

/-- A text begins with a numeral, and with none that is longer. -/
structure Leads (isDigit : Char → Bool) (cs : List Char) (n : Numeral) : Prop where
  isIn : n.IsIn isDigit
  begins : n.text <+: cs
  longest : ∀ m : Numeral, m.IsIn isDigit → m.text <+: cs → m.text.length ≤ n.text.length

section

variable {isDigit isMore : Char → Bool} {cs : List Char} {n m : Numeral}

theorem IsIn.mono (hin : n.IsIn isDigit) (hmore : ∀ c, isDigit c = true → isMore c = true) :
    n.IsIn isMore where
  sign := hin.sign
  some := hin.some
  digits c hc := hmore c (hin.digits c hc)
  exponent e he :=
    have hexponent := hin.exponent e he
    ⟨hexponent.mark, hexponent.sign, hexponent.some, fun c hc => hmore c (hexponent.digits c hc)⟩

theorem Leads.text_eq (hn : n.Leads isDigit cs) (hm : m.Leads isDigit cs) : n.text = m.text :=
  have hle := hm.longest n hn.isIn hn.begins
  have hge := hn.longest m hm.isIn hm.begins
  (List.prefix_of_prefix_length_le hn.begins hm.begins hle).eq_of_length (Nat.le_antisymm hle hge)

theorem Leads.of_text_eq (hm : m.Leads isDigit cs) (hin : n.IsIn isDigit)
    (htext : n.text = m.text) : n.Leads isDigit cs :=
  ⟨hin, htext ▸ hm.begins, htext ▸ hm.longest⟩

/-- A longest numeral stays the longest where there are fewer digits. -/
theorem Leads.of_isIn (hn : n.Leads isMore cs) (hin : n.IsIn isDigit)
    (hmore : ∀ c, isDigit c = true → isMore c = true) : n.Leads isDigit cs :=
  ⟨hin, hn.begins, fun m hm hbegins => hn.longest m (hm.mono hmore) hbegins⟩

end

end Numeral

/-! A numeral is read part by part, and each part takes all that it can. -/

def signOf (cs : List Char) : List Char :=
  cs.take (if cs.head? = some '-' ∨ cs.head? = some '+' then 1 else 0)

/-- The digits before the point, those after it if there is a point, and what follows them. -/
def readMantissa (isDigit : Char → Bool) (cs : List Char) :
    List Char × Option (List Char) × List Char :=
  match cs.dropWhile isDigit with
  | '.' :: rest => (cs.takeWhile isDigit, some (rest.takeWhile isDigit), rest.dropWhile isDigit)
  | rest => (cs.takeWhile isDigit, none, rest)

def Exponent.read? (isDigit : Char → Bool) : List Char → Option (Exponent × List Char)
  | c :: cs =>
    let rest := cs.drop (signOf cs).length
    if (c = 'e' ∨ c = 'E') ∧ rest.takeWhile isDigit ≠ [] then
      some (⟨c, signOf cs, rest.takeWhile isDigit⟩, rest.dropWhile isDigit)
    else none
  | [] => none

def Numeral.read? (isDigit : Char → Bool) (cs : List Char) : Option (Numeral × List Char) :=
  let (whole, fraction, rest) := readMantissa isDigit (cs.drop (signOf cs).length)
  if whole ++ fraction.getD [] = [] then none
  else
    match Exponent.read? isDigit rest with
    | some (exponent, rest) => some (⟨signOf cs, whole, fraction, some exponent⟩, rest)
    | none => some (⟨signOf cs, whole, fraction, none⟩, rest)

theorem take_eq_signOf (cs : List Char) :
    cs.take (if cs.head? = some '-' ∨ cs.head? = some '+' then 1 else 0) = signOf cs := rfl

theorem readExponent?_eq (isDigit : Char → Bool) (cs : List Char) :
    readExponent? isDigit cs = (Exponent.read? isDigit cs).map fun (e, rest) => (e.text, rest) := by
  cases cs with
  | nil => rfl
  | cons c cs =>
    rw [readExponent?, Exponent.read?, take_eq_signOf]
    simp only [List.span_eq_takeWhile_dropWhile]
    by_cases hc : c = 'e' ∨ c = 'E'
    · cases hdigits : (cs.drop (signOf cs).length).takeWhile isDigit with
      | nil => simp [hc]
      | cons d digits => simp [hc, Exponent.text]
    · simp [hc]

theorem pointed_or_not (cs : List Char) :
    (∃ rest, cs = '.' :: rest) ∨ ∀ rest, cs ≠ '.' :: rest := by
  by_cases hpoint : ∃ rest, cs = '.' :: rest
  · exact .inl hpoint
  · exact .inr (not_exists.mp hpoint)

theorem numeralPrefix?_eq (cs : List Char) :
    numeralPrefix? cs = (Numeral.read? isDigit (cs.dropWhile isBlank)).map (·.1.text) := by
  rw [numeralPrefix?, Numeral.read?, readMantissa]
  generalize cs.dropWhile isBlank = cs
  simp only [take_eq_signOf, List.span_eq_takeWhile_dropWhile, readExponent?_eq]
  generalize (cs.drop (signOf cs).length).takeWhile isDigit = whole
  generalize (cs.drop (signOf cs).length).dropWhile isDigit = rest
  obtain ⟨rest, rfl⟩ | hpoint := pointed_or_not rest
  · cases whole with
    | nil =>
      -- Without digits before it, a point counts only if there are some after it.
      cases hfraction : rest.takeWhile isDigit with
      | nil => simp [hfraction]
      | cons d fraction =>
        cases hexponent : Exponent.read? isDigit (rest.dropWhile isDigit) <;>
          simp [hfraction, hexponent, Numeral.text, Numeral.mantissa]
    | cons d whole =>
      cases hexponent : Exponent.read? isDigit (rest.dropWhile isDigit) <;>
        simp [hexponent, Numeral.text, Numeral.mantissa]
  · cases whole with
    | nil => simp [hpoint]
    | cons d whole =>
      cases hexponent : Exponent.read? isDigit rest <;>
        simp [hpoint, hexponent, Numeral.text, Numeral.mantissa]

theorem readSign_eq (cs : List Char) :
    readSign cs = (decide (signOf cs = ['-']), cs.drop (signOf cs).length) := by
  unfold readSign signOf
  split
  · rfl
  · rfl
  · next hminus hplus =>
    have hnone : ¬(cs.head? = some '-' ∨ cs.head? = some '+') := by
      cases cs with
      | nil => simp
      | cons c cs =>
        rintro (hc | hc)
        · exact hminus cs (by rw [Option.some.inj hc])
        · exact hplus cs (by rw [Option.some.inj hc])
    rw [if_neg hnone]
    rfl

theorem isSign_signOf (cs : List Char) : IsSign (signOf cs) := by
  match cs with
  | [] => exact .inl rfl
  | c :: cs =>
    unfold signOf
    split
    · next hsign =>
      rcases hsign with hsign | hsign <;> rw [List.head?_cons, Option.some.injEq] at hsign <;>
        subst hsign
      · exact .inr (.inl rfl)
      · exact .inr (.inr rfl)
    · exact .inl rfl

theorem signOf_append_drop (cs : List Char) : signOf cs ++ cs.drop (signOf cs).length = cs := by
  unfold signOf
  split
  · cases cs <;> rfl
  · rfl

/-- Not a sign where a text begins. -/
def Unsigned (cs : List Char) : Prop := ∀ c ∈ cs.head?, c ≠ '-' ∧ c ≠ '+'

theorem signOf_append {sign cs : List Char} (hsign : IsSign sign) (hcs : Unsigned cs) :
    signOf (sign ++ cs) = sign := by
  rcases hsign with rfl | rfl | rfl
  · rw [List.nil_append, signOf, if_neg, List.take_zero]
    rintro (hc | hc)
    · exact (hcs _ hc).1 rfl
    · exact (hcs _ hc).2 rfl
  · rfl
  · rfl

/-- The characters of a numeral that are no digits. -/
def numeralMarks : List Char := ['.', 'e', 'E', '-', '+']

section

variable {isDigit : Char → Bool} {cs rest : List Char}

theorem all_takeWhile (cs : List Char) : ∀ c ∈ cs.takeWhile isDigit, isDigit c = true :=
  fun _ hc => List.mem_takeWhile_imp hc

theorem Exponent.read?_sound {e : Exponent} (hread : Exponent.read? isDigit cs = some (e, rest)) :
    e.IsIn isDigit ∧ e.text ++ rest = cs := by
  cases cs with
  | nil => cases hread
  | cons c cs =>
    rw [Exponent.read?] at hread
    split at hread
    · next hexponent =>
      cases hread
      refine ⟨⟨hexponent.1, isSign_signOf cs, hexponent.2, all_takeWhile _⟩, ?_⟩
      rw [Exponent.text, List.cons_append, List.append_assoc, List.takeWhile_append_dropWhile,
        signOf_append_drop]
    · cases hread

theorem readMantissa_sound {whole : List Char} {fraction : Option (List Char)}
    (hread : readMantissa isDigit cs = (whole, fraction, rest)) :
    (∀ c ∈ whole ++ fraction.getD [], isDigit c = true) ∧
      whole ++ fraction.elim [] ('.' :: ·) ++ rest = cs := by
  have hcs := List.takeWhile_append_dropWhile (p := isDigit) (l := cs)
  rw [readMantissa] at hread
  split at hread
  · next after hafter =>
    cases hread
    rw [hafter] at hcs
    refine ⟨List.forall_mem_append.mpr ⟨all_takeWhile _, all_takeWhile _⟩, ?_⟩
    rw [Option.elim_some, List.append_assoc, List.cons_append, List.takeWhile_append_dropWhile, hcs]
  · cases hread
    refine ⟨List.forall_mem_append.mpr ⟨all_takeWhile _, List.forall_mem_nil _⟩, ?_⟩
    rw [Option.elim_none, List.append_nil, hcs]

/-- What is read as a numeral is one, and the text begins with it. -/
theorem Numeral.read?_sound {n : Numeral} (hread : Numeral.read? isDigit cs = some (n, rest)) :
    n.IsIn isDigit ∧ n.text ++ rest = cs := by
  obtain ⟨whole, fraction, after, hmantissa⟩ :
      ∃ whole fraction after,
        readMantissa isDigit (cs.drop (signOf cs).length) = (whole, fraction, after) :=
    ⟨_, _, _, rfl⟩
  obtain ⟨hdigits, hcs⟩ := readMantissa_sound hmantissa
  rw [Numeral.read?, hmantissa] at hread
  dsimp only at hread
  split at hread
  · cases hread
  next hsome =>
  split at hread
  · next e rest' hexponent =>
    cases hread
    obtain ⟨hin, hafter⟩ := Exponent.read?_sound hexponent
    refine ⟨⟨isSign_signOf cs, hsome, hdigits, by rintro _ ⟨⟩; exact hin⟩, ?_⟩
    rw [Numeral.text, Numeral.mantissa, Option.elim_some, List.append_assoc, List.append_assoc,
      hafter, hcs, signOf_append_drop]
  · cases hread
    refine ⟨⟨isSign_signOf cs, hsome, hdigits, by rintro _ ⟨⟩⟩, ?_⟩
    rw [Numeral.text, Numeral.mantissa, Option.elim_none, List.append_nil, List.append_assoc, hcs,
      signOf_append_drop]

theorem readMantissa_append {whole : List Char} (hwhole : ∀ c ∈ whole, isDigit c = true)
    (cs : List Char) :
    readMantissa isDigit (whole ++ cs) =
      (whole ++ (readMantissa isDigit cs).1, (readMantissa isDigit cs).2) := by
  rw [readMantissa, List.takeWhile_append_of_pos hwhole, List.dropWhile_append_of_pos hwhole,
    readMantissa]
  split <;> rfl

theorem takeWhile_of_end (hcs : ∀ c ∈ cs.head?, isDigit c = false) :
    cs.takeWhile isDigit = [] ∧ cs.dropWhile isDigit = cs := by
  cases cs with
  | nil => exact ⟨rfl, rfl⟩
  | cons c cs =>
    have hc := hcs c rfl
    exact ⟨List.takeWhile_cons_of_neg (by simp [hc]), List.dropWhile_cons_of_neg (by simp [hc])⟩

theorem readMantissa_of_end (hcs : ∀ c ∈ cs.head?, isDigit c = false ∧ c ≠ '.') :
    readMantissa isDigit cs = ([], none, cs) := by
  obtain ⟨htake, hdrop⟩ := takeWhile_of_end fun c hc => (hcs c hc).1
  rw [readMantissa, htake, hdrop]
  split
  · exact absurd rfl (hcs '.' rfl).2
  · rfl

/-- The numeral that is read where its parts are known. -/
theorem Numeral.read?_append {sign whole after : List Char} {fraction : Option (List Char)}
    (hsign : IsSign sign) (hcs : Unsigned cs)
    (hmantissa : readMantissa isDigit cs = (whole, fraction, after))
    (hsome : whole ++ fraction.getD [] ≠ []) :
    Numeral.read? isDigit (sign ++ cs) =
      some (match Exponent.read? isDigit after with
        | some (e, rest) => (⟨sign, whole, fraction, some e⟩, rest)
        | none => (⟨sign, whole, fraction, none⟩, after)) := by
  rw [Numeral.read?, signOf_append hsign hcs, List.drop_left, hmantissa]
  dsimp only
  rw [if_neg hsome]
  split <;> rfl

section

variable (hmarks : ∀ c ∈ numeralMarks, isDigit c = false)

include hmarks

theorem unsigned_of_digit {c : Char} (hc : isDigit c = true) : Unsigned (c :: cs) := by
  rintro _ ⟨⟩
  constructor <;> rintro rfl <;> rw [hmarks _ (by decide)] at hc <;> cases hc

theorem Exponent.IsIn.unsigned {e : Exponent} (hin : e.IsIn isDigit) (cs : List Char) :
    Unsigned (e.digits ++ cs) := by
  obtain ⟨d, digits, hdigits⟩ := List.exists_cons_of_ne_nil hin.some
  rw [hdigits]
  exact unsigned_of_digit hmarks (hin.digits d (hdigits ▸ List.mem_cons_self))

theorem Exponent.read?_append {e : Exponent} (hin : e.IsIn isDigit) (cs : List Char) :
    Exponent.read? isDigit (e.text ++ cs) =
      some ({ e with digits := e.digits ++ cs.takeWhile isDigit }, cs.dropWhile isDigit) := by
  rw [Exponent.text, List.cons_append, List.append_assoc, Exponent.read?,
    signOf_append hin.sign (hin.unsigned hmarks cs), List.drop_left, List.takeWhile_append_of_pos hin.digits,
    List.dropWhile_append_of_pos hin.digits,
    if_pos ⟨hin.mark, List.append_ne_nil_of_left_ne_nil hin.some _⟩]

theorem readMantissa_point {fraction : List Char} (hfraction : ∀ c ∈ fraction, isDigit c = true)
    (cs : List Char) :
    readMantissa isDigit ('.' :: (fraction ++ cs)) =
      ([], some (fraction ++ cs.takeWhile isDigit), cs.dropWhile isDigit) := by
  have hpoint : isDigit '.' = false := hmarks _ (by decide)
  rw [readMantissa, List.takeWhile_cons_of_neg (by simp [hpoint]),
    List.dropWhile_cons_of_neg (by simp [hpoint])]
  change ([], some ((fraction ++ cs).takeWhile isDigit), (fraction ++ cs).dropWhile isDigit) = _
  rw [List.takeWhile_append_of_pos hfraction, List.dropWhile_append_of_pos hfraction]

theorem Exponent.IsIn.ends {e : Exponent} (hin : e.IsIn isDigit) (cs : List Char) :
    ∀ c ∈ (e.text ++ cs).head?, isDigit c = false ∧ c ≠ '.' := by
  rintro _ ⟨⟩
  rcases hin.mark with hmark | hmark <;> rw [hmark]
  · exact ⟨hmarks _ (by decide), by decide⟩
  · exact ⟨hmarks _ (by decide), by decide⟩

theorem Numeral.IsIn.unsigned {n : Numeral} (hin : n.IsIn isDigit) (cs : List Char) :
    Unsigned (n.mantissa ++ cs) := by
  obtain ⟨sign, whole, fraction, exponent⟩ := n
  match whole, fraction with
  | c :: whole, _ => exact unsigned_of_digit hmarks (hin.digits c List.mem_cons_self)
  | [], Option.some fraction =>
    rintro _ ⟨⟩
    exact ⟨by decide, by decide⟩
  | [], none => exact absurd rfl hin.some

theorem Numeral.IsIn.readMantissa {n : Numeral} (hin : n.IsIn isDigit)
    (hcs : ∀ c ∈ cs.head?, isDigit c = false ∧ c ≠ '.') :
    readMantissa isDigit (n.mantissa ++ cs) = (n.whole, n.fraction, cs) := by
  obtain ⟨hwhole, hfraction⟩ := List.forall_mem_append.mp hin.digits
  rw [mantissa, List.append_assoc, readMantissa_append hwhole]
  cases hpoint : n.fraction with
  | none => rw [Option.elim_none, List.nil_append, readMantissa_of_end hcs, List.append_nil]
  | some fraction =>
    rw [hpoint, Option.getD_some] at hfraction
    rw [Option.elim_some, List.cons_append, readMantissa_point hmarks hfraction, List.append_nil]
    obtain ⟨htake, hdrop⟩ := takeWhile_of_end fun c hc => (hcs c hc).1
    rw [htake, hdrop, List.append_nil]

/-- A numeral as a whole text is read as it is written. -/
theorem Numeral.read?_text {n : Numeral} (hin : n.IsIn isDigit) :
    Numeral.read? isDigit n.text = some (n, []) := by
  obtain ⟨sign, whole, fraction, exponent⟩ := n
  cases exponent with
  | none =>
    rw [text, Option.elim_none, read?_append hin.sign (hin.unsigned hmarks _)
      (hin.readMantissa hmarks (by simp)) hin.some]
    rfl
  | some e =>
    have he := hin.exponent e rfl
    have hends := he.ends hmarks []
    have hread := Exponent.read?_append hmarks he []
    rw [List.append_nil] at hends hread
    rw [text, Option.elim_some, read?_append hin.sign (hin.unsigned hmarks _)
      (hin.readMantissa hmarks hends) hin.some, hread, List.takeWhile_nil, List.append_nil,
      List.dropWhile_nil]

/-- A text begins with one longest numeral, which is written in one way. -/
theorem Numeral.Leads.unique {n m : Numeral} (hn : n.Leads isDigit cs) (hm : m.Leads isDigit cs) :
    n = m := by
  have hread := read?_text hmarks hn.isIn
  rw [hn.text_eq hm, read?_text hmarks hm.isIn] at hread
  cases hread
  rfl

theorem Numeral.IsIn.exists_readMantissa {n : Numeral} (hin : n.IsIn isDigit) (cs : List Char) :
    ∃ whole fraction after,
      Text.readMantissa isDigit (n.mantissa ++ cs) = (whole, fraction, after) ∧
        whole ++ fraction.getD [] ≠ [] ∧ after.length ≤ cs.length := by
  obtain ⟨hwhole, hfraction⟩ := List.forall_mem_append.mp hin.digits
  obtain ⟨sign, whole, fraction, exponent⟩ := n
  rw [mantissa, List.append_assoc, readMantissa_append hwhole]
  cases fraction with
  | none =>
    obtain ⟨more, fraction, after, hmantissa⟩ :
        ∃ more fraction after, Text.readMantissa isDigit cs = (more, fraction, after) :=
      ⟨_, _, _, rfl⟩
    have hlength := congrArg List.length (readMantissa_sound hmantissa).2
    have hsome : whole ≠ [] := (List.append_nil whole).symm.trans_ne hin.some
    rw [List.length_append] at hlength
    rw [Option.elim_none, List.nil_append, hmantissa]
    exact ⟨_, _, _, rfl, by simp [hsome], by omega⟩
  | some fraction =>
    have hsome : whole ++ fraction ≠ [] := hin.some
    rw [Option.getD_some] at hfraction
    rw [Option.elim_some, List.cons_append, readMantissa_point hmarks hfraction, List.append_nil]
    refine ⟨_, _, _, rfl, ?_, (List.dropWhile_sublist _).length_le⟩
    rw [Option.getD_some, ← List.append_assoc]
    exact List.append_ne_nil_of_left_ne_nil hsome _

/-- Where a numeral begins a text, no shorter one is read there. -/
theorem Numeral.exists_read? {n : Numeral} (hin : n.IsIn isDigit) (cs : List Char) :
    ∃ m rest, Numeral.read? isDigit (n.text ++ cs) = some (m, rest) ∧
      rest.length ≤ cs.length := by
  rw [text, List.append_assoc, List.append_assoc]
  cases hexponent : n.exponent with
  | some e =>
    have he := hin.exponent e hexponent
    rw [Option.elim_some, read?_append hin.sign (hin.unsigned hmarks _)
      (hin.readMantissa hmarks (he.ends hmarks cs)) hin.some, Exponent.read?_append hmarks he]
    exact ⟨_, _, rfl, (List.dropWhile_sublist _).length_le⟩
  | none =>
    obtain ⟨whole, fraction, after, hmantissa, hsome, hle⟩ := hin.exists_readMantissa hmarks cs
    rw [Option.elim_none, List.nil_append,
      read?_append hin.sign (hin.unsigned hmarks _) hmantissa hsome]
    split
    · next e rest hread =>
      have hlength := congrArg List.length (Exponent.read?_sound hread).2
      rw [List.length_append] at hlength
      exact ⟨_, _, rfl, by omega⟩
    · exact ⟨_, _, rfl, hle⟩

/-- The numeral that is read is the longest that the text begins with. -/
theorem Numeral.leads_of_read? {n : Numeral} (hread : Numeral.read? isDigit cs = some (n, rest)) :
    n.Leads isDigit cs where
  isIn := (read?_sound hread).1
  begins := ⟨rest, (read?_sound hread).2⟩
  longest := by
    rintro m hin ⟨tail, rfl⟩
    obtain ⟨k, rest', hk, hle⟩ := exists_read? hmarks hin tail
    cases hread.symm.trans hk
    have hlength := congrArg List.length (read?_sound hread).2
    rw [List.length_append, List.length_append] at hlength
    omega

theorem Numeral.not_begins_of_read? (hread : Numeral.read? isDigit cs = none) {n : Numeral}
    (hin : n.IsIn isDigit) : ¬n.text <+: cs := by
  rintro ⟨tail, rfl⟩
  obtain ⟨m, rest, hsome, -⟩ := exists_read? hmarks hin tail
  cases hread.symm.trans hsome

end

end

theorem not_isDigit_of_mem_numeralMarks : ∀ c ∈ numeralMarks, c.isDigit = false := by
  intro c hc
  simp only [numeralMarks, List.mem_cons, List.not_mem_nil, or_false] at hc
  rcases hc with rfl | rfl | rfl | rfl | rfl <;> rfl

theorem Exponent.IsIn.readSign {e : Exponent} (hin : e.IsIn Char.isDigit) :
    readSign (e.sign ++ e.digits) = (decide (e.sign = ['-']), e.digits) := by
  have hunsigned := hin.unsigned not_isDigit_of_mem_numeralMarks []
  rw [List.append_nil] at hunsigned
  rw [readSign_eq, signOf_append hin.sign hunsigned, List.drop_left]

/-- A numeral as a whole text ends with its mantissa or with an exponent. -/
theorem readDecimal_end (sign whole : List Char) (fraction : Option (List Char)) (cs : List Char) :
    (if whole.isEmpty && (fraction.getD []).isEmpty then none
      else
        let numeral (exponent : Int) : Decimal :=
          ⟨decide (sign = ['-']), digitsValue (whole ++ fraction.getD []),
            exponent - (fraction.getD []).length⟩
        match cs, readExponent? Char.isDigit cs with
        | [], _ => some (numeral 0)
        | _, some (_ :: exponent, []) =>
          let (negative, digits) := Text.readSign exponent
          some (numeral (if negative then -(digitsValue digits : Int) else digitsValue digits))
        | _, _ => none) =
      (if whole ++ fraction.getD [] = [] then none
        else
          match Exponent.read? Char.isDigit cs with
          | some (exponent, rest) => some (⟨sign, whole, fraction, some exponent⟩, rest)
          | none => some (⟨sign, whole, fraction, none⟩, cs)).bind fun (n, rest) =>
        if rest = [] then some (Numeral.decimal n) else none := by
  by_cases hnone : whole ++ fraction.getD [] = []
  · simp [List.append_eq_nil_iff.mp hnone]
  have hsome : ¬(whole = [] ∧ fraction.getD [] = []) := mt List.append_eq_nil_iff.mpr hnone
  rw [readExponent?_eq]
  cases cs with
  | nil => simp [Exponent.read?, Numeral.decimal, Numeral.digits, hsome]
  | cons c cs =>
    cases hread : Exponent.read? Char.isDigit (c :: cs) with
    | none => simp [hsome]
    | some read =>
      obtain ⟨e, rest⟩ := read
      have hsign := (Exponent.read?_sound hread).1.readSign
      cases rest with
      | nil => simp [Exponent.text, Exponent.value, Numeral.decimal, Numeral.digits, hsign, hsome]
      | cons d rest => simp [hsome]

theorem readDecimal?_eq (cs : List Char) :
    readDecimal? cs = (Numeral.read? Char.isDigit cs).bind fun (n, rest) =>
      if rest = [] then some n.decimal else none := by
  rw [readDecimal?, Numeral.read?, readMantissa, readSign_eq]
  simp only [List.span_eq_takeWhile_dropWhile]
  generalize (cs.drop (signOf cs).length).takeWhile Char.isDigit = whole
  generalize (cs.drop (signOf cs).length).dropWhile Char.isDigit = rest
  obtain ⟨rest, rfl⟩ | hpoint := pointed_or_not rest
  · exact readDecimal_end (signOf cs) whole (some (rest.takeWhile Char.isDigit)) _
  · simp only
    exact readDecimal_end (signOf cs) whole none rest

theorem readDecimal?_eq_some_iff {cs : List Char} {d : Decimal} :
    readDecimal? cs = some d ↔
      ∃ n : Numeral, n.IsIn Char.isDigit ∧ n.text = cs ∧ n.decimal = d := by
  rw [readDecimal?_eq]
  constructor
  · intro hread
    obtain ⟨⟨n, rest⟩, hn, hd⟩ := Option.bind_eq_some_iff.mp hread
    obtain ⟨hin, htext⟩ := Numeral.read?_sound hn
    obtain ⟨rfl, hd⟩ := Option.ite_none_right_eq_some.mp hd
    exact ⟨n, hin, (List.append_nil _).symm.trans htext, Option.some.inj hd⟩
  · rintro ⟨n, hin, rfl, rfl⟩
    rw [Numeral.read?_text not_isDigit_of_mem_numeralMarks hin]
    rfl

theorem not_mem_digits_of_mem_numeralMarks : ∀ c ∈ numeralMarks, isDigit c = false := by
  intro c hc
  simp only [numeralMarks, List.mem_cons, List.not_mem_nil, or_false] at hc
  rcases hc with rfl | rfl | rfl | rfl | rfl <;> rfl

/-- The numeral that is found is the longest one with digits of any script. -/
theorem numeralPrefix?_eq_some_iff {cs text : List Char} :
    numeralPrefix? cs = some text ↔
      ∃ n : Numeral, n.Leads isDigit (cs.dropWhile isBlank) ∧ n.text = text := by
  rw [numeralPrefix?_eq]
  constructor
  · intro hread
    obtain ⟨⟨n, rest⟩, hn, htext⟩ := Option.map_eq_some_iff.mp hread
    exact ⟨n, Numeral.leads_of_read? not_mem_digits_of_mem_numeralMarks hn, htext⟩
  · rintro ⟨n, hleads, rfl⟩
    cases hread : Numeral.read? isDigit (cs.dropWhile isBlank) with
    | none =>
      exact absurd hleads.begins
        (Numeral.not_begins_of_read? not_mem_digits_of_mem_numeralMarks hread hleads.isIn)
    | some read =>
      obtain ⟨m, rest⟩ := read
      have hm := Numeral.leads_of_read? not_mem_digits_of_mem_numeralMarks hread
      exact congrArg some (hm.text_eq hleads)

/-- What the numeral at the start of a text denotes: the digits of all scripts decide where it ends,
    and then it has to be one of ASCII digits. -/
theorem numeralPrefix?_bind_eq_some_iff {cs : List Char} {d : Decimal} :
    (numeralPrefix? cs).bind readDecimal? = some d ↔
      ∃ n : Numeral, n.Leads Char.isDigit (cs.dropWhile isBlank) ∧
        n.Leads isDigit (cs.dropWhile isBlank) ∧ n.decimal = d := by
  constructor
  · intro hread
    obtain ⟨text, htext, hd⟩ := Option.bind_eq_some_iff.mp hread
    obtain ⟨m, hm, rfl⟩ := numeralPrefix?_eq_some_iff.mp htext
    obtain ⟨n, hin, htext, hd⟩ := readDecimal?_eq_some_iff.mp hd
    have hall : n.Leads isDigit (cs.dropWhile isBlank) :=
      hm.of_text_eq (hin.mono fun _ => isDigit_of_isDigit) htext
    exact ⟨n, hall.of_isIn hin fun _ => isDigit_of_isDigit, hall, hd⟩
  · rintro ⟨n, hn, hall, hd⟩
    rw [numeralPrefix?_eq_some_iff.mpr ⟨n, hall, rfl⟩]
    exact readDecimal?_eq_some_iff.mpr ⟨n, hn.isIn, rfl, hd⟩

end FieldRules.Text
