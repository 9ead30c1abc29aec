import FieldRules.Proofs.Calendar.Reach
import FieldRules.Proofs.Text.Numeral

namespace FieldRules

namespace Text

/-- The code points of the blanks. -/
def blankCodes : List Nat :=
  [9, 10, 11, 12, 13, 0x20, 0x85, 0xA0, 0x1680, 0x2000, 0x2001, 0x2002, 0x2003, 0x2004, 0x2005,
    0x2006, 0x2007, 0x2008, 0x2009, 0x200A, 0x2028, 0x2029, 0x202F, 0x205F, 0x3000]

/-- No digit of any script is a blank. -/
theorem isDigit_of_isBlank {c : Char} (hc : isBlank c = true) : isDigit c = false := by
  have hcode : c.toNat ∈ blankCodes := by
    simp only [isBlank, Bool.or_eq_true, Bool.and_eq_true, decide_eq_true_eq, beq_iff_eq] at hc
    simp only [blankCodes, List.mem_cons, List.not_mem_nil, or_false]
    omega
  have hcodes : ∀ n ∈ blankCodes, Unicode.decimalDigits.containsCode n = false := by
    decide +kernel
  exact hcodes _ hcode

end Text

namespace Calendar

/-- A character that can stand in the name of a unit. -/
def isUnitChar (c : Char) : Bool :=
  !Text.isBlank c && !Text.isDigit c && c != '.' && c != '-' && c != '\n'

theorem isUnitChar_iff {c : Char} : isUnitChar c = true ↔
    Text.isBlank c = false ∧ Text.isDigit c = false ∧ c ≠ '.' ∧ c ≠ '-' ∧ c ≠ '\n' := by
  simp [isUnitChar, and_assoc]

theorem Span.unit_chars {unit : String} {span : Span} (hunit : ofUnit? unit = some span) :
    unit.toList ≠ [] ∧ ∀ c ∈ unit.toList, isUnitChar c = true := by
  unfold ofUnit? at hunit
  split at hunit
  case h_24 => cases hunit
  all_goals exact ⟨by decide, List.all_eq_true.mp (by decide)⟩

theorem exists_amountSplits {sign : Char} {whole fraction tail : List Char}
    (hsign : sign = '+' ∨ sign = '-') (hsome : whole ≠ [])
    (hwhole : ∀ c ∈ whole, Text.isDigit c = true)
    (hfraction : ∀ c ∈ fraction, Text.isDigit c = true)
    (htail : ∀ d ∈ tail.head?, Text.isDigit d = false ∧ d ≠ '.') :
    ∃ splits, amountSplits (sign :: (Text.pointed whole fraction ++ tail)) =
      (sign :: Text.pointed whole fraction, tail) :: splits := by
  obtain ⟨d, ds, rfl⟩ := List.exists_cons_of_ne_nil hsome
  have hrange : ∀ (α : Type) (n : Nat) (f : Nat → α), (List.range (n + 1)).map f =
      f 0 :: (List.range n).map (f ∘ Nat.succ) := by
    intro α n f
    rw [List.range_succ_eq_map, List.map_cons, List.map_map]
  rw [amountSplits, if_pos hsign, Text.pointed]
  cases fraction with
  | nil =>
    have hspan : ((d :: ds) ++ tail).span Text.isDigit = (d :: ds, tail) :=
      Text.span_append hwhole fun d hd => (htail d hd).1
    rw [if_pos rfl, List.append_nil, hspan]
    dsimp only
    split
    · next hmatch => exact absurd rfl (htail '.' (by simp)).2
    · rw [List.nil_append, List.length_cons, hrange]
      simp
  | cons e es =>
    have hspan : ((d :: ds) ++ '.' :: (e :: es ++ tail)).span Text.isDigit =
        (d :: ds, '.' :: (e :: es ++ tail)) := by
      apply Text.span_append hwhole
      intro c hc
      cases hc
      decide +kernel
    have hfractionSpan : (e :: es ++ tail).span Text.isDigit = (e :: es, tail) :=
      Text.span_append hfraction fun d hd => (htail d hd).1
    have hlist : ((d :: ds) ++ if e :: es = [] then [] else '.' :: e :: es) ++ tail =
        (d :: ds) ++ '.' :: (e :: es ++ tail) := by simp
    rw [hlist, hspan]
    simp only [hfractionSpan]
    rw [List.length_cons, hrange, List.cons_append]
    simp

/-- After a sign and digits there must be a minus sign in a date. -/
theorem readDate?_signed {sign : Char} {whole rest : List Char} (hsign : sign = '+' ∨ sign = '-')
    (hwhole : ∀ c ∈ whole, c.isDigit = true)
    (hrest : ∀ d ∈ rest.head?, d.isDigit = false ∧ d ≠ '-') :
    readDate? (sign :: (whole ++ rest)) = none := by
  have hdigits : readDigits? (whole ++ rest).length (whole ++ rest) =
      if whole = [] then none else some (digitsValue whole, rest) := by
    rw [readDigits?, List.take_length, Text.takeWhile_append hwhole fun d hd => (hrest d hd).1]
    simp
  have hmark : readMark? '-' rest = none := by
    cases rest with
    | nil => rfl
    | cons d rest => exact if_neg (hrest d rfl).2
  have hblank : Text.isBlank '+' = false ∧ Text.isBlank '-' = false := by decide
  rcases hsign with rfl | rfl
  all_goals
    simp only [readDate?, readYear?, List.dropWhile_cons, hblank.1, hblank.2,
      if_neg Bool.false_ne_true, hdigits]
    split <;> simp [hmark]

theorem readStamped?_signed {sign : Char} {rest : List Char} (hsign : sign = '+' ∨ sign = '-') :
    readStamped? (sign :: rest) = none := by
  have hfixed : readFixed? 4 (sign :: rest) = none := by
    rcases hsign with rfl | rfl <;> simp [readFixed?]
  rw [readStamped?, hfixed]
  rfl

/-- An offset as it is written: a sign, digits that may have a fraction, and the name of a unit,
    with blanks around it. -/
structure Offset where
  negative : Bool
  whole : List Char
  /-- The digits after the point. Without any there is no point. -/
  fraction : List Char
  before : List Char
  unit : String
  after : List Char
  /-- One unit. -/
  span : Span
  whole_some : whole ≠ []
  whole_digits : ∀ c ∈ whole, c.isDigit = true
  fraction_digits : ∀ c ∈ fraction, c.isDigit = true
  before_blank : ∀ c ∈ before, Text.isBlank c = true
  known : Span.ofUnit? unit = some span
  after_blank : ∀ c ∈ after, Text.isBlank c = true ∧ c ≠ '\n'

namespace Offset

variable (offset : Offset)

def sign : Char := if offset.negative then '-' else '+'

def text : String :=
  String.ofList (offset.sign :: (Text.pointed offset.whole offset.fraction ++
    (offset.before ++ (offset.unit.toList ++ offset.after))))

/-- The amount that is written. -/
def amount : Decimal :=
  ⟨offset.negative, digitsValue (offset.whole ++ offset.fraction), -offset.fraction.length⟩

theorem sign_cases : offset.sign = '+' ∧ offset.negative = false ∨
    offset.sign = '-' ∧ offset.negative = true := by
  unfold sign
  cases offset.negative <;> simp

/-- What follows the digits is neither a digit nor a point. -/
theorem not_digit_after {d : Char} {more : List Char}
    (hd : d ∈ (offset.before ++ (offset.unit.toList ++ more)).head?) :
    Text.isDigit d = false ∧ d ≠ '.' ∧ d ≠ '-' := by
  have hcases : Text.isBlank d = true ∨ d ∈ offset.unit.toList := by
    cases hbefore : offset.before with
    | nil =>
      obtain ⟨c, cs, hunit⟩ := List.exists_cons_of_ne_nil (Span.unit_chars offset.known).1
      rw [hbefore, hunit] at hd
      rw [hunit]
      obtain rfl : c = d := by simpa using hd
      exact .inr List.mem_cons_self
    | cons c cs =>
      rw [hbefore] at hd
      obtain rfl : c = d := by simpa using hd
      exact .inl (offset.before_blank c (hbefore ▸ List.mem_cons_self))
  rcases hcases with hblank | hunit
  · refine ⟨Text.isDigit_of_isBlank hblank, ?_, ?_⟩
    · rintro rfl
      cases hblank
    · rintro rfl
      cases hblank
  · obtain ⟨-, hdigit, hpoint, hminus, -⟩ :=
      isUnitChar_iff.mp ((Span.unit_chars offset.known).2 d hunit)
    exact ⟨hdigit, hpoint, hminus⟩

/-- The longest amount is the one that is written. -/
theorem exists_amountSplits : ∃ splits, amountSplits offset.text.toList =
    (offset.sign :: Text.pointed offset.whole offset.fraction,
      offset.before ++ (offset.unit.toList ++ offset.after)) :: splits := by
  rw [text, String.toList_ofList]
  apply Calendar.exists_amountSplits
  · rcases offset.sign_cases with ⟨hsign, -⟩ | ⟨hsign, -⟩ <;> simp [hsign]
  · exact offset.whole_some
  · exact fun c hc => Text.isDigit_of_isDigit (offset.whole_digits c hc)
  · exact fun c hc => Text.isDigit_of_isDigit (offset.fraction_digits c hc)
  · exact fun d hd => ⟨(offset.not_digit_after hd).1, (offset.not_digit_after hd).2.1⟩

theorem tight_unit : Text.Tight offset.unit.toList := by
  obtain ⟨hsome, hchars⟩ := Span.unit_chars offset.known
  exact Text.tight_of_no_blanks fun c hc => (isUnitChar_iff.mp (hchars c hc)).1

theorem unitAfter?_eq :
    unitAfter? (offset.before ++ (offset.unit.toList ++ offset.after)) =
      some offset.unit.toList := by
  obtain ⟨hsome, hchars⟩ := Span.unit_chars offset.known
  have htight := offset.tight_unit
  have hblanks : ∀ c ∈ offset.after, Text.isBlank c = true :=
    fun c hc => (offset.after_blank c hc).1
  have htrim := Text.trimChars_append htight hsome hblanks
  have hline : '\n' ∉ offset.unit.toList ++ offset.after := by
    rw [List.mem_append, not_or]
    exact ⟨fun hunit => (isUnitChar_iff.mp (hchars _ hunit)).2.2.2.2 rfl,
      fun hafter => (offset.after_blank _ hafter).2 rfl⟩
  obtain ⟨c, cs, hunit⟩ := List.exists_cons_of_ne_nil hsome
  have hc : Text.isBlank c = false :=
    (isUnitChar_iff.mp (hchars c (hunit ▸ List.mem_cons_self))).1
  have hdrop : (offset.before ++ (offset.unit.toList ++ offset.after)).dropWhile Text.isBlank =
      c :: (cs ++ offset.after) := by
    rw [List.dropWhile_append_of_pos offset.before_blank, hunit, List.cons_append,
      List.dropWhile_cons, hc, if_neg Bool.false_ne_true]
  rw [hunit, List.cons_append] at htrim hline
  rw [unitAfter?, hdrop]
  simp only [List.contains_eq_mem, hline, decide_false, htrim, hunit]
  simp

theorem readDecimal?_amount :
    Text.readDecimal? (offset.sign :: Text.pointed offset.whole offset.fraction) =
      some offset.amount := by
  refine Text.readDecimal?_pointed ?_ offset.whole_some offset.whole_digits offset.fraction_digits
  rcases offset.sign_cases with ⟨hsign, hnegative⟩ | ⟨hsign, hnegative⟩
  · rw [hsign, hnegative, Text.readSign]
  · rw [hsign, hnegative, Text.readSign]

/-- Reading an offset goes by its amount and its unit. -/
theorem readOffsetFromNow?_text :
    readOffsetFromNow? offset.text =
      match offset.amount.toBinary64?.bind offset.span.times? with
      | none => .error (.offsetOutOfRange offset.text)
      | some span => .ok (some span) := by
  obtain ⟨splits, hsplits⟩ := offset.exists_amountSplits
  rw [readOffsetFromNow?, hsplits]
  cases hspan : offset.amount.toBinary64?.bind offset.span.times? <;>
    simp only [List.filterMap_cons, offset.unitAfter?_eq, Option.map_some, List.head?_cons,
      offset.readDecimal?_amount, String.ofList_toList, offset.known, hspan]

/-- An offset is not a date by itself: no minus sign follows the digits, as it would after a
    year. -/
theorem read?_text : Calendar.read? offset.text = none := by
  obtain ⟨hunit, hchars⟩ := Span.unit_chars offset.known
  let rest := (if offset.fraction = [] then [] else '.' :: offset.fraction) ++
    (offset.before ++ offset.unit.toList)
  have hsign : offset.sign = '+' ∨ offset.sign = '-' := offset.sign_cases.imp And.left And.left
  have htext : offset.text.toList = (offset.sign :: (offset.whole ++ rest)) ++ offset.after := by
    simp [text, rest, Text.pointed]
  have htight : Text.Tight (offset.sign :: (offset.whole ++ rest)) := by
    refine ⟨?_, ?_⟩
    · rcases hsign with hsign | hsign <;> rw [hsign] <;> rfl
    · have hlast : (offset.sign :: (offset.whole ++ rest)).getLast? =
          offset.unit.toList.getLast? := by
        have hlist : offset.sign :: (offset.whole ++ rest) = (offset.sign :: (offset.whole ++
            (if offset.fraction = [] then [] else '.' :: offset.fraction)) ++ offset.before) ++
              offset.unit.toList := by
          simp [rest]
        rw [hlist, List.getLast?_append_of_ne_nil _ hunit]
      rw [hlast]
      exact offset.tight_unit.last
  have hrest : ∀ d ∈ rest.head?, d.isDigit = false ∧ d ≠ '-' := by
    intro d hd
    by_cases hnone : offset.fraction = []
    · simp only [rest, hnone, if_true, List.nil_append] at hd
      rw [← List.append_nil offset.unit.toList] at hd
      obtain ⟨hdigit, -, hminus⟩ := offset.not_digit_after hd
      refine ⟨Bool.eq_false_iff.mpr fun hascii => ?_, hminus⟩
      rw [Text.isDigit_of_isDigit hascii] at hdigit
      cases hdigit
    · simp only [rest, hnone, if_false, List.cons_append] at hd
      cases hd
      decide
  have htrim : Text.trimChars offset.text.toList = offset.sign :: (offset.whole ++ rest) := by
    rw [htext]
    exact Text.trimChars_append htight (List.cons_ne_nil _ _) fun c hc =>
      (offset.after_blank c hc).1
  have hdate := readDate?_signed hsign offset.whole_digits hrest
  rw [Calendar.read?, htrim, readStamped?_signed hsign, readPlain?, readDay?, hdate]
  rfl

end Offset

end Calendar

end FieldRules
