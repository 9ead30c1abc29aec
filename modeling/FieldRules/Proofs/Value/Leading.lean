import FieldRules.Proofs.Binary64.Rational
import FieldRules.Proofs.Text.WrittenNumeral
import FieldRules.Rule.Finding

namespace FieldRules.Value

open Text Binary64

variable {s : String} {n : Numeral}

theorem leadingNumber?_string_eq (s : String) :
    (string s).leadingNumber? =
      ((numeralPrefix? s.toList).bind readDecimal?).bind Decimal.toBinary64? := by
  rw [Option.bind_assoc]
  rfl

theorem leadingNumber?_of_leads (hn : n.Leads Char.isDigit (s.toList.dropWhile isBlank))
    (hall : n.Leads isDigit (s.toList.dropWhile isBlank)) :
    (string s).leadingNumber? = n.decimal.toBinary64? := by
  rw [leadingNumber?_string_eq, numeralPrefix?_bind_eq_some_iff.mpr ⟨n, hn, hall, rfl⟩]
  rfl

/-- A number is read only where a text begins with a numeral of ASCII digits that stays the longest
    if the digits of all scripts count. -/
theorem exists_leads_of_leadingNumber? (hread : (string s).leadingNumber? ≠ none) :
    ∃ n : Numeral, n.Leads Char.isDigit (s.toList.dropWhile isBlank) ∧
      n.Leads isDigit (s.toList.dropWhile isBlank) := by
  rw [leadingNumber?_string_eq] at hread
  obtain ⟨d, hd⟩ := Option.ne_none_iff_exists'.mp (mt (congrArg (·.bind Decimal.toBinary64?)) hread)
  obtain ⟨n, hn, hall, -⟩ := numeralPrefix?_bind_eq_some_iff.mp hd
  exact ⟨n, hn, hall⟩

/-- What is read from a text: after its blanks, the longest numeral of ASCII digits counts, whatever
    follows it, and it is read as the number nearest to its value, if it does not round to an
    infinity. But there is no number where a digit of another script makes the numeral longer. -/
theorem reads_longest_numeral (s : String) :
    ((∀ n : Numeral, n.IsIn Char.isDigit → ¬n.text <+: s.toList.dropWhile isBlank) →
        (string s).leadingNumber? = none) ∧
      ∀ n : Numeral, n.Leads Char.isDigit (s.toList.dropWhile isBlank) →
        (n.Leads isDigit (s.toList.dropWhile isBlank) →
          (∀ x, (string s).leadingNumber? = some x ↔
            |n.decimal.value| < overflow ∧ x.negative = decide (n.sign = ['-']) ∧
              x.IsNearest n.decimal.value) ∧
          ((string s).leadingNumber? = none ↔ overflow ≤ |n.decimal.value|)) ∧
        (¬n.Leads isDigit (s.toList.dropWhile isBlank) → (string s).leadingNumber? = none) := by
  refine ⟨fun hnone => ?_, fun n hn => ⟨fun hall => ?_, fun hlonger => ?_⟩⟩
  · by_contra hread
    obtain ⟨n, hn, -⟩ := exists_leads_of_leadingNumber? hread
    exact hnone n hn.isIn hn.begins
  · rw [leadingNumber?_of_leads hn hall]
    exact ⟨fun x => Decimal.toBinary64?_eq_some_iff, Decimal.toBinary64?_eq_none_iff⟩
  · by_contra hread
    obtain ⟨m, hm, hall⟩ := exists_leads_of_leadingNumber? hread
    exact hlonger (hn.unique not_isDigit_of_mem_numeralMarks hm ▸ hall)

/-- A number with its unit is read, and the unit alone is not. -/
theorem reads_longest_numeral_unit :
    (∃ x : Binary64, (string " -3.5kg").leadingNumber? = some x ∧ x.negative = true ∧
      x.IsNearest (-35 / 10)) ∧ (string "kg").leadingNumber? = none := by
  constructor
  · let n : Numeral := ⟨['-'], ['3'], some ['5'], none⟩
    have hread : Numeral.read? Char.isDigit (" -3.5kg".toList.dropWhile isBlank) =
        some (n, ['k', 'g']) := rfl
    have hreadAll : Numeral.read? isDigit (" -3.5kg".toList.dropWhile isBlank) =
        some (n, ['k', 'g']) := rfl
    have hn := Numeral.leads_of_read? not_isDigit_of_mem_numeralMarks hread
    have hall := Numeral.leads_of_read? not_mem_digits_of_mem_numeralMarks hreadAll
    have hvalue : n.decimal.value = -35 / 10 := by
      have hdecimal : n.decimal = ⟨true, 35, -1⟩ := rfl
      rw [hdecimal, Decimal.value, signed, if_pos rfl, zpow_neg_one]
      norm_num
    have hsome : ((string " -3.5kg").leadingNumber?).isSome = true := by decide +kernel
    obtain ⟨x, hx⟩ := Option.isSome_iff_exists.mp hsome
    obtain ⟨hnumber, -⟩ := ((reads_longest_numeral " -3.5kg").2 n hn).1 hall
    obtain ⟨-, hsign, hnearest⟩ := (hnumber x).mp hx
    exact ⟨x, hx, hsign, hvalue ▸ hnearest⟩
  · refine (reads_longest_numeral "kg").1 fun n hin => ?_
    exact Numeral.not_begins_of_read? not_isDigit_of_mem_numeralMarks rfl hin

/-- A digit of another script, here an Arabic-Indic two, hides the numeral before it. -/
theorem other_digit_hides_numeral :
    ∃ n : Numeral, n.text = ['1'] ∧ n.Leads Char.isDigit ("1\u0662".toList.dropWhile isBlank) ∧
      |n.decimal.value| < overflow ∧ (string "1\u0662").leadingNumber? = none := by
  have hread : Numeral.read? Char.isDigit ("1\u0662".toList.dropWhile isBlank) =
      some (⟨[], ['1'], none, none⟩, ['\u0662']) := rfl
  refine ⟨_, rfl, Numeral.leads_of_read? not_isDigit_of_mem_numeralMarks hread, ?_,
    by decide +kernel⟩
  rw [← not_le, ← Decimal.toBinary64?_eq_none_iff]
  decide +kernel

end FieldRules.Value
