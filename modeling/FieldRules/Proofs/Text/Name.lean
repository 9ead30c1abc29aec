import FieldRules.Proofs.Text.Escape
import FieldRules.Rule.Spec

namespace FieldRules

namespace Text

/-- A text that is not divided by any of the marks in parameters, and has no blanks around it. -/
structure IsName (name : String) : Prop where
  some : name.toList ≠ []
  tight : Tight name.toList
  unmarked : ∀ c ∈ name.toList, c ∉ [',', ':', '|', escapeChar]

instance (name : String) : Decidable (IsName name) :=
  decidable_of_iff (name.toList.isEmpty = false ∧ Tight name.toList ∧
      (name.toList.all fun c => !([',', ':', '|', escapeChar].contains c)) = true) <| by
    rw [List.isEmpty_eq_false_iff, List.all_eq_true]
    simp only [Bool.not_eq_true', List.contains_eq_mem, decide_eq_false_iff_not]
    exact ⟨fun ⟨hsome, htight, hunmarked⟩ => ⟨hsome, htight, hunmarked⟩,
      fun hname => ⟨hname.some, hname.tight, hname.unmarked⟩⟩

section

variable {names : List String}

theorem IsName.escape_eq {name : String} (hname : IsName name) {marks : List Char}
    (hmarks : ∀ c ∈ marks, c ∈ [',', ':', '|', escapeChar]) : escape marks name = name :=
  escape_of_no_marks fun c hc hmark => hname.unmarked c hc (hmarks c hmark)

/-- Names need no escapes in a list. -/
theorem writeItems_names (hnames : ∀ name ∈ names, IsName name) :
    writeItems names = ",".intercalate names := by
  have hsame : names.map (escape [',', '|']) = names :=
    (List.map_congr_left fun name hname => (hnames name hname).escape_eq (by simp)).trans
      (List.map_id names)
  rw [writeItems, hsame]

theorem splitList_names (hnames : ∀ name ∈ names, IsName name) (hsome : names ≠ []) :
    splitList (",".intercalate names) = names := by
  have hplain : ∀ name ∈ names, escapeChar ∉ name.toList :=
    fun name hname hescape => (hnames name hname).unmarked _ hescape (by simp)
  rw [← writeItems_names hnames, splitList_writeItems hsome hplain]
  exact (List.map_congr_left fun name hname => (hnames name hname).escape_eq (by simp)).trans
    (List.map_id names)

/-- There are no blanks around names that could be trimmed. -/
theorem splitTrimmedList_names (hnames : ∀ name ∈ names, IsName name) (hsome : names ≠ []) :
    splitTrimmedList (",".intercalate names) = names := by
  rw [splitTrimmedList, splitList_names hnames hsome]
  refine (List.map_congr_left fun name hname => ?_).trans (List.map_id names)
  rw [trim, trimChars_of_tight (hnames name hname).tight, String.ofList_toList]
  rfl

theorem splitTrimmedList_pair {name name' : String} (hname : IsName name)
    (hname' : IsName name') : splitTrimmedList (name ++ "," ++ name') = [name, name'] := by
  have hnames : ∀ other ∈ [name, name'], IsName other :=
    List.forall_mem_cons.mpr ⟨hname, List.forall_mem_singleton.mpr hname'⟩
  have hsplit := splitTrimmedList_names hnames (List.cons_ne_nil _ _)
  rwa [String.intercalate_cons_cons, String.intercalate_singleton] at hsplit

theorem toList_intercalate_names_ne_nil (hnames : ∀ name ∈ names, IsName name)
    (hsome : names ≠ []) : (",".intercalate names).toList ≠ [] := by
  rw [← writeItems_names hnames]
  exact toList_writeItems_ne_nil hsome fun name hname => (hnames name hname).some

end

/-- Where there is no delimiter, nothing is split. -/
theorem splitChars_of_not_mem {delimiter : Char} {cs : List Char} (hcs : delimiter ∉ cs) :
    splitChars delimiter cs = [cs] := by
  fun_induction splitChars delimiter cs with
  | case1 => rfl
  | case2 => simp at hcs
  | case3 => rfl
  | case4 c d rest hpair => simp [hpair.2] at hcs
  | case5 => simp at hcs
  | case6 c d rest _ _ ih =>
    rw [ih fun hmem => hcs (.tail c hmem), extendFirst, List.singleton_append]

end Text

/-- A rule without bars and without blanks around it is a specification by itself. -/
theorem RuleSpec.splitRules_of_no_bar {token : String} (hsome : token.toList ≠ [])
    (htight : Text.Tight token.toList) (hbar : '|' ∉ token.toList) :
    splitRules token = [token] := by
  have hsplit : (Text.splitEscaped '|' token).map Text.trim = [token] := by
    rw [Text.splitEscaped, Text.splitChars_of_not_mem hbar, List.map_singleton,
      List.map_singleton, String.ofList_toList, Text.trim, Text.trimChars_of_tight htight,
      String.ofList_toList]
  rw [splitRules, hsplit]
  simp [hsome]

end FieldRules
