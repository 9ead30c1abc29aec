import FieldRules.Proofs.Compiler.Compiles
import FieldRules.Proofs.Text.Split
import FieldRules.Rule.Standard

namespace FieldRules

namespace RuleSpec

/-- A rule that can stand between bars as it is. -/
structure IsToken (token : String) : Prop where
  some : token.toList ≠ []
  tight : Text.Tight token.toList
  guarded : Text.Guarded '|' token.toList
  closed : token.toList.getLast? ≠ Option.some Text.escapeChar

/-- Reading rules between bars undoes writing them so. -/
theorem splitRules_intercalate {tokens : List String} (htokens : ∀ token ∈ tokens, IsToken token) :
    splitRules ("|".intercalate tokens) = tokens := by
  have hsplit : (Text.splitEscaped '|' ("|".intercalate tokens)).map Text.trim =
      if tokens = [] then [""] else tokens := by
    by_cases hsome : tokens = []
    · subst hsome
      rfl
    · have hparts : ∀ part ∈ tokens.map String.toList,
          Text.Guarded '|' part ∧ part.getLast? ≠ some Text.escapeChar := by
        rw [List.forall_mem_map]
        exact fun token hmem => ⟨(htokens token hmem).guarded, (htokens token hmem).closed⟩
      have hchars := Text.splitChars_intercalate (by decide) hparts (by simpa using hsome)
      have hbar : "|".toList = ['|'] := rfl
      rw [if_neg hsome, Text.splitEscaped, String.toList_intercalate, hbar, hchars, List.map_map,
        List.map_map]
      refine (List.map_congr_left fun token hmem => ?_).trans (List.map_id tokens)
      simp [Text.trim, Text.trimChars_of_tight (htokens token hmem).tight]
  rw [splitRules, hsplit]
  split
  · next hnone =>
    subst hnone
    rfl
  · refine List.filter_eq_self.mpr fun token hmem => ?_
    have hsome := (htokens token hmem).some
    simp [hsome]

end RuleSpec

namespace Compiler

theorem Compiles.name {compiler : Compiler} {field : String} {message : Option Message}
    {entry : RuleEntry} {rule : Rule} (hrule : Compiles compiler field message entry rule) :
    rule.name = (splitRule entry.rule).1 := by
  cases hrule <;> rfl

section

variable (compiler : Compiler) (field : String) (message : Option Message)

/-- The rule of a token alone. -/
theorem compile_alone (token : String) :
    compiler.compile (.list [token]) field message =
      (compiler.compileEntry field message (.ofName token)).map fun rule => [rule] := by
  have hentries : (RuleSpec.list [token]).entries = [.ofName token] := rfl
  rw [compile, hentries, List.mapM_cons]
  cases compiler.compileEntry field message (.ofName token) <;> rfl

theorem compile_alone_eq_ok_iff (token : String) (rule : Rule) :
    compiler.compile (.list [token]) field message = .ok [rule] ↔
      compiler.compileEntry field message (.ofName token) = .ok rule := by
  rw [compile_alone, map_eq_ok_iff]
  simp

theorem compile_alone_eq_error_iff (token : String) (e : ConfigError) :
    compiler.compile (.list [token]) field message = .error e ↔
      compiler.compileEntry field message (.ofName token) = .error e := by
  rw [compile_alone]
  cases compiler.compileEntry field message (.ofName token) <;> simp [Except.map]

/-- Rules between bars, in a list, and in a map without messages and input compile to the same: to
    the rules that the tokens compile to alone, in order, or else to the error of the first token
    that has one. -/
theorem compile_forms {tokens : List String} (htokens : ∀ token ∈ tokens, RuleSpec.IsToken token) :
    let alone (token : String) := compiler.compile (.list [token]) field message
    let listed := compiler.compile (.list tokens) field message
    compiler.compile (.text ("|".intercalate tokens)) field message = listed ∧
      compiler.compile (.map (tokens.map fun token => ⟨token, none, .none⟩)) field message =
        listed ∧
      (∀ rules, listed = .ok rules ↔
        List.Forall₂ (fun token rule => alone token = .ok [rule] ∧ rule.name = (splitRule token).1)
          tokens rules) ∧
      ∀ e, listed = .error e ↔
        ∃ before token after, tokens = before ++ token :: after ∧
          (∀ other ∈ before, ∃ rule, alone other = .ok [rule]) ∧ alone token = .error e := by
  intro alone listed
  have hlisted : listed =
      tokens.mapM fun token => compiler.compileEntry field message (.ofName token) :=
    List.mapM_map
  refine ⟨?_, rfl, fun rules => ?_, fun e => ?_⟩
  · have hentries : (RuleSpec.text ("|".intercalate tokens)).entries = tokens.map .ofName :=
      congrArg (List.map RuleEntry.ofName) (RuleSpec.splitRules_intercalate htokens)
    rw [compile, hentries]
    rfl
  · rw [hlisted, mapM_eq_ok_iff]
    refine forall₂_congr fun token _ rule => ?_
    rw [compile_alone_eq_ok_iff]
    constructor
    · intro hrule
      exact ⟨hrule, (compileEntry_eq_ok_iff.mp hrule).name⟩
    · exact fun hrule => hrule.1
  · rw [hlisted, mapM_eq_error_iff]
    simp only [alone, compile_alone_eq_ok_iff, compile_alone_eq_error_iff]

/-- The bar in the second rule is escaped, the third and the fourth rule have errors, and that of the
    third comes first. -/
theorem compile_forms_first_of_two_errors :
    (⟨.standard, ⟨"Person", ["name"], false, none⟩, ⟨[]⟩⟩ : Compiler).compile
        (.text "required|in:a\\|b|lost|between:x") "name" none =
      .error (.unknownRule "lost") := by
  let compiler : Compiler := ⟨.standard, ⟨"Person", ["name"], false, none⟩, ⟨[]⟩⟩
  have htokens : ∀ token ∈ ["required", "in:a\\|b", "lost", "between:x"],
      RuleSpec.IsToken token := by
    simp only [List.forall_mem_cons]
    refine ⟨?_, ?_, ?_, ?_, by simp⟩
    all_goals exact ⟨by decide, ⟨by decide, by decide⟩, ⟨by decide, by decide⟩, by decide⟩
  obtain ⟨htext, _, _, herror⟩ := compile_forms compiler "name" none htokens
  refine htext.trans ((herror _).mpr ⟨["required", "in:a\\|b"], "lost", ["between:x"], rfl, ?_, ?_⟩)
  · simp only [List.forall_mem_cons]
    refine ⟨?_, ?_, by simp⟩
    all_goals
      apply Exists.intro
      apply (compile_alone_eq_ok_iff ..).mpr
      exact compileEntry_eq_ok_iff.mpr (.check rfl (by rfl) (by rfl))
  · refine (compile_alone_eq_error_iff ..).mpr ?_
    rw [compileEntry]
    rfl

end

end Compiler

end FieldRules
