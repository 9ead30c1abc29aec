import FieldRules.Proofs.Compiler.Compiles

namespace FieldRules.CheckShape

variable {scope : Scope} {use : RuleUse} {check : Check}

/-! What the parameters of a rule have been read as, where its check compiles. -/

theorem size_of_compile {messages : SizeMessages} {isInvalid : Binary64 → Binary64 → Bool}
    (hcompile : (size messages isInvalid).compile scope use = .ok check) :
    ∃ bound extra, use.params.bound? = some bound ∧
      check = .sized (isInvalid · bound) (use.sizeWording scope messages extra) := by
  simp only [compile, bind_eq_ok_iff, RuleUse.orError_eq_ok_iff] at hcompile
  obtain ⟨bound, hbound, hcheck⟩ := hcompile
  cases hcheck
  exact ⟨bound, _, hbound, rfl⟩

theorem range_of_compile {messages : SizeMessages}
    {isInvalid : Binary64 → Binary64 → Binary64 → Bool}
    (hcompile : (range messages isInvalid).compile scope use = .ok check) :
    ∃ first last extra, use.params.range? = some (first, last) ∧
      check = .sized (isInvalid · first last) (use.sizeWording scope messages extra) := by
  simp only [compile, bind_eq_ok_iff, RuleUse.orError_eq_ok_iff] at hcompile
  obtain ⟨⟨first, last⟩, hrange, hcheck⟩ := hcompile
  cases hcheck
  exact ⟨first, last, _, hrange, rfl⟩

theorem siblings_of_compile {message : String} {siblingCheck : SiblingCheck}
    (hcompile : (siblings message siblingCheck).compile scope use = .ok check) :
    ∃ fields wording, use.params.fieldList? = some fields ∧
      check = .siblings siblingCheck fields wording := by
  simp only [compile, bind_eq_ok_iff, RuleUse.orError_eq_ok_iff] at hcompile
  obtain ⟨_, _, fields, hfields, _, _, hcheck⟩ := hcompile
  cases hcheck
  exact ⟨fields, _, hfields, rfl⟩

theorem trigger_of_compile {message : String} {requiredWhenListed : Bool}
    (hcompile : (trigger message requiredWhenListed).compile scope use = .ok check) :
    ∃ field values wording, use.params.fieldAndValues? = some (field, values) ∧
      check = .trigger field (values.map Value.display) requiredWhenListed wording := by
  simp only [compile, bind_eq_ok_iff, RuleUse.orError_eq_ok_iff] at hcompile
  obtain ⟨_, _, ⟨field, values⟩, hread, _, _, hcheck⟩ := hcompile
  cases hcheck
  exact ⟨field, values, _, hread, rfl⟩

theorem itemMatch_of_compile {message : String} {failOnMatch : Bool}
    (hcompile : (itemMatch message failOnMatch).compile scope use = .ok check) :
    ∃ field expected equal wording, use.params.itemMatch? = some (field, expected, equal) ∧
      check = .itemMatch field expected equal failOnMatch wording := by
  simp only [compile, bind_eq_ok_iff, RuleUse.orError_eq_ok_iff] at hcompile
  obtain ⟨_, _, ⟨field, expected, equal⟩, hread, _, _, hcheck⟩ := hcompile
  cases hcheck
  exact ⟨field, expected, equal, _, hread, rfl⟩

theorem membership_of_compile {message : String} {failWhenListed : Bool}
    (hcompile : (membership message failWhenListed).compile scope use = .ok check) :
    ∃ wording, check = .membership (.ofList use.params.listItems) failWhenListed wording := by
  simp only [compile, bind_eq_ok_iff] at hcompile
  obtain ⟨_, _, hcheck⟩ := hcompile
  split at hcheck
  · cases hcheck
  · cases hcheck
    exact ⟨_, rfl⟩

end FieldRules.CheckShape
