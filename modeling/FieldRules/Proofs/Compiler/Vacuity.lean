import FieldRules.Proofs.Compiler.Opposites
import FieldRules.Proofs.Compiler.Standard
import FieldRules.Proofs.Message
import FieldRules.Proofs.Text.Split

namespace FieldRules

/-- A message of one's own that says nothing about a type of value leaves it unchecked. -/
theorem RuleUse.lookup_sizeWording_eq_none_iff {use : RuleUse} {scope : Scope}
    {default : SizeMessages} {extra : List (String × Value)} {tag : TypeTag} :
    (use.sizeWording scope default extra).templates.lookup tag = none ↔
      ∃ given, use.message = some given ∧ given.forTag? tag = none := by
  cases hmessage : use.message with
  | none =>
    have hsome := Message.Plain.missing.lookup_isSome default tag
    simpa [sizeWording, hmessage] using Option.isSome_iff_ne_none.mp hsome
  | some given => simp [sizeWording, hmessage, Message.lookup_templates]

/-- Only an empty array lists no fields: a text always has a first part, be it an empty one. -/
theorem Params.eq_nil_iff_of_fieldList? {params : Params} {fields : List String}
    (hfields : params.fieldList? = some fields) : fields = [] ↔ params = .value (.array []) := by
  unfold fieldList? at hfields
  split at hfields
  · next s =>
    cases hfields
    simp [Text.splitTrimmedList, Text.splitList, Text.splitChars_ne_nil]
  · next items =>
    rw [mapM_eq_some_iff] at hfields
    cases hfields <;> simp
  · cases hfields

namespace Rule

variable {env : Environment} {name field : String}

/-- Whether a rule of a field lets some number pass, given the right record. -/
def AcceptsNumber (rule : Rule) (env : Environment) (field : String) : Prop :=
  ∃ record n, rule.accepts? env field (.number n) (.ofRecord record) = some true

/-- Whether a rule of a field rejects some value, given the right record. -/
def RejectsValue (rule : Rule) (env : Environment) (field : String) : Prop :=
  ∃ record value, rule.accepts? env field value (.ofRecord record) = some false

/-- A rule of a field that comes to a decision about every value. -/
def Decides (rule : Rule) (env : Environment) (field : String) : Prop :=
  ∀ value s, (rule.accepts? env field value s).isSome = true

theorem decides_sized (isInvalid : Binary64 → Bool) (wording : SizeWording) :
    (check name (.sized isInvalid wording)).Decides env field := by
  intro value s
  rw [accepts?_sized_eq, Option.isSome_some]

theorem decides_siblings (siblingCheck : SiblingCheck) (fields : List String) (wording : Wording) :
    (check name (.siblings siblingCheck fields wording)).Decides env field := by
  intro value s
  rw [accepts?_siblings, Option.isSome_some]

theorem accepts?_sized_number (isInvalid : Binary64 → Bool) (wording : SizeWording) (n : Number)
    (s : RunState) :
    (check name (.sized isInvalid wording)).accepts? env field (.number n) s =
      some (!((wording.templates.lookup .number).isSome && isInvalid n.toBinary64)) := by
  rw [accepts?_sized_eq, Check.sizedCalls, Value.tag?, Value.size?, Option.bind_some]
  cases wording.templates.lookup .number with
  | none => rfl
  | some template =>
    dsimp only
    cases isInvalid n.toBinary64 <;> rfl

/-- A range has a number in it unless its ends are in the wrong order. -/
theorem acceptsNumber_range_iff {first last : Binary64} {wording : SizeWording} :
    (check name (.sized (fun size => size < first || last < size) wording)).AcceptsNumber env
        field ↔
      first ≤ last ∨ wording.templates.lookup .number = none := by
  simp only [AcceptsNumber, accepts?_sized_number]
  cases wording.templates.lookup .number with
  | none => exact iff_of_true ⟨.empty, .integer 0, rfl⟩ (.inr rfl)
  | some template =>
    simp only [Option.isSome_some, Bool.true_and, Option.some.injEq, Bool.not_eq_true',
      Bool.or_eq_false_iff, decide_eq_false_iff_not, Binary64.not_lt, reduceCtorEq, or_false]
    constructor
    · rintro ⟨_, n, hfirst, hlast⟩
      exact Int.le_trans hfirst hlast
    · intro hle
      exact ⟨.empty, .float first, Int.le_refl _, hle⟩

/-- With an empty record every sibling is null, and no number is. -/
theorem acceptsNumber_different_iff {fields : List String} {wording : Wording} :
    (check name (.siblings .different fields wording)).AcceptsNumber env field ↔ fields ≠ [] := by
  simp only [AcceptsNumber, accepts?_siblings]
  constructor
  · rintro ⟨record, n, haccepts⟩ rfl
    simp [SiblingCheck.decide] at haccepts
  · intro hfields
    refine ⟨.empty, .integer 1, ?_⟩
    obtain ⟨other, fields, rfl⟩ := List.exists_cons_of_ne_nil hfields
    simp [SiblingCheck.decide, RunState.ofRecord, Record.empty, Record.get, Value.equal]

theorem rejectsValue_confirmed_iff {fields : List String} {wording : Wording} :
    (check name (.siblings .confirmed fields wording)).RejectsValue env field ↔ fields ≠ [] := by
  simp only [RejectsValue, accepts?_siblings]
  constructor
  · rintro ⟨record, value, hrejects⟩ rfl
    simp [SiblingCheck.decide] at hrejects
  · intro hfields
    refine ⟨.empty, .int 1, ?_⟩
    obtain ⟨other, fields, rfl⟩ := List.exists_cons_of_ne_nil hfields
    simp [SiblingCheck.decide, RunState.ofRecord, Record.empty, Record.get, Value.int, Value.equal]

end Rule

namespace Compiler

variable {compiler : Compiler} {field : String} {message : Option Message} {entry : RuleEntry}
  {rule : Rule}

/-- `between` compiles whenever its parameters can be read as two numbers. -/
theorem exists_compileEntry_between (hstandard : compiler.registry = .standard) (field : String)
    (message : Option Message) (hname : (splitRule entry.rule).1 = "between")
    {first last : Binary64} (hrange : (entryParams entry).range? = some (first, last)) :
    ∃ messages extra, compiler.compileEntry field message entry =
      .ok (.check "between" (.sized (fun size => size < first || last < size)
        ((useOf field message entry).sizeWording compiler.scope messages extra))) := by
  obtain ⟨messages, hshape⟩ : ∃ messages, Registry.standard.find? "between" =
      some (.check (.range messages fun size first last => size < first || last < size)) :=
    ⟨_, rfl⟩
  have hrange' : (useOf field message entry).params.range? = some (first, last) := hrange
  rw [compileEntry_standard hstandard hname hshape, CheckShape.compile, hrange']
  exact ⟨messages, _, rfl⟩

/-- A rule that compiles may still judge all alike. `between` lets some number pass unless its range
    is reversed; a reversed one rejects all numbers, if it has a message for them and so checks them
    at all. `different` lets some number pass and `confirmed` rejects some value unless they are
    given an empty array. -/
theorem vacuous_iff_of_compile (hstandard : compiler.registry = .standard)
    (hcompile : compiler.compileEntry field message entry = .ok rule) (env : Environment) :
    (rule.name = "between" → rule.Decides env field ∧
      ∃ first last, (entryParams entry).range? = some (first, last) ∧
        (rule.AcceptsNumber env field ↔ first ≤ last ∨
          ∃ given, entry.message.or message = some given ∧ given.forTag? .number = none)) ∧
    (rule.name = "different" → rule.Decides env field ∧
      (rule.AcceptsNumber env field ↔ entryParams entry ≠ .value (.array []))) ∧
    (rule.name = "confirmed" → rule.Decides env field ∧
      (rule.RejectsValue env field ↔ entryParams entry ≠ .value (.array []))) := by
  have hrule := compileEntry_eq_ok_iff.mp hcompile
  refine ⟨fun hname => ?_, fun hname => ?_, fun hname => ?_⟩
  · obtain ⟨check, hcheck, heq⟩ := hrule.exists_check_of_standard hstandard (by rw [hname]; rfl)
    obtain ⟨first, last, extra, hrange, rfl⟩ := CheckShape.range_of_compile hcheck
    rw [heq]
    refine ⟨Rule.decides_sized _ _, first, last, hrange, ?_⟩
    rw [Rule.acceptsNumber_range_iff, RuleUse.lookup_sizeWording_eq_none_iff, useOf]
  · obtain ⟨check, hcheck, heq⟩ := hrule.exists_check_of_standard hstandard (by rw [hname]; rfl)
    obtain ⟨fields, wording, hfields, rfl⟩ := CheckShape.siblings_of_compile hcheck
    rw [heq, Rule.acceptsNumber_different_iff]
    exact ⟨Rule.decides_siblings _ _ _, not_congr (Params.eq_nil_iff_of_fieldList? hfields)⟩
  · obtain ⟨check, hcheck, heq⟩ := hrule.exists_check_of_standard hstandard (by rw [hname]; rfl)
    obtain ⟨fields, wording, hfields, rfl⟩ := CheckShape.siblings_of_compile hcheck
    rw [heq, Rule.rejectsValue_confirmed_iff]
    exact ⟨Rule.decides_siblings _ _ _, not_congr (Params.eq_nil_iff_of_fieldList? hfields)⟩

theorem vacuous_iff_of_compile_between :
    let env : Environment := .empty
    ∃ rule, forTasks.compileEntry "note" none (.ofName "between:3,10") = .ok rule ∧
      rule.name = "between" ∧ rule.Decides env "note" ∧ rule.AcceptsNumber env "note" := by
  intro env
  have hstandard : forTasks.registry = .standard := rfl
  have hrange : (entryParams (.ofName "between:3,10")).range? = some (.ofInt 3, .ofInt 10) := by
    decide +kernel
  have hle : Binary64.ofInt 3 ≤ Binary64.ofInt 10 := by decide +kernel
  obtain ⟨messages, extra, hcompile⟩ :=
    exists_compileEntry_between hstandard "note" none (by rfl) hrange
  obtain ⟨hdecides, first, last, hrange', hiff⟩ := (vacuous_iff_of_compile rfl hcompile env).1 rfl
  obtain ⟨rfl, rfl⟩ := Prod.mk.inj (Option.some.inj (hrange.symm.trans hrange'))
  exact ⟨_, hcompile, rfl, hdecides, hiff.mpr (.inl hle)⟩

/-- A reversed range and empty arrays of fields are no errors. -/
theorem vacuous_rules_compile :
    let env : Environment := .empty
    (∃ rule, forTasks.compileEntry "note" none (.ofName "between:10,3") = .ok rule ∧
      ¬rule.AcceptsNumber env "note") ∧
    (∃ rule, forTasks.compileEntry "note" none ⟨"different", none, .value (.array [])⟩ = .ok rule ∧
      ¬rule.AcceptsNumber env "note") ∧
    ∃ rule, forTasks.compileEntry "note" none ⟨"confirmed", none, .value (.array [])⟩ = .ok rule ∧
      ¬rule.RejectsValue env "note" := by
  intro env
  have hstandard : forTasks.registry = .standard := rfl
  have hrange : (entryParams (.ofName "between:10,3")).range? = some (.ofInt 10, .ofInt 3) := by
    decide +kernel
  have hreversed : ¬Binary64.ofInt 10 ≤ Binary64.ofInt 3 := by decide +kernel
  obtain ⟨messages, extra, hcompile⟩ :=
    exists_compileEntry_between hstandard "note" none (by rfl) hrange
  refine ⟨⟨_, hcompile, ?_⟩, ⟨_, compileEntry_eq_ok_iff.mpr (.check rfl (by rfl) (by rfl)), ?_⟩,
    _, compileEntry_eq_ok_iff.mpr (.check rfl (by rfl) (by rfl)), ?_⟩
  · rw [Rule.acceptsNumber_range_iff, RuleUse.lookup_sizeWording_eq_none_iff]
    simp [hreversed, useOf, RuleEntry.ofName]
  · exact fun haccepts => Rule.acceptsNumber_different_iff.mp haccepts rfl
  · exact fun hrejects => Rule.rejectsValue_confirmed_iff.mp hrejects rfl

end Compiler

end FieldRules
