import FieldRules.Proofs.Compiler.Decision
import FieldRules.Proofs.Compiler.Foreign
import FieldRules.Proofs.Compiler.Reworded
import FieldRules.Proofs.Compiler.Shapes
import FieldRules.Proofs.Compiler.Standard
import FieldRules.Proofs.Rule.Opposite

namespace FieldRules

theorem Binary64.not_lt {x y : Binary64} : ¬x < y ↔ y ≤ x := Int.not_lt

namespace CheckShape

/-- Two shapes whose checks are opposites, whatever parameters both of them are given. -/
inductive Opposes : Dividing → CheckShape → CheckShape → Prop
  | membership (message message' : String) :
    Opposes .always (.membership message false) (.membership message' true)
  | itemMatch (message message' : String) :
    Opposes .always (.itemMatch message false) (.itemMatch message' true)
  | confirmed (message message' : String) :
    Opposes .always (.siblings message .confirmed) (.siblings message' .different)
  | size {isInvalid isInvalid' : Binary64 → Binary64 → Bool} (messages messages' : SizeMessages)
    (hopposite : ∀ size bound, isInvalid' size bound = !isInvalid size bound) :
    Opposes .sized (.size messages isInvalid) (.size messages' isInvalid')
  | range {isInvalid isInvalid' : Binary64 → Binary64 → Binary64 → Bool}
    (messages messages' : SizeMessages)
    (hopposite : ∀ size first last, isInvalid' size first last = !isInvalid size first last) :
    Opposes .sized (.range messages isInvalid) (.range messages' isInvalid')
  | foreign (message message' : String) :
    Opposes .resolved (.foreign message false) (.foreign message' true)
  | requiredWith (message message' : String) :
    Opposes .empty (.siblings message .requiredWith) (.siblings message' .requiredWithoutAll)
  | requiredWithAll (message message' : String) :
    Opposes .empty (.siblings message .requiredWithAll) (.siblings message' .requiredWithout)
  | trigger (message message' : String) :
    Opposes .empty (.trigger message true) (.trigger message' false)

/-- Two checks of siblings that are given the same parameters look at the same siblings. -/
theorem siblings_of_compiles {scope : Scope} {use use' : RuleUse}
    (hparams : use'.params = use.params) {message message' : String}
    {siblingCheck siblingCheck' : SiblingCheck} {check check' : Check}
    (hcheck : (siblings message siblingCheck).compile scope use = .ok check)
    (hcheck' : (siblings message' siblingCheck').compile scope use' = .ok check') :
    ∃ fields wording wording', check = .siblings siblingCheck fields wording ∧
      check' = .siblings siblingCheck' fields wording' := by
  obtain ⟨fields, wording, hfields, rfl⟩ := siblings_of_compile hcheck
  obtain ⟨fields', wording', hfields', rfl⟩ := siblings_of_compile hcheck'
  rw [hparams, hfields] at hfields'
  cases hfields'
  exact ⟨fields, wording, wording', rfl, rfl⟩

/-- Checks of opposite shapes with the same parameters are opposites: both have been read from them
    in the same way, and plain messages let no type of value pass unchecked. -/
theorem Opposes.check_opposes {dividing : Dividing} {shape shape' : CheckShape}
    (hopposes : shape.Opposes dividing shape') {scope : Scope} {use use' : RuleUse}
    (hfield : use'.field = use.field) (hparams : use'.params = use.params)
    (hmessage : Message.Plain use.message) (hmessage' : Message.Plain use'.message)
    {check check' : Check} (hcheck : shape.compile scope use = .ok check)
    (hcheck' : shape'.compile scope use' = .ok check') : check.Opposes dividing check' := by
  cases hopposes with
  | membership message message' =>
    obtain ⟨wording, rfl⟩ := membership_of_compile hcheck
    obtain ⟨wording', rfl⟩ := membership_of_compile hcheck'
    rw [hparams]
    exact .membership _ wording wording'
  | itemMatch message message' =>
    obtain ⟨field, expected, equal, wording, hread, rfl⟩ := itemMatch_of_compile hcheck
    obtain ⟨field', expected', equal', wording', hread', rfl⟩ := itemMatch_of_compile hcheck'
    rw [hparams, hread] at hread'
    cases hread'
    exact .itemMatch field expected equal wording wording'
  | confirmed message message' =>
    obtain ⟨fields, wording, wording', rfl, rfl⟩ := siblings_of_compiles hparams hcheck hcheck'
    exact .confirmed fields wording wording'
  | size messages messages' hopposite =>
    obtain ⟨bound, _, hbound, rfl⟩ := size_of_compile hcheck
    obtain ⟨bound', _, hbound', rfl⟩ := size_of_compile hcheck'
    rw [hparams, hbound] at hbound'
    cases hbound'
    exact .sized (fun size => hopposite size bound) (hmessage.lookup_isSome messages)
      (hmessage'.lookup_isSome messages')
  | range messages messages' hopposite =>
    obtain ⟨first, last, _, hrange, rfl⟩ := range_of_compile hcheck
    obtain ⟨first', last', _, hrange', rfl⟩ := range_of_compile hcheck'
    rw [hparams, hrange] at hrange'
    cases hrange'
    exact .sized (fun size => hopposite size first last) (hmessage.lookup_isSome messages)
      (hmessage'.lookup_isSome messages')
  | foreign message message' =>
    obtain ⟨model, field, given, wording, hread, _, rfl⟩ := foreign_of_compile hcheck
    obtain ⟨model', field', given', wording', hread', _, rfl⟩ := foreign_of_compile hcheck'
    rw [hparams, hread] at hread'
    cases hread'
    rw [hfield]
    exact .foreign _ _ _ wording wording'
  | requiredWith message message' =>
    obtain ⟨fields, wording, wording', rfl, rfl⟩ := siblings_of_compiles hparams hcheck hcheck'
    exact .requiredWith fields wording wording'
  | requiredWithAll message message' =>
    obtain ⟨fields, wording, wording', rfl, rfl⟩ := siblings_of_compiles hparams hcheck hcheck'
    exact .requiredWithAll fields wording wording'
  | trigger message message' =>
    obtain ⟨field, values, wording, hread, rfl⟩ := trigger_of_compile hcheck
    obtain ⟨field', values', wording', hread', rfl⟩ := trigger_of_compile hcheck'
    rw [hparams, hread] at hread'
    cases hread'
    exact .trigger field _ wording wording'

end CheckShape

namespace Registry

/-- The standard rules that come in opposite pairs, and the values that each pair divides. -/
def opposites : List (Dividing × String × String) :=
  [(.always, "in", "not_in"), (.always, "contains", "not_contains"),
    (.always, "confirmed", "different"),
    (.sized, "min", "less_than"), (.sized, "max", "greater_than"), (.sized, "equal", "not_equal"),
    (.sized, "between", "not_between"),
    (.resolved, "exists", "unique"),
    (.empty, "required_with", "required_without_all"),
    (.empty, "required_with_all", "required_without"), (.empty, "required_if", "required_unless")]

theorem standard_opposites : ∀ pair ∈ opposites,
    ∃ shape shape', standard.find? pair.2.1 = some (.check shape) ∧
      standard.find? pair.2.2 = some (.check shape') ∧ shape.Opposes pair.1 shape' := by
  simp only [opposites, List.forall_mem_cons]
  refine ⟨⟨_, _, rfl, rfl, .membership _ _⟩, ⟨_, _, rfl, rfl, .itemMatch _ _⟩,
    ⟨_, _, rfl, rfl, .confirmed _ _⟩, ⟨_, _, rfl, rfl, .size _ _ ?min⟩,
    ⟨_, _, rfl, rfl, .size _ _ ?max⟩, ⟨_, _, rfl, rfl, .size _ _ ?equal⟩,
    ⟨_, _, rfl, rfl, .range _ _ ?between⟩, ⟨_, _, rfl, rfl, .foreign _ _⟩,
    ⟨_, _, rfl, rfl, .requiredWith _ _⟩, ⟨_, _, rfl, rfl, .requiredWithAll _ _⟩,
    ⟨_, _, rfl, rfl, .trigger _ _⟩, by simp⟩
  case min =>
    intro size bound
    rw [← decide_not, decide_eq_decide, Binary64.not_lt]
  case max =>
    intro size bound
    rw [← decide_not, decide_eq_decide, Binary64.not_lt]
  case equal =>
    intro size bound
    rw [Bool.not_not]
  case between =>
    intro size first last
    simp only [Bool.not_or, ← decide_not, Binary64.not_lt]

end Registry

namespace Compiler

/-- The standard rules of a pair, given the same parameters and no messages by type, are opposites.
    Of each pair exactly one rule accepts a value that the pair divides, and both accept any other:
    the membership rules divide all values, the rules about sizes those that have a size, the rules
    about other records those that are looked up in a collection, and the rules about missing values
    the empty ones. A rule whose lookup never ends comes to no decision. -/
theorem opposites_of_compile {compiler : Compiler} (hstandard : compiler.registry = .standard)
    {dividing : Dividing} {name name' : String}
    (hpair : (dividing, name, name') ∈ Registry.opposites) {field : String}
    {message message' : Option Message} {entry entry' : RuleEntry} {rule rule' : Rule}
    (hcompile : compiler.compileEntry field message entry = .ok rule)
    (hcompile' : compiler.compileEntry field message' entry' = .ok rule')
    (hname : rule.name = name) (hname' : rule'.name = name')
    (hparams : entryParams entry' = entryParams entry)
    (hmessage : Message.Plain (entry.message.or message))
    (hmessage' : Message.Plain (entry'.message.or message'))
    (env : Environment) (value : Value) (s : RunState) :
    (∀ answer, rule.Informed env field value answer → rule'.Informed env field value answer →
      if dividing.divides value answer then
        ∃ accepted, rule.accepts? env field value s = some accepted ∧
          rule'.accepts? env field value s = some !accepted
      else
        rule.accepts? env field value s = some true ∧
          rule'.accepts? env field value s = some true) ∧
    ((∀ answer, ¬rule.Informed env field value answer) →
      rule.accepts? env field value s = none) ∧
    ((∀ answer, ¬rule'.Informed env field value answer) →
      rule'.accepts? env field value s = none) := by
  obtain ⟨shape, shape', hshape, hshape', hopposes⟩ := Registry.standard_opposites _ hpair
  dsimp only at hshape hshape' hopposes
  rw [← hname] at hshape
  rw [← hname'] at hshape'
  obtain ⟨check, hcheck, hrule⟩ :=
    (compileEntry_eq_ok_iff.mp hcompile).exists_check_of_standard hstandard hshape
  obtain ⟨check', hcheck', hrule'⟩ :=
    (compileEntry_eq_ok_iff.mp hcompile').exists_check_of_standard hstandard hshape'
  have hchecks := hopposes.check_opposes (by rfl) hparams hmessage hmessage' hcheck hcheck'
  refine ⟨fun answer => ?_, Rule.accepts?_of_uninformed, Rule.accepts?_of_uninformed⟩
  rw [hrule, hrule']
  exact Rule.accepts?_of_opposes hchecks

/-- A rule about the note that depends on whether there is a status. -/
def noteRule (name : String) (siblingCheck : SiblingCheck) : Rule :=
  .check name (.siblings siblingCheck ["status"]
    ⟨.forField "note" ⟨[]⟩ forTasks.schema, Wording.said " is required.",
      [("$fields", .string "status"), ("$fieldAliases", .string "status")]⟩)

/-- With a status, only one of the rules needs a note. -/
theorem opposites_of_compile_note :
    let env : Environment := .empty
    let s : RunState := .ofRecord ⟨[("status", .string "open")]⟩
    let needed := noteRule "required_with" .requiredWith
    let needless := noteRule "required_without_all" .requiredWithoutAll
    forTasks.compileEntry "note" none (.ofName "required_with:status") = .ok needed ∧
      forTasks.compileEntry "note" none (.ofName "required_without_all:status") = .ok needless ∧
      needed.accepts? env "note" .null s = some false ∧
      needless.accepts? env "note" .null s = some true := by
  intro env s needed needless
  have hneeded : forTasks.compileEntry "note" none (.ofName "required_with:status") =
      .ok needed :=
    compileEntry_eq_ok_iff.mpr (.check rfl (by rfl) (by rfl))
  have hneedless : forTasks.compileEntry "note" none (.ofName "required_without_all:status") =
      .ok needless :=
    compileEntry_eq_ok_iff.mpr (.check rfl (by rfl) (by rfl))
  have hpair : (.empty, "required_with", "required_without_all") ∈ Registry.opposites := by
    simp [Registry.opposites]
  obtain ⟨hdivided, _⟩ := opposites_of_compile rfl hpair hneeded hneedless rfl rfl (by rfl)
    .missing .missing env .null s
  obtain ⟨accepted, haccepted, hopposite⟩ := hdivided none trivial trivial
  have hrejects : needed.accepts? env "note" .null s = some false := by rfl
  rw [hrejects] at haccepted
  cases haccepted
  exact ⟨hneeded, hneedless, hrejects, hopposite⟩

end Compiler

end FieldRules
