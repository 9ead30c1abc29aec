import FieldRules.Proofs.Compiler.Items
import FieldRules.Proofs.Compiler.Standard
import FieldRules.Proofs.Value.Display

namespace FieldRules

/-- Comparable scalars are found by their texts where they are found by equality. -/
theorem Membership.contains_append_composite {items : List Value} {composite value : Value}
    (hitems : ∀ item ∈ items, item.isScalar = true) (hcomposite : composite.isScalar = false)
    (hvalue : value.isScalar = true) (hcomparable : ∀ item ∈ items, item.Comparable value) :
    (ofList (items ++ [composite])).contains value = (ofList items).contains value := by
  have hkeys : items.all Value.isScalar = true := List.all_eq_true.mpr hitems
  have hscan : ¬(items ++ [composite]).all Value.isScalar = true := by
    simp [hcomposite]
  have hunequal : composite.equal value = false := by
    rw [Bool.eq_false_iff]
    intro hequal
    have htag := (Value.tag?_eq_of_equal hequal).symm.trans
      (Value.tag?_eq_object_iff.mpr hcomposite)
    rw [Value.tag?_eq_object_iff, hvalue] at htag
    cases htag
  rw [ofList, if_neg hscan, ofList, if_pos hkeys, contains, contains, hvalue, Bool.true_and,
    List.any_append, Bool.eq_iff_iff]
  simp only [List.any_cons, hunequal, List.any_nil, Bool.or_false, List.any_eq_true,
    List.contains_eq_mem, List.mem_map, decide_eq_true_iff]
  refine exists_congr fun item => and_congr_right fun hitem => ?_
  exact ((hcomparable item hitem).display_eq_iff (hitems item hitem) hvalue).symm

/-- The standard rules that look a value up in a list. -/
inductive ListRule where
  | isIn
  | notIn

namespace ListRule

def name : ListRule → String
  | isIn => "in"
  | notIn => "not_in"

def failsWhenListed : ListRule → Bool
  | isIn => false
  | notIn => true

theorem exists_shape (kind : ListRule) : ∃ message, Registry.standard.find? kind.name =
    some (.check (.membership message kind.failsWhenListed)) := by
  cases kind <;> exact ⟨_, rfl⟩

end ListRule

namespace Compiler

variable {compiler : Compiler} {field : String} {message : Option Message} {entry : RuleEntry}

/-- A rule about a list compiles if the list has items, and accepts a value by whether it is
    listed. -/
theorem exists_listRule (hstandard : compiler.registry = .standard) (field : String)
    (message : Option Message) {kind : ListRule} (hname : (splitRule entry.rule).1 = kind.name)
    (hgiven : (entryParams entry).isNone = false)
    (hsome : (entryParams entry).listItems ≠ []) :
    ∃ rule, compiler.compileEntry field message entry = .ok rule ∧ ∀ env value s,
      rule.accepts? env field value s = some
        ((Membership.ofList (entryParams entry).listItems).contains value !=
          kind.failsWhenListed) := by
  obtain ⟨shapeMessage, hfound⟩ := kind.exists_shape
  let use := useOf field message entry
  have hgiven' : use.params.isNone = false := hgiven
  obtain ⟨wording, hcheck⟩ := CheckShape.compile_membership compiler.scope hgiven' hsome
    shapeMessage kind.failsWhenListed
  rw [compileEntry_standard hstandard hname hfound, hcheck]
  exact ⟨_, rfl, fun env value s => Rule.accepts?_membership ..⟩

/-- One more item that is an array or an object makes a list be searched by equality, and not by
    texts. For a scalar this makes no difference, as long as it is comparable with all items. -/
theorem compileEntry_append_composite (hstandard : compiler.registry = .standard) {kind : ListRule}
    {extended : RuleEntry} {items : List Value} {composite : Value}
    (hname : (splitRule entry.rule).1 = kind.name)
    (hname' : (splitRule extended.rule).1 = kind.name)
    (hgiven : (entryParams entry).isNone = false) (hitems : (entryParams entry).listItems = items)
    (hextended : entryParams extended = .value (.array (items ++ [composite])))
    (hsome : items ≠ []) (hscalars : ∀ item ∈ items, item.isScalar = true)
    (hcomposite : composite.isScalar = false) :
    ∃ rule extendedRule, compiler.compileEntry field message entry = .ok rule ∧
      compiler.compileEntry field message extended = .ok extendedRule ∧
      ∀ env value s, value.isScalar = true → (∀ item ∈ items, item.Comparable value) →
        ∃ accepted, rule.accepts? env field value s = some accepted ∧
          extendedRule.accepts? env field value s = some accepted := by
  have hitems' : (entryParams extended).listItems = items ++ [composite] := by
    rw [hextended, Params.listItems]
  have hgiven' : (entryParams extended).isNone = false := by
    rw [hextended]
    rfl
  have hsome' : (entryParams extended).listItems ≠ [] := by
    rw [hitems']
    exact List.append_ne_nil_of_right_ne_nil _ (List.cons_ne_nil _ _)
  rw [← hitems] at hsome
  obtain ⟨rule, hcompile, haccepts⟩ :=
    exists_listRule hstandard field message hname hgiven hsome
  obtain ⟨extendedRule, hcompile', haccepts'⟩ :=
    exists_listRule hstandard field message hname' hgiven' hsome'
  refine ⟨rule, extendedRule, hcompile, hcompile', fun env value s hvalue hcomparable => ?_⟩
  refine ⟨_, haccepts env value s, ?_⟩
  rw [haccepts', hitems', hitems,
    Membership.contains_append_composite hscalars hcomposite hvalue hcomparable]

/-- A rule that is given a list of values. -/
def listEntry (kind : ListRule) (items : List Value) : RuleEntry :=
  ⟨kind.name, none, .value (.array items)⟩

theorem splitRule_listEntry (kind : ListRule) (items : List Value) :
    splitRule (listEntry kind items).rule = (kind.name, none) := by
  change splitRule kind.name = (kind.name, none)
  cases kind <;> rfl

theorem entryParams_listEntry (kind : ListRule) (items : List Value) :
    entryParams (listEntry kind items) = .value (.array items) := by
  rw [entryParams, splitRule_listEntry, listEntry]

theorem isNone_listEntry (kind : ListRule) (items : List Value) :
    (entryParams (listEntry kind items)).isNone = false := by
  rw [entryParams_listEntry]
  rfl

theorem listItems_listEntry (kind : ListRule) (items : List Value) :
    (entryParams (listEntry kind items)).listItems = items := by
  rw [entryParams_listEntry, Params.listItems]

theorem exists_listEntry (hstandard : compiler.registry = .standard) (field : String)
    (message : Option Message) (kind : ListRule) {items : List Value} (hsome : items ≠ []) :
    ∃ rule, compiler.compileEntry field message (listEntry kind items) = .ok rule ∧
      ∀ env value s, rule.accepts? env field value s = some
        ((Membership.ofList items).contains value != kind.failsWhenListed) := by
  have hname : (splitRule (listEntry kind items).rule).1 = kind.name := by
    rw [splitRule_listEntry]
  have hsome' : (entryParams (listEntry kind items)).listItems ≠ [] := by
    rwa [listItems_listEntry]
  obtain ⟨rule, hcompile, haccepts⟩ :=
    exists_listRule hstandard field message hname (isNone_listEntry kind items) hsome'
  rw [listItems_listEntry] at haccepts
  exact ⟨rule, hcompile, haccepts⟩

theorem compileEntry_append_composite_one :
    let env : Environment := .empty
    let s : RunState := .ofRecord .empty
    let one : Value := .number (.float (.ofInt 1))
    ∃ rule extendedRule accepted,
      forNames.compileEntry "name" none (listEntry .isIn [.int 1, .string "a"]) = .ok rule ∧
      forNames.compileEntry "name" none (listEntry .isIn [.int 1, .string "a", .array []]) =
        .ok extendedRule ∧
      rule.accepts? env "name" one s = some accepted ∧
      extendedRule.accepts? env "name" one s = some accepted := by
  intro env s one
  have hname : ∀ items, (splitRule (listEntry .isIn items).rule).1 = ListRule.isIn.name :=
    fun items => by rw [splitRule_listEntry]
  have hextended :=
    entryParams_listEntry .isIn ([Value.int 1, .string "a"] ++ [.array []])
  have hscalars : ∀ item ∈ [Value.int 1, .string "a"], item.isScalar = true := by
    simp only [List.forall_mem_cons]
    exact ⟨rfl, rfl, List.forall_mem_nil _⟩
  have hcomparable : ∀ item ∈ [Value.int 1, .string "a"], item.Comparable one := by
    simp only [List.forall_mem_cons]
    refine ⟨⟨fun _ => rfl, ?_⟩, ⟨fun hsame => ?_, ?_⟩, List.forall_mem_nil _⟩
    · rintro _ n ⟨⟩ hone -
      obtain rfl : .float (.ofInt 1) = n := Value.number.inj hone
      exact .inr ⟨by rw [Number.IsSafe]; decide, trivial⟩
    · exact absurd hsame (by decide +kernel)
    · rintro _ _ ⟨⟩
  obtain ⟨rule, extendedRule, hcompile, hcompile', haccepts⟩ :=
    compileEntry_append_composite (rfl : forNames.registry = .standard) (hname _) (hname _)
      (isNone_listEntry _ _) (listItems_listEntry _ _) hextended (List.cons_ne_nil _ _)
      hscalars rfl
  obtain ⟨accepted, hrule, hextended⟩ := haccepts env one s rfl hcomparable
  exact ⟨rule, extendedRule, accepted, hcompile, hcompile', hrule, hextended⟩

/-- A text is listed for a number as long as all items are scalars, but not beside an array. -/
theorem append_array_changes_in :
    let env : Environment := .empty
    let s : RunState := .ofRecord .empty
    ∃ rule extendedRule,
      forNames.compileEntry "name" none (listEntry .isIn [.string "1"]) = .ok rule ∧
      forNames.compileEntry "name" none (listEntry .isIn [.string "1", .array []]) =
        .ok extendedRule ∧
      rule.accepts? env "name" (.int 1) s = some true ∧
      extendedRule.accepts? env "name" (.int 1) s = some false := by
  intro env s
  obtain ⟨rule, hcompile, haccepts⟩ :=
    exists_listEntry (rfl : forNames.registry = .standard) "name" none .isIn
      (List.cons_ne_nil (.string "1") [])
  obtain ⟨extendedRule, hcompile', haccepts'⟩ :=
    exists_listEntry (rfl : forNames.registry = .standard) "name" none .isIn
      (List.cons_ne_nil (.string "1") [.array []])
  refine ⟨rule, extendedRule, hcompile, hcompile', ?_, ?_⟩
  · rw [haccepts]
    decide +kernel
  · rw [haccepts']
    decide +kernel

end Compiler

end FieldRules
