import FieldRules.Proofs.Compiler.Compiles
import FieldRules.Proofs.Compiler.Forms
import FieldRules.Proofs.Compiler.Gate
import FieldRules.Proofs.Rule.Judge
import FieldRules.Proofs.Text.Escape
import FieldRules.Rule.Standard

namespace FieldRules

/-- Text items are listed by themselves. -/
theorem Membership.contains_texts (texts : List String) (v : String) :
    (ofList (texts.map .string)).contains (.string v) = decide (v ∈ texts) := by
  have hscalars : (texts.map Value.string).all Value.isScalar = true := by
    simp [Value.isScalar]
  have hdisplays : (texts.map Value.string).map Value.display = texts := by
    rw [List.map_map]
    exact List.map_id texts
  rw [ofList, if_pos hscalars, hdisplays, contains]
  simp [Value.isScalar, Value.display]

theorem CheckShape.compile_membership (scope : Scope) {use : RuleUse}
    (hparams : use.params.isNone = false) (hitems : use.params.listItems ≠ []) (message : String)
    (failWhenListed : Bool) :
    ∃ wording, (membership message failWhenListed).compile scope use =
      .ok (.membership (.ofList use.params.listItems) failWhenListed wording) := by
  have hsome : use.params.listItems.isEmpty = false := List.isEmpty_eq_false_iff.mpr hitems
  rw [compile, RuleUse.requireParams, hparams]
  dsimp only [bind, Except.bind]
  rw [hsome]
  exact ⟨_, rfl⟩

/-- A list of items is a rule that can stand between bars. -/
theorem RuleSpec.isToken_items {items : List String} (hsome : items ≠ [])
    (hitems : ∀ item ∈ items, Text.IsItem item) : IsToken ("in:" ++ Text.writeItems items) := by
  -- The last character is that of an item, and so it is neither blank nor an escape.
  obtain ⟨item, hitem, hends⟩ :=
    Text.exists_getLast?_writeItems hsome fun item hitem => (hitems item hitem).some
  obtain ⟨hne, htight, hplain⟩ := hitems item hitem
  have hlist : ("in:" ++ Text.writeItems items).toList =
      'i' :: 'n' :: ':' :: (Text.writeItems items).toList := by
    rw [String.toList_append]
    rfl
  have hlast : ("in:" ++ Text.writeItems items).toList.getLast? = item.toList.getLast? := by
    have hlastSome : item.toList.getLast?.isSome := by
      rw [Option.isSome_iff_ne_none, Ne, List.getLast?_eq_none_iff]
      exact hne
    rw [String.toList_append, List.getLast?_append, hends, Option.or_of_isSome hlastSome]
  refine ⟨?_, ⟨?_, ?_⟩, ?_, ?_⟩
  · rw [hlist]
    exact List.cons_ne_nil _ _
  · rw [hlist]
    rfl
  · rw [hlast]
    exact htight.last
  · rw [hlist]
    have hguarded := Text.guarded_writeItems items
    exact ((hguarded.cons (by decide)).cons (by decide)).cons (by decide)
  · rw [hlast]
    exact fun hescape => hplain (List.mem_of_getLast? hescape)

namespace Compiler

variable {compiler : Compiler} {items : List String}

/-- A list of items compiles to a rule that lists them with their bars still escaped. -/
theorem compileEntry_items (hstandard : compiler.registry = .standard) (field : String)
    (message : Option Message) (hsome : items ≠ []) (hitems : ∀ item ∈ items, Text.IsItem item) :
    ∃ wording, compiler.compileEntry field message (.ofName ("in:" ++ Text.writeItems items)) =
      .ok (.check "in" (.membership (.ofList ((items.map (Text.escape ['|'])).map .string)) false
        wording)) := by
  have hmark : ':' ∉ ['i', 'n'] := by decide
  have hsplit : splitRule ("in:" ++ Text.writeItems items) =
      ("in", some (Text.writeItems items)) := by
    rw [splitRule, Text.splitOnce_append rfl hmark]
  have hname : (splitRule (RuleEntry.ofName ("in:" ++ Text.writeItems items)).rule).1 = "in" :=
    congrArg Prod.fst hsplit
  let use := useOf field message (.ofName ("in:" ++ Text.writeItems items))
  have hparams : use.params = .text (Text.writeItems items) := by
    simp only [use, useOf, entryParams, RuleEntry.ofName, hsplit]
  have hread : use.params.listItems = (items.map (Text.escape ['|'])).map .string := by
    rw [hparams, Params.listItems,
      Text.splitList_writeItems hsome fun item hitem => (hitems item hitem).plain]
  have hgiven : use.params.isNone = false := by
    rw [hparams, Params.isNone, List.isEmpty_eq_false_iff]
    exact Text.toList_writeItems_ne_nil hsome fun item hitem => (hitems item hitem).some
  have hfound : ∃ message,
      compiler.registry.find? "in" = some (.check (.membership message false)) := by
    rw [hstandard]
    exact ⟨_, rfl⟩
  obtain ⟨default, hfound⟩ := hfound
  obtain ⟨wording, hcheck⟩ := CheckShape.compile_membership compiler.scope hgiven
    (by simpa [hread] using hsome) default false
  rw [hread] at hcheck
  refine ⟨wording, compileEntry_eq_ok_iff.mpr ?_⟩
  rw [← hname] at hfound ⊢
  exact .check (by rw [hname]; rfl) hfound hcheck

/-- A list of items, written between bars, compiles to one rule, and this rule accepts the texts of
    the items. The escapes let their commas through, but those before their bars stay in the texts:
    an item with a bar is not accepted as it is. -/
theorem compile_items (hstandard : compiler.registry = .standard) (field : String)
    (message : Option Message) (hsome : items ≠ []) (hitems : ∀ item ∈ items, Text.IsItem item) :
    ∃ rule, compiler.compile (.text ("in:" ++ Text.writeItems items)) field message = .ok [rule] ∧
      rule.name = "in" ∧ ∀ env v s,
        rule.accepts? env field (.string v) s =
            some (decide (v ∈ items.map (Text.escape ['|']))) ∧
          ((∀ item ∈ items, '|' ∉ item.toList) →
            rule.accepts? env field (.string v) s = some (decide (v ∈ items))) := by
  obtain ⟨wording, hcompile⟩ := compileEntry_items hstandard field message hsome hitems
  have hrules := RuleSpec.splitRules_intercalate
    (List.forall_mem_singleton.mpr (RuleSpec.isToken_items hsome hitems))
  rw [String.intercalate_singleton] at hrules
  have hentries : (RuleSpec.text ("in:" ++ Text.writeItems items)).entries =
      (RuleSpec.list ["in:" ++ Text.writeItems items]).entries :=
    congrArg (List.map RuleEntry.ofName) hrules
  have hcompiled := (compile_alone_eq_ok_iff compiler field message _ _).mpr hcompile
  rw [compile, ← hentries, ← compile] at hcompiled
  refine ⟨_, hcompiled, rfl, fun env v s => ?_⟩
  rw [Rule.accepts?_membership, Membership.contains_texts, Bool.bne_false]
  refine ⟨rfl, fun hbars => ?_⟩
  have hplain : items.map (Text.escape ['|']) = items := by
    refine (List.map_congr_left fun item hitem => ?_).trans (List.map_id items)
    refine Text.escape_of_no_marks fun c hc hbar => hbars item hitem ?_
    rwa [List.mem_singleton.mp hbar] at hc
  rw [hplain]

theorem compile_items_with_commas :
    let env : Environment := .empty
    let s : RunState := .ofRecord .empty
    ∃ rule, forNames.compile (.text "in:a\\,b,c:d") "name" none = .ok [rule] ∧
      rule.accepts? env "name" (.string "a,b") s = some true ∧
      rule.accepts? env "name" (.string "c:d") s = some true ∧
      rule.accepts? env "name" (.string "a") s = some false := by
  intro env s
  have hitems : ∀ item ∈ ["a,b", "c:d"], Text.IsItem item := by
    simp only [List.forall_mem_cons]
    refine ⟨?_, ?_, by simp⟩
    all_goals exact ⟨by decide, ⟨by decide, by decide⟩, by decide⟩
  have hstandard : forNames.registry = .standard := rfl
  obtain ⟨rule, hcompile, _, haccepts⟩ :=
    compile_items hstandard "name" none (List.cons_ne_nil _ _) hitems
  have hplain : ∀ v, rule.accepts? env "name" (.string v) s = some (decide (v ∈ ["a,b", "c:d"])) :=
    fun v => (haccepts env v s).2 (by decide)
  exact ⟨rule, hcompile, hplain _, hplain _, hplain _⟩

/-- The item of this rule is written with a bar. -/
def itemWithBar : Rule :=
  .check "in" (.membership (.keys ["a\\|b"]) false
    ⟨.forField "name" ⟨[]⟩ forNames.schema, Wording.saidWith " must be one of " "$list" ".",
      [("$params", .string "a\\|b"), ("$list", .string "a\\|b")]⟩)

/-- The item is `a|b`, but the rule accepts only a text with the escape in it. -/
theorem in_rejects_item_with_bar :
    let env : Environment := .empty
    let s : RunState := .ofRecord .empty
    Text.IsItem "a|b" ∧ "in:" ++ Text.writeItems ["a|b"] = "in:a\\|b" ∧
      forNames.compile (.text "in:a\\|b") "name" none = .ok [itemWithBar] ∧
      itemWithBar.accepts? env "name" (.string "a|b") s = some false ∧
      itemWithBar.accepts? env "name" (.string "a\\|b") s = some true := by
  intro env s
  refine ⟨⟨by decide, ⟨by decide, by decide⟩, by decide⟩, by rfl, ?_, rfl, rfl⟩
  refine (compile_alone_eq_ok_iff forNames "name" none "in:a\\|b" itemWithBar).mpr ?_
  exact compileEntry_eq_ok_iff.mpr (.check rfl (by rfl) (by rfl))

end Compiler

end FieldRules
