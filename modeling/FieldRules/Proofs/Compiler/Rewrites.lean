import FieldRules.Proofs.Compiler.Gate
import FieldRules.Proofs.Compiler.Standard
import FieldRules.Proofs.Rule.Rewrite
import FieldRules.Proofs.Text.Tags

namespace FieldRules.Compiler

variable {compiler : Compiler} {field name : String} {message : Option Message} {entry : RuleEntry}

/-! Standard rules without parameters that put another value in the place of the one they find. -/

theorem compileEntry_transform (hstandard : compiler.registry = .standard) {transform : Transform}
    (hname : (splitRule entry.rule).1 = name)
    (hshape : Registry.standard.find? name = some (.check (.transform transform)))
    (hparams : (entryParams entry).isNone = true) :
    compiler.compileEntry field message entry = .ok (.check name (.transform transform field)) := by
  rw [compileEntry_standard hstandard hname hshape, CheckShape.compile, RuleUse.requireNoParams,
    useOf, if_pos hparams]
  rfl

theorem compileEntry_predicate (hstandard : compiler.registry = .standard) {default : String}
    {find : Value → Finding} (hname : (splitRule entry.rule).1 = name)
    (hshape : Registry.standard.find? name = some (.check (.predicate default find)))
    (hparams : (entryParams entry).isNone = true) :
    ∃ wording, compiler.compileEntry field message entry =
      .ok (.check name (.predicate find wording)) := by
  rw [compileEntry_standard hstandard hname hshape, CheckShape.compile, RuleUse.requireNoParams,
    useOf, if_pos hparams]
  exact ⟨_, rfl⟩

/-- `stripEnts` leaves of a text what stands between its entities. An entity is left just if others
    have interrupted it, and as long as there is one, the rule changes the text again; so it takes
    at most as many rules in a row as the text has characters to leave none. -/
theorem compileEntry_stripEntities (hstandard : compiler.registry = .standard)
    (hname : (splitRule entry.rule).1 = "stripEnts")
    (hparams : (entryParams entry).isNone = true) :
    ∃ rule, compiler.compileEntry field message entry = .ok rule ∧
      ∀ (env : Environment) (s : RunState) (text : String),
        (∀ n, (startRules env field (List.replicate n rule) (some (.string text))).alone s =
          some (⟨field, .string (Text.stripEntities^[n] text), decide (0 < n), none, .ended⟩, s)) ∧
        (∃ front : List Char, ∃ parts : List (List Char × List Char),
          text.toList = front ++ parts.flatMap (fun part => part.1 ++ part.2) ∧
          (Text.stripEntities text).toList = front ++ parts.flatMap Prod.snd ∧
          ¬Text.HasEntity front ∧
          ∀ part ∈ parts, Text.IsEntity part.1 ∧ ¬Text.HasEntity part.2) ∧
        (Text.HasEntity (Text.stripEntities text).toList ↔
          Text.HasInterruptedEntity text.toList) ∧
        (Text.stripEntities^[2] text = Text.stripEntities text ↔
          ¬Text.HasEntity (Text.stripEntities text).toList) ∧
        ∀ n, text.toList.length ≤ n → ¬Text.HasEntity (Text.stripEntities^[n] text).toList := by
  refine ⟨_, compileEntry_transform hstandard hname rfl hparams, fun env s text => ?_⟩
  have hrule : ∀ text : String,
      (Rule.check "stripEnts" (.transform .stripEntities field)).Rewrites env field
        (.string text) (.string (Text.stripEntities text)) s :=
    fun text => Rule.rewrites_transform rfl rfl
  have hstrips := Text.strips_stripEntities text
  exact ⟨fun n => Rule.alone_replicate hrule n text, hstrips.exists_division,
    hstrips.hasEntity_iff, Text.stripEntities_eq_self_iff, fun n => Text.not_hasEntity_iterate⟩

theorem compileEntry_stripEntities_name :
    let env : Environment := .empty
    let s : RunState := .ofRecord .empty
    ∃ rule, forNames.compileEntry "name" none (.ofName "stripEnts") = .ok rule ∧
      (startRules env "name" [rule] (some (.string "a&amp;b&NBSP;"))).alone s =
        some (⟨"name", .string "ab", true, none, .ended⟩, s) ∧
      (startRules env "name" [rule, rule] (some (.string "&&lt;lt;"))).alone s =
        some (⟨"name", .string "", true, none, .ended⟩, s) := by
  intro env s
  have hstandard : forNames.registry = .standard := rfl
  have hname : (splitRule (RuleEntry.ofName "stripEnts").rule).1 = "stripEnts" := by rfl
  have hparams : (entryParams (.ofName "stripEnts")).isNone = true := by rfl
  obtain ⟨rule, hcompile, hruns⟩ :
      ∃ rule, forNames.compileEntry "name" none (.ofName "stripEnts") = .ok rule ∧ _ :=
    compileEntry_stripEntities hstandard hname hparams
  exact ⟨rule, hcompile, (hruns env s "a&amp;b&NBSP;").1 1, (hruns env s "&&lt;lt;").1 2⟩

/-- One entity stands inside another one, which is still there when the rule has dropped the first,
    and then the rule drops it when it runs again. -/
theorem stripEntities_leaves_entity :
    let env : Environment := .empty
    let s : RunState := .ofRecord .empty
    let rule : Rule := .check "stripEnts" (.transform .stripEntities "name")
    forNames.compileEntry "name" none (.ofName "stripEnts") = .ok rule ∧
      (startRules env "name" [rule] (some (.string "&&lt;lt;"))).alone s =
        some (⟨"name", .string "&lt;", true, none, .ended⟩, s) ∧
      Text.HasEntity "&lt;".toList ∧
      (startRules env "name" [rule, rule] (some (.string "&&lt;lt;"))).alone s =
        some (⟨"name", .string "", true, none, .ended⟩, s) := by
  intro env s rule
  refine ⟨?_, by rfl, ?_, by rfl⟩
  · exact compileEntry_eq_ok_iff.mpr (.check rfl (by rfl) (by rfl))
  · refine ⟨"&lt;".toList, ⟨['l', 't'], List.cons_ne_nil _ _, ?_, rfl⟩, List.infix_rfl⟩
    exact List.all_eq_true.mp (by decide)

/-- `stripTags` leaves of a text what stands outside its tags, and no tag comes of that: another
    `stripTags` changes nothing, and neither does `stripEnts` make a tag of what it leaves. -/
theorem compileEntry_stripTags (hstandard : compiler.registry = .standard)
    (hname : (splitRule entry.rule).1 = "stripTags") (hparams : (entryParams entry).isNone = true)
    {entry' : RuleEntry} (hname' : (splitRule entry'.rule).1 = "stripEnts")
    (hparams' : (entryParams entry').isNone = true) :
    ∃ rule rule', compiler.compileEntry field message entry = .ok rule ∧
      compiler.compileEntry field message entry' = .ok rule' ∧
      ∀ (env : Environment) (s : RunState) (text : String),
        (∀ n, (startRules env field (List.replicate (n + 1) rule) (some (.string text))).alone s =
          some (⟨field, .string (Text.stripTags text), true, none, .ended⟩, s)) ∧
        (∃ division : Text.TagDivision, division.text = text.toList ∧
          (Text.stripTags text).toList = division.kept) ∧
        ¬Text.HasTag (Text.stripTags text).toList ∧
        (Text.stripTags text = text ↔ ¬Text.HasTag text.toList) ∧
        ∃ left, (startRules env field [rule, rule'] (some (.string text))).alone s =
          some (⟨field, .string left, true, none, .ended⟩, s) ∧ ¬Text.HasTag left.toList := by
  refine ⟨_, _, compileEntry_transform hstandard hname rfl hparams,
    compileEntry_transform hstandard hname' rfl hparams', fun env s text => ?_⟩
  have hrule : ∀ text : String,
      (Rule.check "stripTags" (.transform .stripTags field)).Rewrites env field
        (.string text) (.string (Text.stripTags text)) s :=
    fun text => Rule.rewrites_transform rfl rfl
  have hrule' : (Rule.check "stripEnts" (.transform .stripEntities field)).Rewrites env field
      (.string (Text.stripTags text)) (.string (Text.stripEntities (Text.stripTags text))) s :=
    Rule.rewrites_transform rfl rfl
  have hnone := Text.not_hasTag_stripTags text
  refine ⟨fun n => ?_, ?_, hnone, Text.stripTags_eq_self_iff, ?_⟩
  · have hrun := Rule.alone_replicate hrule (n + 1) text
    rwa [Function.iterate_succ_apply, Function.iterate_fixed (Text.stripTags_stripTags text),
      decide_eq_true (Nat.succ_pos n)] at hrun
  · obtain ⟨division, htext⟩ := Text.TagDivision.exists_text_eq text.toList
    exact ⟨division, htext, Text.toList_stripTags htext⟩
  · exact ⟨_, (hrule text).alone_pair hrule', fun htag => hnone htag.of_stripEntities⟩

/-- The first `<` opens the first tag, whatever stands in it, and a last one without a `>` stays. -/
theorem compileEntry_stripTags_name :
    let env : Environment := .empty
    let s : RunState := .ofRecord .empty
    let text : Value := .string "1 < 2<b>bold</b>\n<i\n>&l&amp;t;</i> > 0 <"
    ∃ rule rule', forNames.compileEntry "name" none (.ofName "stripTags") = .ok rule ∧
      forNames.compileEntry "name" none (.ofName "stripEnts") = .ok rule' ∧
      (startRules env "name" [rule, rule] (some text)).alone s =
        some (⟨"name", .string "1 bold\n&l&amp;t; > 0 <", true, none, .ended⟩, s) ∧
      ∃ left, (startRules env "name" [rule, rule'] (some text)).alone s =
        some (⟨"name", .string left, true, none, .ended⟩, s) ∧ ¬Text.HasTag left.toList := by
  intro env s text
  have hstandard : forNames.registry = .standard := rfl
  have hname : (splitRule (RuleEntry.ofName "stripTags").rule).1 = "stripTags" := by rfl
  have hparams : (entryParams (.ofName "stripTags")).isNone = true := by rfl
  have hname' : (splitRule (RuleEntry.ofName "stripEnts").rule).1 = "stripEnts" := by rfl
  have hparams' : (entryParams (.ofName "stripEnts")).isNone = true := by rfl
  obtain ⟨rule, rule', hcompile, hcompile', hruns⟩ :
      ∃ rule rule', forNames.compileEntry "name" none (.ofName "stripTags") = .ok rule ∧
        forNames.compileEntry "name" none (.ofName "stripEnts") = .ok rule' ∧ _ :=
    compileEntry_stripTags hstandard hname hparams hname' hparams'
  obtain ⟨htwice, -, -, -, hentities⟩ := hruns env s "1 < 2<b>bold</b>\n<i\n>&l&amp;t;</i> > 0 <"
  exact ⟨rule, rule', hcompile, hcompile', htwice 1, hentities⟩

end FieldRules.Compiler
