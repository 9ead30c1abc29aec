import FieldRules.Proofs.Compiler.Meaning
import FieldRules.Proofs.Compiler.Reworded
import FieldRules.Proofs.Registry

namespace FieldRules

/-- Rules of one name that come to the same verdicts in all their turns, but for the messages. -/
def Rule.SameVerdicts (rule rule' : Rule) : Prop :=
  ∀ env, Link.Matches (fun _ _ => True) Eq (rule.link env) (rule'.link env)

namespace Rule.SameVerdicts

theorem refl (rule : Rule) : rule.SameVerdicts rule := fun env =>
  ⟨rfl, fun turn => .refl (Call.allAlike_refl fun _ => trivial) (rule.act env turn)⟩

theorem of_alike {rule rule' : Rule} (halike : rule.Alike .unworded rule') :
    rule.SameVerdicts rule' := fun env => ⟨halike.name_eq, halike.act env⟩

/-- Rules with the same verdicts have the same runs, but for the messages. -/
theorem run_eq {rules rules' : List Rule} (hrules : List.Forall₂ Rule.SameVerdicts rules rules')
    (env : Environment) (field : String) (value : Option Value) (patience : Nat) (s : RunState) :
    let ran := (startRules env field rules value).run patience s
    let ran' := (startRules env field rules' value).run patience s
    ran.1.map Outcome.unworded = ran'.1.map Outcome.unworded ∧ ran.2 = ran'.2 := by
  have hlinks : List.Forall₂ (Link.Matches (fun _ _ => True) Eq) (rules.map (Rule.link env))
      (rules'.map (Rule.link env)) := by
    rw [List.forall₂_map_left_iff, List.forall₂_map_right_iff]
    exact hrules.imp fun rule rule' hrule => hrule env
  have hjobs : (startRules env field rules value).Matches Eq (Outcome.Alike fun _ _ => True)
      (startRules env field rules' value) :=
    Chain.matches_start hlinks (fun _ _ hst => hst ▸ rfl) value
  exact ⟨hjobs.result_map_eq (fun _ _ halike => halike.unworded_eq) patience rfl,
    (hjobs.run patience rfl).2⟩

end Rule.SameVerdicts

/-- What the rules of a shape may be told. -/
inductive CheckShape.Takes : CheckShape → Meaning → Prop
  | range (messages : SizeMessages) (isInvalid : Binary64 → Binary64 → Binary64 → Bool)
    (first last : Int) : Takes (.range messages isInvalid) (.range first last)
  | size (messages : SizeMessages) (isInvalid : Binary64 → Binary64 → Bool) (n : Int) :
    Takes (.size messages isInvalid) (.bound n)
  | siblings (message : String) (check : SiblingCheck) (names : List String) :
    Takes (.siblings message check) (.fields names)
  | trigger (message : String) (requiredWhenListed : Bool) (field : String)
    (values : List String) : Takes (.trigger message requiredWhenListed) (.trigger field values)
  | membership (message : String) (failWhenListed : Bool) (texts : List String) :
    Takes (.membership message failWhenListed) (.items texts)
  | foreign (message : String) (failOnMatch : Bool) (model field : String) :
    Takes (.foreign message failOnMatch) (.foreign model field)

inductive Shape.Takes : Shape → Meaning → Prop
  | check {shape : CheckShape} {meaning : Meaning} (htakes : shape.Takes meaning) :
    Takes (.check shape) meaning
  | branch (gate : Branch) (field token : String) : Takes (.branch gate) (.nested field token)

/-- The standard rules that may be told something. -/
def Meaning.rules : Meaning → List String
  | range _ _ => ["between", "not_between"]
  | bound _ => ["min", "greater_than", "max", "less_than", "equal", "not_equal"]
  | fields _ =>
    ["confirmed", "different", "if_valid", "required_with", "required_with_all",
      "required_without", "required_without_all"]
  | trigger _ _ => ["required_if", "required_unless"]
  | items _ => ["in", "not_in"]
  | foreign _ _ => ["exists", "unique"]
  | nested _ _ => ["if", "if_any", "if_not"]

namespace Registry

theorem standard_takes (meaning : Meaning) :
    ∀ name ∈ meaning.rules, ∃ shape, standard.find? name = some shape ∧ shape.Takes meaning := by
  cases meaning
  all_goals simp only [Meaning.rules, List.forall_mem_cons]
  case range =>
    exact ⟨⟨_, rfl, .check (.range ..)⟩, ⟨_, rfl, .check (.range ..)⟩, by simp⟩
  case bound =>
    refine ⟨⟨_, rfl, ?_⟩, ⟨_, rfl, ?_⟩, ⟨_, rfl, ?_⟩, ⟨_, rfl, ?_⟩, ⟨_, rfl, ?_⟩, ⟨_, rfl, ?_⟩,
      by simp⟩
    all_goals exact .check (.size ..)
  case fields =>
    refine ⟨⟨_, rfl, ?_⟩, ⟨_, rfl, ?_⟩, ⟨_, rfl, ?_⟩, ⟨_, rfl, ?_⟩, ⟨_, rfl, ?_⟩, ⟨_, rfl, ?_⟩,
      ⟨_, rfl, ?_⟩, by simp⟩
    all_goals exact .check (.siblings ..)
  case trigger =>
    exact ⟨⟨_, rfl, .check (.trigger ..)⟩, ⟨_, rfl, .check (.trigger ..)⟩, by simp⟩
  case items =>
    exact ⟨⟨_, rfl, .check (.membership ..)⟩, ⟨_, rfl, .check (.membership ..)⟩, by simp⟩
  case foreign =>
    exact ⟨⟨_, rfl, .check (.foreign ..)⟩, ⟨_, rfl, .check (.foreign ..)⟩, by simp⟩
  case nested =>
    exact ⟨⟨_, rfl, .branch ..⟩, ⟨_, rfl, .branch ..⟩, ⟨_, rfl, .branch ..⟩, by simp⟩

end Registry

namespace CheckShape

open RuleUse

/-- Uses of a rule that are told the same make the same check, or have the same error in it. -/
theorem Takes.alike_compile {shape : CheckShape} {meaning : Meaning} (htakes : shape.Takes meaning)
    (hwell : meaning.WellFormed) (scope : Scope) {use : RuleUse} {params : Params}
    (htells : use.params.Tells meaning) (htells' : params.Tells meaning) :
    ExceptRel (Check.Alike .unworded) (shape.compile scope use)
      (shape.compile scope { use with params }) := by
  have hgiven : ∀ expected, use.requireParams expected = .ok () := fun _ =>
    requireParams_eq_ok_iff.mpr (htells.isNone_eq_false hwell)
  have hgiven' : ∀ expected, { use with params }.requireParams expected = .ok () := fun _ =>
    requireParams_eq_ok_iff.mpr (htells'.isNone_eq_false hwell)
  cases htakes with
  | range messages isInvalid first last =>
    exact .bind_ok (orError_eq_ok_iff.mpr (htells.range?_eq hwell))
      (orError_eq_ok_iff.mpr (htells'.range?_eq hwell)) (.ok (.sized _ fun _ => rfl))
  | size messages isInvalid n =>
    exact .bind_ok (orError_eq_ok_iff.mpr (htells.bound?_eq hwell))
      (orError_eq_ok_iff.mpr (htells'.bound?_eq hwell)) (.ok (.sized _ fun _ => rfl))
  | siblings message check names =>
    refine .bind_ok (hgiven _) (hgiven' _) ?_
    refine .bind_ok (orError_eq_ok_iff.mpr (htells.fieldList?_eq hwell))
      (orError_eq_ok_iff.mpr (htells'.fieldList?_eq hwell)) ?_
    exact .bind_same fun _ _ => .ok (.siblings check (fun _ _ => trivial) trivial)
  | trigger message requiredWhenListed field values =>
    refine .bind_ok (hgiven _) (hgiven' _) ?_
    refine .bind_ok (orError_eq_ok_iff.mpr (htells.fieldAndValues?_eq hwell))
      (orError_eq_ok_iff.mpr (htells'.fieldAndValues?_eq hwell)) ?_
    exact .bind_same fun _ _ => .ok (.trigger _ requiredWhenListed trivial trivial)
  | membership message failWhenListed texts =>
    refine .bind_ok (hgiven _) (hgiven' _) ?_
    have hsome : (texts.map Value.string).isEmpty = false := by
      rw [List.isEmpty_map, List.isEmpty_eq_false_iff]
      exact hwell.1
    dsimp only
    rw [htells.listItems_eq hwell, htells'.listItems_eq hwell, hsome]
    exact .ok (.membership _ failWhenListed trivial)
  | foreign message failOnMatch model field =>
    refine .bind_ok (orError_eq_ok_iff.mpr (htells.foreign?_eq hwell))
      (orError_eq_ok_iff.mpr (htells'.foreign?_eq hwell)) ?_
    exact .bind_same fun _ _ => .bind_same fun source _ =>
      .ok (.foreign _ source failOnMatch trivial trivial)

end CheckShape

/-- Entries that are the same, or tell one of the standard rules the same, in whatever way. -/
inductive RuleEntry.Restated : RuleEntry → RuleEntry → Prop
  | same (entry : RuleEntry) : Restated entry entry
  | told {entry entry' : RuleEntry} {meaning : Meaning} (hwell : meaning.WellFormed)
    (hname : (Compiler.splitRule entry.rule).1 ∈ meaning.rules)
    (hrule : (Compiler.splitRule entry'.rule).1 = (Compiler.splitRule entry.rule).1)
    (hmessage : entry'.message = entry.message)
    (htells : (Compiler.entryParams entry).Tells meaning)
    (htells' : (Compiler.entryParams entry').Tells meaning) : Restated entry entry'

/-- A rule may be told something behind a colon or beside its name. -/
theorem RuleEntry.Restated.of_tells {meaning : Meaning} (hwell : meaning.WellFormed) {rule : String}
    (hrule : rule ∈ meaning.rules) {text : String} {params : Params}
    (htext : (Params.text text).Tells meaning) (hparams : params.Tells meaning)
    (message : Option Message) (input : Params) :
    Restated ⟨rule ++ ":" ++ text, message, input⟩ ⟨rule, message, params⟩ := by
  obtain ⟨shape, hshape, -⟩ := Registry.standard_takes meaning rule hrule
  obtain ⟨-, hcolon⟩ := Registry.standard_unmarked hshape
  have hbehind : Compiler.splitRule (rule ++ ":" ++ text) = (rule, some text) := by
    rw [Compiler.splitRule, Text.splitOnce_append (String.toList_append ..) hcolon,
      String.ofList_toList]
  have hbeside : Compiler.splitRule rule = (rule, none) := by
    rw [Compiler.splitRule, Text.splitOnce_of_not_mem hcolon]
  refine .told hwell ?_ ?_ rfl ?_ ?_
  · rwa [hbehind]
  · rw [hbehind, hbeside]
  · rwa [Compiler.entryParams, hbehind]
  · rwa [Compiler.entryParams, hbeside]

namespace Compiler

/-- A branch that is told to test a field by one rule does so, if there is such a field. -/
theorem branchSpec_nested (compiler : Compiler) {use : RuleUse} {field token : String}
    (htells : use.params.Tells (.nested field token))
    (hwell : (Meaning.nested field token).WellFormed) :
    ∃ spec, spec.entries = [.ofName token] ∧
      compiler.branchSpec use =
        (use.requireField compiler.scope field).map fun _ => (field, spec) := by
  obtain ⟨spec, hspec, hentries⟩ := htells.nestedSpec_eq hwell use.rule use.field
  refine ⟨spec, hentries, ?_⟩
  have hgiven : use.requireParams "a validation rule argument" = .ok () :=
    RuleUse.requireParams_eq_ok_iff.mpr (htells.isNone_eq_false hwell)
  rw [branchSpec, hgiven, hspec]
  simp only [RuleUse.orError, bind, Except.bind, hentries]
  rfl

section

variable {compiler : Compiler} {field : String} {message : Option Message} {entry : RuleEntry}

/-- So the rule is compiled for the tested field, whatever form the branch has been written in. -/
theorem compileEntry_nested {gate : Branch} {tested token : String}
    (hname : customName? (splitRule entry.rule).1 = none)
    (hgate : compiler.registry.find? (splitRule entry.rule).1 = some (.branch gate))
    (hwell : (Meaning.nested tested token).WellFormed)
    (htells : (entryParams entry).Tells (.nested tested token)) :
    compiler.compileEntry field message entry =
      (useOf field message entry).requireField compiler.scope tested >>= fun _ =>
        ([RuleEntry.ofName token].mapM (compiler.compileEntry tested none)).map
          (.branch (splitRule entry.rule).1 gate field tested) := by
  have htold : (useOf field message entry).params.Tells (.nested tested token) := htells
  obtain ⟨spec, hentries, hspec⟩ := branchSpec_nested compiler htold hwell
  cases hdeclared : (useOf field message entry).requireField compiler.scope tested with
  | error e =>
    rw [hdeclared] at hspec
    rw [compileEntry_branch_error hname hgate hspec]
    rfl
  | ok _ =>
    rw [hdeclared] at hspec
    rw [compileEntry_branch hname hgate hspec, hentries]
    rfl

theorem compileEntry_restated (hextends : Registry.standard.Extends compiler.registry)
    {entry' : RuleEntry} (hentry : entry.Restated entry') (field : String)
    (message : Option Message) :
    ExceptRel Rule.SameVerdicts (compiler.compileEntry field message entry)
      (compiler.compileEntry field message entry') := by
  cases hentry with
  | same => exact .same fun rule _ => .refl rule
  | told hwell hname hrule hmessage htells htells' =>
    obtain ⟨shape, hstandard, htakes⟩ := Registry.standard_takes _ _ hname
    obtain ⟨hcustom, -⟩ := Registry.standard_unmarked hstandard
    have hshape := hextends.find?_eq hstandard
    have hcustom' : customName? (splitRule entry'.rule).1 = none := hrule ▸ hcustom
    have hshape' : compiler.registry.find? (splitRule entry'.rule).1 = some shape := hrule ▸ hshape
    have huse : useOf field message entry' =
        { useOf field message entry with params := entryParams entry' } := by
      rw [useOf, useOf, hrule, hmessage]
    cases htakes with
    | check htakes =>
      rw [compileEntry_check hcustom hshape, compileEntry_check hcustom' hshape', huse, hrule]
      exact (htakes.alike_compile hwell compiler.scope htells htells').map
        fun check check' hcheck => .of_alike (.check _ hcheck)
    | branch gate tested token =>
      rw [compileEntry_nested hcustom hshape hwell htells,
        compileEntry_nested hcustom' hshape' hwell htells', huse, hrule]
      exact .same fun rule _ => .refl rule

end

/-- However a standard rule is told something, it does the same: as text, as an array or as an
    object. The same specification fails with the same error, or it has rules of the same names
    that come to the same verdicts in all their turns, and all runs of them end alike but for the
    message of a failure, and leave the same state. A text behind the name of a rule may thus become
    a value beside it. -/
theorem compile_restated {compiler : Compiler}
    (hextends : Registry.standard.Extends compiler.registry) {spec spec' : RuleSpec}
    (hentries : List.Forall₂ RuleEntry.Restated spec.entries spec'.entries) (field : String)
    (message : Option Message) :
    (∀ e, compiler.compile spec field message = .error e ↔
      compiler.compile spec' field message = .error e) ∧
    (∀ rules, compiler.compile spec field message = .ok rules →
      ∃ rules', compiler.compile spec' field message = .ok rules' ∧
        List.Forall₂ Rule.SameVerdicts rules rules' ∧
        ∀ env value patience s,
          let ran := (startRules env field rules value).run patience s
          let ran' := (startRules env field rules' value).run patience s
          ran.1.map Outcome.unworded = ran'.1.map Outcome.unworded ∧ ran.2 = ran'.2) ∧
    ∀ {meaning : Meaning}, meaning.WellFormed → ∀ rule ∈ meaning.rules, ∀ {text params},
      (Params.text text).Tells meaning → params.Tells meaning → ∀ message input,
        RuleEntry.Restated ⟨rule ++ ":" ++ text, message, input⟩ ⟨rule, message, params⟩ := by
  have hall : ExceptRel (List.Forall₂ Rule.SameVerdicts) (compiler.compile spec field message)
      (compiler.compile spec' field message) :=
    ExceptRel.mapM (hentries.imp fun entry entry' hentry =>
      compileEntry_restated hextends hentry field message)
  refine ⟨fun e => hall.error_iff, fun rules hcompile => ?_,
    fun hwell rule hrule _ _ => RuleEntry.Restated.of_tells hwell hrule⟩
  obtain ⟨rules', hcompile', hrules⟩ := hall.exists_ok hcompile
  exact ⟨rules', hcompile', hrules, fun env value patience s =>
    Rule.SameVerdicts.run_eq hrules env field value patience s⟩

/-- With a name, the nickname must be one of two. -/
def fewNicks : RuleSpec := .list ["if:name:required", "in:Al,Bo"]

/-- The same with an object and an array. -/
def fewNicksRestated : RuleSpec :=
  .map [⟨"if", none, .value (.object [("field", .string "name"), ("rules", .string "required")])⟩,
    ⟨"in", none, .value (.array [.string "Al", .string "Bo"])⟩]

def fewNicksRules : List Rule :=
  [.branch "if" .all "nick" "name"
    [.check "required" (.predicate Finding.required
      ⟨.forField "name" ⟨[]⟩ (forNicks []).schema, Wording.said " is required.", []⟩)],
    .check "in" (.membership (.ofList [.string "Al", .string "Bo"]) false
      ⟨.forField "nick" ⟨[]⟩ (forNicks []).schema, Wording.saidWith " must be one of " "$list" ".",
        [("$params", .string "Al,Bo"), ("$list", .string (joinFriendly "or" ["Al", "Bo"]))]⟩)]

theorem compile_restated_few_nicks :
    let s : RunState := .ofRecord ⟨[("name", .string "Ada"), ("nick", .string "Cy")]⟩
    (forNicks []).compile fewNicks "nick" none = .ok fewNicksRules ∧
      ∃ rules', (forNicks []).compile fewNicksRestated "nick" none = .ok rules' ∧
        (((startRules .empty "nick" rules' none).run 0 s).1.map
            Outcome.unworded).map Outcome.rule? = some (some "in") := by
  intro s
  have hcompile : (forNicks []).compile fewNicks "nick" none = .ok fewNicksRules := by
    refine mapM_eq_ok_iff.mpr (.cons ?_ (.cons ?_ .nil))
    · refine compileEntry_eq_ok_iff.mpr (.branch rfl (by rfl) (by rfl) (.cons ?_ .nil))
      exact .check rfl (by rfl) (by rfl)
    · exact compileEntry_eq_ok_iff.mpr (.check rfl (by rfl) (by rfl))
  refine ⟨hcompile, ?_⟩
  have hnested : (Meaning.nested "name" "required").WellFormed :=
    ⟨by decide, by decide, by decide, by decide⟩
  have hitems : (Meaning.items ["Al", "Bo"]).WellFormed :=
    ⟨List.cons_ne_nil _ _, List.forall_mem_cons.mpr
      ⟨by decide, List.forall_mem_singleton.mpr (by decide)⟩⟩
  have hif : "if" ∈ (Meaning.nested "name" "required").rules := by decide
  have hin : "in" ∈ (Meaning.items ["Al", "Bo"]).rules := by decide
  have hentries : List.Forall₂ RuleEntry.Restated fewNicks.entries fewNicksRestated.entries := by
    refine .cons ?_ (.cons ?_ .nil)
    · refine .of_tells hnested hif (.nestedText "name" "required") ?_ none .none
      exact .nestedObject rfl rfl (.inl rfl)
    · exact .of_tells hitems hin (.itemsText ["Al", "Bo"]) (.itemsArray ["Al", "Bo"]) none .none
  have hextends : Registry.standard.Extends (forNicks []).registry := .refl _
  obtain ⟨-, hruns, -⟩ := compile_restated hextends hentries "nick" none
  obtain ⟨rules', hcompile', -, hsame⟩ := hruns fewNicksRules hcompile
  refine ⟨rules', hcompile', ?_⟩
  rw [← (hsame .empty none 0 s).1]
  decide +kernel

end Compiler

end FieldRules
