import FieldRules.Proofs.Compiler.Compiles
import FieldRules.Proofs.Rule.Foreign
import FieldRules.Rule.Standard

namespace FieldRules

namespace CheckShape

/-- Given records are used as they are, and others are looked up within the time that the schema
    allows. -/
theorem sourceOf_eq_ok {scope : Scope} {use : RuleUse} {given : Option (List Instance)}
    {source : Source} (hsource : sourceOf scope use given = .ok source) :
    source = (given.map Source.given).getD (.lookup scope.schema.lookupTimeout) := by
  cases given with
  | some members =>
    cases hsource
    rfl
  | none =>
    rw [sourceOf] at hsource
    split at hsource
    · cases hsource
      rfl
    · cases hsource

/-- A model that is not named is that of the record, and a field that is not named is the one that
    the rule judges. -/
theorem foreign_of_compile {scope : Scope} {use : RuleUse} {message : String} {failOnMatch : Bool}
    {check : Check} (hcompile : (foreign message failOnMatch).compile scope use = .ok check) :
    ∃ model? field? given? wording, use.params.foreign? = some (model?, field?, given?) ∧
      scope.schema.hasField (field?.getD use.field) = true ∧
      check = .foreign (model?.getD scope.schema.name) (field?.getD use.field)
        ((given?.map Source.given).getD (.lookup scope.schema.lookupTimeout)) failOnMatch
        wording := by
  simp only [compile, bind_eq_ok_iff] at hcompile
  obtain ⟨⟨model?, field?, given?⟩, hparams, _, hfield, source, hsource, hcheck⟩ := hcompile
  cases hcheck
  obtain rfl := sourceOf_eq_ok hsource
  exact ⟨model?, field?, given?, _, RuleUse.orError_eq_ok_iff.mp hparams,
    RuleUse.requireField_eq_ok_iff.mp hfield, rfl⟩

end CheckShape

/-- Two of the standard rules decide by other records. -/
theorem Registry.standard_foreign {name : String} {shape : Shape}
    (hshape : standard.find? name = some shape) (hname : name = "exists" ∨ name = "unique") :
    ∃ message, shape = .check (.foreign message (name == "unique")) := by
  have hfound : ∃ message,
      standard.find? name = some (.check (.foreign message (name == "unique"))) := by
    rcases hname with rfl | rfl
    · exact ⟨_, rfl⟩
    · exact ⟨_, rfl⟩
  obtain ⟨message, hfound⟩ := hfound
  rw [hfound] at hshape
  exact ⟨message, (Option.some.inj hshape).symm⟩

namespace Compiler

/-- With the standard rules, `exists` and `unique` decide by the other records of a model, which is
    that of the record itself unless another one is named. `unique` fails if there is a match, and
    `exists` fails if there is none. The order of the records and how often each of them occurs do
    not matter, nor does the record under validation itself. -/
theorem decidesByOthers_of_compile {compiler : Compiler} (hstandard : compiler.registry = .standard)
    {field : String} {message : Option Message} {entry : RuleEntry} {rule : Rule}
    (hcompile : compiler.compileEntry field message entry = .ok rule)
    (hname : rule.name = "exists" ∨ rule.name = "unique") :
    ∃ model? field? given? wording, (entryParams entry).foreign? = some (model?, field?, given?) ∧
      let model := model?.getD compiler.schema.name
      let matchField := field?.getD field
      let source := (given?.map Source.given).getD (.lookup compiler.schema.lookupTimeout)
      let failOnMatch := rule.name == "unique"
      let on (model : String) (source : Source) : Rule :=
        .check rule.name (.foreign model matchField source failOnMatch wording)
      rule = on model source ∧ compiler.schema.hasField matchField = true ∧
        ∀ env, rule.DecidesByOthers env model matchField source failOnMatch ∧
          ∀ field members,
          source.Answers env ⟨[], field, rule.name, model, matchField⟩ (some members) →
          ∀ env' model' source' members', env'.bare = env.bare →
            Source.Answers env' ⟨[], field, rule.name, model', matchField⟩ source' (some members') →
            (∀ member, env.isSubject member = false → (member ∈ members ↔ member ∈ members')) →
            ∀ value s,
              (on model' source').judge env' field value s = rule.judge env field value s := by
  cases compileEntry_eq_ok_iff.mp hcompile with
  | custom hcustom =>
    exfalso
    rw [customRule, Rule.name] at hname
    rcases hname with hname | hname <;> rw [hname] at hcustom <;> cases hcustom
  | branch _ hgate =>
    exfalso
    rw [hstandard] at hgate
    obtain ⟨_, hshape⟩ := Registry.standard_foreign hgate hname
    cases hshape
  | check _ hshape hcheck =>
    rw [hstandard] at hshape
    obtain ⟨_, hforeign⟩ := Registry.standard_foreign hshape hname
    cases hforeign
    obtain ⟨model?, field?, given?, wording, hparams, hfield, rfl⟩ :=
      CheckShape.foreign_of_compile hcheck
    refine ⟨model?, field?, given?, wording, hparams, rfl, hfield, fun env => ⟨?_, ?_⟩⟩
    · exact Rule.foreign_decidesByOthers env ..
    · intro field members hanswers env' model' source' members' hbare hanswers' hothers
      exact Rule.judge_foreign_congr _ hbare hanswers hanswers' hothers

/-- A compiler for accounts, which may take a tenth of a second to be found. -/
def forAccounts : Compiler := ⟨.standard, ⟨"Account", ["name"], true, some 100⟩, ⟨[]⟩⟩

/-- No other account may have the name. -/
def uniqueName : Rule :=
  .check "unique" (.foreign "Account" "name" (.lookup (some 100)) true
    ⟨.forField "name" ⟨[]⟩ forAccounts.schema, Wording.foreignMessage " must be a unique ",
      [("$class", .string "Account"), ("$matchField", .string "name"),
        ("$matchAlias", .string "name")]⟩)

/-- Surroundings in which the accounts are found after some time. -/
def accounts (members : List Instance) (delay : Nat) : Environment where
  now := 0
  collections := [("Account", members)]
  lookups := [("Account", .answers delay false)]
  customRules := []
  bare := false

theorem decidesByOthers_of_compile_unique_name :
    let ada : Record := ⟨[("name", .string "Ada")]⟩
    let s : RunState := .ofRecord ada
    let name : Value := .string "Ada"
    forAccounts.compileEntry "name" none (.ofName "unique") = .ok uniqueName ∧
      uniqueName.accepts? (accounts [.self, .other ada] 5) "name" name s = some false ∧
      uniqueName.accepts? (accounts [.self, .self] 5) "name" name s ≠ some false ∧
      uniqueName.judge (accounts [.other ada, .other ada] 5) "name" name s =
        uniqueName.judge (accounts [.self, .other ada] 5) "name" name s ∧
      Job.shown RunState.seen
          ((startRules (accounts [.other ada] 101) "name" [uniqueName] none).alone s) =
        some (⟨"name", name, false, none, .ended⟩, ada, []) := by
  intro ada s name
  have hcompile : forAccounts.compileEntry "name" none (.ofName "unique") = .ok uniqueName :=
    compileEntry_eq_ok_iff.mpr (.check rfl (by rfl) (by rfl))
  refine ⟨hcompile, ?_⟩
  obtain ⟨_, _, _, wording, hparams, hrule, _, hdecides⟩ :=
    decidesByOthers_of_compile rfl hcompile (.inr rfl)
  have hnone : (entryParams (.ofName "unique")).foreign? = some (none, none, none) := rfl
  rw [hnone] at hparams
  cases hparams
  cases hrule
  have hfound : ∀ members : List Instance, members ≠ [] →
      (Source.lookup (some 100)).Answers (accounts members 5)
        ⟨[], "name", "unique", "Account", "name"⟩ (some members) := by
    intro members hmembers
    cases members with
    | nil => exact absurd rfl hmembers
    | cons member members => exact .found rfl (by simp)
  refine ⟨?_, ?_, ?_, ?_⟩
  · refine ((hdecides _).1.fails_iff rfl (hfound _ (by simp))).mpr ?_
    exact ⟨fun _ => rfl, fun _ => ⟨.other ada, by simp, rfl, by rfl⟩⟩
  · rw [Ne, (hdecides _).1.fails_iff rfl (hfound _ (by simp))]
    simp [Environment.isSubject, accounts, uniqueName, Rule.name]
  · refine (hdecides _).2 _ _ (hfound _ (by simp)) _ _ _ _ rfl (hfound _ (by simp)) ?_ ..
    rintro (_ | other) hother
    · cases hother
    · simp
  · have hfront : Rule.Reaches (accounts [.other ada] 101) "name" [] none s name false s := rfl
    have hlate : (Source.lookup (some 100)).Answers (accounts [.other ada] 101)
        ⟨[], "name", "unique", "Account", "name"⟩ none :=
      .late rfl (by decide)
    exact ((hdecides _).1.unresolved hfront (.inr hlate) []).trans rfl

end Compiler

end FieldRules
