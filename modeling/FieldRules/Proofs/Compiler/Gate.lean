import FieldRules.Proofs.Compiler.Sites
import FieldRules.Proofs.Rule.Gate

namespace FieldRules.Compiler

/-- With the standard rules, a branch only gates unless `apply` or `null` is nested in it. -/
theorem onlyGates_of_compile {compiler : Compiler} (hstandard : compiler.registry = .standard)
    {field : String} {message : Option Message} {entry : RuleEntry} {name : String} {gate : Branch}
    {own tested : String} {nested : List Rule}
    (hcompile : compiler.compileEntry field message entry =
      .ok (.branch name gate own tested nested))
    (hnames : ∀ site ∈ Rule.allSites tested nested, site.rule ≠ "apply" ∧ site.rule ≠ "null")
    (env : Environment) : (Rule.branch name gate own tested nested).OnlyGates env := by
  refine Rule.branch_onlyGates env name gate own fun site hsite => ?_
  have hmakes := (compileEntry_eq_ok_iff.mp hcompile).makesSite site hsite
  obtain ⟨happly, hnull⟩ := hnames site hsite
  by_contra hwrites
  rw [Bool.not_eq_false] at hwrites
  rcases hmakes.writes hstandard hwrites with ⟨hname, _⟩ | ⟨hname, _⟩
  · exact happly hname
  · exact hnull hname

/-- A compiler for records with a name and a nickname. -/
def forNames : Compiler := ⟨.standard, ⟨"Person", ["name", "nick"], false, none⟩, ⟨[]⟩⟩

/-- Goes on if there is a nickname, which is trimmed for this question only. -/
def nickGate : Rule :=
  .branch "if" .all "name" "nick"
    [.check "trim" (.transform .trim "nick"),
      .check "required" (.predicate Finding.required
        ⟨.forField "nick" ⟨[]⟩ forNames.schema, Wording.said " is required.", []⟩)]

theorem onlyGates_of_compile_without_nick :
    forNames.compileEntry "name" none (.ofName "if:nick:trim|required") = .ok nickGate ∧
      ∀ env, nickGate.OnlyGates env ∧
        let rules := [.check "trim" (.transform .trim "name"), nickGate, .check "upper" .upper]
        let record : Record := ⟨[("name", .string " Ada "), ("nick", .string "")]⟩
        Job.shown RunState.seen ((startRules env "name" rules none).alone (.ofRecord record)) =
          some (⟨"name", .string "Ada", true, none, .ended⟩, record, []) := by
  have hcompile : forNames.compileEntry "name" none (.ofName "if:nick:trim|required") =
      .ok nickGate := by
    refine compileEntry_eq_ok_iff.mpr (.branch rfl rfl rfl (.cons ?_ (.cons ?_ .nil)))
    all_goals exact .check rfl (by rfl) (by rfl)
  refine ⟨hcompile, fun env => ?_⟩
  have hgates : nickGate.OnlyGates env := by
    refine onlyGates_of_compile rfl hcompile ?_ env
    simp [Rule.allSites, Rule.sites]
  refine ⟨hgates, ?_⟩
  intro rules record
  let trim : Rule := .check "trim" (.transform .trim "name")
  let s : RunState := .ofRecord record
  let start : Option Value := none
  have hfront : (Chain.through "name" ([trim].map (Rule.link env))
      (start.getD (s.record.get "name")) false).alone s = some (.ok (.string "Ada", true), s) := rfl
  exact (hgates.outcome hfront [.check "upper" .upper]).trans rfl

end FieldRules.Compiler
