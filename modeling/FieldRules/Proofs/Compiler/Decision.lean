import FieldRules.Proofs.Compiler.Sites
import FieldRules.Proofs.Rule.Decision

namespace FieldRules

/-- Three of the standard rules are branches. -/
theorem Registry.standard_branch {name : String} {gate : Branch}
    (hgate : standard.find? name = some (.branch gate)) :
    (name, gate) ∈ [("if", Branch.all), ("if_any", .any), ("if_not", .notAll)] := by
  have hall : standard.rules.all fun entry =>
      match entry.2 with
      | .check _ => true
      | .branch gate => [("if", Branch.all), ("if_any", .any), ("if_not", .notAll)].contains
          (entry.1, gate) := by
    decide
  exact List.contains_iff_mem.mp (List.all_eq_true.mp hall _ (mem_rules_of_find? hgate))

namespace Compiler

/-- With the standard rules, a branch decides by how each of its nested rules judges the tried value
    by itself, unless `apply` or `null` is nested in it: `if` goes on if all of them accept,
    `if_any` if some do, and `if_not` if none does. So `if_not` is the opposite of `if_any`, and the
    opposite of `if` only as far as the nested rules judge alike. -/
theorem decidesByNested_of_compile {compiler : Compiler}
    (hstandard : compiler.registry = .standard) {field : String} {message : Option Message}
    {entry : RuleEntry} {name : String} {gate : Branch} {own tested : String} {nested : List Rule}
    (hcompile : compiler.compileEntry field message entry =
      .ok (.branch name gate own tested nested))
    (hnames : ∀ site ∈ Rule.allSites tested nested, site.rule ≠ "apply" ∧ site.rule ≠ "null") :
    own = field ∧ compiler.schema.hasField tested = true ∧ nested ≠ [] ∧
      (name, gate) ∈ [("if", Branch.all), ("if_any", .any), ("if_not", .notAll)] ∧
      ∀ env,
        (Rule.branch name gate own tested nested).DecidesByNested env gate own tested nested ∧
        ∀ value s (accepted : Rule → Bool),
          (∀ name ∈ ["if", "if_any", "if_not"], ∀ inner ∈ nested,
            inner.acceptsWithin? env name own tested value s = some (accepted inner)) →
          let goesOn (name : String) (gate : Branch) : Prop :=
            (Rule.branch name gate own tested nested).goesOn? env own value s = some true
          (goesOn "if_not" .notAll ↔ ¬goesOn "if_any" .any) ∧
            ¬(goesOn "if" .all ∧ goesOn "if_not" .notAll) ∧
            (goesOn "if" .all ∨ goesOn "if_not" .notAll ↔
              ∃ b, ∀ inner ∈ nested, accepted inner = b) := by
  cases compileEntry_eq_ok_iff.mp hcompile with
  | branch _ hgate hspec hentries =>
    obtain ⟨hfield, hsome⟩ := branchSpec_eq_ok hspec
    have hnested : ∀ site ∈ Rule.allSites tested nested, site.check.writes = false :=
      fun site hsite => (hentries.makesSite site hsite).writes_eq_false hstandard
        (hnames site hsite)
    have hsome : nested ≠ [] := by
      rintro rfl
      exact hsome (List.forall₂_nil_right_iff.mp (compilesAll_iff.mp hentries))
    rw [hstandard] at hgate
    refine ⟨rfl, hfield, hsome, Registry.standard_branch hgate, fun env => ⟨?_, ?_⟩⟩
    · exact Rule.branch_decidesByNested env _ _ _ hnested
    · intro value s accepted hdecided
      exact Rule.branch_opposites hnested hsome hdecided

/-- A compiler for tasks with a status and a note on it. -/
def forTasks : Compiler := ⟨.standard, ⟨"Task", ["status", "note"], false, none⟩, ⟨[]⟩⟩

/-- The status is the given one. -/
def statusIs (status : String) : Rule :=
  .check "in" (.membership (.keys [status]) false
    ⟨.forField "status" ⟨[]⟩ forTasks.schema, Wording.saidWith " must be one of " "$list" ".",
      [("$params", .string status), ("$list", .string status)]⟩)

/-- A branch of the note on two rules for the status. -/
def statusBranch (name : String) (gate : Branch) : Rule :=
  .branch name gate "note" "status" [statusIs "open", statusIs "done"]

def statusEntry (name : String) : RuleEntry :=
  ⟨name, none, .value (.array [.string "status", .string "in:open", .string "in:done"])⟩

theorem decidesByNested_of_compile_open :
    let env : Environment := .empty
    let record : Record := ⟨[("status", .string "open")]⟩
    let required : Rule :=
      .check "required" (.predicate Finding.required
        ⟨.forField "note" ⟨[]⟩ forTasks.schema, Wording.said " is required.", []⟩)
    forTasks.compileEntry "note" none (statusEntry "if_any") = .ok (statusBranch "if_any" .any) ∧
      (statusBranch "if_any" .any).goesOn? env "note" .null (.ofRecord record) = some true ∧
      Job.shown RunState.seen ((startRules env "note" [statusBranch "if_any" .any, required]
          none).alone (.ofRecord record)) =
        some (⟨"note", .null, false, some ⟨"required", "note is required."⟩, .ended⟩,
          record, []) := by
  intro env record required
  have hcompile : forTasks.compileEntry "note" none (statusEntry "if_any") =
      .ok (statusBranch "if_any" .any) := by
    refine compileEntry_eq_ok_iff.mpr (.branch rfl rfl rfl (.cons ?_ (.cons ?_ .nil)))
    all_goals exact .check rfl (by rfl) (by rfl)
  obtain ⟨_, _, _, _, hdecides⟩ := decidesByNested_of_compile rfl hcompile
    (by simp [Rule.allSites, Rule.sites, statusIs])
  have hopen : (statusIs "open").acceptsWithin? env "if_any" "note" "status" .null
      (.ofRecord record) = some true := rfl
  have hdone : (statusIs "done").acceptsWithin? env "if_any" "note" "status" .null
      (.ofRecord record) = some false := rfl
  have hgoesOn : (statusBranch "if_any" .any).goesOn? env "note" .null (.ofRecord record) =
      some true := by
    refine ((hdecides env).1.goesOn_iff ?_).mpr ⟨statusIs "open", by simp, hopen⟩
    simp [Rule.name, hopen, hdone]
  refine ⟨hcompile, hgoesOn, ?_⟩
  have hreaches : Rule.Reaches env "note" [] none (.ofRecord record) .null false
      (.ofRecord record) := rfl
  refine ((hdecides env).1.outcome hreaches [required]).trans ?_
  exact (congrArg (Option.bind · _) hgoesOn).trans rfl

/-- Where the nested rules judge differently, not all of them pass, but `if_not` stops its chain as
    `if` does. -/
theorem ifNot_stops_open :
    let env : Environment := .empty
    let s : RunState := .ofRecord ⟨[("status", .string "open")]⟩
    forTasks.compileEntry "note" none (statusEntry "if_not") =
        .ok (statusBranch "if_not" .notAll) ∧
      ¬((statusBranch "if_not" .notAll).goesOn? env "note" .null s = some true ↔
        ¬∀ inner ∈ [statusIs "open", statusIs "done"],
          inner.acceptsWithin? env "if_not" "note" "status" .null s = some true) ∧
      (statusBranch "if_not" .notAll).goesOn? env "note" .null s = some false ∧
      (statusBranch "if" .all).goesOn? env "note" .null s = some false := by
  intro env s
  have hcompile : forTasks.compileEntry "note" none (statusEntry "if_not") =
      .ok (statusBranch "if_not" .notAll) := by
    refine compileEntry_eq_ok_iff.mpr (.branch rfl rfl rfl (.cons ?_ (.cons ?_ .nil)))
    all_goals exact .check rfl (by rfl) (by rfl)
  have hdone : (statusIs "done").acceptsWithin? env "if_not" "note" "status" .null s =
      some false := rfl
  have hstops : (statusBranch "if_not" .notAll).goesOn? env "note" .null s = some false := rfl
  refine ⟨hcompile, ?_, hstops, rfl⟩
  simp [hstops, hdone]

end Compiler

end FieldRules
