import FieldRules.Proofs.Chain.Visit
import FieldRules.Proofs.Compiler.Isolated
import FieldRules.Proofs.Session.Join

namespace FieldRules

theorem Validator.part_confined {rules : List Rule} (hrules : ∀ rule ∈ rules, rule.isolated)
    (env : Environment) (field : String) :
    (part RunState.noteOutcome (startRules env field rules none)).Confined RunState.record :=
  (startRules_confined hrules env field none).bind fun outcome =>
    ⟨RunState.record_noteOutcome outcome, trivial⟩

namespace Session

/-- How the chain of a field ends by itself, if the field is validated and the chain ends at all. -/
def fieldOutcome? (session : Session) (patience : Nat) (field : String) : Option Outcome :=
  (session.validator.rules? field).bind fun rules => (session.runRulesFor patience field rules).1

/-- Noting its outcome does not change how a chain ends. -/
theorem run_part (session : Session) (patience : Nat) (field : String) (rules : List Rule) :
    ((Validator.part RunState.noteOutcome (startRules session.env field rules none)).run patience
        session.atStart).1 = (session.runRulesFor patience field rules).1 := by
  rw [Validator.part, Job.run_bind_of_ends (fun _ _ _ => rfl), Option.map_id']
  rfl

variable {session : Session} {patience : Nat}

theorem validateFor_eq_mapM (hdistinct : (session.validator.fields.map (·.1)).Nodup)
    (hisolated : ∀ entry ∈ session.validator.fields, ∀ rule ∈ entry.2, rule.isolated)
    (patience : Nat) :
    (session.validateFor patience).1 =
      ((session.validator.fields.map (·.1)).mapM (session.fieldOutcome? patience)).map
        Report.ofOutcomes := by
  have hconfined : ∀ job ∈ session.validator.fields.map fun entry =>
      Validator.part RunState.noteOutcome (startRules session.env entry.1 entry.2 none),
        job.Confined RunState.record := by
    intro job hjob
    obtain ⟨entry, hentry, rfl⟩ := List.mem_map.mp hjob
    exact Validator.part_confined (hisolated entry hentry) session.env entry.1
  have hfields : ∀ entry ∈ session.validator.fields,
      ((Validator.part RunState.noteOutcome
        (startRules session.env entry.1 entry.2 none)).run patience session.atStart).1 =
          session.fieldOutcome? patience entry.1 := by
    intro entry hentry
    have hrules : session.validator.rules? entry.1 = some entry.2 :=
      (lookup_eq_some_iff_mem hdistinct).mpr hentry
    rw [run_part, fieldOutcome?, hrules]
    rfl
  rw [validateFor_report, Validator.run, Validator.join, Job.Confined.run_all hconfined,
    List.mapM_map, List.mapM_map]
  exact congrArg (Option.map Report.ofOutcomes) (mapM_congr hfields)

theorem field_of_fieldOutcome? {field : String} {outcome : Outcome}
    (houtcome : session.fieldOutcome? patience field = some outcome) : outcome.field = field := by
  obtain ⟨rules, _, hrun⟩ := Option.bind_eq_some_iff.mp houtcome
  unfold runRulesFor at hrun
  exact Chain.field_of_run (Prod.ext hrun rfl)

theorem fields_of_mapM {fields : List String} {outcomes : List Outcome}
    (houtcomes : fields.mapM (session.fieldOutcome? patience) = some outcomes) :
    outcomes.map (·.field) = fields := by
  have hall := mapM_eq_some_iff.mp houtcomes
  clear houtcomes
  induction hall with
  | nil => rfl
  | cons houtcome _ ih => rw [List.map_cons, field_of_fieldOutcome? houtcome, ih]

/-- The session with its fields in another order. -/
def reordered (session : Session) (fields : List (String × List Rule)) : Session :=
  { session with validator := { session.validator with fields } }

theorem fieldOutcome?_reordered (hdistinct : (session.validator.fields.map (·.1)).Nodup)
    {fields : List (String × List Rule)} (hperm : fields.Perm session.validator.fields)
    (patience : Nat) (field : String) :
    (session.reordered fields).fieldOutcome? patience field =
      session.fieldOutcome? patience field := by
  have hrules : (session.reordered fields).validator.rules? field =
      session.validator.rules? field := lookup_eq_of_perm hdistinct hperm field
  rw [fieldOutcome?, hrules]
  rfl

/-- Another order of the fields gives the same failures in another order. -/
theorem validateFor_reordered (hdistinct : (session.validator.fields.map (·.1)).Nodup)
    (hisolated : ∀ entry ∈ session.validator.fields, ∀ rule ∈ entry.2, rule.isolated)
    {fields : List (String × List Rule)} (hperm : fields.Perm session.validator.fields)
    {report : Report} (hreport : (session.validateFor patience).1 = some report) :
    ∃ report', ((session.reordered fields).validateFor patience).1 = some report' ∧
      report'.failures.Perm report.failures ∧
      ∀ field, report'.failure? field = report.failure? field := by
  have hdistinct' : (fields.map (·.1)).Nodup := (hperm.map (·.1)).nodup_iff.mpr hdistinct
  have hisolated' : ∀ entry ∈ fields, ∀ rule ∈ entry.2, rule.isolated :=
    fun entry hentry => hisolated entry (hperm.subset hentry)
  rw [validateFor_eq_mapM hdistinct hisolated, Option.map_eq_some_iff] at hreport
  obtain ⟨outcomes, houtcomes, rfl⟩ := hreport
  obtain ⟨outcomes', houtcomes', hperm'⟩ :=
    exists_mapM_eq_some_of_perm (hperm.map (·.1)) houtcomes
  have hfailures : (Report.ofOutcomes outcomes').failures.Perm
      (Report.ofOutcomes outcomes).failures := hperm'.filterMap _
  refine ⟨Report.ofOutcomes outcomes', ?_, hfailures, lookup_eq_of_perm ?_ hfailures⟩
  · rw [validateFor_eq_mapM hdistinct' hisolated', Option.map_eq_some_iff]
    refine ⟨outcomes', ?_, rfl⟩
    rw [← houtcomes']
    exact mapM_congr fun field _ => fieldOutcome?_reordered hdistinct hperm patience field
  · have hsublist := Report.fields_ofOutcomes_sublist outcomes
    rw [fields_of_mapM houtcomes] at hsublist
    exact hsublist.nodup hdistinct

/-- Chains that look only at the record, and leave it as it is, do not influence each other: a
    validation ends as the chains of the fields do one by one, in whatever order these are
    declared. -/
theorem validate_eq_of_isolated {config : Config} (hmade : config.Made) {registry : Registry}
    {schema : Schema} (hcompile : Validator.compile registry schema config = .ok session.validator)
    (hisolated : ∀ entry ∈ session.validator.fields, ∀ rule ∈ entry.2, rule.isolated)
    (patience : Nat) :
    (session.validateFor patience).1 =
        ((config.rules.map (·.1)).mapM (session.fieldOutcome? patience)).map Report.ofOutcomes ∧
      ∀ rules : List (String × RuleSpec), rules.Perm config.rules →
        ∃ validator, Validator.compile registry schema { config with rules } = .ok validator ∧
          ∀ report, (session.validateFor patience).1 = some report →
            ∃ report', ({ session with validator }.validateFor patience).1 = some report' ∧
              report'.failures.Perm report.failures ∧
              ∀ field, report'.failure? field = report.failure? field := by
  have hdistinct := Validator.fields_nodup_of_compile hmade hcompile
  refine ⟨?_, fun rules hrules => ?_⟩
  · rw [← Validator.fields_of_compile hcompile]
    exact validateFor_eq_mapM hdistinct hisolated patience
  · obtain ⟨fields, hfields, hvalidator⟩ := Validator.compile_eq_ok_iff.mp hcompile
    obtain ⟨fields', hfields', hperm⟩ := exists_mapM_eq_ok_of_perm hrules hfields
    refine ⟨{ session.validator with fields := fields' }, ?_, fun report hreport => ?_⟩
    · rw [Validator.compile_eq_ok_iff, hvalidator]
      exact ⟨fields', hfields', rfl⟩
    · have hperm' : fields'.Perm session.validator.fields := by rwa [hvalidator]
      exact validateFor_reordered hdistinct hisolated hperm' hreport

/-- The lookup for the first field fails, and the one for the second finds the users. -/
def lostAndFound (query : Query) : Option Reply :=
  some (if query.field = "name" then .answers 20 none else .answers 10 (some [namesake]))

theorem validate_eq_of_isolated_lost_and_found :
    let session := twoNamesSession lostAndFound
    let taken : Failure := ⟨"unique", "nick must be a unique nick in a User"⟩
    ((["name", "nick"]).mapM (session.fieldOutcome? 20)).map Report.ofOutcomes =
        some ⟨[("nick", taken)]⟩ ∧
      ∃ validator,
        Validator.compile .standard twoNamesSchema
            { twoNames with rules := twoNames.rules.reverse } = .ok validator ∧
          ∃ report, ({ session with validator }.validateFor 20).1 = some report ∧
            report.failure? "nick" = some taken := by
  intro session taken
  have hcompile := twoNames_compile lostAndFound
  have hnames : ∀ entry ∈ session.validator.fields, ∀ rule ∈ entry.2,
      ∀ name ∈ rule.names, name ∉ ["if_valid", "apply", "null"] := by decide
  have hreport : (session.validateFor 20).1 = some ⟨[("nick", taken)]⟩ := by rfl
  obtain ⟨hone, hperm⟩ := validate_eq_of_isolated (.setRules (.setRules .empty _ _) _ _)
    hcompile (Validator.isolated_of_names hcompile hnames) 20
  obtain ⟨validator, hcompile, hreports⟩ := hperm _ (List.reverse_perm _)
  obtain ⟨report, hreordered, _, hfailures⟩ := hreports _ hreport
  exact ⟨hone.symm.trans hreport, validator, hcompile, report, hreordered, hfailures "nick"⟩

end Session

end FieldRules
