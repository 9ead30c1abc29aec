import FieldRules.Proofs.Compiler.Sites
import FieldRules.Proofs.Record
import FieldRules.Proofs.Rule.Traced
import FieldRules.Proofs.Session.Logged

namespace FieldRules

/-- What a check stores that is given a value, by the name of its rule: `apply` this value, and `null`
    null. -/
def Site.stored? (site : Site) (value : Value) : Option Value :=
  if site.rule = "apply" then some value else if site.rule = "null" then some .null else none

/-- Whether a check stands under the name of a rule that writes to the record. -/
def Site.isWriter (site : Site) : Bool := site.rule == "apply" || site.rule == "null"

/-- A step in the turn of one of some checks. If the check stores something, the step writes it to the
    field that the check judges, and else it leaves the record as it is. -/
def Step.MadeBy (sites : List Site) (step : Step) : Prop :=
  ∃ site ∈ sites, step.turn = site.turn step.turn.value ∧
    match site.stored? step.turn.value with
    | some stored => step.before.Written site.field stored step.after
    | none => step.after = step.before

/-- Whenever its turn comes, a check writes what it stores, in the one step that it takes. -/
def Site.WritesOnce (site : Site) (value stored : Value) : Prop :=
  ∀ (env : Environment) (patience : Nat) (t : Traced), ∃ calls t',
    (site.check.actTraced env (site.turn value)).run patience t = (some calls, t') ∧
      (site.check.act env (site.turn value)).run patience t.state = (some calls, t'.state) ∧
      t'.steps = t.steps ++ [⟨site.turn value, t.record, t'.record⟩] ∧
      t.record.Written site.field stored t'.record

theorem Site.isWriter_of_stored? {site : Site} {value stored : Value}
    (hstored : site.stored? value = some stored) : site.isWriter := by
  unfold stored? at hstored
  unfold isWriter
  split at hstored
  · next hname => simp [hname]
  · split at hstored
    · next hname => simp [hname]
    · cases hstored

theorem Site.rule_ne_of_stored? {site : Site} {value : Value} (hnone : site.stored? value = none) :
    site.rule ≠ "apply" ∧ site.rule ≠ "null" := by
  unfold stored? at hnone
  split at hnone
  · cases hnone
  · next happly =>
    split at hnone
    · cases hnone
    · next hnull => exact ⟨happly, hnull⟩

section

variable {sites : List Site} {site : Site} {value stored : Value} {before after : Record}

theorem madeBy_of_written (hmem : site ∈ sites) (hstored : site.stored? value = some stored)
    (hwritten : before.Written site.field stored after) :
    Step.MadeBy sites ⟨site.turn value, before, after⟩ := by
  refine ⟨site, hmem, rfl, ?_⟩
  change match site.stored? value with | some stored => _ | none => _
  rwa [hstored]

theorem madeBy_of_unchanged (hmem : site ∈ sites) (hnone : site.stored? value = none)
    (hsame : after = before) : Step.MadeBy sites ⟨site.turn value, before, after⟩ := by
  refine ⟨site, hmem, rfl, ?_⟩
  change match site.stored? value with | some stored => _ | none => _
  rwa [hnone]

end

theorem Step.MadeBy.written {sites : List Site} {step : Step} (hmade : step.MadeBy sites) :
    step.after = step.before ∨ ∃ site ∈ sites, site.isWriter ∧
      ∃ stored, step.before.Written site.field stored step.after := by
  obtain ⟨site, hsite, -, hstep⟩ := hmade
  split at hstep
  · next stored hstored =>
    exact .inr ⟨site, hsite, Site.isWriter_of_stored? hstored, stored, hstep⟩
  · exact .inl hstep

/-- Steps that lead from one record to another, all of which are allowed. -/
inductive Leads (allowed : Step → Prop) (start : Record) : List Step → Record → Prop
  | nil : Leads allowed start [] start
  | snoc {steps : List Step} {step : Step} (hsteps : Leads allowed start steps step.before)
      (hstep : allowed step) : Leads allowed start (steps ++ [step]) step.after

section

variable {sites : List Site} {start stop : Record} {steps : List Step}

theorem Leads.get?_eq (hleads : Leads (Step.MadeBy sites) start steps stop) {field : String}
    (hfield : ∀ site ∈ sites, site.isWriter → site.field ≠ field) :
    stop.get? field = start.get? field := by
  induction hleads with
  | nil => rfl
  | snoc _ hmade ih =>
    rcases hmade.written with hsame | ⟨site, hsite, hwriter, stored, hwritten⟩
    · rw [hsame, ih]
    · rw [hwritten.others field (hfield site hsite hwriter).symm, ih]

theorem Leads.keys_eq (hleads : Leads (Step.MadeBy sites) start steps stop) :
    ∃ added, stop.keys = start.keys ++ added ∧
      ∀ field ∈ added, ∃ site ∈ sites, site.isWriter ∧ site.field = field := by
  induction hleads with
  | nil => exact ⟨[], (List.append_nil _).symm, by simp⟩
  | snoc _ hmade ih =>
    obtain ⟨added, hkeys, hadded⟩ := ih
    rcases hmade.written with hsame | ⟨site, hsite, hwriter, stored, hwritten⟩
    · exact ⟨added, by rw [hsame, hkeys], hadded⟩
    · have hwrote := hwritten.keys
      split at hwrote
      · exact ⟨added, hwrote.trans hkeys, hadded⟩
      · refine ⟨added ++ [site.field], by rw [hwrote, hkeys, List.append_assoc], ?_⟩
        rw [List.forall_mem_append, List.forall_mem_singleton]
        exact ⟨hadded, site, hsite, hwriter, rfl⟩

theorem Leads.eq_of_unwritten (hleads : Leads (Step.MadeBy sites) start steps stop)
    (hnone : ∀ site ∈ sites, site.isWriter = false) : stop = start := by
  induction hleads with
  | nil => rfl
  | snoc _ hmade ih =>
    rcases hmade.written with hsame | ⟨site, hsite, hwriter, _⟩
    · rw [hsame, ih]
    · rw [hnone site hsite] at hwriter
      cases hwriter

/-- What becomes of a record to which only some checks write. -/
structure WritesNamed (sites : List Site) (start : Record) (steps : List Step) (stop : Record) :
    Prop where
  leads : Leads (Step.MadeBy sites) start steps stop
  /-- A field without a writer is there if it was there before, with the value that it had. -/
  others : ∀ field, (∀ site ∈ sites, site.isWriter → site.field ≠ field) →
    stop.get? field = start.get? field
  /-- The fields keep their order, and only fields with a writer join them, at the end. -/
  keys : ∃ added, stop.keys = start.keys ++ added ∧
    ∀ field ∈ added, ∃ site ∈ sites, site.isWriter ∧ site.field = field
  unwritten : (∀ site ∈ sites, site.isWriter = false) → stop.toValue = start.toValue

theorem Leads.writesNamed (hleads : Leads (Step.MadeBy sites) start steps stop) :
    WritesNamed sites start steps stop :=
  ⟨hleads, fun _ => hleads.get?_eq, hleads.keys_eq,
    fun hnone => congrArg Record.toValue (hleads.eq_of_unwritten hnone)⟩

end

/-- A change that leads on wherever the steps before it have led. -/
def LeadsOn (sites : List Site) (start : Record) (change : Traced → Traced) : Prop :=
  ∀ t, Leads (Step.MadeBy sites) start t.steps t.record →
    Leads (Step.MadeBy sites) start (change t).steps (change t).record

theorem leadsOn_noteOutcome (sites : List Site) (start : Record) (outcome : Outcome) :
    LeadsOn sites start (Traced.change (RunState.noteOutcome outcome)) := by
  intro t hleads
  have hrecord : (Traced.change (RunState.noteOutcome outcome) t).record = t.record :=
    RunState.record_noteOutcome outcome t.state
  rwa [hrecord]

theorem leadsOn_step {sites : List Site} {turn : Turn} {f : RunState → RunState}
    (hmade : ∀ t : Traced, Step.MadeBy sites ⟨turn, t.record, (f t.state).record⟩)
    (start : Record) : LeadsOn sites start (Traced.step turn f) :=
  fun t hleads => .snoc hleads (hmade t)

namespace Compiler

variable {compiler : Compiler} {site : Site} {value stored : Value}

/-- A check that stores something is the change of values of that name, for the field that it
    judges. -/
theorem MakesSite.exists_transform (hsite : compiler.MakesSite site)
    (hstandard : compiler.registry = .standard) (hstored : site.stored? value = some stored) :
    ∃ transform : Transform, site.check = .transform transform site.field ∧
      transform.stored? value = some stored := by
  unfold Site.stored? at hstored
  split at hstored
  · next hname =>
    refine ⟨.apply, hsite.check_eq_transform ?_ ?_, hstored⟩
    · rw [hname]
      rfl
    · rw [hstandard, hname]
      rfl
  · split at hstored
    · next hname =>
      refine ⟨.null, hsite.check_eq_transform ?_ ?_, hstored⟩
      · rw [hname]
        rfl
      · rw [hstandard, hname]
        rfl
    · cases hstored

/-- A change of values that stores something takes one step, the write. -/
theorem exists_act_transform {transform : Transform} (field : String) {turn : Turn}
    (hstored : transform.stored? turn.value = some stored) :
    ∃ calls, ∀ env, (Check.transform transform field).act env turn =
      .observe fun _ => .modify (RunState.setField field stored) (.done calls) := by
  refine ⟨((transform.replacement? turn.value).map Check.replaceBy).getD Check.goOn, fun env => ?_⟩
  unfold Check.act
  simp only [hstored]
  cases transform.replacement? turn.value <;> rfl

theorem MakesSite.exists_act (hsite : compiler.MakesSite site)
    (hstandard : compiler.registry = .standard) (hstored : site.stored? value = some stored) :
    ∃ calls, ∀ env, site.check.act env (site.turn value) =
      .observe fun _ => .modify (RunState.setField site.field stored) (.done calls) := by
  obtain ⟨transform, hcheck, htransform⟩ := hsite.exists_transform hstandard hstored
  rw [hcheck]
  exact exists_act_transform site.field htransform

theorem MakesSite.writesOnce (hsite : compiler.MakesSite site)
    (hstandard : compiler.registry = .standard) (hstored : site.stored? value = some stored) :
    site.WritesOnce value stored := by
  obtain ⟨calls, hact⟩ := hsite.exists_act hstandard hstored
  intro env patience t
  rw [Check.actTraced, hact]
  exact ⟨calls, _, rfl, rfl, rfl, t.record.written_set site.field stored⟩

theorem MakesSite.leadsOn (hsite : compiler.MakesSite site)
    (hstandard : compiler.registry = .standard) {sites : List Site} (hmem : site ∈ sites)
    (start : Record) (env : Environment) (value : Value) :
    (Check.actTraced env site.check (site.turn value)).Bounded id (LeadsOn sites start) := by
  cases hstored : site.stored? value with
  | some stored =>
    obtain ⟨calls, hact⟩ := hsite.exists_act hstandard hstored
    rw [Check.actTraced, hact]
    refine ⟨fun t u _ => rfl, fun t => ⟨leadsOn_step (fun t => ?_) start, trivial⟩⟩
    exact madeBy_of_written hmem hstored (t.record.written_set site.field stored)
  | none =>
    have hact : (site.check.act env (site.turn value)).Bounded id fun change =>
        ∀ s, (change s).record = s.record := by
      refine Check.act_bounded (fun s t hview => congrArg _ hview)
        (fun _ _ _ s t hview => congrArg _ hview) (fun model s => rfl)
        (fun target stored hwritten => ?_) env
      rw [Check.written?_eq_none
        (hsite.writes_eq_false hstandard (Site.rule_ne_of_stored? hstored))] at hwritten
      cases hwritten
    refine Job.bounded_traced hact fun change hchange => leadsOn_step (fun t => ?_) start
    exact madeBy_of_unchanged hmem hstored (hchange t.state)

end Compiler

namespace Validator

/-- Runs of a job write what checks write under the names of writers, and nothing else, as its traced
    runs bear out. -/
def RunsWriteNamed {α : Type} (sites : List Site) (job : Job RunState α) (traced : Job Traced α) :
    Prop :=
  ∀ patience s, ∃ result t, traced.run patience ⟨s, []⟩ = (result, t) ∧
    job.run patience s = (result, t.state) ∧ WritesNamed sites s.record t.steps t.record

theorem runsWriteNamed {α : Type} {sites : List Site} {job : Job RunState α}
    {traced : Job Traced α} (hshadow : traced.Shadows Traced.state job)
    (hbounded : ∀ start, traced.Bounded id (LeadsOn sites start)) :
    RunsWriteNamed sites job traced := by
  intro patience s
  obtain ⟨hresult, hstate⟩ := hshadow.run_eq patience ⟨s, []⟩
  have hnone : Leads (Step.MadeBy sites) s.record (Traced.mk s []).steps (Traced.mk s []).record :=
    .nil
  have hleads := (hbounded s.record).run_preserves (fun change hchange => hchange) patience hnone
  exact ⟨_, _, rfl, Prod.ext hresult.symm hstate.symm, hleads.writesNamed⟩

end Validator

namespace Session

/-- With the standard rules, records are written to by `apply` and `null` only, at any depth of
    nesting and in any run, whether or not it ends, and only in the fields that these rules are
    compiled for. The runs of a session are among these runs. -/
theorem runs_write_named {schema : Schema} {config : Config} {session : Session}
    (hcompile : Validator.compile .standard schema config = .ok session.validator) :
    let validator := session.validator
    let env := session.env
    (∀ site ∈ validator.sites, (⟨.standard, schema, ⟨config.aliases⟩⟩ : Compiler).MakesSite site) ∧
    (∀ site ∈ validator.sites, ∀ value stored, site.stored? value = some stored →
      site.WritesOnce value stored) ∧
    Validator.RunsWriteNamed validator.sites (validator.run env) (validator.runTraced env) ∧
    (∀ entry ∈ validator.fields, ∀ value,
      Validator.RunsWriteNamed (Rule.allSites entry.1 entry.2)
        (startRules env entry.1 entry.2 value) (startRulesTraced env entry.1 entry.2 value)) ∧
    ∀ patience,
      (session.validateFor patience).2.record =
          ((validator.run env).run patience session.atStart).2.record ∧
        ∀ field rules, (session.runRulesFor patience field rules).2.record =
          ((startRules env field rules none).run patience session.atStart).2.record := by
  intro validator env
  have hmakes := Validator.makesSite_of_compile hcompile
  have hsites : ∀ entry ∈ validator.fields, ∀ site ∈ Rule.allSites entry.1 entry.2,
      site ∈ validator.sites :=
    fun entry hentry site hsite => List.mem_flatMap.mpr ⟨entry, hentry, hsite⟩
  refine ⟨hmakes, fun site hsite value stored hstored => ?_, ?_, ?_, fun patience => ⟨?_, ?_⟩⟩
  · exact (hmakes site hsite).writesOnce rfl hstored
  · have hshadow := validator.shadows_runTraced env
    refine Validator.runsWriteNamed hshadow fun start => Validator.bounded_runTraced ?_ ?_
    · intro entry hentry site hsite branches value
      have hmem := hsites entry hentry site hsite
      exact (hmakes site hmem).leadsOn rfl hmem start _ value
    · exact leadsOn_noteOutcome validator.sites start
  · intro entry hentry value
    have hshadow := shadows_startRulesTraced env entry.1 entry.2 value
    refine Validator.runsWriteNamed hshadow fun start => bounded_startRulesTraced ?_ value
    intro site hsite branches given
    exact (hmakes site (hsites entry hentry site hsite)).leadsOn rfl hsite start _ given
  · exact (session.validateFor_state patience).1
  · exact fun field rules => rfl

/-- A name is trimmed and kept, and the rules of the nickname take it away again. -/
def keptAndLost : Session where
  validator :=
    ⟨⟨"Person", ["name", "nick"], false, none⟩,
      [("name", [.check "trim" (.transform .trim "name"),
          .check "apply" (.transform .apply "name")]),
        ("nick", [.branch "if" .all "nick" "name" [.check "null" (.transform .null "name")]])],
      false⟩
  env := .empty
  record := ⟨[("nick", .string "Countess"), ("name", .string " Ada ")]⟩
  asked := []
  events := []
  last := none
  handedOn := []

theorem keptAndLost_compile :
    Validator.compile .standard keptAndLost.validator.schema
        ((Config.empty.setRules "name" (.list ["trim", "apply"])).setRules "nick"
          (.list ["if:name:null"])) =
      .ok keptAndLost.validator := by
  refine Validator.compile_eq_ok_iff.mpr ⟨_, mapM_eq_ok_iff.mpr (.cons ?_ (.cons ?_ .nil)), rfl⟩
  · refine bind_eq_ok_iff.mpr ⟨_, mapM_eq_ok_iff.mpr (.cons ?_ (.cons ?_ .nil)), rfl⟩
    all_goals exact Compiler.compileEntry_eq_ok_iff.mpr (.check rfl (by rfl) (by rfl))
  · refine bind_eq_ok_iff.mpr ⟨_, mapM_eq_ok_iff.mpr (.cons ?_ .nil), rfl⟩
    refine Compiler.compileEntry_eq_ok_iff.mpr (.branch rfl (by rfl) (by rfl) (.cons ?_ .nil))
    exact .check rfl (by rfl) (by rfl)

theorem runs_write_named_kept_and_lost :
    (⟨"name", "apply", .transform .apply "name"⟩ : Site).WritesOnce (.string "Ada") (.string "Ada") ∧
    ∃ steps : List Step,
      steps.map (fun step => (step.turn.field, step.turn.rule)) =
        [("name", "apply"), ("name", "null")] ∧
      Leads (Step.MadeBy keptAndLost.validator.sites) keptAndLost.record steps
        keptAndLost.validate.2.record ∧
      keptAndLost.validate.2.record.get? "nick" = keptAndLost.record.get? "nick" ∧
      (keptAndLost.validate.2.record.get "name").isNull := by
  have hnick : ∀ site ∈ keptAndLost.validator.sites, site.isWriter → site.field ≠ "nick" := by
    intro site hsite _ hfield
    have hmem : site.field ∈ keptAndLost.validator.sites.map Site.field :=
      List.mem_map_of_mem hsite
    rw [hfield] at hmem
    revert hmem
    decide
  obtain ⟨_, honce, hruns, _, hsession⟩ := runs_write_named keptAndLost_compile
  obtain ⟨result, t, htraced, hrun, hwrites⟩ := hruns patience keptAndLost.atStart
  have hrecord : keptAndLost.validate.2.record = t.record := by
    rw [validate, (hsession patience).1, hrun]
    rfl
  have hsteps : ((keptAndLost.validator.runTraced keptAndLost.env).run patience
      ⟨keptAndLost.atStart, []⟩).2.steps.map (fun step => (step.turn.field, step.turn.rule)) =
        [("name", "apply"), ("name", "null")] := by
    decide +kernel
  rw [htraced] at hsteps
  refine ⟨honce _ (.tail _ (.head _)) _ _ rfl, t.steps, hsteps, ?_, ?_, by decide +kernel⟩
  · rw [hrecord]
    exact hwrites.leads
  · rw [hrecord]
    exact hwrites.others "nick" hnick

end Session

end FieldRules
