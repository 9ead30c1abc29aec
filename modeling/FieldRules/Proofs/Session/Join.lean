import FieldRules.Proofs.Compiler.Compiles
import FieldRules.Proofs.Job.Ensures
import FieldRules.Proofs.Report
import FieldRules.Proofs.Session.Logged
import FieldRules.Proofs.Validator
import FieldRules.Rule.Standard

namespace FieldRules

/-- The links with these names that have had turns in the chain of a field by its end: some first
    ones, after those that ran before. -/
structure LinksOver {σ : Type} (field : String) (before names : List String) (outcome : Outcome)
    (l : Logged σ) : Prop where
  own : outcome.field = field
  ended : outcome.state = .ended
  turns : ∃ ran, ran <+: names ∧ marksOf field l.log = (before ++ ran).map (.turn field)

/-- What happens in the chain of a field, from the turn of its first link to its end. -/
structure Completed (field : String) (names : List String) (outcome : Outcome)
    (marks : List Mark) : Prop where
  own : outcome.field = field
  ended : outcome.state = .ended
  marks : ∃ ran, ran <+: names ∧ marks = ran.map (.turn field) ++ [.ended outcome]

/-- A field's chain counts on being the only one to log something about its field, and it logs
    nothing about others. -/
def fieldContract {σ : Type} (field : String) : Contract (Logged σ) where
  rely l l' := marksOf field l'.log = marksOf field l.log
  guarantee l l' := ∃ marks, l'.log = l.log ++ marks ∧ ∀ mark ∈ marks, mark.field? = some field
  refl _ := rfl
  trans _ _ _ h h' := h'.trans h

section

variable {σ α : Type} {field field' : String} {l l' : Logged σ} {marks : List Mark}

theorem guarantee_of_log_eq_append {mark : Mark} (hmark : mark.field? = some field)
    (hlog : l'.log = l.log ++ [mark]) : (fieldContract field).guarantee l l' := by
  refine ⟨[mark], hlog, fun other hother => ?_⟩
  obtain rfl := List.mem_singleton.mp hother
  exact hmark

theorem guarantee_change (f : σ → σ) : (fieldContract field).guarantee l (l.change f) :=
  ⟨[], (List.append_nil _).symm, by simp⟩

/-- The chains of different fields do not write in each other's part of the log. -/
theorem fieldContract_compatible (hne : field ≠ field') :
    (fieldContract (σ := σ) field).Compatible (fieldContract field') := by
  have hkeep : ∀ {this that : String}, this ≠ that → ∀ l l' : Logged σ,
      (fieldContract this).guarantee l l' → (fieldContract that).rely l l' := by
    rintro this that hne l l' ⟨marks, hlog, hmarks⟩
    have hnone : marksOf that marks = [] := by
      refine List.filter_eq_nil_iff.mpr fun mark hmark => ?_
      rw [hmarks mark hmark]
      simpa using hne
    change marksOf that l'.log = marksOf that l.log
    rw [hlog, marksOf_append, hnone, List.append_nil]
  exact ⟨hkeep hne, hkeep hne.symm⟩

/-- A job that leaves the log alone leaves its field's part of the log as it is. -/
theorem Job.ensures_logged (job : Job σ α) (hl : marksOf field l.log = marks) :
    (job.zoom Logged.state Logged.change).Ensures (fieldContract field)
      (fun _ l => marksOf field l.log = marks) l := by
  induction job generalizing l with
  | done a => exact fun l' hrely => hrely.trans hl
  | observe next ih => exact ih l.state hl
  | modify f next ih => exact ⟨guarantee_change f, ih hl⟩
  | wait ms next ih => exact fun l' hrely => ih (hrely.trans hl)
  | never => trivial

/-- The links of a chain take their turns in order until the chain ends. -/
theorem Chain.ensures_runLinks (links : List (Link σ)) {before : List String}
    (hl : marksOf field l.log = before.map (.turn field)) (value : Value) (updated : Bool) :
    (runLinks field (links.map Link.logged) value updated).Ensures (fieldContract field)
      (LinksOver field before (links.map (·.rule))) l := by
  -- `before` grows with each turn, so that the log is described from the start of the chain.
  induction links generalizing l before value updated with
  | nil =>
    intro l' hrely
    exact ⟨rfl, rfl, [], List.prefix_rfl, by rw [List.append_nil, hrely, hl]⟩
  | cons link links ih =>
    have hturn : marksOf field (l.note (.turn field link.rule)).log =
        (before ++ [link.rule]).map (.turn field) := by
      rw [List.map_append, ← hl]
      exact marksOf_append_singleton rfl
    have hover : ∀ {outcome l'}, outcome.field = field → outcome.state = .ended →
        marksOf field l'.log = (before ++ [link.rule]).map (.turn field) →
        (Job.done outcome).Ensures (fieldContract (σ := σ) field)
          (LinksOver field before ((link :: links).map (·.rule))) l' := by
      intro outcome l' hfield hstate hl' l'' hrely
      exact ⟨hfield, hstate, [link.rule], ⟨links.map (·.rule), rfl⟩, hrely.trans hl'⟩
    refine ⟨guarantee_of_log_eq_append rfl rfl, ?_⟩
    refine Job.Ensures.bind (((link.act _).ensures_logged hturn).weaken fun calls l' hl' => ?_)
    obtain ⟨update, verdict⟩ := Call.settle calls
    cases verdict with
    | next =>
      refine (ih hl' _ _).weaken ?_
      rintro outcome l'' ⟨hfield, hstate, ran, hran, hturns⟩
      refine ⟨hfield, hstate, link.rule :: ran, (List.prefix_cons_inj _).mpr hran, ?_⟩
      rw [hturns, List.append_assoc, List.singleton_append]
    | stop => exact hover rfl rfl hl'
    | invalid message => exact hover rfl rfl hl'

theorem Validator.parked_part_logged (env : Environment) (rules : List Rule)
    {l : Logged RunState} (hl : marksOf field l.log = []) :
    (part Logged.conclude (startRulesLogged env field rules)).Parked (fieldContract field)
      (fun outcome l => Completed field (rules.map Rule.name) outcome (marksOf field l.log)) l := by
  intro l₁ hrely
  have hnone : marksOf field l₁.log = ([] : List String).map (.turn field) := hrely.trans hl
  have hchain := Chain.ensures_runLinks (fieldChain env field rules).links hnone
    (l₁.state.record.get field) false
  refine Job.Ensures.bind (hchain.weaken ?_)
  rintro outcome l₂ ⟨hown, hended, ran, hran, hturns⟩
  have hfield : (Mark.ended outcome).field? = some field := congrArg some hown
  have hnames : (fieldChain env field rules).links.map (·.rule) = rules.map Rule.name := by
    simp only [fieldChain, List.map_map]
    rfl
  refine ⟨guarantee_of_log_eq_append hfield rfl, fun l₃ hrely => ?_⟩
  refine ⟨hown, hended, ran, hnames ▸ hran, ?_⟩
  have hlog : marksOf field l₃.log = marksOf field (l₂.log ++ [.ended outcome]) := hrely
  rw [hlog, marksOf_append_singleton hfield, hturns, List.nil_append]

end

/-- Between its hooks, a run logs only what happens in the chains of its fields. -/
theorem log_eq_append_of_steps {fields : List (String × List Rule)} {l l' : Logged RunState}
    (hsteps : Relation.ReflTransGen
      (Contract.all (fun entry : String × List Rule => fieldContract entry.1) fields).guarantee
      l l') :
    ∃ marks, l'.log = l.log ++ marks ∧ ∀ mark ∈ marks, ∃ entry ∈ fields,
      mark.field? = some entry.1 := by
  induction hsteps with
  | refl => exact ⟨[], (List.append_nil _).symm, by simp⟩
  | tail _ hstep ih =>
    obtain ⟨marks, hlog, hmarks⟩ := ih
    obtain ⟨entry, hentry, more, hmore, hfield⟩ := hstep
    refine ⟨marks ++ more, by rw [hmore, hlog, List.append_assoc], fun mark hmark => ?_⟩
    cases List.mem_append.mp hmark with
    | inl hmark => exact hmarks mark hmark
    | inr hmark => exact ⟨entry, hentry, hfield mark hmark⟩

/-- The chains of the fields, in order, have ended with these outcomes. -/
def AllCompleted (fields : List (String × List Rule)) (outcomes : List Outcome)
    (marks : List Mark) : Prop :=
  List.Forall₂ (fun entry outcome => Completed entry.1 (entry.2.map Rule.name) outcome
    (marksOf entry.1 marks)) fields outcomes

/-- How a validation joins the chains of its fields, `marks` being what happens in the chains: the
    chains all come to an end, and the report sums up their outcomes in the order in which the fields
    are declared. -/
structure Joined (fields : List (String × List Rule)) (outcomes : List Outcome)
    (marks : List Mark) (report : Report) : Prop where
  distinct : (fields.map (·.1)).Nodup
  completed : AllCompleted fields outcomes marks
  others : ∀ mark ∈ marks, ∃ entry ∈ fields, mark.field? = some entry.1
  valid : report.valid = true ↔ ∀ outcome ∈ outcomes, outcome.valid = true
  failure : ∀ field failure, report.failure? field = some failure ↔
    ∃ outcome ∈ outcomes, outcome.field = field ∧ outcome.failure = some failure
  messages : report.messages = fields.filterMap fun entry => report.message? entry.1
  length : report.messages.length = fields.countP fun entry => report.hasFailed entry.1

section

variable {fields : List (String × List Rule)} {outcomes : List Outcome} {marks : List Mark}

theorem AllCompleted.fields_eq (hcompleted : AllCompleted fields outcomes marks) :
    outcomes.map (·.field) = fields.map (·.1) := by
  induction hcompleted with
  | nil => rfl
  | cons hentry _ ih => rw [List.map_cons, List.map_cons, hentry.own, ih]

/-- The chains have only to end, each in its part of the log: the report on them is then right. -/
theorem joined_ofOutcomes (hdistinct : (fields.map (·.1)).Nodup)
    (hcompleted : AllCompleted fields outcomes marks)
    (hothers : ∀ mark ∈ marks, ∃ entry ∈ fields, mark.field? = some entry.1) :
    Joined fields outcomes marks (Report.ofOutcomes outcomes) := by
  have hsublist := Report.fields_ofOutcomes_sublist outcomes
  rw [hcompleted.fields_eq] at hsublist
  refine ⟨hdistinct, hcompleted, hothers, Report.valid_ofOutcomes_iff, fun field failure => ?_,
    ?_, ?_⟩
  · rw [Report.failure?, lookup_eq_some_iff_mem (hsublist.nodup hdistinct),
      Report.mem_ofOutcomes_iff]
  · rw [Report.messages_eq_filterMap hsublist hdistinct, List.filterMap_map]
    rfl
  · rw [Report.length_messages hsublist hdistinct, List.countP_map]
    rfl

end

namespace Validator

/-- A run that comes to an end has joined the chains of all fields. -/
theorem joined_of_runLogged {validator : Validator} {env : Environment} {s : RunState}
    {patience : Nat} {outcomes : List Outcome} {l : Logged RunState}
    (hdistinct : (validator.fields.map (·.1)).Nodup)
    (hrun : (validator.runLogged env).run patience ⟨s, [.hook .start]⟩ = (some outcomes, l)) :
    ∃ marks, l.log = .hook .start :: marks ∧
      Joined validator.fields outcomes marks (Report.ofOutcomes outcomes) := by
  have hensures : (validator.runLogged env).Ensures
      (.all (fun entry => fieldContract entry.1) validator.fields)
      (fun outcomes l => List.Forall₂ (fun entry outcome =>
        Completed entry.1 (entry.2.map Rule.name) outcome (marksOf entry.1 l.log))
        validator.fields outcomes) ⟨s, [.hook .start]⟩ := by
    refine Job.ensures_all ?_ fun entry _ => parked_part_logged env entry.2 rfl
    exact (List.pairwise_map.mp hdistinct).imp fun hne => fieldContract_compatible hne
  have hsteps := hensures.steps_of_run patience
  rw [hrun] at hsteps
  obtain ⟨marks, hlog, hothers⟩ := log_eq_append_of_steps hsteps
  have hmarks : ∀ field, marksOf field l.log = marksOf field marks := by
    intro field
    rw [hlog, marksOf_append]
    rfl
  have hcompleted := hensures.of_run hrun
  simp only [hmarks] at hcompleted
  exact ⟨marks, hlog, joined_ofOutcomes hdistinct hcompleted hothers⟩

end Validator

namespace Session

/-- Whatever waits the chains meet, a validation that comes to an end has waited for all of them. The
    record is told that the run starts before any link takes its turn, and how the run has ended when
    the last chain is over, as a log shows that is kept of the steps of this very validation. -/
theorem validate_joins {config : Config} (hmade : config.Made) {registry : Registry}
    {schema : Schema} {session session' : Session} {patience : Nat} {report : Report}
    (hcompile : Validator.compile registry schema config = .ok session.validator)
    (hrun : session.validateFor patience = (some report, session')) :
    session.validator.fields.map (·.1) = config.rules.map (·.1) ∧
      (session.validator.validateLogged session.env).Shadows (Prod.map Logged.state id)
        (session.validator.validate session.env) ∧
      (∃ outcomes marks,
        session.validateLogged patience = (some report, session',
          .hook .start :: marks ++ [.hook (if report.valid then .pass report else .fail report)]) ∧
        Joined session.validator.fields outcomes marks report) ∧
      session'.events =
        if session.env.bare then session.events
        else session.events ++ [.start, if report.valid then .pass else .fail] := by
  refine ⟨Validator.fields_of_compile hcompile,
    session.validator.shadows_validateLogged session.env, ?_⟩
  have hdistinct := Validator.fields_nodup_of_compile hmade hcompile
  rw [validateFor_eq_validateLogged, Prod.mk.injEq] at hrun
  obtain ⟨hreport, hsession⟩ := hrun
  rw [validateLogged_eq] at hreport hsession ⊢
  dsimp only at hreport hsession ⊢
  cases hchains : (session.validator.runLogged session.env).run patience
      ⟨session.atStart, [.hook .start]⟩ with
  | mk result l =>
    rw [hchains] at hreport hsession
    cases result with
    | none => cases hreport
    | some outcomes =>
      cases hreport
      cases hsession
      obtain ⟨marks, hlog, hjoined⟩ := Validator.joined_of_runLogged hdistinct hchains
      refine ⟨⟨outcomes, marks, ?_, hjoined⟩, session.events_after l.state _⟩
      rw [← hlog]
      rfl

/-- Two names, each of which no user may have. -/
def twoNames : Config :=
  (Config.empty.setRules "name" (.list ["unique:User"])).setRules "nick" (.list ["unique:User"])

def twoNamesSchema : Schema := ⟨"Person", ["name", "nick"], true, none⟩

def uniqueAmongUsers (field : String) : Rule :=
  .check "unique" (.foreign "User" field (.lookup none) true
    ⟨.forField field ⟨[]⟩ twoNamesSchema, Wording.foreignMessage " must be a unique ",
      [("$class", .string "User"), ("$matchField", .string field), ("$matchAlias", .string field)]⟩)

/-- A record with two names, for each of which the users are looked up. -/
def twoNamesSession (replies : Query → Option Reply) : Session where
  validator :=
    ⟨twoNamesSchema,
      [("name", [uniqueAmongUsers "name"]), ("nick", [uniqueAmongUsers "nick"])], false⟩
  env := { Environment.empty with replies }
  record := ⟨[("name", .string "Ada"), ("nick", .string "Countess")]⟩
  asked := []
  events := []
  last := none
  handedOn := []

theorem twoNames_compile (replies : Query → Option Reply) :
    Validator.compile .standard twoNamesSchema twoNames =
      .ok (twoNamesSession replies).validator := by
  refine Validator.compile_eq_ok_iff.mpr ⟨_, mapM_eq_ok_iff.mpr (.cons ?_ (.cons ?_ .nil)), rfl⟩
  all_goals
    refine bind_eq_ok_iff.mpr ⟨_, mapM_eq_ok_iff.mpr (.cons ?_ .nil), rfl⟩
    exact Compiler.compileEntry_eq_ok_iff.mpr (.check rfl (by rfl) (by rfl))

/-- A user with both names. -/
def namesake : Instance := .other ⟨[("name", .string "Ada"), ("nick", .string "Countess")]⟩

/-- The same users are looked up for both fields, and found later for the first one. -/
def lateAndEarly (query : Query) : Option Reply :=
  some (.answers (if query.field = "name" then 20 else 10) (some [namesake]))

/-- The chain that ends last is still the first one in the report. -/
theorem validate_joins_late_and_early :
    let session := twoNamesSession lateAndEarly
    let report : Report :=
      ⟨[("name", ⟨"unique", "name must be a unique name in a User"⟩),
        ("nick", ⟨"unique", "nick must be a unique nick in a User"⟩)]⟩
    (session.validateLogged 20).2.2.map Mark.field? =
        [none, some "name", some "nick", some "nick", some "name", none] ∧
      (session.validateFor 20).1 = some report ∧
      ∃ outcomes marks, Joined session.validator.fields outcomes marks report := by
  intro session report
  have hreport : (session.validateFor 20).1 = some report := by decide +kernel
  obtain ⟨_, _, ⟨outcomes, marks, _, hjoined⟩, _⟩ :=
    validate_joins (.setRules (.setRules .empty _ _) _ _) (twoNames_compile lateAndEarly)
      (Prod.ext hreport rfl)
  exact ⟨by decide +kernel, hreport, outcomes, marks, hjoined⟩

end Session

end FieldRules
