import FieldRules.Proofs.Chain.Visit
import FieldRules.Proofs.Compiler.Compiles
import FieldRules.Proofs.Report
import FieldRules.Proofs.Rule.Effects
import FieldRules.Proofs.Rule.InTurn
import FieldRules.Proofs.Session.Validate
import FieldRules.Proofs.Validator
import FieldRules.Rule.Standard

namespace FieldRules

/-- The fields that have ended invalid among those already judged, with their messages. -/
def failuresOf (earlier : List Outcome) : List (String × String) :=
  earlier.filterMap fun outcome => outcome.failure.map fun failure => (outcome.field, failure.message)

/-- A state in which the failures are those of the fields already judged. -/
def RunState.seeing (s : RunState) (earlier : List Outcome) : RunState :=
  { s with failures := failuresOf earlier }

namespace RunState

variable {s : RunState} {earlier : List Outcome} {outcome : Outcome}

theorem eq_seeing (hfailures : s.failures = failuresOf earlier) (hvalid : outcome.failure = none) :
    s = s.seeing (earlier ++ [outcome]) := by
  have hsame : failuresOf (earlier ++ [outcome]) = s.failures := by
    rw [failuresOf, List.filterMap_append, hfailures]
    simp [hvalid, failuresOf]
  rw [seeing, hsame]

/-- To note the failure of a field for the first time is to see the field among the others. -/
theorem noteFailure_eq_seeing (hfailures : s.failures = failuresOf earlier)
    (hnew : outcome.field ∉ earlier.map (·.field)) {failure : Failure}
    (hfailure : outcome.failure = some failure) :
    s.noteFailure outcome.field failure.message = s.seeing (earlier ++ [outcome]) := by
  have hfresh : s.hasFailed outcome.field = false := by
    rw [hasFailed, hfailures, List.any_eq_false]
    intro entry hentry
    obtain ⟨other, hother, hentry⟩ := List.mem_filterMap.mp hentry
    obtain ⟨_, _, rfl⟩ := Option.map_eq_some_iff.mp hentry
    have hne : other.field ≠ outcome.field := fun heq =>
      hnew (heq ▸ List.mem_map_of_mem hother)
    simpa using hne
  have happend : failuresOf (earlier ++ [outcome]) =
      s.failures ++ [(outcome.field, failure.message)] := by
    rw [failuresOf, List.filterMap_append, hfailures]
    simp [hfailure, failuresOf]
  rw [noteFailure, hfresh, seeing, happend]
  rfl

theorem noteOutcome_eq_seeing (hfailures : s.failures = failuresOf earlier)
    (hnew : outcome.field ∉ earlier.map (·.field)) :
    s.noteOutcome outcome = s.seeing (earlier ++ [outcome]) := by
  unfold noteOutcome
  cases hfailure : outcome.failure with
  | none => exact eq_seeing hfailures hfailure
  | some failure => exact noteFailure_eq_seeing hfailures hnew hfailure

end RunState

namespace Validator

/-- Judges fields one after another. The chain of each runs to its end by itself, on what the chains
    before it have left of the record, and sees the failures of the fields judged earlier. -/
def judgeInTurn (env : Environment) : List (String × List Rule) → (earlier : List Outcome) →
    RunState → Option (List Outcome × RunState)
  | [], _, s => some ([], s)
  | (field, rules) :: fields, earlier, s => do
    let chain := fieldChainInTurn env field rules
    let (outcome, s) ← (chain.start (fun s => s.record.get) none).atOnce (s.seeing earlier)
    let (outcomes, s) ← judgeInTurn env fields (earlier ++ [outcome]) s
    some (outcome :: outcomes, s)

theorem atOnce_part (env : Environment) {field : String} (rules : List Rule)
    {earlier : List Outcome} (hnew : field ∉ earlier.map (·.field)) (s : RunState) :
    (part RunState.noteOutcome (startRules env field rules none)).atOnce (s.seeing earlier) =
      (((fieldChainInTurn env field rules).start (fun s => s.record.get) none).atOnce
        (s.seeing earlier)).map fun r => (r.1, r.2.seeing (earlier ++ [r.1])) := by
  rw [part, Job.atOnce_bind, ← atOnce_fieldChain, ← startRules]
  cases hchain : (startRules env field rules none).atOnce (s.seeing earlier) with
  | none => rfl
  | some r =>
    obtain ⟨outcome, t⟩ := r
    have hfield : outcome.field = field := Chain.field_of_run (Job.run_of_atOnce hchain 0)
    have hfailures : t.failures = failuresOf earlier :=
      (startRules_keeps_failures env field rules none).atOnce hchain
    rw [← hfield] at hnew
    simp only [Option.bind_some, Option.map_some, Job.atOnce,
      RunState.noteOutcome_eq_seeing hfailures hnew]

/-- Without waits, the chains of all fields at once do what they do one after another. -/
theorem atOnce_run (env : Environment) {fields : List (String × List Rule)}
    {earlier : List Outcome} (hdistinct : (earlier.map (·.field) ++ fields.map (·.1)).Nodup)
    (s : RunState) :
    (Job.all (fields.map fun entry => part RunState.noteOutcome
        (startRules env entry.1 entry.2 none))).atOnce (s.seeing earlier) =
      (judgeInTurn env fields earlier s).map fun r => (r.1, r.2.seeing (earlier ++ r.1)) := by
  -- The state that the chains share is always the one judged so far, seeing the outcomes so far.
  induction fields generalizing earlier s with
  | nil =>
    rw [judgeInTurn, Option.map_some, List.append_nil]
    rfl
  | cons entry fields ih =>
    obtain ⟨field, rules⟩ := entry
    have hnew : field ∉ earlier.map (·.field) := by
      intro hmem
      exact (List.nodup_append.mp hdistinct).2.2 field hmem field List.mem_cons_self rfl
    rw [List.map_cons, Job.atOnce_all_cons, atOnce_part env rules hnew, judgeInTurn]
    cases hchain : ((fieldChainInTurn env field rules).start (fun s => s.record.get) none).atOnce
        (s.seeing earlier) with
    | none => rfl
    | some r =>
      obtain ⟨outcome, t⟩ := r
      have hfield : outcome.field = field := by
        rw [← atOnce_fieldChain] at hchain
        exact Chain.field_of_run (Job.run_of_atOnce hchain 0)
      have hdistinct' : ((earlier ++ [outcome]).map (·.field) ++ fields.map (·.1)).Nodup := by
        rw [List.map_append, List.append_assoc]
        simpa [hfield] using hdistinct
      simp only [Option.map_some, Option.bind_some, ih hdistinct' t]
      cases hrest : judgeInTurn env fields (earlier ++ [outcome]) t with
      | none => simp [hrest]
      | some r => simp [hrest]

/-- Where lookups and the rules of the record answer at once, no run comes to a wait. -/
theorem run_prompt {env : Environment} (henv : env.Prompt) (validator : Validator) :
    (validator.run env).Prompt := by
  refine .all fun job hjob => ?_
  obtain ⟨entry, _, rfl⟩ := List.mem_map.mp hjob
  have hchain : (startRules env entry.1 entry.2 none).Prompt :=
    Job.prompt_inherited.startRules henv.steps entry.1 entry.2 none
  exact hchain.bind fun outcome s => ⟨outcome, _, rfl⟩

end Validator

namespace Session

/-- If the chains come to no wait, a validation judges one field after another. -/
theorem validate_in_turn {config : Config} (hmade : config.Made) {registry : Registry}
    {schema : Schema} {session : Session}
    (hcompile : Validator.compile registry schema config = .ok session.validator)
    (hprompt : (session.validator.run session.env).atOnce session.atStart ≠ none) :
    session.validator.fields.map (·.1) = config.rules.map (·.1) ∧
      ∃ outcomes s,
        Validator.judgeInTurn session.env session.validator.fields [] session.atStart =
            some (outcomes, s) ∧
          session.validate.1 = some (Report.ofOutcomes outcomes) ∧
          session.validate.2.record = s.record ∧ session.validate.2.asked = s.asked := by
  refine ⟨Validator.fields_of_compile hcompile, ?_⟩
  have hdistinct := Validator.fields_nodup_of_compile hmade hcompile
  have hnone : (([] : List Outcome).map (·.field) ++ session.validator.fields.map (·.1)).Nodup :=
    hdistinct
  have hjudged := Validator.atOnce_run session.env hnone session.atStart
  have hstart : session.atStart.seeing [] = session.atStart := rfl
  rw [hstart] at hjudged
  cases hturns : Validator.judgeInTurn session.env session.validator.fields []
      session.atStart with
  | none =>
    rw [hturns] at hjudged
    exact absurd hjudged hprompt
  | some r =>
    obtain ⟨outcomes, s⟩ := r
    rw [hturns] at hjudged
    have hrun : (session.validator.run session.env).run patience session.atStart =
        (some outcomes, s.seeing outcomes) := Job.run_of_atOnce hjudged patience
    refine ⟨outcomes, s, rfl, ?_⟩
    rw [validate, validateFor_eq, hrun]
    exact ⟨rfl, rfl, rfl⟩

/-- The first field loses its value and then lacks it, and the second one is not judged without the
    first. -/
def lostAndGuarded : Config :=
  (Config.empty.setRules "name" (.list ["null", "required"])).setRules "nick"
    (.list ["if_valid:name", "required"])

def lostAndGuardedSession : Session where
  validator :=
    let schema : Schema := ⟨"Person", ["name", "nick"], false, none⟩
    let required (field : String) : Rule :=
      .check "required" (.predicate Finding.required
        ⟨.forField field ⟨[]⟩ schema, Wording.said " is required.", []⟩)
    let guard : Rule :=
      .check "if_valid" (.siblings .ifValid ["name"]
        ⟨.forField "nick" ⟨[]⟩ schema, "",
          [("$fields", .string "name"), ("$fieldAliases", .string "name")]⟩)
    ⟨schema, [("name", [.check "null" (.transform .null "name"), required "name"]),
      ("nick", [guard, required "nick"])], false⟩
  env := .empty
  record := ⟨[("name", .string "Ada")]⟩
  asked := []
  events := []
  last := none
  handedOn := []

theorem lostAndGuarded_compile :
    Validator.compile .standard lostAndGuardedSession.validator.schema lostAndGuarded =
      .ok lostAndGuardedSession.validator := by
  refine Validator.compile_eq_ok_iff.mpr ⟨_, mapM_eq_ok_iff.mpr (.cons ?_ (.cons ?_ .nil)), rfl⟩
  all_goals
    refine bind_eq_ok_iff.mpr ⟨_, mapM_eq_ok_iff.mpr (.cons ?_ (.cons ?_ .nil)), rfl⟩
    all_goals exact Compiler.compileEntry_eq_ok_iff.mpr (.check rfl (by rfl) (by rfl))

theorem validate_in_turn_lost_and_guarded :
    lostAndGuardedSession.validate.1 =
        some ⟨[("name", ⟨"required", "name is required."⟩)]⟩ ∧
      ∃ outcomes s,
        Validator.judgeInTurn lostAndGuardedSession.env lostAndGuardedSession.validator.fields []
            lostAndGuardedSession.atStart = some (outcomes, s) ∧
          lostAndGuardedSession.validate.1 = some (Report.ofOutcomes outcomes) ∧
          s.record.get "name" = .null := by
  have hprompt : lostAndGuardedSession.env.Prompt :=
    ⟨fun query => ⟨none, rfl⟩, fun name value context => rfl⟩
  obtain ⟨a, t, hends⟩ :=
    Validator.run_prompt hprompt lostAndGuardedSession.validator lostAndGuardedSession.atStart
  obtain ⟨_, outcomes, s, hturns, hreport, hrecord, _⟩ :=
    validate_in_turn (.setRules (.setRules .empty _ _) _ _) lostAndGuarded_compile
      (by rw [hends]; simp)
  refine ⟨by rfl, outcomes, s, hturns, hreport, ?_⟩
  rw [← hrecord]
  rfl

end Session

end FieldRules
