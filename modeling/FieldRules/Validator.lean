import FieldRules.Compiler.Basic
import FieldRules.Config
import FieldRules.Report

namespace FieldRules

/-- Notes the failure of a chain, if it has failed. -/
def RunState.noteOutcome (outcome : Outcome) (s : RunState) : RunState :=
  match outcome.failure with
  | none => s
  | some failure => s.noteFailure outcome.field failure.message

/-- What a record is told about a run in which it is validated. -/
inductive Hook where
  | start
  | pass (report : Report)
  | fail (report : Report)

/-- What it is told about the end of a run. -/
def Hook.ofReport (report : Report) : Hook :=
  if report.valid then .pass report else .fail report

/-- The compiled rules for the records of a schema. -/
structure Validator where
  schema : Schema
  /-- The fields and their rules, in the order of their declaration. -/
  fields : List (String × List Rule)
  /-- Whether only valid records may be saved. -/
  required : Bool

namespace Validator

/-- Compiles the rules of all fields. The first error in any of them is the error of the whole. -/
def compile (registry : Registry) (schema : Schema) (config : Config) :
    Except ConfigError Validator := do
  let compiler : Compiler := ⟨registry, schema, ⟨config.aliases⟩⟩
  let fields ← config.rules.mapM fun (field, spec) => do
    let rules ← compiler.compile spec field (config.messages.lookup field)
    .ok (field, rules)
  .ok ⟨schema, fields, config.required⟩

/-- The rules of a field, if it is validated. -/
def rules? (validator : Validator) (field : String) : Option (List Rule) :=
  validator.fields.lookup field

section

variable {σ : Type}

/-- Runs a chain as a part of a whole run, in which its outcome is noted. -/
def part (note : Outcome → σ → σ) (chain : Job σ Outcome) : Job σ Outcome :=
  chain.bind fun outcome => .modify (note outcome) (.done outcome)

/-- Runs a chain for every field, all at once. -/
def join (note : Outcome → σ → σ) (chain : String → List Rule → Job σ Outcome)
    (validator : Validator) : Job σ (List Outcome) :=
  Job.all (validator.fields.map fun (field, rules) => part note (chain field rules))

/-- Conducts a whole run: before any chain starts its start is told, and when the chains have ended
    it is told how. -/
def conduct (tell : Hook → σ → σ) (chains : Job σ (List Outcome)) : Job σ Report :=
  .modify (tell .start) <| chains.bind fun outcomes =>
    let report := Report.ofOutcomes outcomes
    .modify (tell (.ofReport report)) (.done report)

end

/-- Runs the rules of all fields, and notes which of these fail. -/
def run (validator : Validator) (env : Environment) : Job RunState (List Outcome) :=
  validator.join RunState.noteOutcome fun field rules => startRules env field rules none

end Validator

end FieldRules
