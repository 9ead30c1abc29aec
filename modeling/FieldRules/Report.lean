import FieldRules.Chain.Basic

namespace FieldRules

/-- The result of validating a record: the failures of its fields, in the order in which the fields
    are declared. No field appears twice. -/
structure Report where
  failures : List (String × Failure)
deriving DecidableEq

namespace Report

/-- The failures among the outcomes of a run. -/
def ofOutcomes (outcomes : List Outcome) : Report :=
  ⟨outcomes.filterMap fun outcome => outcome.failure.map (outcome.field, ·)⟩

def valid (report : Report) : Bool := report.failures.isEmpty

def messages (report : Report) : List String := report.failures.map (·.2.message)

def failure? (report : Report) (field : String) : Option Failure := report.failures.lookup field

def message? (report : Report) (field : String) : Option String :=
  (report.failure? field).map (·.message)

def hasFailed (report : Report) (field : String) : Bool := (report.failure? field).isSome

/-- The failures in the order of their fields' names. -/
def sorted (report : Report) : List (String × Failure) :=
  report.failures.mergeSort fun a b => a.1 ≤ b.1

end Report

end FieldRules
