import FieldRules.Job
import FieldRules.Value.Basic

namespace FieldRules

/-- How a link ends its turn. -/
inductive Verdict where
  /-- The next link takes its turn. -/
  | next
  /-- The chain ends, and the value is valid. -/
  | stop
  | invalid (message : String)
deriving DecidableEq

/-- What a link may do in its turn besides reading and waiting. -/
inductive Call where
  /-- Replaces the working value. -/
  | update (value : Value)
  | finish (verdict : Verdict)

namespace Call

/-- The verdict of a list of calls and the last update before it. Only the first verdict counts, and
    nothing after it; without one the chain stops. -/
def settle : List Call → Option Value × Verdict
  | [] => (none, .stop)
  | .update value :: calls =>
    match settle calls with
    | (none, verdict) => (some value, verdict)
    | settled => settled
  | .finish verdict :: _ => (none, verdict)

end Call

inductive ChainState where
  | ready
  | running
  | ended
deriving DecidableEq

def ChainState.name : ChainState → String
  | ready => "Ready"
  | running => "Running"
  | ended => "Ended"

/-- What a link is told when its turn comes. -/
structure Turn where
  field : String
  rule : String
  state : ChainState
  value : Value

/-- A link of a chain: the name of its rule, and what it does in its turn. -/
structure Link (σ : Type) where
  rule : String
  act : Turn → Job σ (List Call)

/-- A rule that failed, and its message. -/
structure Failure where
  rule : String
  message : String
deriving DecidableEq

/-- How a chain has ended. -/
structure Outcome where
  field : String
  /-- The working value after the last link. -/
  value : Value
  /-- Whether a link has replaced the value. -/
  updated : Bool
  failure : Option Failure
  state : ChainState

namespace Outcome

def valid (outcome : Outcome) : Bool := outcome.failure.isNone

def message (outcome : Outcome) : String := (outcome.failure.map (·.message)).getD ""

def rule? (outcome : Outcome) : Option String := outcome.failure.map (·.rule)

end Outcome

/-- The links that judge one field, in order. -/
structure Chain (σ : Type) where
  field : String
  links : List (Link σ)

namespace Chain

variable {σ : Type}

/-- The state of a chain before its start. -/
def state (_ : Chain σ) : ChainState := .ready

/-- Gives the links their turns, one after another, until one ends the chain. -/
def runLinks (field : String) : List (Link σ) → Value → (updated : Bool) → Job σ Outcome
  | [], value, updated => .done ⟨field, value, updated, none, .ended⟩
  | link :: links, value, updated =>
    (link.act ⟨field, link.rule, .running, value⟩).bind fun calls =>
      let (update, verdict) := Call.settle calls
      let value := update.getD value
      let updated := updated || update.isSome
      match verdict with
      | .next => .observe fun _ => runLinks field links value updated
      | .stop => .done ⟨field, value, updated, none, .ended⟩
      | .invalid message => .done ⟨field, value, updated, some ⟨link.rule, message⟩, .ended⟩

/-- Runs a chain on a value. -/
def runOn (chain : Chain σ) (value : Value) : Job σ Outcome :=
  runLinks chain.field chain.links value false

/-- Runs a chain on the given value, or else on the one that `current` finds for its field. -/
def start (chain : Chain σ) (current : σ → String → Value) (value : Option Value) :
    Job σ Outcome :=
  .observe fun s => chain.runOn (value.getD (current s chain.field))

end Chain

end FieldRules
