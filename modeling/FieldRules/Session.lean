import FieldRules.Validator

namespace FieldRules

/-- What a record remembers of what it is told. -/
inductive Event where
  | start
  | pass
  | fail
deriving DecidableEq

def Event.name : Event → String
  | start => "start"
  | pass => "pass"
  | fail => "fail"

/-- The memory of a record. -/
structure Memory where
  events : List Event
  /-- The report of the last run that came to an end. -/
  last : Option Report

/-- What a record that listens remembers when it is told something. -/
def Memory.tell (hook : Hook) (memory : Memory) : Memory :=
  match hook with
  | .start => { memory with events := memory.events ++ [.start] }
  | .pass report => ⟨memory.events ++ [.pass], some report⟩
  | .fail report => ⟨memory.events ++ [.fail], some report⟩

/-- Tells a record something, if it listens. -/
def Environment.tell (env : Environment) (hook : Hook) (memory : Memory) : Memory :=
  if env.bare then memory else memory.tell hook

/-- Validates a record: runs the rules of all its fields, and tells it about the run. -/
def Validator.validate (validator : Validator) (env : Environment) :
    Job (RunState × Memory) Report :=
  conduct (fun hook => Prod.map id (env.tell hook))
    ((validator.run env).zoom Prod.fst fun change => Prod.map change id)

/-- A record under validation, with what it and its surroundings remember. -/
structure Session where
  validator : Validator
  env : Environment
  record : Record
  /-- The models looked up so far, in order. -/
  asked : List String
  events : List Event
  /-- The report of the last run that came to an end. -/
  last : Option Report
  /-- The records that were handed on to be saved, in order. -/
  handedOn : List Record

/-- How an attempt to save a record ends. -/
inductive SaveOutcome where
  | saved (record : Record)
  /-- The record is not valid and has not been handed on. -/
  | invalid (report : Report)
  /-- The record has been handed on, and saving it failed. -/
  | failed (reason : String)
  /-- The validation did not come to an end. -/
  | unfinished

def SaveOutcome.message? : SaveOutcome → Option String
  | invalid report =>
    some ("record failed validation with " ++ toString report.messages.length ++ " message(s)")
  | failed reason => some ("save failed: " ++ reason)
  | saved _ | unfinished => none

namespace Session

/-- The milliseconds after which a run that still waits is given up. -/
def patience : Nat := 10000000000

def start (validator : Validator) (env : Environment) (record : Record) : Session :=
  ⟨validator, env, record, [], [], none, []⟩

/-- The state in which the chains of a run start. -/
def atStart (session : Session) : RunState := ⟨session.record, [], session.asked⟩

def memory (session : Session) : Memory := ⟨session.events, session.last⟩

/-- What a session has become when a run has left this state and this memory. -/
def after (session : Session) (s : RunState) (memory : Memory) : Session :=
  { session with record := s.record, asked := s.asked, events := memory.events, last := memory.last }

/-- Validates all fields in a run that may wait for `patience` milliseconds. There is no report if it
    does not come to an end, but what it has changed stays. -/
def validateFor (session : Session) (patience : Nat) : Option Report × Session :=
  let run := (session.validator.validate session.env).run patience (session.atStart, session.memory)
  (run.1, session.after run.2.1 run.2.2)

def validate (session : Session) : Option Report × Session := session.validateFor patience

/-- Runs the rules of one field by themselves. The record is told nothing. -/
def runRulesFor (session : Session) (patience : Nat) (field : String) (rules : List Rule) :
    Option Outcome × Session :=
  let run := (startRules session.env field rules none).run patience session.atStart
  (run.1, session.after run.2 session.memory)

def runRules (session : Session) (field : String) (rules : List Rule) : Option Outcome × Session :=
  session.runRulesFor patience field rules

/-- Hands the record on to be saved, which fails with a reason or succeeds. -/
def handOn (session : Session) (failure : Option String) : SaveOutcome × Session :=
  let outcome :=
    match failure with
    | some reason => .failed reason
    | none => .saved session.record
  (outcome, { session with handedOn := session.handedOn ++ [session.record] })

/-- Saves the record. If only valid records may be saved, it is validated first. -/
def save (session : Session) (failure : Option String) : SaveOutcome × Session :=
  if session.validator.required then
    match session.validate with
    | (none, session) => (.unfinished, session)
    | (some report, session) =>
      if report.valid then session.handOn failure else (.invalid report, session)
  else session.handOn failure

def set (session : Session) (field : String) (value : Value) : Session :=
  { session with record := session.record.set field value }

def clear (session : Session) : Session := { session with record := session.record.clear }

/-- Sets the clock. -/
def setNow (session : Session) (now : Int) : Session :=
  { session with env := { session.env with now := now } }

/-- Adds a member to the collection of a model. -/
def insert (session : Session) (model : String) (member : Instance) : Session :=
  let members := (session.env.collections.lookup model).getD []
  { session with
    env :=
      { session.env with
        collections := putEntry model (members ++ [member]) session.env.collections } }

end Session

end FieldRules
