import FieldRules.Job
import FieldRules.Record
import FieldRules.Value.Text

namespace FieldRules

/-- What a custom rule is told about the field it judges. -/
structure CustomContext where
  field : String
  fieldAlias : String
  message : Option String

/-- The decision of a custom rule, which may take time. -/
inductive CustomDecision where
  | valid
  | invalid (message : String)
  | deferred (delay : Nat) (decision : CustomDecision)
deriving Inhabited

/-- A rule that a record brings along. -/
abbrev CustomRule := Value → CustomContext → CustomDecision

namespace CustomRule

def accept : CustomRule := fun _ _ => .valid

def reject (message : String) : CustomRule := fun _ _ => .invalid message

/-- Accepts the values equal to a given one. -/
def equals (expected : Value) : CustomRule := fun value context =>
  if value.equal expected then .valid else .invalid (context.fieldAlias ++ " is wrong")

/-- Rejects every value with a message that shows what the rule is told. -/
def showContext : CustomRule := fun value context =>
  .invalid <| "|".intercalate
    [context.field, context.fieldAlias, context.message.getD "-", value.display]

/-- Decides as another rule does, but later. -/
def after (delay : Nat) (rule : CustomRule) : CustomRule := fun value context =>
  .deferred delay (rule value context)

end CustomRule

/-- How the source of collections behaves when a model is looked up. -/
inductive LookupBehavior where
  /-- It never answers. -/
  | pending
  /-- It answers after some milliseconds, with an error or with the collection. -/
  | answers (delay : Nat) (fails : Bool)

/-- A query for the members of a model, by the link that makes it. Links alike in all of this, as a
    rule that is written twice, are told the same in a run. -/
structure Query where
  /-- The branches in which the link is nested, from the outside: their fields and rules. -/
  within : List (String × String)
  field : String
  rule : String
  model : String
  /-- The field of the members that the value is compared with. -/
  matchField : String

/-- What comes of a query. -/
inductive Reply where
  | pending
  /-- An answer after some milliseconds: the members, or none if there is an error. -/
  | answers (delay : Nat) (members : Option (List Instance))

/-- What surrounds a run and stays as it is meanwhile. -/
structure Environment where
  /-- The time on the clock. -/
  now : Int
  /-- The members of each model. -/
  collections : List (String × List Instance)
  lookups : List (String × LookupBehavior)
  customRules : List (String × CustomRule)
  /-- Whether the record takes part as a plain holder of its fields: it then brings no custom rules
      along, is told nothing about runs, and is not the instance that collections may contain. -/
  bare : Bool
  /-- The models that are known without any members. -/
  vacant : List String := []
  /-- What comes of single queries, where it is not the same for all queries of a model. -/
  replies : Query → Option Reply := fun _ => none

/-- The state that the chains of a run share. -/
structure RunState where
  record : Record
  /-- The fields that have ended invalid, with their messages. -/
  failures : List (String × String)
  /-- The models looked up so far, in order. -/
  asked : List String

namespace RunState

/-- The state at the start of a run. -/
def ofRecord (record : Record) : RunState := ⟨record, [], []⟩

def hasFailed (s : RunState) (field : String) : Bool := s.failures.any (·.1 == field)

/-- Notes that a field has ended invalid. The first message stays. -/
def noteFailure (field message : String) (s : RunState) : RunState :=
  if s.hasFailed field then s else { s with failures := s.failures ++ [(field, message)] }

def setField (field : String) (value : Value) (s : RunState) : RunState :=
  { s with record := s.record.set field value }

def noteLookup (model : String) (s : RunState) : RunState := { s with asked := s.asked ++ [model] }

end RunState

namespace Environment

/-- Surroundings that hold nothing, at the time 0. -/
def empty : Environment where
  now := 0
  collections := []
  lookups := []
  customRules := []
  bare := false

/-- The members of a model, if it is known. -/
def collection? (env : Environment) (model : String) : Option (List Instance) :=
  match env.collections.lookup model with
  | none | some [] => if env.vacant.contains model then some [] else none
  | some members => some members

/-- What comes of a query: what is said of this one, or else of all queries of its model. A model that
    is not known has no members to give. -/
def reply (env : Environment) (query : Query) : Reply :=
  match env.replies query with
  | some reply => reply
  | none =>
    match (env.lookups.lookup query.model).getD (.answers 0 false) with
    | .pending => .pending
    | .answers delay fails =>
      .answers delay (if fails then none else env.collection? query.model)

/-- The surroundings of the links that are nested in some branches. -/
def within (env : Environment) (branches : List (String × String)) : Environment :=
  { env with replies := fun query => env.replies { query with within := branches ++ query.within } }

/-- Looks a model up. There is no collection if the query fails, or takes longer than allowed. -/
def lookup (env : Environment) (timeout : Option Nat) (query : Query) :
    Job RunState (Option (List Instance)) :=
  .modify (RunState.noteLookup query.model) <|
    match env.reply query, timeout with
    | .pending, none => .never
    | .pending, some limit => .pause limit (.done none)
    | .answers delay members, none => .pause delay (.done members)
    | .answers delay members, some limit =>
      if delay ≤ limit then .pause delay (.done members) else .pause limit (.done none)

/-- The decision of a custom rule. A rule that the record does not have rejects every value. -/
def decideCustom (env : Environment) (name : String) (value : Value) (context : CustomContext) :
    CustomDecision :=
  match if env.bare then none else env.customRules.lookup name with
  | some rule => rule value context
  | none => .invalid (context.fieldAlias ++ " has no custom rule " ++ name)

/-- The value that a member of a collection has in a field. -/
def memberValue (s : RunState) (field : String) : Instance → Value
  | .self => s.record.get field
  | .other record => record.get field

/-- Whether a member of a collection is the very record under validation. -/
def isSubject (env : Environment) : Instance → Bool
  | .self => !env.bare
  | .other _ => false

/-- Whether another record in a collection has a value in a field. -/
def hasMatch (env : Environment) (s : RunState) (field : String) (value : Value)
    (members : List Instance) : Bool :=
  members.any fun member => !env.isSubject member && value.equal (memberValue s field member)

end Environment

end FieldRules
