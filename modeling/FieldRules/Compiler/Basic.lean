import FieldRules.Compiler.Check
import FieldRules.Compiler.Nested
import FieldRules.Registry
import FieldRules.Rule.Basic

namespace FieldRules

/-- Turns specifications into rules: which rules there are, for which records, and the display names
    of their fields. -/
structure Compiler where
  registry : Registry
  schema : Schema
  aliases : Aliases

namespace Compiler

def scope (compiler : Compiler) : Scope :=
  ⟨compiler.schema, compiler.aliases, compiler.registry.readers⟩

/-- The name in a rule, and the parameters after its first colon. -/
def splitRule (rule : String) : String × Option String :=
  match Text.splitOnce ':' rule with
  | some (name, suffix) => (name, some suffix)
  | none => (rule, none)

/-- The parameters of an entry. Those in the rule itself hide the input. -/
def entryParams (entry : RuleEntry) : Params :=
  match (splitRule entry.rule).2 with
  | some suffix => .text suffix
  | none => entry.input

theorem weight_entryParams_le (entry : RuleEntry) :
    (entryParams entry).weight ≤ entry.weight := by
  unfold entryParams splitRule
  cases hsplit : Text.splitOnce ':' entry.rule with
  | none => simp [RuleEntry.weight]
  | some split =>
    obtain ⟨name, suffix⟩ := split
    have hlt := Text.length_lt_of_splitOnce hsplit
    simp only [Params.weight, RuleEntry.weight]
    omega

/-- A dollar sign marks the rules that the record brings along. -/
def customName? (name : String) : Option String :=
  match name.toList with
  | '$' :: rest => some (String.ofList rest)
  | _ => none

/-- The link for a rule that the record brings along. Whether there is such a rule, only the run
    will tell. -/
def customRule (compiler : Compiler) (name custom field : String) (message : Option Message) :
    Rule :=
  .check name (.custom custom ⟨field, compiler.aliases.get field, message.bind Message.text?⟩)

/-- The field that a branch tests, and its nested rules, or the first error in its parameters. -/
def branchSpec (compiler : Compiler) (use : RuleUse) : Except ConfigError (String × RuleSpec) := do
  use.requireParams "a validation rule argument"
  let (tested, spec) ← use.params.nestedSpec use.rule use.field
  use.requireField compiler.scope tested
  let spec ← RuleUse.orError spec (.missingRules use.rule)
  if spec.entries.isEmpty then .error (.missingRules use.rule) else .ok (tested, spec)

theorem weight_lt_of_branchSpec {compiler : Compiler} {use : RuleUse} {tested : String}
    {spec : RuleSpec} {entry : RuleEntry} (hbranch : compiler.branchSpec use = .ok (tested, spec))
    (hmem : entry ∈ spec.entries) : entry.weight < use.params.weight := by
  unfold branchSpec at hbranch
  simp only [bind, Except.bind] at hbranch
  split at hbranch
  · cases hbranch
  · split at hbranch
    · cases hbranch
    · next nested hnested =>
      obtain ⟨field, found⟩ := nested
      cases found with
      | none =>
        simp only [RuleUse.orError] at hbranch
        split at hbranch <;> cases hbranch
      | some found =>
        simp only [RuleUse.orError] at hbranch
        split at hbranch
        · cases hbranch
        · split at hbranch
          · cases hbranch
          · cases hbranch
            exact Params.weight_lt_of_nestedSpec hnested hmem

/-- The rule of an entry, or the first error in it. The nested rules of a branch are compiled for
    the field that it tests, and they have no messages but their own. -/
def compileEntry (compiler : Compiler) (field : String) (message : Option Message)
    (entry : RuleEntry) : Except ConfigError Rule :=
  let name := (splitRule entry.rule).1
  let message := entry.message.or message
  match customName? name with
  | some custom => .ok (compiler.customRule name custom field message)
  | none =>
    let use : RuleUse := ⟨name, field, entryParams entry, message⟩
    match compiler.registry.find? name with
    | none => .error (.unknownRule name)
    | some (.check shape) => (shape.compile compiler.scope use).map (.check name)
    | some (.branch gate) =>
      match hbranch : compiler.branchSpec use with
      | .error e => .error e
      | .ok (tested, spec) =>
        let compileNested (nested : { e // e ∈ spec.entries }) : Except ConfigError Rule :=
          have : nested.1.weight < entry.weight :=
            Nat.lt_of_lt_of_le (weight_lt_of_branchSpec hbranch nested.2)
              (weight_entryParams_le entry)
          compileEntry compiler tested none nested.1
        (spec.entries.attach.mapM compileNested).map (.branch name gate field tested)
termination_by entry.weight

/-- The rules of a field in order, or the first error in them. The message is for every rule without
    one of its own. -/
def compile (compiler : Compiler) (spec : RuleSpec) (field : String) (message : Option Message) :
    Except ConfigError (List Rule) :=
  spec.entries.mapM (compiler.compileEntry field message)

end Compiler

end FieldRules
