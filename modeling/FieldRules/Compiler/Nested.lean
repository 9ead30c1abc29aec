import FieldRules.Rule.Weight

namespace FieldRules

namespace Params

/-- The own field if no other is named. -/
def fieldOr (own field : String) : String := if field.toList.isEmpty then own else field

/-- The field that a branch tests, and its rules for it, which may be missing. They are written as
    `field:rules`, as an array of the field and the rules, or as the entries `field` and `rules` of
    an object. -/
def nestedSpec (params : Params) (rule own : String) :
    Except ConfigError (String × Option RuleSpec) :=
  match params with
  | text s =>
    match Text.splitOnce ':' s with
    | Option.none => .error (.invalidParams rule s)
    | some (field, rules) =>
      .ok (fieldOr own field, if rules.toList.isEmpty then Option.none else some (.text rules))
  | value (.array []) => .error (.missingParams rule "a validation rule argument")
  | value (.array (field :: rules)) => do
    let spec ← RuleSpec.ofValue (.array rules)
    .ok (fieldOr own (field.string?.getD ""), if rules.isEmpty then Option.none else some spec)
  | value (.object entries) =>
    let field := fieldOr own (((entries.lookup "field").bind Value.string?).getD "")
    match (Value.object entries).get? "rules" with
    | Option.none | some .null => .ok (field, Option.none)
    | some rules => do
      let spec ← RuleSpec.ofValue rules
      .ok (field, some spec)
  | params => .error (.invalidParams rule params.describe)

/-- The rules inside a branch weigh less than its parameters. -/
theorem weight_lt_of_nestedSpec {params : Params} {rule own field : String} {spec : RuleSpec}
    {entry : RuleEntry} (hnested : params.nestedSpec rule own = .ok (field, some spec))
    (hmem : entry ∈ spec.entries) : entry.weight < params.weight := by
  unfold nestedSpec at hnested
  split at hnested
  · next s =>
    split at hnested
    · cases hnested
    · next before rules hsplit =>
      have hlt := Text.length_lt_of_splitOnce hsplit
      split at hnested
      · cases hnested
      · cases hnested
        simp only [RuleSpec.entries, List.mem_map] at hmem
        obtain ⟨token, htoken, rfl⟩ := hmem
        have hle := RuleSpec.weight_le_of_mem_splitRules htoken
        simp only [weight]
        omega
  · cases hnested
  · next head rules =>
    cases hread : RuleSpec.ofValue (.array rules) with
    | error e =>
      rw [hread] at hnested
      cases hnested
    | ok read =>
      rw [hread] at hnested
      simp only [bind, Except.bind, Except.ok.injEq, Prod.mk.injEq] at hnested
      obtain ⟨_, hspec⟩ := hnested
      split at hspec
      · cases hspec
      · cases hspec
        have hlt := RuleSpec.weight_lt_of_ofValue hread hmem
        simp only [weight, Value.weight, Value.weightItems] at *
        omega
  · next members =>
    split at hnested
    · cases hnested
    · cases hnested
    · next rules _ hget =>
      cases hread : RuleSpec.ofValue rules with
      | error e =>
        rw [hread] at hnested
        cases hnested
      | ok read =>
        rw [hread] at hnested
        simp only [bind, Except.bind, Except.ok.injEq, Prod.mk.injEq, Option.some.injEq] at hnested
        obtain ⟨_, rfl⟩ := hnested
        have hlt := RuleSpec.weight_lt_of_ofValue hread hmem
        have hentry := Value.weight_lt_of_get hget
        simp only [weight]
        omega
  · cases hnested

end Params

end FieldRules
