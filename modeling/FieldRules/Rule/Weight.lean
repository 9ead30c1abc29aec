import FieldRules.Rule.Spec

namespace FieldRules

namespace Params

/-- The size of the parameters as a text, roughly. -/
def weight : Params → Nat
  | text s => s.toList.length
  | value v => v.weight
  | _ => 0

theorem weight_ofValue_le (v : Value) : (ofValue v).weight ≤ v.weight := by
  cases v <;> simp [ofValue, weight, Value.weight]

end Params

namespace RuleEntry

def weight (entry : RuleEntry) : Nat := entry.rule.toList.length + entry.input.weight

theorem weight_le_of_ofConfig {rule : String} {v : Value} {entry : RuleEntry}
    (hread : ofConfig rule v = .ok entry) :
    entry.weight ≤ rule.toList.length + v.weight := by
  unfold ofConfig at hread
  split at hread
  · cases hread
    simp [weight, Params.weight]
  · split at hread
    · cases hread
      have hle := Params.weight_ofValue_le v
      simp only [weight]
      omega
    · split at hread
      · cases hread
      · cases hread
        have hinput := Params.weight_ofValue_le ((v.get? "input").getD .null)
        simp only [weight]
        cases hget : v.get? "input" with
        | none =>
          simp only [hget, Option.getD_none, Params.ofValue, Params.weight] at *
          omega
        | some input =>
          have hlt := Value.weight_lt_of_get hget
          simp only [hget, Option.getD_some] at *
          omega

end RuleEntry

namespace RuleSpec

theorem weight_le_of_mem_splitRules {s rule : String} (hmem : rule ∈ splitRules s) :
    (RuleEntry.ofName rule).weight ≤ s.toList.length := by
  simp only [splitRules, Text.splitEscaped, List.mem_filter, List.mem_map] at hmem
  obtain ⟨⟨token, ⟨part, hpart, rfl⟩, rfl⟩, _⟩ := hmem
  have hpart := Text.length_le_of_mem_splitChars hpart
  have htrim := Text.length_trimChars_le part
  simp only [RuleEntry.weight, RuleEntry.ofName, Params.weight, Text.trim, String.toList_ofList]
  omega

theorem mem_of_mapM_ok {α β ε : Type} {f : α → Except ε β} {xs : List α} {ys : List β} {y : β}
    (hmap : xs.mapM f = .ok ys) (hmem : y ∈ ys) : ∃ x ∈ xs, f x = .ok y := by
  induction xs generalizing ys with
  | nil =>
    simp only [List.mapM_nil, pure, Except.pure, Except.ok.injEq] at hmap
    simp [← hmap] at hmem
  | cons x xs ih =>
    simp only [List.mapM_cons, bind, Except.bind] at hmap
    split at hmap
    · cases hmap
    · next head hhead =>
      split at hmap
      · cases hmap
      · next tail htail =>
        simp only [pure, Except.pure, Except.ok.injEq] at hmap
        subst hmap
        cases hmem with
        | head => exact ⟨x, List.mem_cons_self, hhead⟩
        | tail _ hmem =>
          obtain ⟨x', hx', hfx⟩ := ih htail hmem
          exact ⟨x', List.mem_cons_of_mem _ hx', hfx⟩

/-- Every rule of a specification weighs less than the value that it was read from. -/
theorem weight_lt_of_ofValue {v : Value} {spec : RuleSpec} {entry : RuleEntry}
    (hread : ofValue v = .ok spec) (hmem : entry ∈ spec.entries) : entry.weight < v.weight := by
  unfold ofValue at hread
  split at hread
  · next s =>
    cases hread
    simp only [entries, List.mem_map] at hmem
    obtain ⟨rule, hrule, rfl⟩ := hmem
    have hle := weight_le_of_mem_splitRules hrule
    simp only [Value.weight]
    omega
  · next items =>
    cases hitems : items.mapM ruleOfItem with
    | error e =>
      rw [hitems] at hread
      cases hread
    | ok rules =>
      rw [hitems] at hread
      cases hread
      simp only [entries, List.mem_map] at hmem
      obtain ⟨rule, hrule, rfl⟩ := hmem
      obtain ⟨item, hitem, hread⟩ := mem_of_mapM_ok hitems hrule
      unfold ruleOfItem at hread
      split at hread
      · cases hread
        have hle := Value.weight_le_weightItems hitem
        simp only [Value.weight, RuleEntry.weight, RuleEntry.ofName, Params.weight] at *
        omega
      · cases hread
  · next members =>
    cases hentries : members.mapM fun entry => RuleEntry.ofConfig entry.1 entry.2 with
    | error e =>
      rw [hentries] at hread
      cases hread
    | ok read =>
      rw [hentries] at hread
      cases hread
      obtain ⟨⟨key, item⟩, hitem, hread⟩ := mem_of_mapM_ok hentries hmem
      have hentry := RuleEntry.weight_le_of_ofConfig hread
      have hle := Value.weight_le_weightEntries hitem
      simp only [Value.weight] at *
      omega
  · cases hread

end RuleSpec

end FieldRules
