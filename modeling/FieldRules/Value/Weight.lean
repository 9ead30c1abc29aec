import FieldRules.Value.Basic

namespace FieldRules.Value

mutual

/-- The size of a value as a text, roughly: it bounds the length of every text in the value. -/
def weight : Value → Nat
  | .string s => s.toList.length + 1
  | .array items => weightItems items + 1
  | .object entries => weightEntries entries + 1
  | _ => 1

def weightItems : List Value → Nat
  | [] => 0
  | item :: items => weight item + weightItems items

def weightEntries : List (String × Value) → Nat
  | [] => 0
  | (key, item) :: entries => key.toList.length + 1 + weight item + weightEntries entries

end

theorem weight_le_weightItems {item : Value} {items : List Value} (hmem : item ∈ items) :
    item.weight ≤ weightItems items := by
  induction items with
  | nil => simp at hmem
  | cons head tail ih =>
    simp only [weightItems]
    cases hmem with
    | head => omega
    | tail _ htail =>
      have hle := ih htail
      omega

theorem weight_le_weightEntries {key : String} {item : Value} {entries : List (String × Value)}
    (hmem : (key, item) ∈ entries) :
    key.toList.length + 1 + item.weight ≤ weightEntries entries := by
  induction entries with
  | nil => simp at hmem
  | cons head tail ih =>
    obtain ⟨headKey, headItem⟩ := head
    simp only [weightEntries]
    cases hmem with
    | head => omega
    | tail _ htail =>
      have hle := ih htail
      omega

theorem mem_of_lookup {key : String} {item : Value} {entries : List (String × Value)}
    (hlookup : entries.lookup key = some item) : (key, item) ∈ entries := by
  obtain ⟨before, after, rfl, _⟩ := List.lookup_eq_some_iff.mp hlookup
  simp

/-- An entry weighs less than the object around it. -/
theorem weight_lt_of_get {v item : Value} {key : String} (hget : v.get? key = some item) :
    item.weight < v.weight := by
  cases v with
  | object entries =>
    have hle := weight_le_weightEntries (mem_of_lookup hget)
    simp only [weight]
    omega
  | _ => simp [get?] at hget

end FieldRules.Value
