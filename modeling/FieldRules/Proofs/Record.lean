import FieldRules.Record

namespace FieldRules

section

variable {α : Type} {key : String} {value : α} {entries : List (String × α)}

theorem lookup_putEntry_of_ne {other : String} (hne : other ≠ key) :
    (putEntry key value entries).lookup other = entries.lookup other := by
  induction entries with
  | nil =>
    have hbeq : (other == key) = false := beq_eq_false_iff_ne.mpr hne
    simp only [putEntry, List.lookup_cons, hbeq]
  | cons entry entries ih =>
    obtain ⟨head, item⟩ := entry
    rw [putEntry]
    by_cases hhead : head = key
    · have hbeq : (other == head) = false := beq_eq_false_iff_ne.mpr (hhead ▸ hne)
      rw [if_pos hhead, List.lookup_cons, List.lookup_cons, hbeq]
    · rw [if_neg hhead, List.lookup_cons, List.lookup_cons, ih]

theorem lookup_putEntry_self (key : String) (value : α) (entries : List (String × α)) :
    (putEntry key value entries).lookup key = some value := by
  induction entries with
  | nil => simp [putEntry]
  | cons entry entries ih =>
    obtain ⟨head, item⟩ := entry
    rw [putEntry]
    by_cases hhead : head = key
    · rw [if_pos hhead, hhead, List.lookup_cons_self]
    · have hbeq : (key == head) = false := beq_eq_false_iff_ne.mpr (Ne.symm hhead)
      rw [if_neg hhead, List.lookup_cons, hbeq]
      exact ih

/-- Setting an entry keeps the keys in their order, and appends a key that is new. -/
theorem keys_putEntry (key : String) (value : α) (entries : List (String × α)) :
    (putEntry key value entries).map (·.1) =
      if key ∈ entries.map (·.1) then entries.map (·.1) else entries.map (·.1) ++ [key] := by
  induction entries with
  | nil => rfl
  | cons entry entries ih =>
    obtain ⟨head, item⟩ := entry
    rw [putEntry]
    by_cases hhead : head = key
    · simp [hhead]
    · rw [if_neg hhead, List.map_cons, ih]
      by_cases hkey : key ∈ entries.map (·.1)
      · simp [hkey]
      · simp [hkey, Ne.symm hhead]

end

namespace Record

def keys (record : Record) : List String := record.entries.map (·.1)

/-- The value of a field, if it was ever set. -/
def get? (record : Record) (field : String) : Option Value := record.entries.lookup field

theorem get?_set_of_ne {field other : String} (hne : other ≠ field) (record : Record)
    (value : Value) : (record.set field value).get? other = record.get? other :=
  lookup_putEntry_of_ne hne

/-- A value has been written to one field of a record, and to no other. -/
structure Written (before : Record) (field : String) (value : Value) (after : Record) : Prop where
  own : after.get? field = some value
  others : ∀ other, other ≠ field → after.get? other = before.get? other
  /-- A field that was there keeps its place, and a new one comes last. -/
  keys : after.keys = if field ∈ before.keys then before.keys else before.keys ++ [field]

theorem written_set (record : Record) (field : String) (value : Value) :
    record.Written field value (record.set field value) where
  own := lookup_putEntry_self field value record.entries
  others _ hne := get?_set_of_ne hne record value
  keys := keys_putEntry field value record.entries

end Record

end FieldRules
