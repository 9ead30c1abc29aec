import FieldRules.Value.Entries
import FieldRules.Value.Weight
import Mathlib.Data.List.Nodup

namespace FieldRules

theorem mem_putEntry_keys {α : Type} {key k : String} {value : α} {entries : List (String × α)} :
    k ∈ (putEntry key value entries).map (·.1) ↔ k = key ∨ k ∈ entries.map (·.1) := by
  induction entries with
  | nil => simp [putEntry]
  | cons entry entries ih =>
    obtain ⟨head, item⟩ := entry
    rw [putEntry]
    split
    · next hhead =>
      subst hhead
      simp
    · rw [List.map_cons, List.mem_cons, ih, List.map_cons, List.mem_cons]
      exact or_left_comm

/-- Setting an entry keeps the keys apart. -/
theorem putEntry_keys_nodup {α : Type} {entries : List (String × α)}
    (hdistinct : (entries.map (·.1)).Nodup) (key : String) (value : α) :
    ((putEntry key value entries).map (·.1)).Nodup := by
  induction entries with
  | nil => simp [putEntry]
  | cons entry entries ih =>
    obtain ⟨head, item⟩ := entry
    obtain ⟨hhead, hrest⟩ := List.nodup_cons.mp hdistinct
    rw [putEntry]
    split
    · exact hdistinct
    · next hne =>
      refine List.nodup_cons.mpr ⟨?_, ih hrest⟩
      rw [mem_putEntry_keys]
      exact not_or.mpr ⟨hne, hhead⟩

namespace Value

mutual

/-- No object in the value has a key twice. -/
def WellFormed : Value → Prop
  | .array items => WellFormedItems items
  | .object entries => (entries.map (·.1)).Nodup ∧ WellFormedEntries entries
  | _ => True

def WellFormedItems : List Value → Prop
  | [] => True
  | item :: items => item.WellFormed ∧ WellFormedItems items

def WellFormedEntries : List (String × Value) → Prop
  | [] => True
  | (_, item) :: entries => item.WellFormed ∧ WellFormedEntries entries

end

theorem wellFormedItems_iff {items : List Value} :
    WellFormedItems items ↔ ∀ item ∈ items, item.WellFormed := by
  induction items with
  | nil => simp [WellFormedItems]
  | cons item items ih => simp [WellFormedItems, ih]

theorem wellFormedEntries_iff {entries : List (String × Value)} :
    WellFormedEntries entries ↔ ∀ entry ∈ entries, entry.2.WellFormed := by
  induction entries with
  | nil => simp [WellFormedEntries]
  | cons entry entries ih =>
    obtain ⟨key, item⟩ := entry
    simp only [WellFormedEntries, ih, List.forall_mem_cons]

end Value

end FieldRules
