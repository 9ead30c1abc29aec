import FieldRules.Proofs.Value.WellFormed
import FieldRules.Report

namespace FieldRules

/-- Where no key appears twice, the entry under a key is the only one with that key. -/
theorem lookup_eq_some_iff_mem {α : Type} {entries : List (String × α)}
    (hdistinct : (entries.map (·.1)).Nodup) {key : String} {value : α} :
    entries.lookup key = some value ↔ (key, value) ∈ entries := by
  induction entries with
  | nil => simp
  | cons entry entries ih =>
    obtain ⟨head, item⟩ := entry
    obtain ⟨hhead, hrest⟩ := List.nodup_cons.mp hdistinct
    rw [List.lookup_cons, List.mem_cons, Prod.mk.injEq]
    by_cases hkey : key = head
    · subst hkey
      have hnot : (key, value) ∉ entries := fun hmem => hhead (List.mem_map.mpr ⟨_, hmem, rfl⟩)
      simp [hnot, eq_comm]
    · have hbeq : (key == head) = false := beq_eq_false_iff_ne.mpr hkey
      simp [hbeq, hkey, ih hrest]

theorem lookup_eq_of_perm {α : Type} {entries entries' : List (String × α)}
    (hdistinct : (entries.map (·.1)).Nodup) (hperm : entries'.Perm entries) (key : String) :
    entries'.lookup key = entries.lookup key := by
  have hdistinct' : (entries'.map (·.1)).Nodup := (hperm.map (·.1)).nodup_iff.mpr hdistinct
  ext value
  rw [lookup_eq_some_iff_mem hdistinct, lookup_eq_some_iff_mem hdistinct', hperm.mem_iff]

/-- Looking up the keys of a longer list one by one gives the values of the entries in order. -/
theorem filterMap_lookup {α : Type} {entries : List (String × α)} {keys : List String}
    (hkeys : (entries.map (·.1)).Sublist keys) (hdistinct : keys.Nodup) :
    keys.filterMap (List.lookup · entries) = entries.map (·.2) := by
  induction keys generalizing entries with
  | nil =>
    obtain rfl := List.map_eq_nil_iff.mp (List.sublist_nil.mp hkeys)
    rfl
  | cons key keys ih =>
    obtain ⟨hkey, hrest⟩ := List.nodup_cons.mp hdistinct
    rcases List.sublist_cons_iff.mp hkeys with hkeys | ⟨rest, hentries, hkeys⟩
    · have hnone : entries.lookup key = none := by
        rw [List.lookup_eq_none_iff]
        intro entry hentry
        have hmem := hkeys.subset (List.mem_map_of_mem hentry)
        exact bne_iff_ne.mpr fun heq => hkey (heq ▸ hmem)
      simp only [List.filterMap_cons, hnone]
      exact ih hkeys hrest
    · obtain ⟨entry, tail, rfl, rfl, rfl⟩ := List.map_eq_cons_iff.mp hentries
      have hself : List.lookup entry.1 (entry :: tail) = some entry.2 := List.lookup_cons_self
      have hothers : keys.filterMap (List.lookup · (entry :: tail)) =
          keys.filterMap (List.lookup · tail) := by
        refine List.filterMap_congr fun other hother => ?_
        have hne : (other == entry.1) = false := beq_eq_false_iff_ne.mpr fun h => hkey (h ▸ hother)
        rw [List.lookup_cons, hne]
      simp only [List.filterMap_cons, hself, hothers, List.map_cons]
      rw [ih hkeys hrest]

namespace Report

variable {outcomes : List Outcome}

theorem mem_ofOutcomes_iff {field : String} {failure : Failure} :
    (field, failure) ∈ (ofOutcomes outcomes).failures ↔
      ∃ outcome ∈ outcomes, outcome.field = field ∧ outcome.failure = some failure := by
  simp only [ofOutcomes, List.mem_filterMap, Option.map_eq_some_iff, Prod.mk.injEq]
  constructor
  · rintro ⟨outcome, houtcome, _, hfailure, rfl, rfl⟩
    exact ⟨outcome, houtcome, rfl, hfailure⟩
  · rintro ⟨outcome, houtcome, rfl, hfailure⟩
    exact ⟨outcome, houtcome, failure, hfailure, rfl, rfl⟩

theorem valid_ofOutcomes_iff :
    (ofOutcomes outcomes).valid = true ↔ ∀ outcome ∈ outcomes, outcome.valid = true := by
  simp [ofOutcomes, valid, Outcome.valid, List.filterMap_eq_nil_iff]

/-- The failing fields come in the order of the outcomes. -/
theorem fields_ofOutcomes_sublist (outcomes : List Outcome) :
    List.Sublist ((ofOutcomes outcomes).failures.map (·.1)) (outcomes.map (·.field)) := by
  induction outcomes with
  | nil => exact .slnil
  | cons outcome outcomes ih =>
    cases hfailure : outcome.failure with
    | none => simpa [ofOutcomes, hfailure] using ih.cons outcome.field
    | some failure => simpa [ofOutcomes, hfailure] using ih.cons_cons outcome.field

variable {report : Report} {fields : List String}

/-- The messages of a report are those of the fields that have failed. -/
theorem messages_eq_filterMap (hfields : (report.failures.map (·.1)).Sublist fields)
    (hdistinct : fields.Nodup) : report.messages = fields.filterMap report.message? := by
  have hfailures := filterMap_lookup hfields hdistinct
  calc report.messages
      = (report.failures.map (·.2)).map (·.message) := (List.map_map ..).symm
    _ = (fields.filterMap (List.lookup · report.failures)).map (·.message) := by rw [hfailures]
    _ = fields.filterMap report.message? := List.map_filterMap ..

theorem length_messages (hfields : (report.failures.map (·.1)).Sublist fields)
    (hdistinct : fields.Nodup) : report.messages.length = fields.countP report.hasFailed := by
  rw [messages_eq_filterMap hfields hdistinct, List.length_filterMap_eq_countP]
  refine List.countP_congr fun field _ => ?_
  rw [message?, hasFailed, Option.isSome_map]

end Report

end FieldRules
