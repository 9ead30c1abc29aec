import FieldRules.Config
import FieldRules.Proofs.MapM
import FieldRules.Proofs.Value.WellFormed

namespace FieldRules.Config

/-- The configurations that can be made: by calls on an empty one, or on one that has been read from
    a value in which no object has a key twice. -/
inductive Made : Config → Prop
  | empty : Made .empty
  | read {v : Value} {config : Config} (hv : v.WellFormed) (hread : ofValue v = .ok config) :
      Made config
  | setRules {config : Config} (hmade : Made config) (field : String) (spec : RuleSpec) :
      Made (config.setRules field spec)
  | setMessage {config : Config} (hmade : Made config) (field : String) (message : Message) :
      Made (config.setMessage field message)
  | setAlias {config : Config} (hmade : Made config) (field name : String) :
      Made (config.setAlias field name)
  | setRequired {config : Config} (hmade : Made config) (required : Bool) :
      Made (config.setRequired required)

theorem wellFormed_of_parts {v : Value} {parts : List (String × Value)} (hv : v.WellFormed)
    (hparts : parts? v = some parts) : ∀ part ∈ parts, part.2.WellFormed := by
  unfold parts? at hparts
  split at hparts
  · next entries =>
    cases hparts
    exact Value.wellFormedEntries_iff.mp hv.2
  · next items =>
    split at hparts
    · cases hparts
      rintro ⟨name, item⟩ hpart
      exact Value.wellFormedItems_iff.mp hv item (List.of_mem_zip hpart).2
    · cases hparts
  · cases hparts

theorem rules_nodup_of_readPart {parts rules : List (String × Value)}
    (hparts : ∀ part ∈ parts, part.2.WellFormed)
    (hread : readPart (parts.lookup "rules") [] Value.object? = .ok rules) :
    (rules.map (·.1)).Nodup := by
  cases hlookup : parts.lookup "rules" with
  | none =>
    rw [hlookup] at hread
    obtain rfl := Except.ok.inj hread
    exact List.nodup_nil
  | some item =>
    have hitem := hparts _ (Value.mem_of_lookup hlookup)
    rw [hlookup] at hread
    cases item with
    | object entries =>
      obtain rfl := Except.ok.inj hread
      exact hitem.1
    | _ => cases hread

theorem readRules_key {entry : String × Value} {read : String × RuleSpec}
    (hread : readRules entry = .ok read) : read.1 = entry.1 := by
  unfold readRules at hread
  split at hread
  · cases hread
    rfl
  · cases hread

/-- The fields of a configuration that has been read are the keys of one object. -/
theorem fields_nodup_of_read {v : Value} {config : Config} (hv : v.WellFormed)
    (hread : ofValue v = .ok config) : (config.rules.map (·.1)).Nodup := by
  unfold ofValue at hread
  cases hparts : parts? v with
  | none =>
    rw [hparts] at hread
    cases hread
  | some parts =>
    simp only [hparts, bind_eq_ok_iff] at hread
    obtain ⟨rules, hrules, messages, _, aliases, _, required, _, specs, hspecs, hconfig⟩ := hread
    obtain rfl := Except.ok.inj hconfig
    rw [map_eq_of_mapM_ok (fun _ _ => readRules_key) hspecs]
    exact rules_nodup_of_readPart (wellFormed_of_parts hv hparts) hrules

/-- No field of a configuration is declared twice. -/
theorem Made.fields_nodup {config : Config} (hmade : config.Made) :
    (config.rules.map (·.1)).Nodup := by
  induction hmade with
  | empty => exact List.nodup_nil
  | read hv hread => exact fields_nodup_of_read hv hread
  | setRules _ field spec ih => exact putEntry_keys_nodup ih field spec
  | setMessage _ _ _ ih => exact ih
  | setAlias _ _ _ ih => exact ih
  | setRequired _ _ ih => exact ih

end FieldRules.Config
