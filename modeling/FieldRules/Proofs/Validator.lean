import FieldRules.Proofs.Config.Made
import FieldRules.Validator

namespace FieldRules

/-- Failures are noted beside the record. -/
theorem RunState.record_noteOutcome (outcome : Outcome) (s : RunState) :
    (s.noteOutcome outcome).record = s.record := by
  unfold noteOutcome noteFailure
  split
  · rfl
  · split <;> rfl

namespace Validator

variable {registry : Registry} {schema : Schema} {config : Config} {validator : Validator}

/-- A configuration compiles to the rules that its fields compile to one by one. -/
theorem compile_eq_ok_iff :
    compile registry schema config = .ok validator ↔
      ∃ fields,
        config.rules.mapM (fun entry => do
          let rules ← Compiler.compile ⟨registry, schema, ⟨config.aliases⟩⟩ entry.2 entry.1
            (config.messages.lookup entry.1)
          Except.ok (entry.1, rules)) = Except.ok fields ∧
        validator = ⟨schema, fields, config.required⟩ := by
  unfold compile
  rw [bind_eq_ok_iff]
  simp only [Except.ok.injEq, eq_comm]

/-- The fields of a validator are those of its configuration, in the order of their declaration. -/
theorem fields_of_compile (hcompile : compile registry schema config = .ok validator) :
    validator.fields.map (·.1) = config.rules.map (·.1) := by
  obtain ⟨fields, hfields, rfl⟩ := compile_eq_ok_iff.mp hcompile
  refine map_eq_of_mapM_ok (fun entry compiled hentry => ?_) hfields
  obtain ⟨rules, _, hcompiled⟩ := bind_eq_ok_iff.mp hentry
  cases hcompiled
  rfl

theorem fields_nodup_of_compile (hmade : config.Made)
    (hcompile : compile registry schema config = .ok validator) :
    (validator.fields.map (·.1)).Nodup := by
  rw [fields_of_compile hcompile]
  exact hmade.fields_nodup

end Validator

end FieldRules
