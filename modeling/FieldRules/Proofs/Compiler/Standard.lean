import FieldRules.Proofs.Compiler.Compiles
import FieldRules.Proofs.Registry

namespace FieldRules.Compiler

variable {compiler : Compiler} {field name : String} {message : Option Message} {entry : RuleEntry}
  {rule : Rule} {shape : CheckShape}

/-! With the standard rules a name decides what shape of check an entry compiles to. -/

theorem compileEntry_standard (hstandard : compiler.registry = .standard)
    (hname : (splitRule entry.rule).1 = name)
    (hshape : Registry.standard.find? name = some (.check shape)) :
    compiler.compileEntry field message entry =
      (shape.compile compiler.scope (useOf field message entry)).map (.check name) := by
  subst hname
  have hcustom := (Registry.standard_unmarked hshape).1
  rw [← hstandard] at hshape
  exact compileEntry_check hcustom hshape

theorem Compiles.exists_check_of_standard (hrule : Compiles compiler field message entry rule)
    (hstandard : compiler.registry = .standard)
    (hshape : Registry.standard.find? rule.name = some (.check shape)) :
    ∃ check, shape.compile compiler.scope (useOf field message entry) = .ok check ∧
      rule = .check rule.name check := by
  have hcustom := (Registry.standard_unmarked hshape).1
  rw [← hstandard] at hshape
  exact exists_check_of_compiles hrule hcustom hshape

end FieldRules.Compiler
