import FieldRules.Proofs.Binary64.Remainder
import FieldRules.Proofs.Compiler.Rewrites
import FieldRules.Proofs.Rule.Finding
import FieldRules.Proofs.Text.Numeral

namespace FieldRules

namespace Transform

variable {divisor n : Binary64} {value : Value}

theorem replacement?_mod (divisor : Binary64) (hn : value.leadingNumber? = some n) :
    (mod divisor).replacement? value = some (.ofBinary64? (n.remainder? divisor)) := by
  rw [replacement?, hn, Option.map_some]

/-- What is left of a number that is divided by another one than zero. -/
theorem exists_find_mod (hn : value.leadingNumber? = some n) (hdivisor : divisor.units ≠ 0) :
    ∃ r : Number, (mod divisor).find value = .replace (.number r) ∧
      r.units = n.units.tmod divisor.units := by
  obtain ⟨z, hz, hunits⟩ := Binary64.exists_remainder?_eq n hdivisor
  refine ⟨.ofBinary64 z, find_eq_replace_iff.mpr ?_, (Number.units_ofBinary64 z).trans hunits⟩
  rw [replacement?_mod divisor hn, hz]
  rfl

theorem find_mod_of_zero (hn : value.leadingNumber? = some n) (hdivisor : divisor.units = 0) :
    (mod divisor).find value = .replace .null := by
  rw [find_eq_replace_iff, replacement?_mod divisor hn, Binary64.remainder?_of_zero n hdivisor]
  rfl

theorem find_mod_of_none (divisor : Binary64) (hnone : value.leadingNumber? = none) :
    (mod divisor).find value = .valid := by
  rw [find_eq_valid_iff, replacement?, hnone, Option.map_none]

end Transform

/-- A number that is binary64 is read as it is. -/
theorem Value.units_leadingNumber? {m : Number} {n : Binary64}
    (hread : (Value.number m).leadingNumber? = some n) (hm : m.IsBinary64) :
    n.units = m.units := by
  cases hread
  exact hm.units_toBinary64

namespace Compiler

variable {compiler : Compiler} {field : String} {message : Option Message} {entry : RuleEntry}

theorem compileEntry_mod_eq (hstandard : compiler.registry = .standard)
    (hname : (splitRule entry.rule).1 = "mod") :
    compiler.compileEntry field message entry =
      (RuleUse.orError (entryParams entry).divisor?
        (.invalidNumber "mod" (entryParams entry).describe)).map
          fun divisor => .check "mod" (.transform (.mod divisor) field) := by
  have hshape : Registry.standard.find? "mod" = some (.check .remainder) := rfl
  rw [compileEntry_standard hstandard hname hshape, CheckShape.compile, useOf, hname]
  cases (entryParams entry).divisor? <;> rfl

/-- `mod` takes whatever begins with a number as its divisor, zero too. Of what it reads as a number
    it leaves the remainder of the division toward zero, which is exact: it is smaller than the
    divisor, has the sign of the number unless it is zero, and differs from the number by a multiple
    of the divisor. By zero there is no remainder, and null is left. -/
theorem compileEntry_mod (hstandard : compiler.registry = .standard)
    (hname : (splitRule entry.rule).1 = "mod") :
    ((entryParams entry).divisor? = none →
      compiler.compileEntry field message entry =
        .error (.invalidNumber "mod" (entryParams entry).describe)) ∧
    ∀ divisor, (entryParams entry).divisor? = some divisor →
      ∃ rule, compiler.compileEntry field message entry = .ok rule ∧
        ∀ (env : Environment) (s : RunState) (value : Value),
          (∀ n, value.leadingNumber? = some n →
            (∀ m : Number, value = .number m → m.IsBinary64 → n.units = m.units) ∧
            (divisor.units ≠ 0 → ∃ r : Number,
              rule.judge env field value s = some ⟨field, .number r, true, none, .ended⟩ ∧
              r.units.natAbs < divisor.units.natAbs ∧
              (r.units = 0 ∨ r.units.sign = n.units.sign) ∧
              divisor.units ∣ n.units - r.units) ∧
            (divisor.units = 0 →
              rule.judge env field value s = some ⟨field, .null, true, none, .ended⟩)) ∧
          (value.leadingNumber? = none →
            rule.judge env field value s = some ⟨field, value, false, none, .ended⟩) := by
  rw [compileEntry_mod_eq hstandard hname]
  refine ⟨fun hnone => by rw [hnone]; rfl, fun divisor hdivisor => ?_⟩
  rw [hdivisor]
  refine ⟨_, rfl, fun env s value => ?_⟩
  have hrule : (Rule.check "mod" (.transform (.mod divisor) field)).Finds env field
      (Transform.mod divisor).find s := Rule.finds_transform fun _ => rfl
  refine ⟨fun n hn => ⟨?_, fun hnonzero => ?_, fun hzero => ?_⟩, fun hnone => ?_⟩
  · rintro m rfl hm
    exact Value.units_leadingNumber? hn hm
  · obtain ⟨r, hfind, hr⟩ := Transform.exists_find_mod hn hnonzero
    refine ⟨r, (hrule.rewrites hfind).judge, ?_, ?_, ?_⟩
    · rw [hr, Int.natAbs_tmod]
      exact Nat.mod_lt _ (Int.natAbs_pos.mpr hnonzero)
    · rw [hr, Int.sign_tmod, ← Int.sign_eq_zero_iff_zero, Int.sign_tmod]
      split <;> simp
    · rw [hr]
      exact Int.dvd_self_sub_tmod
  · exact (hrule.rewrites (Transform.find_mod_of_zero hn hzero)).judge
  · exact hrule.judge_of_valid (Transform.find_mod_of_none divisor hnone)

theorem compileEntry_mod_three :
    let env : Environment := .empty
    let s : RunState := .ofRecord .empty
    let divisor : Binary64 := .ofInt 3
    let rule : Rule := .check "mod" (.transform (.mod divisor) "name")
    forNames.compileEntry "name" none (.ofName "mod:3") = .ok rule ∧
      ∃ r : Number, rule.judge env "name" (.string "-7kg") s =
          some ⟨"name", .number r, true, none, .ended⟩ ∧
        r = .integer (-1) ∧ divisor.units ∣ (Binary64.ofInt (-7)).units - r.units := by
  intro env s divisor rule
  have hstandard : forNames.registry = .standard := rfl
  have hname : (splitRule (RuleEntry.ofName "mod:3").rule).1 = "mod" := by rfl
  have hdivisor : (entryParams (.ofName "mod:3")).divisor? = some divisor := by decide +kernel
  have hread : (Value.string "-7kg").leadingNumber? = some (.ofInt (-7)) := by decide +kernel
  have hnonzero : divisor.units ≠ 0 := by decide +kernel
  have hrule : forNames.compileEntry "name" none (.ofName "mod:3") = .ok rule := by
    rw [compileEntry_mod_eq hstandard hname, hdivisor]
    rfl
  obtain ⟨_, hcompile, hruns⟩ :
      ∃ rule, forNames.compileEntry "name" none (.ofName "mod:3") = .ok rule ∧ _ :=
    (compileEntry_mod hstandard hname).2 divisor hdivisor
  cases hrule.symm.trans hcompile
  obtain ⟨-, hleft, -⟩ := (hruns env s (.string "-7kg")).1 _ hread
  obtain ⟨r, hjudge, -, -, hmultiple⟩ := hleft hnonzero
  have hremainder : (Binary64.ofInt (-7)).remainder? divisor = some (.ofInt (-1)) := by
    decide +kernel
  have hwhole : Number.ofBinary64 (.ofInt (-1)) = .integer (-1) := by decide +kernel
  have hfind : (Transform.mod divisor).find (.string "-7kg") = .replace (.int (-1)) := by
    rw [Transform.find_eq_replace_iff, Transform.replacement?_mod divisor hread, hremainder,
      Value.ofBinary64?, Value.ofBinary64, hwhole, Value.int]
  have hvalue := ((Rule.finds_transform fun _ => rfl).rewrites hfind :
    rule.Rewrites env "name" _ _ s).judge
  cases hvalue.symm.trans hjudge
  exact ⟨hrule, _, hjudge, rfl, hmultiple⟩

/-- Zero is taken as a divisor like any other number, and then no number is left. -/
theorem mod_zero_leaves_null :
    let env : Environment := .empty
    let s : RunState := .ofRecord .empty
    let rule : Rule := .check "mod" (.transform (.mod .zero) "name")
    forNames.compileEntry "name" none (.ofName "mod:0") = .ok rule ∧
      rule.judge env "name" (.int 7) s = some ⟨"name", .null, true, none, .ended⟩ := by
  intro env s rule
  refine ⟨?_, by rfl⟩
  have hdivisor : (entryParams (.ofName "mod:0")).divisor? = some .zero := by decide +kernel
  rw [compileEntry_mod_eq rfl (by rfl), hdivisor]
  rfl

end Compiler

end FieldRules
