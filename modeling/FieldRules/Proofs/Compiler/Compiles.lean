import FieldRules.Compiler.Basic
import FieldRules.Proofs.MapM

namespace FieldRules

theorem RuleUse.orError_eq_ok_iff {α : Type} {result : Option α} {e : ConfigError} {a : α} :
    orError result e = .ok a ↔ result = some a := by
  cases result with
  | none => simp [orError]
  | some b => simp [orError]

theorem RuleUse.requireField_eq_ok_iff {use : RuleUse} {scope : Scope} {field : String} {u : Unit} :
    use.requireField scope field = .ok u ↔ scope.schema.hasField field = true := by
  unfold requireField
  split
  · next hfield => simp [hfield]
  · next hfield => simp [hfield]

theorem RuleUse.requireParams_eq_ok_iff {use : RuleUse} {expected : String} {u : Unit} :
    use.requireParams expected = .ok u ↔ use.params.isNone = false := by
  unfold requireParams
  cases use.params.isNone <;> simp

namespace Compiler

/-- The use of a rule that an entry makes, where `message` is for entries without one of their own. -/
def useOf (field : String) (message : Option Message) (entry : RuleEntry) : RuleUse :=
  ⟨(splitRule entry.rule).1, field, entryParams entry, entry.message.or message⟩

/-- A branch tests a declared field, and there are rules in it. -/
theorem branchSpec_eq_ok {compiler : Compiler} {use : RuleUse} {tested : String} {spec : RuleSpec}
    (hspec : compiler.branchSpec use = .ok (tested, spec)) :
    compiler.schema.hasField tested = true ∧ spec.entries ≠ [] := by
  simp only [branchSpec, bind_eq_ok_iff] at hspec
  obtain ⟨_, _, ⟨field, found⟩, _, _, hfield, found', _, hspec⟩ := hspec
  split at hspec
  · cases hspec
  · next hsome =>
    cases hspec
    exact ⟨RuleUse.requireField_eq_ok_iff.mp hfield, fun hempty => hsome (by rw [hempty]; rfl)⟩

mutual

/-- An entry compiles to a rule. -/
inductive Compiles (compiler : Compiler) :
    String → Option Message → RuleEntry → Rule → Prop
  | custom {field : String} {message : Option Message} {entry : RuleEntry} {custom : String}
      (hname : customName? (splitRule entry.rule).1 = some custom) :
      Compiles compiler field message entry
        (compiler.customRule (splitRule entry.rule).1 custom field (entry.message.or message))
  | check {field : String} {message : Option Message} {entry : RuleEntry} {shape : CheckShape}
      {check : Check} (hname : customName? (splitRule entry.rule).1 = none)
      (hshape : compiler.registry.find? (splitRule entry.rule).1 = some (.check shape))
      (hcheck : shape.compile compiler.scope (useOf field message entry) = .ok check) :
      Compiles compiler field message entry (.check (splitRule entry.rule).1 check)
  | branch {field : String} {message : Option Message} {entry : RuleEntry} {gate : Branch}
      {tested : String} {spec : RuleSpec} {nested : List Rule}
      (hname : customName? (splitRule entry.rule).1 = none)
      (hgate : compiler.registry.find? (splitRule entry.rule).1 = some (.branch gate))
      (hspec : compiler.branchSpec (useOf field message entry) = .ok (tested, spec))
      (hnested : CompilesAll compiler tested none spec.entries nested) :
      Compiles compiler field message entry
        (.branch (splitRule entry.rule).1 gate field tested nested)

inductive CompilesAll (compiler : Compiler) :
    String → Option Message → List RuleEntry → List Rule → Prop
  | nil {field : String} {message : Option Message} : CompilesAll compiler field message [] []
  | cons {field : String} {message : Option Message} {entry : RuleEntry}
      {entries : List RuleEntry} {rule : Rule} {rules : List Rule}
      (hentry : Compiles compiler field message entry rule)
      (hentries : CompilesAll compiler field message entries rules) :
      CompilesAll compiler field message (entry :: entries) (rule :: rules)

end

variable {compiler : Compiler} {field : String} {message : Option Message} {entry : RuleEntry}
  {rule : Rule}

theorem compileEntry_custom {custom : String}
    (hname : customName? (splitRule entry.rule).1 = some custom) :
    compiler.compileEntry field message entry =
      .ok (compiler.customRule (splitRule entry.rule).1 custom field
        (entry.message.or message)) := by
  rw [compileEntry]
  simp only [hname]

theorem compileEntry_unknown (hname : customName? (splitRule entry.rule).1 = none)
    (hshape : compiler.registry.find? (splitRule entry.rule).1 = none) :
    compiler.compileEntry field message entry =
      .error (.unknownRule (splitRule entry.rule).1) := by
  rw [compileEntry]
  simp only [hname, hshape]

theorem compileEntry_check {shape : CheckShape}
    (hname : customName? (splitRule entry.rule).1 = none)
    (hshape : compiler.registry.find? (splitRule entry.rule).1 = some (.check shape)) :
    compiler.compileEntry field message entry =
      (shape.compile compiler.scope (useOf field message entry)).map
        (.check (splitRule entry.rule).1) := by
  rw [compileEntry]
  simp only [hname, hshape, useOf]

theorem compileEntry_branch {gate : Branch} {tested : String} {spec : RuleSpec}
    (hname : customName? (splitRule entry.rule).1 = none)
    (hgate : compiler.registry.find? (splitRule entry.rule).1 = some (.branch gate))
    (hspec : compiler.branchSpec (useOf field message entry) = .ok (tested, spec)) :
    compiler.compileEntry field message entry =
      (spec.entries.mapM (compiler.compileEntry tested none)).map
        (.branch (splitRule entry.rule).1 gate field tested) := by
  rw [compileEntry]
  simp only [hname, hgate]
  split
  · next hbranch =>
    rw [useOf, hbranch] at hspec
    cases hspec
  · next hbranch =>
    rw [useOf, hbranch] at hspec
    cases hspec
    rw [List.mapM_subtype fun entry hentry => rfl, List.unattach_attach]

theorem compileEntry_branch_error {gate : Branch} {e : ConfigError}
    (hname : customName? (splitRule entry.rule).1 = none)
    (hgate : compiler.registry.find? (splitRule entry.rule).1 = some (.branch gate))
    (hspec : compiler.branchSpec (useOf field message entry) = .error e) :
    compiler.compileEntry field message entry = .error e := by
  rw [compileEntry]
  simp only [hname, hgate]
  split
  · next hbranch =>
    rw [useOf, hbranch] at hspec
    cases hspec
    rfl
  · next hbranch =>
    rw [useOf, hbranch] at hspec
    cases hspec

theorem compilesAll_iff {entries : List RuleEntry} {rules : List Rule} :
    CompilesAll compiler field message entries rules ↔
      List.Forall₂ (Compiles compiler field message) entries rules := by
  induction entries generalizing rules with
  | nil =>
    rw [List.forall₂_nil_left_iff]
    constructor
    · rintro ⟨⟩
      rfl
    · rintro rfl
      exact .nil
  | cons entry entries ih =>
    constructor
    · rintro ⟨⟩
      next hentry hentries => exact .cons hentry (ih.mp hentries)
    · rintro ⟨⟩
      next hentry hentries => exact .cons hentry (ih.mpr hentries)

/-- The rules that entries compile to: by induction on the weight of the entry, as those inside a
    branch weigh less than it. -/
theorem compileEntry_eq_ok_iff :
    compiler.compileEntry field message entry = .ok rule ↔
      Compiles compiler field message entry rule := by
  induction hweight : entry.weight using Nat.strongRecOn generalizing
    field message entry rule with
  | ind weight ih =>
    subst hweight
    have hnested : ∀ {tested spec nested},
        compiler.branchSpec (useOf field message entry) = .ok (tested, spec) →
        (spec.entries.mapM (compiler.compileEntry tested none) = .ok nested ↔
          CompilesAll compiler tested none spec.entries nested) := by
      intro tested spec nested hspec
      rw [mapM_eq_ok_iff, compilesAll_iff]
      refine forall₂_congr fun inner hinner rule => ih inner.weight ?_ rfl
      exact Nat.lt_of_lt_of_le (weight_lt_of_branchSpec hspec hinner) (weight_entryParams_le entry)
    constructor
    · intro hrule
      cases hname : customName? (splitRule entry.rule).1 with
      | some custom =>
        rw [compileEntry_custom hname] at hrule
        cases hrule
        exact .custom hname
      | none =>
        cases hshape : compiler.registry.find? (splitRule entry.rule).1 with
        | none =>
          rw [compileEntry_unknown hname hshape] at hrule
          cases hrule
        | some shape =>
          cases shape with
          | check shape =>
            rw [compileEntry_check hname hshape, map_eq_ok_iff] at hrule
            obtain ⟨check, hcheck, rfl⟩ := hrule
            exact .check hname hshape hcheck
          | branch gate =>
            cases hspec : compiler.branchSpec (useOf field message entry) with
            | error e =>
              rw [compileEntry_branch_error hname hshape hspec] at hrule
              cases hrule
            | ok branch =>
              obtain ⟨tested, spec⟩ := branch
              rw [compileEntry_branch hname hshape hspec, map_eq_ok_iff] at hrule
              obtain ⟨nested, hnestedRules, rfl⟩ := hrule
              exact .branch hname hshape hspec ((hnested hspec).mp hnestedRules)
    · intro hrule
      cases hrule with
      | custom hname => exact compileEntry_custom hname
      | check hname hshape hcheck =>
        rw [compileEntry_check hname hshape, hcheck]
        rfl
      | branch hname hgate hspec hall =>
        rw [compileEntry_branch hname hgate hspec, (hnested hspec).mpr hall]
        rfl

/-- A rule under the name of a shape has a check of this shape. -/
theorem exists_check_of_compiles (hrule : Compiles compiler field message entry rule)
    (hcustom : customName? rule.name = none) {shape : CheckShape}
    (hshape : compiler.registry.find? rule.name = some (.check shape)) :
    ∃ check, shape.compile compiler.scope (useOf field message entry) = .ok check ∧
      rule = .check rule.name check := by
  cases hrule with
  | custom hname =>
    rw [customRule, Rule.name, hname] at hcustom
    cases hcustom
  | check _ hfound hcheck =>
    rw [Rule.name, hfound] at hshape
    cases hshape
    exact ⟨_, hcheck, rfl⟩
  | branch _ hgate =>
    rw [Rule.name, hgate] at hshape
    cases hshape

end Compiler

end FieldRules
