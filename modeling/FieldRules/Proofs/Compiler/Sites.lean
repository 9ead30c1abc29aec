import FieldRules.Proofs.Compiler.Shapes
import FieldRules.Proofs.Registry
import FieldRules.Proofs.Rule.Bounded
import FieldRules.Proofs.Validator

namespace FieldRules

/-- What checks of siblings and changes of values owe to the shape that they are made from, and to
    the field that they are made for. -/
def CheckShape.Makes (field : String) (shape : CheckShape) : Check → Prop
  | .siblings check _ _ => ∃ message, shape = .siblings message check
  | .transform t target =>
    target = field ∧ (shape = .transform t ∨ shape = .remainder ∧ ∃ divisor, t = .mod divisor)
  | _ => True

theorem CheckShape.makes_of_compile {scope : Scope} {use : RuleUse} {shape : CheckShape}
    {check : Check} (hcompile : shape.compile scope use = .ok check) :
    shape.Makes use.field check := by
  cases shape with
  | siblings message check =>
    obtain ⟨_, _, _, rfl⟩ := siblings_of_compile hcompile
    exact ⟨message, rfl⟩
  | transform t =>
    simp only [compile, bind_eq_ok_iff] at hcompile
    obtain ⟨_, _, hcheck⟩ := hcompile
    cases hcheck
    exact ⟨rfl, .inl rfl⟩
  | remainder =>
    simp only [compile, bind_eq_ok_iff] at hcompile
    obtain ⟨divisor, _, hcheck⟩ := hcompile
    cases hcheck
    exact ⟨rfl, .inr ⟨rfl, divisor, rfl⟩⟩
  | membership message failWhenListed =>
    obtain ⟨_, rfl⟩ := membership_of_compile hcompile
    trivial
  | foreign message failOnMatch =>
    simp only [compile, bind_eq_ok_iff] at hcompile
    obtain ⟨_, _, _, _, _, _, hcheck⟩ := hcompile
    cases hcheck
    trivial
  | trigger message requiredWhenListed =>
    obtain ⟨_, _, _, _, rfl⟩ := trigger_of_compile hcompile
    trivial
  | itemMatch message failOnMatch =>
    obtain ⟨_, _, _, _, _, rfl⟩ := itemMatch_of_compile hcompile
    trivial
  | date message isInvalid =>
    simp only [compile, bind_eq_ok_iff] at hcompile
    obtain ⟨_, _, _, _, hcheck⟩ := hcompile
    cases hcheck
    trivial
  | _ =>
    simp only [compile, bind_eq_ok_iff] at hcompile
    obtain ⟨_, _, hcheck⟩ := hcompile
    cases hcheck
    trivial

/-- The standard name of a shape whose checks write to the record. -/
def Shape.writerName? : Shape → Option String
  | .check (.transform .apply) => some "apply"
  | .check (.transform .null) => some "null"
  | _ => none

/-- Two of the standard rules write to the record. -/
theorem Registry.standard_writes {name : String} {transform : Transform} {field : String}
    (hshape : standard.find? name = some (.check (.transform transform)))
    (hwrites : (Check.transform transform field).writes) :
    name = "apply" ∧ transform = .apply ∨ name = "null" ∧ transform = .null := by
  have hall : standard.rules.all fun entry => entry.2.writerName?.all (· == entry.1) := by
    decide
  have hentry := List.all_eq_true.mp hall _ (mem_rules_of_find? hshape)
  cases transform with
  | apply =>
    have hname : "apply" = name := beq_iff_eq.mp hentry
    exact .inl ⟨hname.symm, rfl⟩
  | null =>
    have hname : "null" = name := beq_iff_eq.mp hentry
    exact .inr ⟨hname.symm, rfl⟩
  | _ => cases hwrites

namespace Compiler

/-- A check that is compiled for the field that it judges, from what its name stands for. -/
inductive MakesSite (compiler : Compiler) : Site → Prop
  | custom {field name custom : String} {context : CustomContext}
      (hname : customName? name = some custom) :
      MakesSite compiler ⟨field, name, .custom custom context⟩
  | check {use : RuleUse} {shape : CheckShape} {check : Check}
      (hshape : compiler.registry.find? use.rule = some (.check shape))
      (hcheck : shape.compile compiler.scope use = .ok check) :
      MakesSite compiler ⟨use.field, use.rule, check⟩

variable {compiler : Compiler}

mutual

/-- All checks of a rule are compiled for the fields that they judge, wherever they are nested. -/
theorem Compiles.makesSite {field : String} {message : Option Message} {entry : RuleEntry}
    {rule : Rule} (hrule : Compiles compiler field message entry rule) :
    ∀ site ∈ rule.sites field, compiler.MakesSite site := by
  cases hrule with
  | custom hname =>
    rw [customRule, Rule.sites, List.forall_mem_singleton]
    exact .custom hname
  | check _ hshape hcheck =>
    rw [Rule.sites, List.forall_mem_singleton]
    exact .check hshape hcheck
  | branch _ _ _ hnested =>
    rw [Rule.sites]
    exact hnested.makesSite

theorem CompilesAll.makesSite {field : String} {message : Option Message}
    {entries : List RuleEntry} {rules : List Rule}
    (hrules : CompilesAll compiler field message entries rules) :
    ∀ site ∈ Rule.allSites field rules, compiler.MakesSite site := by
  cases hrules with
  | nil => simp [Rule.allSites]
  | cons hrule hrest =>
    rw [Rule.allSites, List.forall_mem_append]
    exact ⟨hrule.makesSite, hrest.makesSite⟩

end

/-- With the standard rules, a check that writes to the record stands under one of two names, and
    writes to the field that it judges. -/
theorem MakesSite.writes {site : Site} (hsite : compiler.MakesSite site)
    (hstandard : compiler.registry = .standard) (hwrites : site.check.writes) :
    site.rule = "apply" ∧ site.check = .transform .apply site.field ∨
      site.rule = "null" ∧ site.check = .transform .null site.field := by
  cases hsite with
  | custom hname => cases hwrites
  | @check use shape check hshape hcheck =>
    rw [hstandard] at hshape
    have hmakes := CheckShape.makes_of_compile hcheck
    cases check with
    | transform t target =>
      obtain ⟨rfl, rfl | ⟨rfl, divisor, rfl⟩⟩ := hmakes
      · rcases Registry.standard_writes hshape hwrites with ⟨hname, rfl⟩ | ⟨hname, rfl⟩
        · exact .inl ⟨hname, rfl⟩
        · exact .inr ⟨hname, rfl⟩
      · cases hwrites
    | _ => cases hwrites

theorem MakesSite.writes_eq_false {site : Site} (hsite : compiler.MakesSite site)
    (hstandard : compiler.registry = .standard)
    (hname : site.rule ≠ "apply" ∧ site.rule ≠ "null") : site.check.writes = false := by
  rw [Bool.eq_false_iff]
  intro hwrites
  rcases hsite.writes hstandard hwrites with ⟨happly, _⟩ | ⟨hnull, _⟩
  · exact hname.1 happly
  · exact hname.2 hnull

/-- A check under the name of a change of values makes this change, for the field that it judges. -/
theorem MakesSite.check_eq_transform {site : Site} (hsite : compiler.MakesSite site)
    (hcustom : customName? site.rule = none) {t : Transform}
    (hshape : compiler.registry.find? site.rule = some (.check (.transform t))) :
    site.check = .transform t site.field := by
  cases hsite with
  | custom hname =>
    rw [hcustom] at hname
    cases hname
  | check hfound hcheck =>
    rw [hfound] at hshape
    cases hshape
    simp only [CheckShape.compile, bind_eq_ok_iff] at hcheck
    obtain ⟨_, _, heq⟩ := hcheck
    cases heq
    rfl

end Compiler

/-- The checks of all rules of a validator. -/
def Validator.sites (validator : Validator) : List Site :=
  validator.fields.flatMap fun (field, rules) => Rule.allSites field rules

theorem Validator.makesSite_of_compile {registry : Registry} {schema : Schema} {config : Config}
    {validator : Validator} (hcompile : compile registry schema config = .ok validator) :
    ∀ site ∈ validator.sites,
      (⟨registry, schema, ⟨config.aliases⟩⟩ : Compiler).MakesSite site := by
  obtain ⟨fields, hfields, rfl⟩ := compile_eq_ok_iff.mp hcompile
  intro site hsite
  obtain ⟨entry, hentry, hsite⟩ := List.mem_flatMap.mp hsite
  obtain ⟨_, _, hcompiled⟩ := exists_of_mapM_ok hfields hentry
  obtain ⟨rules, hrules, heq⟩ := bind_eq_ok_iff.mp hcompiled
  cases heq
  obtain ⟨rule, hrule, hsite⟩ := Rule.mem_allSites_iff.mp hsite
  obtain ⟨_, _, hcompiledRule⟩ := exists_of_mapM_ok hrules hrule
  exact (Compiler.compileEntry_eq_ok_iff.mp hcompiledRule).makesSite site hsite

end FieldRules
