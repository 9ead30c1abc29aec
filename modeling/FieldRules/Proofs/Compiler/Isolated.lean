import FieldRules.Proofs.Compiler.Sites
import FieldRules.Proofs.Rule.Isolated

namespace FieldRules

namespace CheckShape

/-- Whether the checks of a shape are isolated. -/
def isolated : CheckShape → Bool
  | siblings _ .ifValid | transform .apply | transform .null => false
  | _ => true

/-- The checks of a shape are isolated if the shape is, whatever parameters they are given. -/
theorem isolated_of_compile {scope : Scope} {use : RuleUse} {shape : CheckShape} {check : Check}
    (hcompile : shape.compile scope use = .ok check) (hshape : shape.isolated) :
    check.isolated := by
  have hmakes := makes_of_compile hcompile
  cases check with
  | siblings check fields wording =>
    obtain ⟨message, rfl⟩ := hmakes
    cases check with
    | ifValid => cases hshape
    | _ => rfl
  | transform t target =>
    obtain ⟨_, rfl | ⟨_, divisor, rfl⟩⟩ := hmakes
    · cases t with
      | apply => cases hshape
      | null => cases hshape
      | _ => rfl
    · rfl
  | _ => rfl

end CheckShape

namespace Rule

mutual

/-- The names of a rule and of the rules nested in it. -/
def names : Rule → List String
  | check name _ => [name]
  | branch name _ _ _ nested => name :: allNames nested

def allNames : List Rule → List String
  | [] => []
  | rule :: rules => rule.names ++ allNames rules

end

mutual

theorem mem_names_of_mem_sites {site : Site} :
    ∀ (rule : Rule) (field : String), site ∈ rule.sites field → site.rule ∈ rule.names
  | check name body, field, hsite => by
    rw [sites, List.mem_singleton] at hsite
    rw [names, List.mem_singleton, hsite]
  | branch name gate own tested nested, field, hsite => by
    rw [sites] at hsite
    rw [names]
    exact .tail _ (mem_allNames_of_mem_allSites nested tested hsite)

theorem mem_allNames_of_mem_allSites {site : Site} :
    ∀ (rules : List Rule) (field : String), site ∈ allSites field rules →
      site.rule ∈ allNames rules
  | [], field, hsite => by
    rw [allSites] at hsite
    cases hsite
  | rule :: rules, field, hsite => by
    rw [allSites, List.mem_append] at hsite
    rw [allNames, List.mem_append]
    exact hsite.imp (mem_names_of_mem_sites rule field) (mem_allNames_of_mem_allSites rules field)

end

end Rule

/-- Three of the standard rules are not isolated. -/
theorem Registry.standard_isolated {name : String} {shape : CheckShape}
    (hshape : standard.find? name = some (.check shape))
    (hname : name ∉ ["if_valid", "apply", "null"]) : shape.isolated := by
  have hall : standard.rules.all fun entry =>
      ["if_valid", "apply", "null"].contains entry.1 ||
        match entry.2 with
        | .check shape => shape.isolated
        | .branch _ => true := by
    decide
  have hentry := List.all_eq_true.mp hall _ (mem_rules_of_find? hshape)
  simpa [hname] using hentry

/-- A configuration without the standard rules that are not isolated has only isolated rules. -/
theorem Validator.isolated_of_names {schema : Schema} {config : Config} {validator : Validator}
    (hcompile : compile .standard schema config = .ok validator)
    (hnames : ∀ entry ∈ validator.fields, ∀ rule ∈ entry.2, ∀ name ∈ rule.names,
      name ∉ ["if_valid", "apply", "null"]) :
    ∀ entry ∈ validator.fields, ∀ rule ∈ entry.2, rule.isolated := by
  intro entry hentry rule hrule
  rw [rule.isolated_iff_sites entry.1]
  intro site hsite
  have hmem : site ∈ validator.sites :=
    List.mem_flatMap.mpr ⟨entry, hentry, Rule.mem_allSites_iff.mpr ⟨rule, hrule, hsite⟩⟩
  have hname := hnames entry hentry rule hrule _ (rule.mem_names_of_mem_sites entry.1 hsite)
  cases makesSite_of_compile hcompile site hmem with
  | custom _ => rfl
  | check hshape hcheck =>
    exact CheckShape.isolated_of_compile hcheck (Registry.standard_isolated hshape hname)

end FieldRules
