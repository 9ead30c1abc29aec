import FieldRules.Compiler.Basic
import FieldRules.Rule.Standard

namespace FieldRules

namespace Registry

/-- One thing that a host may do to a registry. -/
inductive Change where
  | register (name : String) (shape : Shape)
  | addReader (reader : Calendar.ExpressionReader)

/-- The registry after a change, or the error that refuses the change. -/
def attempt (registry : Registry) : Change → Except ConfigError Registry
  | .register name shape => registry.register name shape
  | .addReader reader => .ok (registry.addReader reader)

/-- A refused change leaves the registry as it was. -/
def perform (registry : Registry) (change : Change) : Registry :=
  match registry.attempt change with
  | .ok changed => changed
  | .error _ => registry

def performAll (registry : Registry) (changes : List Change) : Registry :=
  changes.foldl perform registry

/-- All rules of the first registry stand in the second under the same names, and its readers are
    tried before all others there. -/
structure Extends (registry extended : Registry) : Prop where
  find?_eq : ∀ {name shape}, registry.find? name = some shape → extended.find? name = some shape
  readers : registry.readers <+: extended.readers

variable {registry : Registry} {name : String} {shape : Shape}

theorem mem_rules_of_find? (hshape : registry.find? name = some shape) :
    (name, shape) ∈ registry.rules := by
  obtain ⟨before, after, hrules, _⟩ := List.lookup_eq_some_iff.mp hshape
  rw [hrules]
  exact List.mem_append_right before List.mem_cons_self

/-- The name of a standard rule neither stands for a rule of the record nor holds parameters. -/
theorem standard_unmarked (hshape : standard.find? name = some shape) :
    Compiler.customName? name = none ∧ ':' ∉ name.toList := by
  have hall : standard.rules.all fun entry =>
      (Compiler.customName? entry.1).isNone && !(entry.1.toList.contains ':') := by
    decide
  have hentry := List.all_eq_true.mp hall _ (mem_rules_of_find? hshape)
  simpa using hentry

/-- Registering a rule is refused just when there is a rule of this name. -/
theorem register_eq_error_iff {e : ConfigError} :
    registry.register name shape = .error e ↔
      registry.contains name = true ∧ e = .duplicateRule name := by
  unfold register
  cases registry.contains name with
  | true => simp [eq_comm]
  | false => simp

theorem perform_of_refused {change : Change} {e : ConfigError}
    (hrefused : registry.attempt change = .error e) : registry.perform change = registry := by
  rw [perform, hrefused]

theorem performAll_append (before after : List Change) :
    registry.performAll (before ++ after) = (registry.performAll before).performAll after :=
  List.foldl_append

theorem performAll_cons (change : Change) (changes : List Change) :
    registry.performAll (change :: changes) = (registry.perform change).performAll changes :=
  rfl

/-- A refused change is as good as none, whatever comes before and after it. -/
theorem performAll_of_refused {before after : List Change} {change : Change} {e : ConfigError}
    (hrefused : (registry.performAll before).attempt change = .error e) :
    registry.performAll (before ++ change :: after) = registry.performAll (before ++ after) := by
  rw [performAll_append, performAll_cons, perform_of_refused hrefused, performAll_append]

namespace Extends

variable {extended further : Registry}

theorem refl (registry : Registry) : registry.Extends registry := ⟨id, List.prefix_rfl⟩

theorem trans (hfirst : registry.Extends extended) (hsecond : extended.Extends further) :
    registry.Extends further :=
  ⟨fun hfind => hsecond.find?_eq (hfirst.find?_eq hfind), hfirst.readers.trans hsecond.readers⟩

/-- A new rule stands behind all others, so that none of them is hidden. -/
theorem of_register (hregister : registry.register name shape = .ok extended) :
    registry.Extends extended := by
  unfold register at hregister
  split at hregister
  · cases hregister
  · cases hregister
    refine ⟨fun {other found} hfind => ?_, List.prefix_rfl⟩
    rw [find?] at hfind ⊢
    rw [List.lookup_append, hfind, Option.some_or]

theorem of_perform (registry : Registry) (change : Change) :
    registry.Extends (registry.perform change) := by
  cases hattempt : registry.attempt change with
  | error e =>
    rw [perform_of_refused hattempt]
    exact refl registry
  | ok changed =>
    rw [perform, hattempt]
    cases change with
    | register name shape => exact of_register hattempt
    | addReader reader =>
      cases hattempt
      exact ⟨id, List.prefix_append registry.readers [reader]⟩

theorem of_performAll (registry : Registry) (changes : List Change) :
    registry.Extends (registry.performAll changes) := by
  induction changes generalizing registry with
  | nil => exact refl registry
  | cons change changes ih => exact (of_perform registry change).trans (ih _)

end Extends

end Registry

end FieldRules
