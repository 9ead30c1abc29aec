import FieldRules.Proofs.Compiler.Compiles
import FieldRules.Proofs.Registry
import FieldRules.Rule.Standard

namespace FieldRules

/-- Whether a larger registry may do without this error: it may have the missing rule, or a reader
    for the expression. -/
def ConfigError.mendable : ConfigError → Bool
  | unknownRule _ | invalidExpression _ _ => true
  | _ => false

/-- A result stays as it is, but for errors that may be mended. -/
inductive Upheld {α : Type} : Except ConfigError α → Except ConfigError α → Prop
  | same (x : Except ConfigError α) : Upheld x x
  | mended {e : ConfigError} (hmendable : e.mendable) (x : Except ConfigError α) :
      Upheld (.error e) x

namespace Upheld

variable {α β : Type} {x x' : Except ConfigError α}

theorem eq_ok (hx : Upheld x x') {a : α} (hok : x = .ok a) : x' = .ok a := by
  cases hx with
  | same => exact hok
  | mended => cases hok

theorem eq_error (hx : Upheld x x') {e : ConfigError} (herror : x = .error e)
    (hfinal : e.mendable = false) : x' = .error e := by
  cases hx with
  | same => exact herror
  | mended hmendable =>
    cases herror
    rw [hfinal] at hmendable
    cases hmendable

theorem bind {f f' : α → Except ConfigError β} (hx : Upheld x x')
    (hf : ∀ a, Upheld (f a) (f' a)) : Upheld (x >>= f) (x' >>= f') := by
  cases hx with
  | same =>
    cases x with
    | error e => exact .same _
    | ok a => exact hf a
  | mended hmendable => exact .mended hmendable _

theorem map {f : α → β} (hx : Upheld x x') : Upheld (x.map f) (x'.map f) := by
  cases hx with
  | same => exact .same _
  | mended hmendable => exact .mended hmendable _

theorem mapM {f f' : β → Except ConfigError α} {xs : List β}
    (hf : ∀ x ∈ xs, Upheld (f x) (f' x)) : Upheld (xs.mapM f) (xs.mapM f') := by
  induction xs with
  | nil => exact .same _
  | cons x xs ih =>
    obtain ⟨hx, hxs⟩ := List.forall_mem_cons.mp hf
    rw [List.mapM_cons, List.mapM_cons]
    exact hx.bind fun _ => (ih hxs).bind fun _ => .same _

end Upheld

/-- Further readers are asked only about the expressions that have none of the forms before. -/
theorem Calendar.ExpressionReader.readFirst?_append (readers more : List ExpressionReader)
    (expr : String) (schema : Schema) :
    readFirst? (readers ++ more) expr schema =
      (readFirst? readers expr schema).bind fun found =>
        match found with
        | some expression => .ok (some expression)
        | none => readFirst? more expr schema := by
  induction readers with
  | nil => rfl
  | cons reader readers ih =>
    rw [List.cons_append, readFirst?, readFirst?]
    cases reader.read? expr schema with
    | error e => rfl
    | ok found =>
      cases found with
      | none => exact ih
      | some expression => rfl

namespace CheckShape

variable {scope : Scope} {more : List Calendar.ExpressionReader}

/-- An expression that has been read keeps its reading, and so does one with an error in it. -/
theorem upheld_readDate (use : RuleUse) :
    Upheld (readDate scope use)
      (readDate { scope with readers := scope.readers ++ more } use) := by
  unfold readDate
  cases use.params with
  | text s =>
    simp only [Calendar.ExpressionReader.readFirst?_append]
    cases Calendar.ExpressionReader.readFirst? scope.readers s scope.schema with
    | error e => exact .same _
    | ok found =>
      cases found with
      | none => exact .mended rfl _
      | some expression => exact .same _
  | _ => exact .same _

/-- Of all checks only those of dates depend on the readers. -/
theorem upheld_compile (use : RuleUse) (shape : CheckShape) :
    Upheld (shape.compile scope use)
      (shape.compile { scope with readers := scope.readers ++ more } use) := by
  cases shape with
  | date message isInvalid =>
    exact (Upheld.same _).bind fun _ => (upheld_readDate use).bind fun _ => .same _
  | _ => exact .same _

end CheckShape

namespace Compiler

variable {compiler : Compiler} {extended : Registry}

/-- A specification keeps its rules when the registry is extended: by induction on the weight of the
    entry, as the specification of a branch does not depend on the registry. -/
theorem upheld_compileEntry (hextends : compiler.registry.Extends extended) (field : String)
    (message : Option Message) (entry : RuleEntry) :
    Upheld (compiler.compileEntry field message entry)
      ({ compiler with registry := extended }.compileEntry field message entry) := by
  induction hweight : entry.weight using Nat.strongRecOn generalizing field message entry with
  | ind weight ih =>
    subst hweight
    cases hname : customName? (splitRule entry.rule).1 with
    | some custom =>
      rw [compileEntry_custom hname, compileEntry_custom hname]
      exact .same _
    | none =>
      cases hshape : compiler.registry.find? (splitRule entry.rule).1 with
      | none =>
        rw [compileEntry_unknown hname hshape]
        exact .mended rfl _
      | some shape =>
        have hshape' := hextends.find?_eq hshape
        cases shape with
        | check shape =>
          rw [compileEntry_check hname hshape, compileEntry_check hname hshape']
          obtain ⟨more, hreaders⟩ := hextends.readers
          have hscope : ({ compiler with registry := extended } : Compiler).scope =
              { compiler.scope with readers := compiler.scope.readers ++ more } := by
            rw [scope, ← hreaders]
            rfl
          rw [hscope]
          exact (CheckShape.upheld_compile _ shape).map
        | branch gate =>
          have hsame : ({ compiler with registry := extended } : Compiler).branchSpec
              (useOf field message entry) = compiler.branchSpec (useOf field message entry) := rfl
          cases hspec : compiler.branchSpec (useOf field message entry) with
          | error e =>
            rw [compileEntry_branch_error hname hshape hspec,
              compileEntry_branch_error hname hshape' (hsame.trans hspec)]
            exact .same _
          | ok branch =>
            obtain ⟨tested, spec⟩ := branch
            rw [compileEntry_branch hname hshape hspec,
              compileEntry_branch hname hshape' (hsame.trans hspec)]
            refine (Upheld.mapM fun inner hinner => ih inner.weight ?_ tested none inner rfl).map
            exact Nat.lt_of_lt_of_le (weight_lt_of_branchSpec hspec hinner)
              (weight_entryParams_le entry)

/-- A host may register rules, be refused or not, and add readers, in any order. What compiled
    before compiles to the very same rules, so that their names and all their runs are the same. What
    did not compile has the same error as before, unless the name of a rule or an expression was not
    known. A registration is refused just for a name that is taken, and a refused one may be left
    out. -/
theorem compile_performAll (compiler : Compiler) (changes : List Registry.Change)
    (spec : RuleSpec) (field : String) (message : Option Message) :
    let extended : Compiler :=
      { compiler with registry := compiler.registry.performAll changes }
    (∀ rules, compiler.compile spec field message = .ok rules →
      extended.compile spec field message = .ok rules) ∧
    (∀ e, compiler.compile spec field message = .error e → (∀ name, e ≠ .unknownRule name) →
      (∀ rule params, e ≠ .invalidExpression rule params) →
      extended.compile spec field message = .error e) ∧
    ∀ before name shape after, changes = before ++ .register name shape :: after →
      let registry := compiler.registry.performAll before
      ∀ e, registry.register name shape = .error e →
        registry.contains name = true ∧ e = .duplicateRule name ∧
        registry.perform (.register name shape) = registry ∧
        compiler.registry.performAll changes = compiler.registry.performAll (before ++ after) := by
  intro extended
  have hextends := Registry.Extends.of_performAll compiler.registry changes
  have hupheld : Upheld (compiler.compile spec field message)
      (extended.compile spec field message) :=
    Upheld.mapM fun entry _ => upheld_compileEntry hextends field message entry
  refine ⟨fun rules => hupheld.eq_ok, fun e herror hknown hread => ?_, ?_⟩
  · refine hupheld.eq_error herror ?_
    cases e with
    | unknownRule name => exact absurd rfl (hknown name)
    | invalidExpression rule params => exact absurd rfl (hread rule params)
    | _ => rfl
  · rintro before name shape after rfl registry e hrefused
    obtain ⟨htaken, rfl⟩ := Registry.register_eq_error_iff.mp hrefused
    exact ⟨htaken, rfl, Registry.perform_of_refused hrefused,
      Registry.performAll_of_refused hrefused⟩

/-- One new rule is the host's own. The last change is refused, as the name is taken. A number that
    cannot be read stays an error, even in front of a name that has become known. -/
theorem compile_performAll_launch :
    let compiler : Compiler := ⟨.standard, ⟨"Rocket", ["start"], false, none⟩, ⟨[]⟩⟩
    let numeric : CheckShape := .host fun _ rule field params =>
      if params.isNone then
        .ok ⟨fun value => .ofBool value.binary64?.isSome,
          Template.slot "$alias" ++ " is not a number.", []⟩
      else .error (.unexpectedParams rule field)
    let changes : List Registry.Change :=
      [.register "shout" (.check .upper), .register "numeric" (.check numeric),
        .addReader (.word "launch" (some 0)), .register "trim" (.check .upper)]
    let extended : Compiler :=
      { compiler with registry := compiler.registry.performAll changes }
    (∃ rule, compiler.compile (.list ["trim"]) "start" none = .ok [rule] ∧
      extended.compile (.list ["trim"]) "start" none = .ok [rule]) ∧
    extended.compile (.list ["min:x", "shout"]) "start" none =
      .error (.invalidNumber "min" "x") ∧
    compiler.registry.performAll changes = compiler.registry.performAll (changes.take 3) := by
  intro compiler numeric changes extended
  obtain ⟨rule, hrule⟩ : ∃ rule, compiler.compileEntry "start" none (.ofName "trim") = .ok rule :=
    ⟨_, compileEntry_eq_ok_iff.mpr (.check rfl (by rfl) (by rfl))⟩
  have htrim : compiler.compile (.list ["trim"]) "start" none = .ok [rule] :=
    mapM_eq_ok_iff.mpr (.cons hrule .nil)
  have herror : compiler.compile (.list ["min:x", "shout"]) "start" none =
      .error (.invalidNumber "min" "x") := by
    refine mapM_eq_error_iff.mpr ⟨[], .ofName "min:x", [.ofName "shout"], rfl, by simp, ?_⟩
    rw [compileEntry_check (by rfl) (by rfl)]
    rfl
  obtain ⟨hkept, -, -⟩ := compile_performAll compiler changes (.list ["trim"]) "start" none
  obtain ⟨-, hfinal, hrefused⟩ :=
    compile_performAll compiler changes (.list ["min:x", "shout"]) "start" none
  obtain ⟨-, -, -, hdropped⟩ :=
    hrefused (changes.take 3) "trim" (.check .upper) [] rfl (.duplicateRule "trim") (by rfl)
  exact ⟨⟨rule, htrim, hkept _ htrim⟩, hfinal _ herror (by simp) (by simp), hdropped⟩

end Compiler

end FieldRules
