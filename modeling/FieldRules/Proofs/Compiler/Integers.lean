import FieldRules.Proofs.Binary64.Whole
import FieldRules.Proofs.Compiler.Rewrites

namespace FieldRules

/-- The standard rules that take a whole number for what it is. -/
inductive NumericRule where
  | whole
  | numeric
  | abs
  | ceil
  | floor
  | round
deriving DecidableEq

namespace NumericRule

def name : NumericRule → String
  | whole => "whole"
  | numeric => "numeric"
  | abs => "abs"
  | ceil => "ceil"
  | floor => "floor"
  | round => "round"

/-- What a rule makes of a number. -/
def apply : NumericRule → Binary64 → Binary64
  | whole, x | numeric, x => x
  | abs, x => x.abs
  | ceil, x => x.ceil
  | floor, x => x.floor
  | round, x => x.roundHalfUp

/-- The odd numbers between `2^52` and `2^53` are rounded up, as one half more is a tie there. -/
def Misrounds (kind : NumericRule) (n : Int) : Prop :=
  kind = round ∧ n % 2 = 1 ∧ Binary64.binade < n.natAbs ∧ n.natAbs < 2 * Binary64.binade

instance (kind : NumericRule) (n : Int) : Decidable (kind.Misrounds n) := by
  unfold Misrounds
  infer_instance

variable {kind : NumericRule} {n : Int}

/-- The value that a rule leaves of a whole number: the binary64 number that it is converted to,
    unless this is rounded once more. -/
theorem units_apply (hn : n.natAbs ≤ Nat.pow 2 100) (hpos : kind = abs → 0 ≤ n) :
    (kind.apply (.ofInt n)).units =
      if kind.Misrounds n then (n + 1) * Binary64.unitsPerOne else (Binary64.ofInt n).units := by
  have hwhole := Binary64.isWhole_ofInt hn
  by_cases hround : kind = round
  · subst hround
    obtain ⟨q, hq⟩ := Binary64.isWhole_iff.mp hwhole
    rw [apply, Binary64.units_roundHalfUp hq, hq]
    by_cases hodd : q % 2 = 1
    · obtain rfl := Binary64.units_ofInt_of_odd hn hq hodd
      have hsmall := Binary64.natAbs_lt_of_odd hq hodd
      have hiff : q % 2 = 1 ∧ Binary64.binade < q.natAbs ↔ round.Misrounds q := by
        simp [Misrounds, hsmall]
      simp only [hiff, ite_mul]
    · have hkept : ¬round.Misrounds n := by
        rintro ⟨-, hoddn, hlow, hhigh⟩
        have hunits := Binary64.units_ofInt (Binary64.exists_units_eq (n := n) (by omega))
        have hone : (Binary64.unitsPerOne : Int) ≠ 0 :=
          Int.natCast_ne_zero.mpr (Nat.ne_of_gt Binary64.unitsPerOne_pos)
        have hsame : q = n := Int.eq_of_mul_eq_mul_right hone (hq.symm.trans hunits)
        exact hodd (hsame ▸ hoddn)
      rw [if_neg (fun h => hodd h.1), if_neg hkept]
  · rw [if_neg fun h => hround h.1]
    cases kind with
    | round => exact absurd rfl hround
    | whole | numeric => rw [apply]
    | ceil => rw [apply, Binary64.ceil, if_pos hwhole]
    | floor => rw [apply, Binary64.floor, if_pos hwhole]
    | abs =>
      have hnegative : (Binary64.ofInt n).negative = false := by
        rw [(Binary64.ofInt_eq hn).1, decide_eq_false_iff_not, Int.not_lt]
        exact hpos rfl
      rw [apply, Binary64.abs_of_not_negative hnegative]

/-- What is registered under the name of a rule replaces a whole number by what the rule makes of
    it. -/
theorem exists_shape (kind : NumericRule) :
    ∃ shape, Registry.standard.find? kind.name = some (.check shape) ∧
      ((∃ message find, shape = .predicate message find ∧ ∀ n : Int, n.natAbs ≤ Nat.pow 2 100 →
        find (.int n) = .replace (.ofBinary64 (kind.apply (.ofInt n)))) ∨
      ∃ transform, shape = .transform transform ∧ ∀ n : Int,
        transform.stored? (.int n) = none ∧
        transform.replacement? (.int n) = some (.ofBinary64 (kind.apply (.ofInt n)))) := by
  cases kind with
  | whole =>
    refine ⟨_, rfl, .inl ⟨_, Finding.whole, rfl, fun n hn => ?_⟩⟩
    have hwhole := Binary64.isWhole_ofInt hn
    have hfilter : (Value.int n).leadingNumber?.filter Binary64.isWhole =
        some (.ofInt n) := by
      simp [Value.leadingNumber?, Value.int, Number.toBinary64, Option.filter, hwhole]
    rw [Finding.whole, hfilter, apply]
    rfl
  | numeric => exact ⟨_, rfl, .inl ⟨_, Finding.numeric, rfl, fun n _ => rfl⟩⟩
  | abs => exact ⟨_, rfl, .inr ⟨.abs, rfl, fun n => ⟨rfl, rfl⟩⟩⟩
  | ceil => exact ⟨_, rfl, .inr ⟨.ceil, rfl, fun n => ⟨rfl, rfl⟩⟩⟩
  | floor => exact ⟨_, rfl, .inr ⟨.floor, rfl, fun n => ⟨rfl, rfl⟩⟩⟩
  | round => exact ⟨_, rfl, .inr ⟨.round, rfl, fun n => ⟨rfl, rfl⟩⟩⟩

end NumericRule

namespace Compiler

variable {compiler : Compiler} {field : String} {message : Option Message} {entry : RuleEntry}

theorem exists_rewrites_integer (hstandard : compiler.registry = .standard) {kind : NumericRule}
    (hname : (splitRule entry.rule).1 = kind.name) (hparams : (entryParams entry).isNone = true) :
    ∃ rule, compiler.compileEntry field message entry = .ok rule ∧
      ∀ (env : Environment) (s : RunState) (n : Int), n.natAbs ≤ Nat.pow 2 100 →
        rule.Rewrites env field (.int n) (.ofBinary64 (kind.apply (.ofInt n))) s := by
  obtain ⟨shape, hshape, hkind⟩ := kind.exists_shape
  rcases hkind with ⟨default, find, rfl, hfind⟩ | ⟨transform, rfl, htransform⟩
  · obtain ⟨_, hcompile⟩ := compileEntry_predicate hstandard hname hshape hparams
    exact ⟨_, hcompile, fun env s n hn => Rule.rewrites_predicate (hfind n hn)⟩
  · refine ⟨_, compileEntry_transform hstandard hname hshape hparams, fun env s n _ => ?_⟩
    exact Rule.rewrites_transform (htransform n).1 (htransform n).2

/-- The numeric rules let every whole number of a 64-bit word pass, but what they leave is the
    number of binary64 nearest to it, and `round` even leaves the next number for the odd ones
    beyond `2^52`. So the value stays exactly for the numbers of binary64 but those. -/
theorem compileEntry_integer (hstandard : compiler.registry = .standard) {kind : NumericRule}
    (hname : (splitRule entry.rule).1 = kind.name) (hparams : (entryParams entry).isNone = true) :
    ∃ rule, compiler.compileEntry field message entry = .ok rule ∧
      ∀ (env : Environment) (s : RunState) (n : Int),
        -0x8000000000000000 ≤ n → n < 0x10000000000000000 → (kind = .abs → 0 ≤ n) →
        ∃ left : Number,
          rule.judge env field (.int n) s = some ⟨field, .number left, true, none, .ended⟩ ∧
          (left.units = (Number.integer n).units ↔
            (Number.integer n).IsBinary64 ∧ ¬kind.Misrounds n) ∧
          (n.natAbs < 9000000000000000 → ¬kind.Misrounds n → left = .integer n) ∧
          (kind.Misrounds n → left.units = (Number.integer (n + 1)).units) ∧
          (¬kind.Misrounds n → ∀ x : Binary64,
            (left.units - (Number.integer n).units).natAbs ≤
              (x.units - (Number.integer n).units).natAbs) := by
  obtain ⟨rule, hcompile, hrewrites⟩ := exists_rewrites_integer hstandard hname hparams
  refine ⟨rule, hcompile, fun env s n hlow hhigh hpos => ?_⟩
  have hn : n.natAbs ≤ Nat.pow 2 100 := by
    rw [Nat.pow_eq]
    omega
  have hunits := (Number.units_ofBinary64 _).trans (NumericRule.units_apply hn hpos)
  have hone : (Binary64.unitsPerOne : Int) ≠ 0 :=
    Int.natCast_ne_zero.mpr (Nat.ne_of_gt Binary64.unitsPerOne_pos)
  refine ⟨_, (hrewrites env s n hn).judge, ?_, fun hsmall hkept => ?_, fun hmissed => ?_,
    fun hkept => ?_⟩
  · rw [hunits]
    split
    · next hmissed =>
      refine iff_of_false (fun hsame => ?_) (fun h => h.2 hmissed)
      have hnext := Int.eq_of_mul_eq_mul_right hone hsame
      omega
    · next hkept =>
      rw [and_iff_left hkept]
      exact ⟨fun hsame => ⟨_, hsame⟩, Number.IsBinary64.units_toBinary64⟩
  · have hexact := Binary64.units_ofInt (Binary64.exists_units_eq (n := n)
      (by unfold Binary64.binade; omega))
    have hvalue := NumericRule.units_apply hn hpos
    rw [if_neg hkept, hexact] at hvalue
    exact Number.ofBinary64_of_whole hvalue hsmall
  · rw [hunits, if_pos hmissed]
    rfl
  · rw [hunits, if_neg hkept]
    exact Binary64.ofInt_closest hn

theorem compileEntry_integer_name :
    let env : Environment := .empty
    let s : RunState := .ofRecord .empty
    ∃ rule, forNames.compileEntry "name" none (.ofName "round") = .ok rule ∧
      rule.judge env "name" (.int (-7)) s = some ⟨"name", .int (-7), true, none, .ended⟩ ∧
      ∃ left : Number,
        rule.judge env "name" (.int 4503599627370497) s =
          some ⟨"name", .number left, true, none, .ended⟩ ∧
        left.units = (Number.integer 4503599627370498).units := by
  intro env s
  have hstandard : forNames.registry = .standard := rfl
  have hname : (splitRule (RuleEntry.ofName "round").rule).1 = NumericRule.round.name := by rfl
  have hparams : (entryParams (.ofName "round")).isNone = true := by rfl
  obtain ⟨rule, hcompile, hjudge⟩ :
      ∃ rule, forNames.compileEntry "name" none (.ofName "round") = .ok rule ∧ _ :=
    compileEntry_integer hstandard hname hparams
  obtain ⟨_, hsmall, -, hkept, -⟩ := hjudge env s (-7) (by omega) (by omega) (by simp)
  obtain ⟨left, hlarge, -, -, hmissed, -⟩ :=
    hjudge env s 4503599627370497 (by omega) (by omega) (by simp)
  rw [hkept (by decide) (by decide)] at hsmall
  exact ⟨rule, hcompile, hsmall, left, hlarge, hmissed (by decide)⟩

/-- Beyond `2^53` an odd number is replaced by an even one beside it, and already beyond `2^52` it
    is rounded to the next number. -/
theorem integers_change :
    let env : Environment := .empty
    let s : RunState := .ofRecord .empty
    (∃ rule, ∃ left : Number,
      forNames.compileEntry "name" none (.ofName "whole") = .ok rule ∧
      rule.judge env "name" (.int 9007199254740993) s =
        some ⟨"name", .number left, true, none, .ended⟩ ∧
      left.units = (Number.integer 9007199254740992).units) ∧
    ∃ rule, ∃ left : Number,
      forNames.compileEntry "name" none (.ofName "round") = .ok rule ∧
      rule.judge env "name" (.int 4503599627370497) s =
        some ⟨"name", .number left, true, none, .ended⟩ ∧
      left.units = (Number.integer 4503599627370498).units := by
  intro env s
  have hstandard : forNames.registry = .standard := rfl
  have hrule : ∀ (kind : NumericRule) (n : Int), n.natAbs ≤ Nat.pow 2 100 →
      (splitRule (RuleEntry.ofName kind.name).rule).1 = kind.name →
      (entryParams (.ofName kind.name)).isNone = true →
      ∃ rule, forNames.compileEntry "name" none (.ofName kind.name) = .ok rule ∧
        rule.judge env "name" (.int n) s =
          some ⟨"name", .ofBinary64 (kind.apply (.ofInt n)), true, none, .ended⟩ := by
    intro kind n hn hname hparams
    obtain ⟨rule, hcompile, hrewrites⟩ := exists_rewrites_integer hstandard hname hparams
    exact ⟨rule, hcompile, (hrewrites env s n hn).judge⟩
  obtain ⟨whole, hwhole, hjudge⟩ :=
    hrule .whole 9007199254740993 (by decide +kernel) (by rfl) (by rfl)
  obtain ⟨round, hround, hjudge'⟩ :=
    hrule .round 4503599627370497 (by decide +kernel) (by rfl) (by rfl)
  exact ⟨⟨whole, _, hwhole, hjudge, by decide +kernel⟩,
    ⟨round, _, hround, hjudge', by decide +kernel⟩⟩

end Compiler

end FieldRules
