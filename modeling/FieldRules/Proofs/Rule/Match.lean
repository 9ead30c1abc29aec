import FieldRules.Proofs.Rule.Foreign
import FieldRules.Proofs.Value.Equal

namespace FieldRules

namespace Rule

/-- The rules that look for a match of a number do not take another number for one. -/
structure KeepsApart (env : Environment) (j k : Int) : Prop where
  /-- Where the other records have the second number, there is no match of the first. -/
  foreign : ∀ {name model matchField field : String} {source : Source} {failOnMatch : Bool}
    {wording : Wording} {members : List Instance} {s : RunState},
    source.Answers env ⟨[], field, name, model, matchField⟩ (some members) →
    (∀ member ∈ members, env.isSubject member = false →
      Environment.memberValue s matchField member = .int k) →
    (check name (.foreign model matchField source failOnMatch wording)).accepts? env field (.int j)
      s = some failOnMatch
  confirmed : ∀ {name field sibling : String} {siblings : List String} {wording : Wording}
    {s : RunState}, sibling ∈ siblings → s.record.get sibling = .int k →
    (check name (.siblings .confirmed siblings wording)).accepts? env field (.int j) s = some false
  item : ∀ {name itemField field : String} {failOnMatch : Bool} {wording : Wording}
    {items : List Value} {s : RunState},
    (∀ item ∈ items, ∀ value, item.get? itemField = some value → value = .int k) →
    (check name (.itemMatch itemField (.int j) Value.equal failOnMatch wording)).accepts? env field
      (.array items) s = some failOnMatch

/-- It is enough that the numbers compare as different. -/
theorem keepsApart_of_equal_eq_false {j k : Int} (hequal : (Value.int j).equal (.int k) = false)
    (env : Environment) : KeepsApart env j k where
  foreign := by
    intro name model matchField field source failOnMatch wording members s hanswers hmembers
    have hnone : env.hasMatch s matchField (.int j) members = false := by
      rw [Bool.eq_false_iff, Ne, Environment.hasMatch_iff]
      rintro ⟨member, hmem, hother, hmatch⟩
      rw [hmembers member hmem hother, hequal] at hmatch
      cases hmatch
    rw [accepts?_foreign name rfl hanswers, hnone, Bool.false_bne]
  confirmed := by
    intro name field sibling siblings wording s hsibling hvalue
    have hall : (siblings.map s.record.get).all (Value.int j).equal = false := by
      rw [List.all_eq_false]
      refine ⟨.int k, List.mem_map.mpr ⟨sibling, hsibling, hvalue⟩, ?_⟩
      rw [hequal]
      exact Bool.false_ne_true
    have hact : ((check name (.siblings .confirmed siblings wording)).act env
        ⟨field, name, .running, .int j⟩).alone s =
          some (Check.fail (wording.render (.int j) s.record), s) := by
      rw [act]
      simp only [Check.act, Job.alone, SiblingCheck.decide, hall, Bool.false_eq_true, if_false]
    rw [accepts?_of_alone hact]
    rfl
  item := by
    intro name itemField field failOnMatch wording items s hitems
    have hnone : (items.any fun item => (item.get? itemField).any (Value.int j).equal) = false := by
      rw [List.any_eq_false]
      intro item hitem
      cases hvalue : item.get? itemField with
      | none => simp
      | some value =>
        rw [hitems item hitem value hvalue, Option.any_some, hequal]
        exact Bool.false_ne_true
    have hact : ((check name (.itemMatch itemField (.int j) Value.equal failOnMatch wording)).act
        env ⟨field, name, .running, .array items⟩).alone s =
          some (Check.passIf (false != failOnMatch) wording (.array items) s.record, s) := by
      rw [act]
      simp only [Check.act, Job.alone, Value.array?, Option.getD_some, hnone]
    rw [accepts?_of_passIf hact, Bool.false_bne]

end Rule

namespace Value

/-- Values are equal if they have one shape, whatever the order of their entries, and corresponding
    numbers have the same nearest binary64 number. So equality is exact as long as all numbers are
    binary64 numbers, as whole numbers up to `2^53` are, and then different whole numbers are kept
    apart by the rules that look for a match. -/
theorem equal_iff_alike {a b : Value} (ha : a.WellFormed) (hb : b.WellFormed) :
    (a.equal b = true ↔ Alike (fun m n => m.toBinary64.units = n.toBinary64.units) a b) ∧
      ((∀ n ∈ a.numbers ++ b.numbers, n.IsBinary64) →
        (a.equal b = true ↔ Alike (fun m n => m.units = n.units) a b) ∧
          ∀ j k : Int, a = .int j → b = .int k → j ≠ k → ∀ env, Rule.KeepsApart env j k) ∧
      ∀ n : Int, n.natAbs ≤ 2 * Binary64.binade → (Number.integer n).IsBinary64 := by
  refine ⟨?_, fun hexact => ⟨?_, ?_⟩, fun n => Number.isBinary64_of_natAbs_le⟩
  · exact equal_iff_of_numbers ha hb fun m _ n _ => beq_iff_eq
  · refine equal_iff_of_numbers ha hb fun m hm n hn => ?_
    rw [Binary64.sameValue, beq_iff_eq,
      (hexact m (List.mem_append_left _ hm)).units_toBinary64,
      (hexact n (List.mem_append_right _ hn)).units_toBinary64]
  -- Whole numbers with the same number of units are the same.
  · rintro j k rfl rfl hne env
    have hj : (Number.integer j).IsBinary64 := hexact _ (by simp [int, numbers])
    have hk : (Number.integer k).IsBinary64 := hexact _ (by simp [int, numbers])
    refine Rule.keepsApart_of_equal_eq_false ?_ env
    rw [Bool.eq_false_iff, int, int, equal, Binary64.sameValue, Ne, beq_iff_eq, hj.units_toBinary64,
      hk.units_toBinary64]
    exact fun hunits => hne (Number.units_injective_integer hunits)

/-- The entries of an object in another order, and a number in another form, make no difference, and
    the last two whole numbers up to `2^53` do. -/
theorem equal_iff_alike_reordered :
    let two : Number := .float (Binary64.ofInt 2)
    (Value.object [("x", .int 1), ("y", .array [.int 2])]).equal
        (.object [("y", .array [.number two]), ("x", .int 1)]) = true ∧
      (Rule.check "confirmed" (.siblings .confirmed ["other"] ⟨.forField "value" ⟨[]⟩
        ⟨"", [], false, none⟩, "", []⟩)).accepts? .empty "value"
        (.int 9007199254740992) (.ofRecord ⟨[("other", .int 9007199254740991)]⟩) = some false := by
  intro two
  have hsmall : ∀ n : Int, n.natAbs ≤ 2 * Binary64.binade → (Number.integer n).IsBinary64 :=
    fun n => Number.isBinary64_of_natAbs_le
  have htwo : (Number.integer 2).units = two.units :=
    (Binary64.units_ofInt (Binary64.exists_units_eq (by decide))).symm
  refine ⟨?_, ?_⟩
  · refine ((equal_iff_alike ?_ ?_).2.1 ?_).1.mpr ?_
    · simp [WellFormed, WellFormedEntries, WellFormedItems, int]
    · simp [WellFormed, WellFormedEntries, WellFormedItems, int]
    · have hnumbers : ∀ n ∈ [.integer 1, .integer 2, two, .integer 1], n.IsBinary64 := by
        simp only [List.forall_mem_cons]
        exact ⟨hsmall 1 (by decide), hsmall 2 (by decide), ⟨_, rfl⟩, hsmall 1 (by decide), by simp⟩
      exact hnumbers
    · refine (alike_object_iff (by simp) (by simp)).mpr ⟨rfl, ?_⟩
      simp only [List.forall_mem_cons]
      refine ⟨⟨.int 1, rfl, .number rfl⟩, ?_, by simp⟩
      exact ⟨.array [.number two], rfl, .array (.cons (.number htwo) .nil)⟩
  · have hnumbers : ∀ n ∈ [Number.integer 9007199254740992, .integer 9007199254740991],
        n.IsBinary64 := by
      simp only [List.forall_mem_cons]
      exact ⟨hsmall _ (by decide), hsmall _ (by decide), by simp⟩
    have hlast : (int 9007199254740992).WellFormed := trivial
    have hother : (int 9007199254740991).WellFormed := trivial
    have hapart := ((equal_iff_alike hlast hother).2.1 hnumbers).2 _ _ rfl rfl (by decide)
    exact (hapart _).confirmed List.mem_cons_self rfl

/-- Two different whole numbers are equal if they have the same nearest binary64 number. -/
theorem equal_of_different_integers :
    (Value.int 9007199254740992).equal (.int 9007199254740993) = true ∧
      ¬Alike (fun m n => m.units = n.units) (.int 9007199254740992) (.int 9007199254740993) := by
  refine ⟨by decide +kernel, ?_⟩
  rintro ⟨⟩
  next hsame =>
    have heq := Number.units_injective_integer hsame
    cases heq

end Value

end FieldRules
