import FieldRules.Proofs.Rule.Foreign

namespace FieldRules

/-- On which values one of two opposite rules accepts and the other does not. -/
inductive Dividing where
  | always
  /-- Where there is a size to compare. -/
  | sized
  /-- Where a collection has been found for a value other than null. -/
  | resolved
  /-- Where the value is missing. -/
  | empty

/-- Whether exactly one of two opposite rules accepts a value, given what a lookup has answered. -/
def Dividing.divides (dividing : Dividing) (value : Value) (answer : Option (List Instance)) :
    Bool :=
  match dividing with
  | always => true
  | sized => value.size?.isSome
  | resolved => !value.isNull && answer.isSome
  | empty => value.isEmpty

namespace Rule

variable {env : Environment} {name field : String} {value : Value} {s : RunState}

/-- A rule about other records is told about a value what its source answers; null is not looked up.
    All other rules may be told anything. -/
def Informed (env : Environment) (field : String) (value : Value)
    (answer : Option (List Instance)) : Rule → Prop
  | check name (.foreign model matchField source _ _) =>
    value.isNull = true ∨ source.Answers env ⟨[], field, name, model, matchField⟩ answer
  | _ => True

theorem accepts?_itemMatch (itemField : String) (expected : Value)
    (equal : Value → Value → Bool) (failOnMatch : Bool) (wording : Wording) :
    (check name (.itemMatch itemField expected equal failOnMatch wording)).accepts? env field value
        s =
      some (((value.array?.getD []).any fun item => (item.get? itemField).any (equal expected)) !=
        failOnMatch) :=
  accepts?_check_of_passIf rfl

theorem accepts?_trigger (other : String) (triggers : List String) (requiredWhenListed : Bool)
    (wording : Wording) :
    (check name (.trigger other triggers requiredWhenListed wording)).accepts? env field value s =
      some (!(triggers.contains (s.record.get other).display == requiredWhenListed &&
        value.isEmpty)) :=
  accepts?_check_of_passIf rfl

theorem accepts?_siblings (siblingCheck : SiblingCheck) (fields : List String)
    (wording : Wording) :
    (check name (.siblings siblingCheck fields wording)).accepts? env field value s =
      some (siblingCheck.decide value (fields.map s.record.get) (fields.any s.hasFailed) !=
        .invalid) := by
  rw [accepts?_eq, act]
  simp only [Check.act, Job.ending, Job.alone]
  cases siblingCheck.decide value (fields.map s.record.get) (fields.any s.hasFailed) <;> rfl

theorem accepts?_sized_eq (isInvalid : Binary64 → Bool) (wording : SizeWording) (value : Value)
    (s : RunState) :
    (check name (.sized isInvalid wording)).accepts? env field value s =
      some (Call.settle (Check.sizedCalls isInvalid wording value s.record)).2.accepts := by
  have hact : ((check name (.sized isInvalid wording)).act env
      ⟨field, name, .running, value⟩).alone s =
        some (Check.sizedCalls isInvalid wording value s.record, s) := by
    rw [act]
    rfl
  exact accepts?_of_alone hact

/-- A rule about sizes that has a message for every type of value. -/
theorem accepts?_sized {isInvalid : Binary64 → Bool} {wording : SizeWording}
    (htemplates : ∀ tag, (wording.templates.lookup tag).isSome = true) :
    (check name (.sized isInvalid wording)).accepts? env field value s =
      some (value.size?.all fun size => !isInvalid size) := by
  rw [accepts?_sized_eq, Check.sizedCalls]
  split
  · next template size _ hsize =>
    rw [hsize, Option.all_some]
    cases isInvalid size <;> rfl
  · next hunchecked =>
    -- A value with a size has a type, and so there is a template for it.
    cases hsize : value.size? with
    | none => rfl
    | some size =>
      have htag : value.tag?.isSome = true := by
        cases value <;> first | rfl | cases hsize
      obtain ⟨tag, htag⟩ := Option.isSome_iff_exists.mp htag
      obtain ⟨template, htemplate⟩ := Option.isSome_iff_exists.mp (htemplates tag)
      refine absurd hsize (hunchecked template size ?_)
      rw [htag, Option.bind_some, htemplate]

theorem accepts?_foreign_of_null {model matchField : String} {source : Source}
    {failOnMatch : Bool} {wording : Wording} (hnull : value.isNull = true) :
    (check name (.foreign model matchField source failOnMatch wording)).accepts? env field value s =
      some true :=
  accepts?_of_alone (foreign_alone_of_null name hnull s)

theorem accepts?_foreign_of_unresolved {model matchField : String} {source : Source}
    {failOnMatch : Bool} {wording : Wording} (hvalue : value.isNull = false)
    (hanswers : source.Answers env ⟨[], field, name, model, matchField⟩ none) :
    (check name (.foreign model matchField source failOnMatch wording)).accepts? env field value s =
      some true := by
  obtain ⟨t, _, hact⟩ := foreign_alone name hvalue hanswers s
  exact accepts?_of_alone hact

theorem accepts?_foreign_of_never {model matchField : String} {source : Source}
    {failOnMatch : Bool} {wording : Wording} (hvalue : value.isNull = false)
    (hnever : ∀ answer, ¬source.Answers env ⟨[], field, name, model, matchField⟩ answer) :
    (check name (.foreign model matchField source failOnMatch wording)).accepts? env field value s =
      none := by
  obtain ⟨answer, hanswers⟩ | ⟨rfl, hpending⟩ :=
    Environment.exists_answers_or_never env ⟨[], field, name, model, matchField⟩ source
  · exact absurd hanswers (hnever answer)
  · rw [accepts?_eq, Job.ending, Rule.name, foreign_alone_of_never name hvalue hpending s]
    rfl

end Rule

/-- Two checks of which one is the negation of the other. -/
inductive Check.Opposes : Dividing → Check → Check → Prop
  | membership (members : Membership) (wording wording' : Wording) :
    Opposes .always (.membership members false wording) (.membership members true wording')
  | itemMatch (field : String) (expected : Value) (equal : Value → Value → Bool)
    (wording wording' : Wording) :
    Opposes .always (.itemMatch field expected equal false wording)
      (.itemMatch field expected equal true wording')
  | confirmed (fields : List String) (wording wording' : Wording) :
    Opposes .always (.siblings .confirmed fields wording) (.siblings .different fields wording')
  | sized {isInvalid isInvalid' : Binary64 → Bool} {wording wording' : SizeWording}
    (hopposite : ∀ size, isInvalid' size = !isInvalid size)
    (htemplates : ∀ tag, (wording.templates.lookup tag).isSome = true)
    (htemplates' : ∀ tag, (wording'.templates.lookup tag).isSome = true) :
    Opposes .sized (.sized isInvalid wording) (.sized isInvalid' wording')
  | foreign (model field : String) (source : Source) (wording wording' : Wording) :
    Opposes .resolved (.foreign model field source false wording)
      (.foreign model field source true wording')
  | requiredWith (fields : List String) (wording wording' : Wording) :
    Opposes .empty (.siblings .requiredWith fields wording)
      (.siblings .requiredWithoutAll fields wording')
  | requiredWithAll (fields : List String) (wording wording' : Wording) :
    Opposes .empty (.siblings .requiredWithAll fields wording)
      (.siblings .requiredWithout fields wording')
  | trigger (field : String) (triggers : List String) (wording wording' : Wording) :
    Opposes .empty (.trigger field triggers true wording) (.trigger field triggers false wording')

namespace Rule

variable {env : Environment} {rule : Rule} {name name' field : String} {value : Value}
  {s : RunState} {check check' : Check} {dividing : Dividing} {answer : Option (List Instance)}

/-- Exactly one of two opposite rules accepts a value that they divide, and both accept any other
    value, if they are told the same about it. -/
theorem accepts?_of_opposes (hopposes : check.Opposes dividing check')
    (hinformed : (Rule.check name check).Informed env field value answer)
    (hinformed' : (Rule.check name' check').Informed env field value answer) :
    if dividing.divides value answer then
      ∃ accepted, (Rule.check name check).accepts? env field value s = some accepted ∧
        (Rule.check name' check').accepts? env field value s = some !accepted
    else
      (Rule.check name check).accepts? env field value s = some true ∧
        (Rule.check name' check').accepts? env field value s = some true := by
  cases hopposes with
  | membership members wording wording' =>
    refine ⟨members.contains value, ?_, ?_⟩
    · rw [accepts?_membership, Bool.bne_false]
    · rw [accepts?_membership, Bool.bne_true]
  | itemMatch itemField expected equal wording wording' =>
    refine ⟨_, accepts?_itemMatch .., ?_⟩
    rw [accepts?_itemMatch, Bool.bne_true, Bool.bne_false]
  | confirmed fields wording wording' =>
    refine ⟨(fields.map s.record.get).all value.equal, ?_, ?_⟩
    · rw [accepts?_siblings, SiblingCheck.decide]
      cases (fields.map s.record.get).all value.equal <;> rfl
    · rw [accepts?_siblings, SiblingCheck.decide, ← List.not_all_eq_any_not]
      cases (fields.map s.record.get).all value.equal <;> rfl
  | sized hopposite htemplates htemplates' =>
    rw [accepts?_sized htemplates, accepts?_sized htemplates', Dividing.divides]
    cases value.size? with
    | none => exact ⟨rfl, rfl⟩
    | some size => exact ⟨_, rfl, by rw [Option.all_some, Option.all_some, hopposite]⟩
  | foreign model matchField source wording wording' =>
    rw [Dividing.divides]
    cases hnull : value.isNull with
    | true => exact ⟨accepts?_foreign_of_null hnull, accepts?_foreign_of_null hnull⟩
    | false =>
      have hlooked : ¬value.isNull = true := by simp [hnull]
      have hanswers := hinformed.resolve_left hlooked
      have hanswers' := hinformed'.resolve_left hlooked
      cases answer with
      | none =>
        exact ⟨accepts?_foreign_of_unresolved hnull hanswers,
          accepts?_foreign_of_unresolved hnull hanswers'⟩
      | some members =>
        refine ⟨env.hasMatch s matchField value members, ?_, ?_⟩
        · rw [accepts?_foreign name hnull hanswers, Bool.bne_false]
        · rw [accepts?_foreign name' hnull hanswers', Bool.bne_true]
  | requiredWith fields wording wording' =>
    rw [accepts?_siblings, accepts?_siblings, Dividing.divides]
    simp only [SiblingCheck.decide, ← List.not_all_eq_any_not]
    cases value.isEmpty <;> cases (fields.map s.record.get).all Value.isEmpty <;> simp
  | requiredWithAll fields wording wording' =>
    rw [accepts?_siblings, accepts?_siblings, Dividing.divides]
    simp only [SiblingCheck.decide, ← List.not_any_eq_all_not]
    cases value.isEmpty <;> cases (fields.map s.record.get).any Value.isEmpty <;> simp
  | trigger other triggers wording wording' =>
    rw [accepts?_trigger, accepts?_trigger, Dividing.divides]
    cases value.isEmpty <;> cases triggers.contains (s.record.get other).display <;> simp

/-- A rule that waits without end for what it is to be told comes to no decision. -/
theorem accepts?_of_uninformed (hnever : ∀ answer, ¬rule.Informed env field value answer) :
    rule.accepts? env field value s = none := by
  cases rule with
  | branch name gate own tested nested => exact absurd trivial (hnever none)
  | check name body =>
    cases body with
    | foreign model matchField source failOnMatch wording =>
      have hvalue : value.isNull = false :=
        Bool.eq_false_iff.mpr fun hnull => hnever none (.inl hnull)
      exact accepts?_foreign_of_never hvalue fun answer hanswers => hnever answer (.inr hanswers)
    | _ => exact absurd trivial (hnever none)

end Rule

end FieldRules
