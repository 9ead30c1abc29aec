import FieldRules.Proofs.Rule.Rewrite

namespace FieldRules

namespace Finding

/-- The calls of a turn that ends with a finding. -/
def calls (message : String) : Finding → List Call
  | valid => Check.goOn
  | replace value => Check.replaceBy value
  | invalid => Check.fail message

/-- A predicate lets a value pass as it is, or replaces it by itself. -/
def Keeps (find : Value → Finding) (value : Value) : Prop :=
  find value = valid ∨ find value = replace value

/-- Whatever value a predicate accepts it leaves in a normal form, and it keeps the values that are
    in this form. -/
structure Settles (find : Value → Finding) (Normal : Value → Prop) : Prop where
  normal_of_valid : ∀ value, find value = valid → Normal value
  normal_of_replace : ∀ value value', find value = replace value' → Normal value'
  keeps : ∀ value, Normal value → Keeps find value

theorem ofReplacement?_eq_replace_iff {replacement : Option Value} {value : Value} :
    ofReplacement? replacement = replace value ↔ replacement = some value := by
  cases replacement <;> simp [ofReplacement?]

theorem ofReplacement?_ne_valid {replacement : Option Value} :
    ofReplacement? replacement ≠ valid := by
  cases replacement <;> simp [ofReplacement?]

theorem settles_ofReplacement? {replacement? : Value → Option Value} {Normal : Value → Prop}
    (hmade : ∀ value value', replacement? value = some value' → Normal value')
    (hkept : ∀ value, Normal value → replacement? value = some value) :
    Settles (fun value => ofReplacement? (replacement? value)) Normal where
  normal_of_valid _ hvalid := absurd hvalid ofReplacement?_ne_valid
  normal_of_replace value value' hreplaced :=
    hmade value value' (ofReplacement?_eq_replace_iff.mp hreplaced)
  keeps value hnormal := .inr (ofReplacement?_eq_replace_iff.mpr (hkept value hnormal))

end Finding

namespace Transform

/-- A transform as a predicate, which no value fails. -/
def find (transform : Transform) (value : Value) : Finding :=
  match transform.replacement? value with
  | some replacement => .replace replacement
  | none => .valid

variable {transform : Transform} {value value' : Value}

theorem find_eq_valid_iff : transform.find value = .valid ↔ transform.replacement? value = none := by
  unfold find
  cases transform.replacement? value <;> simp

theorem find_eq_replace_iff :
    transform.find value = .replace value' ↔ transform.replacement? value = some value' := by
  unfold find
  cases transform.replacement? value <;> simp

theorem settles_find {Normal : Value → Prop}
    (hleft : ∀ value, transform.replacement? value = none → Normal value)
    (hmade : ∀ value value', transform.replacement? value = some value' → Normal value')
    (hkept : ∀ value, Normal value →
      transform.replacement? value = none ∨ transform.replacement? value = some value) :
    Finding.Settles transform.find Normal where
  normal_of_valid value hvalid := hleft value (find_eq_valid_iff.mp hvalid)
  normal_of_replace value value' hreplaced := hmade value value' (find_eq_replace_iff.mp hreplaced)
  keeps value hnormal :=
    (hkept value hnormal).imp find_eq_valid_iff.mpr find_eq_replace_iff.mpr

end Transform

namespace Rule

/-- In its turn a rule does what is found about the value that it sees, and it changes nothing
    else. -/
def Finds (rule : Rule) (env : Environment) (field : String) (find : Value → Finding)
    (s : RunState) : Prop :=
  ∀ value, ∃ message, (rule.act env ⟨field, rule.name, .running, value⟩).alone s =
    some ((find value).calls message, s)

variable {rule : Rule} {env : Environment} {name field own : String} {find : Value → Finding}
  {value value' : Value} {s : RunState}

theorem finds_predicate (find : Value → Finding) (wording : Wording) :
    (check name (.predicate find wording)).Finds env field find s := by
  intro value
  refine ⟨wording.render value s.record, ?_⟩
  rw [act]
  simp only [Check.act, Job.alone]
  cases find value <;> rfl

theorem finds_transform {transform : Transform} (hstored : ∀ value, transform.stored? value = none) :
    (check name (.transform transform own)).Finds env field transform.find s := by
  intro value
  refine ⟨"", ?_⟩
  rw [act]
  simp only [Check.act, Job.alone, hstored, Transform.find]
  cases transform.replacement? value <;> rfl

namespace Finds

variable (hrule : rule.Finds env field find s)

include hrule

theorem rewrites (hvalue : find value = .replace value') :
    rule.Rewrites env field value value' s := by
  obtain ⟨message, hact⟩ := hrule value
  rwa [hvalue] at hact

/-- The links after the rule go on with a value that it finds valid. -/
theorem alone_runLinks_of_valid (hvalue : find value = .valid) (links : List (Link RunState))
    (updated : Bool) :
    (Chain.runLinks field (rule.link env :: links) value updated).alone s =
      (Chain.runLinks field links value updated).alone s := by
  obtain ⟨message, hact⟩ := hrule value
  rw [hvalue] at hact
  rw [Chain.runLinks, Job.alone_bind, link, hact]
  cases updated <;> rfl

/-- No link after the rule takes its turn on a value that it finds invalid. -/
theorem exists_alone_runLinks_of_invalid (hvalue : find value = .invalid) :
    ∃ message, ∀ links updated,
      (Chain.runLinks field (rule.link env :: links) value updated).alone s =
        some (⟨field, value, updated, some ⟨rule.name, message⟩, .ended⟩, s) := by
  obtain ⟨message, hact⟩ := hrule value
  rw [hvalue] at hact
  refine ⟨message, fun links updated => ?_⟩
  rw [Chain.runLinks, Job.alone_bind, link, hact]
  cases updated <;> rfl

theorem judge_of_valid (hvalue : find value = .valid) :
    rule.judge env field value s = some ⟨field, value, false, none, .ended⟩ := by
  rw [judge, Chain.runOn, Job.ending, hrule.alone_runLinks_of_valid hvalue]
  rfl

/-- The outcome of a rule by what it finds. -/
theorem exists_judge_eq (value : Value) :
    ∃ outcome, rule.judge env field value s = some outcome ∧
      (outcome.valid = true →
        find value = .valid ∧ outcome.value = value ∨ find value = .replace outcome.value) := by
  cases hvalue : find value with
  | valid => exact ⟨_, hrule.judge_of_valid hvalue, fun _ => .inl ⟨rfl, rfl⟩⟩
  | replace value' => exact ⟨_, (hrule.rewrites hvalue).judge, fun _ => .inr rfl⟩
  | invalid =>
    obtain ⟨message, hfails⟩ := hrule.exists_alone_runLinks_of_invalid hvalue
    exact ⟨_, Job.ending_of_alone (hfails [] false), fun hvalid => by cases hvalid⟩

theorem exists_judge_eq_of_keeps (hkeeps : Finding.Keeps find value) :
    ∃ updated, rule.judge env field value s = some ⟨field, value, updated, none, .ended⟩ := by
  rcases hkeeps with hvalid | hreplaced
  · exact ⟨false, hrule.judge_of_valid hvalid⟩
  · exact ⟨true, (hrule.rewrites hreplaced).judge⟩

/-- Links that all keep the value have no effect on the chain: by induction on how many they are. -/
theorem alone_runLinks_replicate (hkeeps : Finding.Keeps find value) {updated : Bool}
    (hupdated : find value = .valid ∨ updated = true) (n : Nat) :
    (Chain.runLinks field ((List.replicate n rule).map (link env)) value updated).alone s =
      some (⟨field, value, updated, none, .ended⟩, s) := by
  induction n with
  | zero => rfl
  | succ n ih =>
    rw [List.replicate_succ, List.map_cons]
    rcases hkeeps with hvalid | hreplaced
    · rw [hrule.alone_runLinks_of_valid hvalid, ih]
    · have htrue : updated = true := by
        refine hupdated.resolve_left fun hvalid => ?_
        cases hvalid.symm.trans hreplaced
      rw [(hrule.rewrites hreplaced).alone_runLinks, ← htrue, ih]

/-- A rule whose predicate settles does the same several times in a row as once. -/
theorem alone_replicate_of_judge {Normal : Value → Prop} (hsettles : Finding.Settles find Normal)
    {outcome : Outcome} (hjudge : rule.judge env field value s = some outcome) (n : Nat) :
    (startRules env field (List.replicate (n + 1) rule) (some value)).alone s =
      some (outcome, s) := by
  have hlinks : (Chain.runLinks field
      (rule.link env :: (List.replicate n rule).map (link env)) value false).alone s =
        some (outcome, s) := by
    cases hvalue : find value with
    | valid =>
      rw [hrule.judge_of_valid hvalue] at hjudge
      cases hjudge
      rw [hrule.alone_runLinks_of_valid hvalue]
      exact hrule.alone_runLinks_replicate (.inl hvalue) (.inl hvalue) n
    | replace value' =>
      rw [(hrule.rewrites hvalue).judge] at hjudge
      cases hjudge
      rw [(hrule.rewrites hvalue).alone_runLinks]
      have hkeeps := hsettles.keeps value' (hsettles.normal_of_replace value value' hvalue)
      exact hrule.alone_runLinks_replicate hkeeps (.inr rfl) n
    | invalid =>
      obtain ⟨message, hfails⟩ := hrule.exists_alone_runLinks_of_invalid hvalue
      have hends : rule.judge env field value s = some _ := Job.ending_of_alone (hfails [] false)
      rw [hends] at hjudge
      cases hjudge
      exact hfails _ false
  exact hlinks

/-- A rule whose predicate settles leaves the values that it accepts in the normal form, and does
    nothing more to them. -/
theorem exists_judge_eq_of_settles {Normal : Value → Prop}
    (hsettles : Finding.Settles find Normal) (value : Value) :
    ∃ outcome, rule.judge env field value s = some outcome ∧
      (outcome.valid = true ∧ outcome.value = value ↔ Normal value) ∧
      (outcome.valid = true → Normal outcome.value ∧ ∃ updated,
        rule.judge env field outcome.value s =
          some ⟨field, outcome.value, updated, none, .ended⟩) ∧
      ∀ n, (startRules env field (List.replicate (n + 1) rule) (some value)).alone s =
        some (outcome, s) := by
  obtain ⟨outcome, hjudge, hfound⟩ := hrule.exists_judge_eq value
  have hnormal : outcome.valid = true → Normal outcome.value := by
    intro hvalid
    rcases hfound hvalid with ⟨hkept, hvalue⟩ | hreplaced
    · rw [hvalue]
      exact hsettles.normal_of_valid value hkept
    · exact hsettles.normal_of_replace value _ hreplaced
  refine ⟨outcome, hjudge, ⟨?_, fun hvalue => ?_⟩, fun hvalid => ⟨hnormal hvalid, ?_⟩,
    hrule.alone_replicate_of_judge hsettles hjudge⟩
  · rintro ⟨hvalid, hvalue⟩
    exact hvalue ▸ hnormal hvalid
  · obtain ⟨_, hkept⟩ := hrule.exists_judge_eq_of_keeps (hsettles.keeps value hvalue)
    cases hjudge.symm.trans hkept
    exact ⟨rfl, rfl⟩
  · exact hrule.exists_judge_eq_of_keeps (hsettles.keeps _ (hnormal hvalid))

end Finds

end Rule

end FieldRules
