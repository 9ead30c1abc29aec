import FieldRules.Proofs.Calendar.Time
import FieldRules.Proofs.Chain.Visit
import FieldRules.Proofs.Rule.Isolated
import FieldRules.Proofs.Rule.Judge

namespace FieldRules

/-- The failure of a chain in which the given rule comes to a verdict. -/
def Verdict.failure? (rule : String) : Verdict → Option Failure
  | .invalid message => some ⟨rule, message⟩
  | .next | .stop => none

namespace Rule

section

variable (rule : Rule) (env : Environment) (field : String) (value : Value) (s : RunState)

/-- The verdict of a rule on a value, if it comes to one. -/
def verdict? : Option Verdict :=
  ((rule.act env ⟨field, rule.name, .running, value⟩).ending s).map fun calls =>
    (Call.settle calls).2

/-- What a rule alone has against a value, if it comes to a decision. -/
def failure? : Option (Option Failure) := (rule.judge env field value s).map Outcome.failure

theorem failure?_eq : rule.failure? env field value s =
    (rule.verdict? env field value s).map (Verdict.failure? rule.name) := by
  unfold failure? verdict? judge Chain.runOn Job.ending
  rw [Chain.runLinks, Job.alone_bind, link]
  cases (rule.act env ⟨field, rule.name, .running, value⟩).alone s with
  | none => rfl
  | some r =>
    obtain ⟨calls, t⟩ := r
    simp only [Option.bind_some, Option.map_some]
    cases (Call.settle calls).2 <;> rfl

theorem accepts?_eq_true_iff :
    rule.accepts? env field value s = some true ↔ rule.failure? env field value s = some none := by
  unfold accepts? failure?
  cases rule.judge env field value s <;> simp [Outcome.valid]

/-- The first failure that one of the rules alone reports, where no rule before it waits without
    end. -/
def firstFailure? (rules : List Rule) : Option (Option Failure) :=
  rules.findSomeM? fun rule => rule.failure? env field value s

end

/-- A rule that says the same about all values of a kind, and lets the rules after it see another
    value of this kind. It decides by nothing but the value and the record, leaves the record as it
    is, and never skips the rules after it. -/
structure Steady (env : Environment) (field : String) (kind : Value → Prop) (rule : Rule) :
    Prop where
  isolated : rule.isolated
  settles : ∀ {value s calls}, kind value →
    (rule.act env ⟨field, rule.name, .running, value⟩).ending s = some calls →
    kind ((Call.settle calls).1.getD value) ∧ (Call.settle calls).2 ≠ .stop
  verdict?_eq : ∀ {value value'} s, kind value → kind value' →
    rule.verdict? env field value s = rule.verdict? env field value' s

variable {env : Environment} {field : String} {kind : Value → Prop} {value : Value} {s : RunState}

/-- Steady rules fail together as the first of them does that fails alone on any value of the kind:
    by induction on the rules, where the working value stays of this kind and the record as it
    is. -/
theorem failure_runLinks {rules : List Rule} (hrules : ∀ rule ∈ rules, rule.Steady env field kind)
    (hvalue : kind value) {working : Value} (hworking : kind working) {t : RunState}
    (hrecord : t.record = s.record) (updated : Bool) :
    ((Chain.runLinks field (rules.map (link env)) working updated).ending t).map Outcome.failure =
      firstFailure? env field value s rules := by
  induction rules generalizing working t updated with
  | nil => rfl
  | cons rule rules ih =>
    obtain ⟨hrule, hrest⟩ := List.forall_mem_cons.mp hrules
    have hverdict : rule.verdict? env field value s = rule.verdict? env field working t := by
      rw [hrule.verdict?_eq s hvalue hworking, verdict?, verdict?,
        (act_confined hrule.isolated env field working).ending_congr hrecord]
    rw [firstFailure?, List.findSomeM?, failure?_eq, hverdict, verdict?, List.map_cons,
      Chain.runLinks, Job.ending, Job.ending, Job.alone_bind, link]
    dsimp only
    cases hact : (rule.act env ⟨field, rule.name, .running, working⟩).alone t with
    | none => rfl
    | some ended =>
      obtain ⟨calls, t'⟩ := ended
      obtain ⟨hkind, hgoesOn⟩ := hrule.settles hworking (Job.ending_of_alone hact)
      have hrecord' : t'.record = s.record :=
        ((act_confined hrule.isolated env field working).keeps.alone hact).trans hrecord
      simp only [Option.bind_some, Option.map_some]
      cases hsettle : (Call.settle calls).2 with
      | next => exact ih hrest hkind hrecord' _
      | stop => exact absurd hsettle hgoesOn
      | invalid message => rfl

/-- The same from the start of the chain on. -/
theorem failure_startRules {rules : List Rule} {start : Option Value}
    (hrules : ∀ rule ∈ rules, rule.Steady env field kind)
    (hvalue : kind (start.getD (s.record.get field))) :
    ((startRules env field rules start).ending s).map Outcome.failure =
      firstFailure? env field (start.getD (s.record.get field)) s rules :=
  failure_runLinks hrules hvalue hvalue rfl false

section

variable {rules : List Rule} {start : Option Value}

/-- Steady rules find a value valid together if each of them accepts it alone. -/
theorem ends_valid_iff (hrules : ∀ rule ∈ rules, rule.Steady env field kind)
    (hvalue : kind (start.getD (s.record.get field))) :
    (∃ outcome, (startRules env field rules start).ending s = some outcome ∧
      outcome.valid = true) ↔
      ∀ rule ∈ rules, rule.accepts? env field (start.getD (s.record.get field)) s = some true := by
  have hfailure := failure_startRules hrules hvalue
  calc (∃ outcome, (startRules env field rules start).ending s = some outcome ∧
        outcome.valid = true)
      ↔ ((startRules env field rules start).ending s).map Outcome.failure = some none := by
        simp only [Option.map_eq_some_iff, Outcome.valid, Option.isNone_iff_eq_none]
    _ ↔ ∀ rule ∈ rules,
        rule.failure? env field (start.getD (s.record.get field)) s = some none := by
        rw [hfailure, firstFailure?, findSomeM?_eq_none_iff]
    _ ↔ _ := by simp only [accepts?_eq_true_iff]

/-- They fail together as the first of them does that does not accept the value alone. -/
theorem ends_invalid_iff (hrules : ∀ rule ∈ rules, rule.Steady env field kind)
    (hvalue : kind (start.getD (s.record.get field))) {failure : Failure} :
    (∃ outcome, (startRules env field rules start).ending s = some outcome ∧
      outcome.failure = some failure) ↔
      ∃ before rule after, rules = before ++ rule :: after ∧
        (∀ other ∈ before,
          other.accepts? env field (start.getD (s.record.get field)) s = some true) ∧
        ∃ outcome, rule.judge env field (start.getD (s.record.get field)) s = some outcome ∧
          outcome.failure = some failure := by
  have hfailure := failure_startRules hrules hvalue
  rw [← Option.map_eq_some_iff, hfailure, firstFailure?, findSomeM?_eq_some_iff]
  simp only [accepts?_eq_true_iff, failure?, Option.map_eq_some_iff]

/-- If each of them comes to a decision alone, they do so together. -/
theorem exists_ending (hrules : ∀ rule ∈ rules, rule.Steady env field kind)
    (hvalue : kind (start.getD (s.record.get field)))
    (hdecided : ∀ rule ∈ rules,
      rule.accepts? env field (start.getD (s.record.get field)) s ≠ none) :
    ∃ outcome, (startRules env field rules start).ending s = some outcome := by
  have hfailure := failure_startRules hrules hvalue
  have hfound : ∃ found,
      firstFailure? env field (start.getD (s.record.get field)) s rules = some found := by
    refine exists_findSomeM?_eq_some fun rule hrule => ?_
    obtain ⟨accepted, haccepted⟩ := Option.ne_none_iff_exists'.mp (hdecided rule hrule)
    obtain ⟨outcome, houtcome, _⟩ := Option.map_eq_some_iff.mp haccepted
    exact ⟨outcome.failure, congrArg (Option.map Outcome.failure) houtcome⟩
  obtain ⟨found, hfound⟩ := hfound
  obtain ⟨outcome, houtcome, _⟩ := Option.map_eq_some_iff.mp (hfailure.trans hfound)
  exact ⟨outcome, houtcome⟩

end

end Rule

theorem SiblingCheck.decide_ne_stop {check : SiblingCheck} (hcheck : check ≠ .ifValid)
    (value : Value) (siblings : List Value) (someFailed : Bool) :
    check.decide value siblings someFailed ≠ .stop := by
  cases check with
  | ifValid => exact absurd rfl hcheck
  | _ =>
    simp only [decide]
    split <;> nofun

namespace Check

/-- A check that goes on or fails, and leaves the value as it is. -/
def Judges : Check → Prop
  | predicate find _ => ∀ value replacement, find value ≠ .replace replacement
  | siblings check _ _ => check ≠ .ifValid
  | transform _ _ | upper | date _ _ _ | custom _ _ => False
  | pattern _ _ | sized _ _ | trigger _ _ _ _ | foreign _ _ _ _ _ | itemMatch _ _ _ _ _
  | membership _ _ _ => True

theorem Judges.isolated {check : Check} (hcheck : check.Judges) : check.isolated := by
  cases check with
  | siblings check fields wording =>
    cases check with
    | ifValid => exact absurd rfl hcheck
    | _ => rfl
  | transform => exact hcheck.elim
  | _ => rfl

/-- The calls of a turn that neither replace the value nor stop the chain. -/
def JudgingCalls (calls : List Call) : Prop :=
  (Call.settle calls).1 = none ∧ (Call.settle calls).2 ≠ .stop

theorem judgingCalls_goOn : JudgingCalls goOn := ⟨rfl, nofun⟩

theorem judgingCalls_fail (message : String) : JudgingCalls (fail message) := ⟨rfl, nofun⟩

theorem judgingCalls_passIf (valid : Bool) (wording : Wording) (value : Value)
    (record : Record) : JudgingCalls (passIf valid wording value record) := by
  cases valid with
  | true => exact judgingCalls_goOn
  | false => exact judgingCalls_fail _

theorem judgingCalls_foreignCalls (env : Environment) (s : RunState) (field : String)
    (failOnMatch : Bool) (wording : Wording) (value : Value) (answer : Option (List Instance)) :
    JudgingCalls (foreignCalls env s field failOnMatch wording value answer) := by
  cases answer with
  | none => exact judgingCalls_goOn
  | some members => exact judgingCalls_passIf ..

theorem Judges.judgingCalls {check : Check} (hcheck : check.Judges) {env : Environment}
    {turn : Turn} {s : RunState} {calls : List Call}
    (hends : (check.act env turn).ending s = some calls) : JudgingCalls calls := by
  cases check with
  | predicate find wording =>
    cases hends
    cases hfind : find turn.value with
    | valid => exact judgingCalls_goOn
    | replace replacement => exact absurd hfind (hcheck _ _)
    | invalid => exact judgingCalls_fail _
  | pattern p wording =>
    cases hends
    exact judgingCalls_passIf ..
  | sized isInvalid wording =>
    cases hends
    unfold sizedCalls
    split
    · split
      · exact judgingCalls_fail _
      · exact judgingCalls_goOn
    · exact judgingCalls_goOn
  | siblings check fields wording =>
    have hnext := check.decide_ne_stop hcheck turn.value (fields.map s.record.get)
      (fields.any s.hasFailed)
    simp only [act, Job.ending, Job.alone] at hends
    cases hdecide : check.decide turn.value (fields.map s.record.get) (fields.any s.hasFailed) with
    | next =>
      rw [hdecide] at hends
      cases hends
      exact judgingCalls_goOn
    | stop => exact absurd hdecide hnext
    | invalid =>
      rw [hdecide] at hends
      cases hends
      exact judgingCalls_fail _
  | trigger field triggers requiredWhenListed wording =>
    cases hends
    exact judgingCalls_passIf ..
  | foreign model field source failOnMatch wording =>
    simp only [act, Job.ending, Job.alone] at hends
    split at hends
    · cases hends
      exact judgingCalls_goOn
    · cases source with
      | given members =>
        cases hends
        exact judgingCalls_passIf ..
      | lookup timeout =>
        rw [Job.alone_bind, Option.map_bind, Option.bind_eq_some_iff] at hends
        obtain ⟨⟨answer, t⟩, _, hcalls⟩ := hends
        cases hcalls
        exact judgingCalls_foreignCalls ..
  | itemMatch field expected equal failOnMatch wording =>
    cases hends
    exact judgingCalls_passIf ..
  | membership members failWhenListed wording =>
    cases hends
    exact judgingCalls_passIf ..
  | _ => exact hcheck.elim

/-- Whatever such a check says about a value, it says about no other one. -/
theorem Judges.steady {check : Check} (hcheck : check.Judges) (name : String) (env : Environment)
    (field : String) (value : Value) :
    (Rule.check name check).Steady env field (· = value) where
  isolated := hcheck.isolated
  settles := by
    rintro given s calls rfl hends
    rw [Rule.act] at hends
    obtain ⟨hkept, hgoesOn⟩ := hcheck.judgingCalls hends
    exact ⟨by rw [hkept, Option.getD_none], hgoesOn⟩
  verdict?_eq := by
    rintro given given' s rfl rfl
    rfl

end Check

/-- The calls of a rule about dates depend only on the time of the value. -/
theorem Check.dateCalls_congr {value value' : Value} (htime : value'.time? = value.time?)
    (date : Option Int) (isInvalid : Int → Int → Bool) (wording : Wording) (record : Record) :
    dateCalls date isInvalid wording value' record =
      dateCalls date isInvalid wording value record := by
  rw [dateCalls, dateCalls, htime]

/-- A rule about dates puts the time in place of the value, and says the same about the time. -/
theorem Check.steady_date (expression : Calendar.Expression) (isInvalid : Int → Int → Bool)
    (wording : Wording) (name : String) (env : Environment) (field : String) (value : Value) :
    (Rule.check name (.date expression isInvalid wording)).Steady env field
      fun given => given.time? = value.time? where
  isolated := rfl
  settles := by
    intro given s calls hgiven hends
    rw [Rule.act] at hends
    cases hends
    unfold dateCalls
    cases htime : given.time? with
    | none => exact ⟨hgiven, judgingCalls_goOn.2⟩
    | some time =>
      dsimp only
      rw [Call.settle_update_cons]
      refine ⟨?_, (judgingCalls_passIf ..).2⟩
      rw [(judgingCalls_passIf ..).1]
      exact (Value.time?_int htime).trans (htime.symm.trans hgiven)
  verdict?_eq := by
    intro given given' s hgiven hgiven'
    have hsame : given'.time? = given.time? := hgiven'.trans hgiven.symm
    simp only [Rule.verdict?, Rule.act, act, Job.ending, Job.alone, dateCalls_congr hsame]

end FieldRules
