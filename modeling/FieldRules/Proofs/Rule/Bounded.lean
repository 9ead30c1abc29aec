import FieldRules.Proofs.Environment
import FieldRules.Proofs.Job.Bounded
import FieldRules.Proofs.Rule.Sites

namespace FieldRules

/-- Whether a check writes to the record. -/
def Check.writes : Check → Bool
  | .transform .apply _ | .transform .null _ => true
  | _ => false

/-- The field that a check writes to when it is given a value, and what it stores there. -/
def Check.written? (check : Check) (value : Value) : Option (String × Value) :=
  match check with
  | .transform t field => (t.stored? value).map (field, ·)
  | _ => none

theorem Check.written?_eq_none {check : Check} (hwrites : check.writes = false) (value : Value) :
    check.written? value = none := by
  cases check with
  | transform t field =>
    cases t with
    | apply => cases hwrites
    | null => cases hwrites
    | _ => rfl
  | _ => rfl

/-- Other failures make no difference except to the rule that asks for them. -/
theorem SiblingCheck.decide_eq {check : SiblingCheck} (hcheck : check ≠ .ifValid) (value : Value)
    (siblings : List Value) (someFailed someFailed' : Bool) :
    check.decide value siblings someFailed = check.decide value siblings someFailed' := by
  cases check with
  | ifValid => exact absurd rfl hcheck
  | _ => rfl

theorem Job.bounded_within {σ ν : Type} (view : σ → ν) (allowed : (σ → σ) → Prop) :
    InheritedWithin view fun job => job.Bounded view allowed :=
  ⟨fun _ => trivial, .intro, .bind, .all⟩

section

variable {ν : Type} {view : RunState → ν} {allowed : (RunState → RunState) → Prop}

theorem Environment.lookup_bounded (hlookup : ∀ model, allowed (RunState.noteLookup model))
    (env : Environment) (timeout : Option Nat) (query : Query) :
    (env.lookup timeout query).Bounded view allowed := by
  rcases env.lookup_cases timeout query with ⟨_, hcase⟩ | ⟨ms, answer, _, hcase⟩
  · rw [hcase]
    exact ⟨hlookup query.model, trivial⟩
  · have hanswer : (Job.done answer : Job RunState _).Bounded view allowed := trivial
    rw [hcase]
    exact ⟨hlookup query.model, hanswer.pause ms⟩

theorem Check.awaitDecision_bounded (decision : CustomDecision) :
    (awaitDecision decision).Bounded view allowed := by
  induction decision with
  | valid => trivial
  | invalid message => trivial
  | deferred delay decision ih => exact ih.pause delay

theorem Check.foreignCalls_congr {s t : RunState} (hrecord : s.record = t.record)
    (env : Environment) : foreignCalls env s = foreignCalls env t := by
  obtain ⟨record, failures, asked⟩ := s
  obtain ⟨_, failures', asked'⟩ := t
  obtain rfl : record = _ := hrecord
  rfl

/-- A check sees no more than the record, and the failures if it asks for them, and it changes
    nothing but the record, and the list of lookups. -/
theorem Check.act_bounded {check : Check} (hrecord : ∀ s t, view s = view t → s.record = t.record)
    (hfailures : ∀ fields wording, check = .siblings .ifValid fields wording →
      ∀ s t, view s = view t → s.failures = t.failures)
    (hlookup : ∀ model, allowed (RunState.noteLookup model))
    {turn : Turn} (hwrite : ∀ field stored, check.written? turn.value = some (field, stored) →
      allowed (RunState.setField field stored)) (env : Environment) :
    (check.act env turn).Bounded view allowed := by
  refine ⟨fun s t hview => ?_, fun s => ?_⟩
  · have hsame := hrecord s t hview
    cases check with
    | siblings check fields wording =>
      dsimp only
      rw [hsame]
      by_cases hcheck : check = .ifValid
      · subst hcheck
        have hfailed : s.hasFailed = t.hasFailed := by
          funext field
          rw [RunState.hasFailed, RunState.hasFailed, hfailures fields wording rfl s t hview]
        rw [hfailed]
      · rw [SiblingCheck.decide_eq hcheck]
    | foreign model field source failOnMatch wording =>
      dsimp only
      rw [foreignCalls_congr hsame]
    | transform t field => rfl
    | upper => rfl
    | custom name context => rfl
    | _ =>
      dsimp only
      rw [hsame]
  · cases check with
    | siblings check fields wording =>
      dsimp only
      split <;> trivial
    | transform t field =>
      dsimp only
      split
      · next stored hstored =>
        refine ⟨hwrite field stored ?_, trivial⟩
        rw [written?, hstored, Option.map_some]
      · trivial
    | foreign model field source failOnMatch wording =>
      dsimp only
      split
      · trivial
      · cases source with
        | given members => trivial
        | lookup timeout =>
          refine (env.lookup_bounded hlookup timeout _).bind fun members => ⟨?_, fun s => trivial⟩
          intro s t hview
          dsimp only
          rw [foreignCalls_congr (hrecord s t hview)]
    | custom name context => exact awaitDecision_bounded _
    | upper =>
      dsimp only
      split <;> trivial
    | _ => trivial

/-- Any rule is bounded in its turn if lookups and writes are allowed. -/
theorem Rule.act_bounded (hrecord : ∀ s t, view s = view t → s.record = t.record)
    (hfailures : ∀ s t, view s = view t → s.failures = t.failures)
    (hlookup : ∀ model, allowed (RunState.noteLookup model))
    (hwrite : ∀ field stored, allowed (RunState.setField field stored)) (env : Environment)
    (field : String) (rule : Rule) (value : Value) :
    (rule.act env ⟨field, rule.name, .running, value⟩).Bounded view allowed := by
  rw [act_eq_actBy]
  refine (Job.bounded_within view allowed).actBy hrecord env rule field ?_ value
  intro site _ branches given
  exact Check.act_bounded hrecord (fun _ _ _ => hfailures) hlookup
    (fun field stored _ => hwrite field stored) _

theorem Rule.runLinks_bounded (hrecord : ∀ s t, view s = view t → s.record = t.record)
    (hfailures : ∀ s t, view s = view t → s.failures = t.failures)
    (hlookup : ∀ model, allowed (RunState.noteLookup model))
    (hwrite : ∀ field stored, allowed (RunState.setField field stored)) (env : Environment)
    (field : String) (rules : List Rule) (value : Value) (updated : Bool) :
    (Chain.runLinks field (rules.map (link env)) value updated).Bounded view allowed := by
  refine (Job.bounded_within view allowed).runLinks ?_ value updated
  rw [List.forall_mem_map]
  exact fun rule _ given => act_bounded hrecord hfailures hlookup hwrite env field rule given

end

/-- What chains see of the state that they share: lookups leave no trace in it. -/
def RunState.seen (s : RunState) : Record × List (String × String) := (s.record, s.failures)

theorem RunState.record_eq_of_seen {s t : RunState} (hseen : s.seen = t.seen) :
    s.record = t.record :=
  congrArg Prod.fst hseen

theorem RunState.failures_eq_of_seen {s t : RunState} (hseen : s.seen = t.seen) :
    s.failures = t.failures :=
  congrArg Prod.snd hseen

theorem RunState.setField_respects (field : String) (value : Value) :
    Job.Respects RunState.seen (setField field value) := by
  intro s t hseen
  have hrecord : s.record = t.record := record_eq_of_seen hseen
  have hfailures : s.failures = t.failures := failures_eq_of_seen hseen
  exact Prod.ext (congrArg (fun record => record.set field value) hrecord) hfailures

/-- Any rules may stand in a chain: they go by what chains see. -/
theorem Rule.runLinks_respects (env : Environment) (field : String) (rules : List Rule)
    (value : Value) (updated : Bool) :
    (Chain.runLinks field (rules.map (link env)) value updated).Bounded RunState.seen
      (Job.Respects RunState.seen) :=
  runLinks_bounded (fun _ _ => RunState.record_eq_of_seen) (fun _ _ => RunState.failures_eq_of_seen)
    (fun _ => Job.respects_of_keeps fun _ => rfl) RunState.setField_respects env field rules value
    updated

end FieldRules
