import FieldRules.Proofs.Rule.Bounded
import FieldRules.Proofs.Rule.Judge
import FieldRules.Proofs.Rule.Reach

namespace FieldRules

/-- What a source has to offer a rule about the records of a model: their collection, or none if the
    query for it fails or is not answered within its limit. Without a limit, a query that is never
    answered is waited for. -/
inductive Source.Answers (env : Environment) (query : Query) :
    Source → Option (List Instance) → Prop
  | given (members : List Instance) : Answers env query (.given members) (some members)
  | found {timeout : Option Nat} {delay : Nat} {members : List Instance}
      (hreply : env.reply query = .answers delay (some members))
      (hintime : ∀ limit ∈ timeout, delay ≤ limit) :
      Answers env query (.lookup timeout) (some members)
  | failed {timeout : Option Nat} {delay : Nat} (hreply : env.reply query = .answers delay none)
      (hintime : ∀ limit ∈ timeout, delay ≤ limit) : Answers env query (.lookup timeout) none
  | late {limit delay : Nat} {members : Option (List Instance)}
      (hreply : env.reply query = .answers delay members) (hlate : limit < delay) :
      Answers env query (.lookup (some limit)) none
  | silent {limit : Nat} (hreply : env.reply query = .pending) :
      Answers env query (.lookup (some limit)) none

namespace Job

variable {σ α : Type}

theorem alone_pause (ms : Nat) (job : Job σ α) (s : σ) : (pause ms job).alone s = job.alone s := by
  unfold pause
  split <;> rfl

end Job

namespace Environment

variable {env : Environment} {query : Query} {s : RunState}

/-- A lookup ends with what its source answers. -/
theorem lookup_alone {timeout : Option Nat} {answer : Option (List Instance)}
    (hanswers : (Source.lookup timeout).Answers env query answer) :
    (env.lookup timeout query).alone s = some (answer, s.noteLookup query.model) := by
  unfold lookup
  cases hanswers with
  | found hreply hintime =>
    rw [hreply]
    cases timeout with
    | none => exact Job.alone_pause ..
    | some limit => simp [Job.alone, Job.alone_pause, hintime limit rfl]
  | failed hreply hintime =>
    rw [hreply]
    cases timeout with
    | none => exact Job.alone_pause ..
    | some limit => simp [Job.alone, Job.alone_pause, hintime limit rfl]
  | late hreply hlate =>
    rw [hreply]
    simp [Job.alone, Job.alone_pause, Nat.not_le.mpr hlate]
  | silent hreply =>
    rw [hreply]
    exact Job.alone_pause ..

/-- A source has an answer, unless it is a lookup without a limit that never gets one. -/
theorem exists_answers_or_never (env : Environment) (query : Query) (source : Source) :
    (∃ answer, source.Answers env query answer) ∨
      source = .lookup none ∧ env.reply query = .pending := by
  cases source with
  | given members => exact .inl ⟨_, .given members⟩
  | lookup timeout =>
    cases hreply : env.reply query with
    | pending =>
      cases timeout with
      | none => exact .inr ⟨rfl, rfl⟩
      | some limit => exact .inl ⟨_, .silent hreply⟩
    | answers delay members =>
      left
      by_cases hintime : ∀ limit ∈ timeout, delay ≤ limit
      · cases members with
        | some members => exact ⟨_, .found hreply hintime⟩
        | none => exact ⟨_, .failed hreply hintime⟩
      · cases timeout with
        | none => simp at hintime
        | some limit => exact ⟨_, .late hreply (by simpa using hintime)⟩

theorem hasMatch_iff {field : String} {value : Value} {members : List Instance} :
    env.hasMatch s field value members = true ↔
      ∃ member ∈ members, env.isSubject member = false ∧
        value.equal (memberValue s field member) = true := by
  simp [hasMatch]

/-- Matches are found among other records only, in whatever order and number they come. -/
theorem hasMatch_congr {env' : Environment} (hbare : env'.bare = env.bare)
    {members members' : List Instance}
    (hothers : ∀ member, env.isSubject member = false → (member ∈ members ↔ member ∈ members'))
    (field : String) (value : Value) :
    env'.hasMatch s field value members' = env.hasMatch s field value members := by
  have hsubject : ∀ member, env'.isSubject member = env.isSubject member := by
    intro member
    cases member with
    | self => exact congrArg (! ·) hbare
    | other record => rfl
  rw [Bool.eq_iff_iff, hasMatch_iff, hasMatch_iff]
  refine exists_congr fun member => ?_
  rw [hsubject]
  constructor
  · rintro ⟨hmem, hother, hequal⟩
    exact ⟨(hothers member hother).mpr hmem, hother, hequal⟩
  · rintro ⟨hmem, hother, hequal⟩
    exact ⟨(hothers member hother).mp hmem, hother, hequal⟩

end Environment

namespace Rule

/-- A rule that decides by the other records of a model: it compares the value with what they have
    in a field, and fails if there is a match, or if there is none. -/
structure DecidesByOthers (env : Environment) (rule : Rule) (model matchField : String)
    (source : Source) (failOnMatch : Bool) : Prop where
  /-- It fails by what is in the collection, but for the record under validation itself. -/
  fails_iff : ∀ {field : String} {value : Value} {s : RunState} {members : List Instance},
    value.isNull = false →
    source.Answers env ⟨[], field, rule.name, model, matchField⟩ (some members) →
    (rule.accepts? env field value s = some false ↔
      ((∃ member ∈ members, env.isSubject member = false ∧
        value.equal (Environment.memberValue s matchField member) = true) ↔ failOnMatch = true))
  /-- Then it ends its chain, and otherwise the chain ends as it does without this rule. -/
  outcome : ∀ {field : String} {front : List Rule} {start : Option Value} {value : Value}
    {updated : Bool} {s t : RunState} {members : List Instance},
    Reaches env field front start s value updated t →
    value.isNull = false →
    source.Answers env ⟨[], field, rule.name, model, matchField⟩ (some members) →
    ∀ back : List Rule,
      rule.accepts? env field value t = some false ∧
          (∃ message, Job.shown RunState.seen
              ((startRules env field (front ++ rule :: back) start).alone s) =
            some (⟨field, value, updated, some ⟨rule.name, message⟩, .ended⟩, t.seen)) ∨
        rule.accepts? env field value t = some true ∧
          Job.shown RunState.seen ((startRules env field (front ++ rule :: back) start).alone s) =
            Job.shown RunState.seen ((startRules env field (front ++ back) start).alone s)
  /-- Null, and a value for which there is no collection, pass as if this rule were not there. -/
  unresolved : ∀ {field : String} {front : List Rule} {start : Option Value} {value : Value}
    {updated : Bool} {s t : RunState}, Reaches env field front start s value updated t →
    value.isNull = true ∨ source.Answers env ⟨[], field, rule.name, model, matchField⟩ none →
    ∀ back : List Rule,
      Job.shown RunState.seen ((startRules env field (front ++ rule :: back) start).alone s) =
        Job.shown RunState.seen ((startRules env field (front ++ back) start).alone s)
  /-- A chain waits without end for a lookup that neither answers nor has a limit. -/
  never : ∀ {field : String} {front : List Rule} {start : Option Value} {value : Value}
    {updated : Bool} {s t : RunState}, Reaches env field front start s value updated t →
    value.isNull = false →
    (∀ answer, ¬source.Answers env ⟨[], field, rule.name, model, matchField⟩ answer) →
    ∀ back : List Rule,
      (startRules env field (front ++ rule :: back) start).alone s = none

section

variable {env : Environment} {model matchField : String} {source : Source} {failOnMatch : Bool}
  {wording : Wording}

/-- Null is not looked up. -/
theorem foreign_alone_of_null (name : String) {field : String} {value : Value}
    (hnull : value.isNull = true) (s : RunState) :
    ((check name (.foreign model matchField source failOnMatch wording)).act env
        ⟨field, name, .running, value⟩).alone s = some (Check.goOn, s) := by
  simp only [act, Check.act, Job.alone, hnull, if_true]

/-- A value is judged by the answer of the source, and the record and the failures of the run stay
    as they are. -/
theorem foreign_alone (name : String) {field : String} {value : Value}
    {answer : Option (List Instance)} (hvalue : value.isNull = false)
    (hanswers : source.Answers env ⟨[], field, name, model, matchField⟩ answer) (s : RunState) :
    ∃ t, t.seen = s.seen ∧
      ((check name (.foreign model matchField source failOnMatch wording)).act env
          ⟨field, name, .running, value⟩).alone s =
        some (Check.foreignCalls env s matchField failOnMatch wording value answer, t) := by
  cases source with
  | given members =>
    cases hanswers
    refine ⟨s, rfl, ?_⟩
    simp only [act, Check.act, Job.alone, hvalue, Bool.false_eq_true, if_false]
  | lookup timeout =>
    -- The lookup is noted, and the record is read again after it.
    refine ⟨s.noteLookup model, rfl, ?_⟩
    have hrecord : (s.noteLookup model).record = s.record := rfl
    simp only [act, Check.act, Job.alone, hvalue, Bool.false_eq_true, if_false, Job.alone_bind,
      env.lookup_alone hanswers, Option.bind_some, Check.foreignCalls_congr hrecord]

theorem foreign_alone_of_never (name : String) {field : String} {value : Value}
    (hvalue : value.isNull = false)
    (hpending : env.reply ⟨[], field, name, model, matchField⟩ = .pending) (s : RunState) :
    ((check name (.foreign model matchField (.lookup none) failOnMatch wording)).act env
        ⟨field, name, .running, value⟩).alone s = none := by
  simp only [act, Check.act, Job.alone, hvalue, Bool.false_eq_true, if_false, Job.alone_bind,
    Environment.lookup, hpending, Option.bind_none]

theorem accepts?_foreign (name : String) {members : List Instance} {field : String} {value : Value}
    {s : RunState} (hvalue : value.isNull = false)
    (hanswers : source.Answers env ⟨[], field, name, model, matchField⟩ (some members)) :
    (check name (.foreign model matchField source failOnMatch wording)).accepts? env field value s =
      some (env.hasMatch s matchField value members != failOnMatch) := by
  obtain ⟨t, _, hact⟩ := foreign_alone name hvalue hanswers s
  exact accepts?_of_passIf hact

/-- Two collections with the same other records make no difference, not even in the message. -/
theorem judge_foreign_congr (name : String) {env' : Environment} {model' : String}
    {source' : Source} {field : String} {members members' : List Instance}
    (hbare : env'.bare = env.bare)
    (hanswers : source.Answers env ⟨[], field, name, model, matchField⟩ (some members))
    (hanswers' : source'.Answers env' ⟨[], field, name, model', matchField⟩ (some members'))
    (hothers : ∀ member, env.isSubject member = false → (member ∈ members ↔ member ∈ members'))
    (value : Value) (s : RunState) :
    (check name (.foreign model' matchField source' failOnMatch wording)).judge env' field value s =
      (check name (.foreign model matchField source failOnMatch wording)).judge env field value
        s := by
  refine judge_congr rfl ?_
  rw [Rule.name]
  by_cases hnull : value.isNull = true
  · rw [Job.ending_of_alone (foreign_alone_of_null name hnull s),
      Job.ending_of_alone (foreign_alone_of_null name hnull s)]
  · have hvalue : value.isNull = false := Bool.eq_false_iff.mpr hnull
    obtain ⟨t, _, hact⟩ := foreign_alone name hvalue hanswers s
    obtain ⟨t', _, hact'⟩ := foreign_alone name hvalue hanswers' s
    rw [Job.ending_of_alone hact, Job.ending_of_alone hact', Check.foreignCalls, Check.foreignCalls,
      Environment.hasMatch_congr hbare hothers]

theorem foreign_decidesByOthers (env : Environment) (name model matchField : String)
    (source : Source) (failOnMatch : Bool) (wording : Wording) :
    (check name (.foreign model matchField source failOnMatch wording)).DecidesByOthers env model
      matchField source failOnMatch where
  fails_iff := by
    intro field value s members hvalue hanswers
    rw [Rule.name] at hanswers
    rw [accepts?_foreign name hvalue hanswers, ← Environment.hasMatch_iff]
    cases failOnMatch <;> simp
  outcome := by
    intro field front start value updated s t members hreaches hvalue hanswers back
    rw [Rule.name] at hanswers
    obtain ⟨t', hseen, hact⟩ := foreign_alone name hvalue hanswers t
    have hsettle : Call.settle (Check.foreignCalls env t matchField failOnMatch wording value
        (some members)) = _ :=
      Check.settle_passIf (env.hasMatch t matchField value members != failOnMatch) wording value _
    rw [accepts?_foreign name hvalue hanswers, hreaches.alone_append, hreaches.alone_append,
      List.map_cons]
    cases hmatch : env.hasMatch t matchField value members != failOnMatch with
    | false =>
      rw [hmatch] at hsettle
      exact .inl ⟨rfl, _, Chain.shown_runLinks_cons_of_invalid _ hact hsettle hseen⟩
    | true =>
      rw [hmatch] at hsettle
      exact .inr ⟨rfl, Chain.shown_runLinks_cons_of_next
        (runLinks_respects env field back value updated) hact hsettle hseen⟩
  unresolved := by
    intro field front start value updated s t hreaches hunresolved back
    have hact : ∃ t', t'.seen = t.seen ∧
        ((check name (.foreign model matchField source failOnMatch wording)).act env
          ⟨field, name, .running, value⟩).alone t = some (Check.goOn, t') := by
      by_cases hnull : value.isNull = true
      · exact ⟨t, rfl, foreign_alone_of_null name hnull t⟩
      · have hvalue : value.isNull = false := Bool.eq_false_iff.mpr hnull
        exact foreign_alone name hvalue (hunresolved.resolve_left hnull) t
    obtain ⟨t', hseen, hact⟩ := hact
    rw [hreaches.alone_append, hreaches.alone_append, List.map_cons]
    exact Chain.shown_runLinks_cons_of_next (runLinks_respects env field back value updated) hact
      rfl hseen
  never := by
    intro field front start value updated s t hreaches hvalue hnever back
    obtain ⟨answer, hanswers⟩ | ⟨rfl, hpending⟩ :=
      Environment.exists_answers_or_never env ⟨[], field, name, model, matchField⟩ source
    · exact absurd hanswers (hnever answer)
    · rw [hreaches.alone_append, List.map_cons, Chain.runLinks, Job.alone_bind]
      exact congrArg (Option.bind · _) (foreign_alone_of_never name hvalue hpending t)

end

end Rule

end FieldRules
