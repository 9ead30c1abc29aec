import FieldRules.Chain.Basic
import FieldRules.Proofs.Job.Ends

namespace FieldRules

namespace Call

/-- The value that a call puts in place of the working value. -/
def value? : Call → Option Value
  | update value => some value
  | finish _ => none

/-- The verdict that a call gives. -/
def verdict? : Call → Option Verdict
  | update _ => none
  | finish verdict => some verdict

/-- The updates among some calls that count: those before the first verdict. -/
def effective (calls : List Call) : List Value :=
  (calls.takeWhile fun call => call.verdict?.isNone).filterMap value?

theorem effective_update_cons (value : Value) (calls : List Call) :
    effective (.update value :: calls) = value :: effective calls := rfl

theorem settle_update_cons (value : Value) (calls : List Call) :
    settle (.update value :: calls) = ((settle calls).1.or (some value), (settle calls).2) := by
  rw [settle]
  split
  · next verdict hsettle => simp [hsettle]
  · next hsettle =>
    cases hupdate : (settle calls).1 with
    | none => exact (hsettle (settle calls).2 (Prod.ext hupdate rfl)).elim
    | some last => exact Prod.ext hupdate rfl

/-- Calls settle on the last update that counts and on the first verdict, or else on stopping. -/
theorem settle_eq (calls : List Call) :
    settle calls = ((effective calls).getLast?, (calls.findSome? verdict?).getD .stop) := by
  induction calls with
  | nil => rfl
  | cons call calls ih =>
    cases call with
    | update value =>
      rw [settle_update_cons, ih, effective_update_cons]
      cases hlast : (effective calls).getLast? with
      | none =>
        rw [List.getLast?_eq_none_iff] at hlast
        rw [hlast]
        rfl
      | some last =>
        rw [List.getLast?_cons, hlast]
        rfl
    | finish verdict => rfl

end Call

/-- One turn of a link: the value that it was given, and all the calls that it made. -/
structure Visit (σ : Type) where
  link : Link σ
  given : Value
  calls : List Call

namespace Visit

variable {σ : Type}

/-- The updates of a turn that count. -/
def updates (visit : Visit σ) : List Value := Call.effective visit.calls

/-- The first verdict of a turn, if there was any. -/
def verdict? (visit : Visit σ) : Option Verdict := visit.calls.findSome? Call.verdict?

/-- The working value after the turn. -/
def left (visit : Visit σ) : Value := visit.updates.getLastD visit.given

/-- The failure of the chain, if the first verdict says that the value is invalid. -/
def failure? (visit : Visit σ) : Option Failure :=
  match visit.verdict? with
  | some (.invalid message) => some ⟨visit.link.rule, message⟩
  | _ => none

end Visit

/-- The turns that were taken from the state `s` to the state `s'`, one right after another. -/
inductive Visited {σ : Type} (interference : σ → σ → Prop) (field : String) :
    σ → List (Visit σ) → σ → Prop
  | nil (s : σ) : Visited interference field s [] s
  | cons {visit : Visit σ} {visits : List (Visit σ)} {s t s' : σ}
      (hact : (visit.link.act ⟨field, visit.link.rule, .running, visit.given⟩).Ends interference
        s visit.calls t)
      (hrest : Visited interference field t visits s') :
      Visited interference field s (visit :: visits) s'

/-- The turns that links take when the first of them is given `value`: a turn whose first verdict is
    to go on is followed by the next link's, and every other turn is the last. -/
inductive Route {σ : Type} : List (Link σ) → Value → List (Visit σ) → Prop
  | nil (value : Value) : Route [] value []
  | last {link : Link σ} {links : List (Link σ)} {value : Value} {calls : List Call}
      (hlast : (Visit.mk link value calls).verdict? ≠ some .next) :
      Route (link :: links) value [⟨link, value, calls⟩]
  | next {link : Link σ} {links : List (Link σ)} {value : Value} {calls : List Call}
      {visits : List (Visit σ)} (hnext : (Visit.mk link value calls).verdict? = some .next)
      (hrest : Route links (Visit.mk link value calls).left visits) :
      Route (link :: links) value (⟨link, value, calls⟩ :: visits)

/-- What a turn makes of the outcome so far. -/
def Outcome.after {σ : Type} (outcome : Outcome) (visit : Visit σ) : Outcome :=
  { outcome with
    value := visit.updates.getLastD outcome.value
    updated := outcome.updated || !visit.updates.isEmpty
    failure := visit.failure? }

namespace Chain

variable {σ : Type} {interference : σ → σ → Prop} {field : String}

/-- The outcome of a chain before its first link has had its turn. -/
def fresh (field : String) (value : Value) (updated : Bool) : Outcome :=
  ⟨field, value, updated, none, .ended⟩

/-- A chain that goes on has nothing against the value, whatever the turn has made of it. -/
theorem fresh_after {visit : Visit σ} (hnext : visit.verdict? = some .next) (updated : Bool) :
    (fresh field visit.given updated).after visit =
      fresh field visit.left (updated || !visit.updates.isEmpty) := by
  have hfailure : visit.failure? = none := by simp [Visit.failure?, hnext]
  simp only [fresh, Outcome.after, hfailure, Visit.left]

/-- After the turn of the first link either the others go on from what it has left, or the chain has
    ended. -/
theorem runLinks_cons (link : Link σ) (links : List (Link σ)) (value : Value) (updated : Bool) :
    runLinks field (link :: links) value updated =
      (link.act ⟨field, link.rule, .running, value⟩).bind fun calls =>
        let visit : Visit σ := ⟨link, value, calls⟩
        if visit.verdict? = some .next then
          .observe fun _ => runLinks field links visit.left (updated || !visit.updates.isEmpty)
        else .done ((fresh field value updated).after visit) := by
  rw [runLinks]
  congr 1
  funext calls
  have hupdated : (Call.effective calls).getLast?.isSome = !(Call.effective calls).isEmpty := by
    cases hcalls : Call.effective calls with
    | nil => rfl
    | cons => simp
  simp only [Call.settle_eq, hupdated, fresh, Outcome.after, Visit.left, Visit.failure?,
    Visit.updates, Visit.verdict?, List.getLastD_eq_getLast?]
  cases hverdict : calls.findSome? Call.verdict? with
  | none => simp
  | some verdict => cases verdict <;> simp

/-- Links run as a left fold over the turns that they take. Each turn is taken where the one before
    it has left the state, and nothing but its last update and its first verdict comes through. -/
theorem ends_runLinks_iff {links : List (Link σ)} {value : Value} {updated : Bool} {s s' : σ}
    {outcome : Outcome} :
    (runLinks field links value updated).Ends interference s outcome s' ↔
      ∃ visits, Visited interference field s visits s' ∧ Route links value visits ∧
        outcome = visits.foldl Outcome.after (fresh field value updated) := by
  induction links generalizing value updated s with
  | nil =>
    rw [runLinks, Job.ends_done_iff]
    constructor
    · rintro ⟨rfl, rfl⟩
      exact ⟨[], .nil s', .nil value, rfl⟩
    · rintro ⟨visits, hvisited, hroute, rfl⟩
      cases hroute
      cases hvisited
      exact ⟨rfl, rfl⟩
  | cons link links ih =>
    rw [runLinks_cons, Job.ends_bind_iff]
    constructor
    · rintro ⟨calls, t, hact, hrest⟩
      dsimp only at hrest
      split at hrest
      · next hnext =>
        rw [Job.ends_observe_iff, ih] at hrest
        obtain ⟨visits, hvisited, hroute, rfl⟩ := hrest
        refine ⟨⟨link, value, calls⟩ :: visits, .cons hact hvisited, .next hnext hroute, ?_⟩
        rw [List.foldl_cons, fresh_after hnext]
      · next hlast =>
        rw [Job.ends_done_iff] at hrest
        obtain ⟨rfl, rfl⟩ := hrest
        exact ⟨[⟨link, value, calls⟩], .cons hact (.nil s'), .last hlast, rfl⟩
    · rintro ⟨visits, hvisited, hroute, rfl⟩
      cases hroute with
      | @last _ _ _ calls hlast =>
        obtain _ | ⟨hact, hrest⟩ := hvisited
        cases hrest
        refine ⟨calls, s', hact, ?_⟩
        rw [if_neg hlast, Job.ends_done_iff]
        exact ⟨rfl, rfl⟩
      | @next _ _ _ calls visits hnext hrest =>
        obtain _ | ⟨hact, hvisited⟩ := hvisited
        refine ⟨calls, _, hact, ?_⟩
        rw [if_pos hnext, Job.ends_observe_iff, ih]
        refine ⟨visits, hvisited, hrest, ?_⟩
        rw [List.foldl_cons, fresh_after hnext]

/-- The outcome of a chain is that of its field. -/
theorem field_of_run {chain : Chain σ} {current : σ → String → Value} {start : Option Value}
    {patience : Nat} {s s' : σ} {outcome : Outcome}
    (hrun : (chain.start current start).run patience s = (some outcome, s')) :
    outcome.field = chain.field := by
  have hends := Job.ends_observe_iff.mp (Job.ends_of_run hrun)
  obtain ⟨visits, _, _, rfl⟩ := ends_runLinks_iff.mp hends
  have hfield : ∀ (visits : List (Visit σ)) (outcome : Outcome),
      (visits.foldl Outcome.after outcome).field = outcome.field := by
    intro visits outcome
    induction visits generalizing outcome with
    | nil => rfl
    | cons visit visits ih => exact ih (outcome.after visit)
  exact hfield visits _

end Chain

end FieldRules
