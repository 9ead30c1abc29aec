import FieldRules.Chain.Basic
import FieldRules.Proofs.Job.Alone

namespace FieldRules

theorem Job.bind_bind {σ α β γ : Type} (job : Job σ α) (f : α → Job σ β) (g : β → Job σ γ) :
    (job.bind f).bind g = job.bind fun a => (f a).bind g := by
  induction job with
  | done a => rfl
  | observe next ih => exact congrArg Job.observe (funext ih)
  | modify change next ih => exact congrArg (Job.modify change) ih
  | wait ms next ih => exact congrArg (Job.wait ms) ih
  | never => rfl

namespace Chain

variable {σ : Type}

/-- Gives the links their turns as `runLinks` does, and ends with the working value for the links
    after them and with whether it has been replaced, or with the outcome if there is one before. -/
def through (field : String) :
    List (Link σ) → Value → (updated : Bool) → Job σ (Except Outcome (Value × Bool))
  | [], value, updated => .done (.ok (value, updated))
  | link :: links, value, updated =>
    (link.act ⟨field, link.rule, .running, value⟩).bind fun calls =>
      let (update, verdict) := Call.settle calls
      let value := update.getD value
      let updated := updated || update.isSome
      match verdict with
      | .next => .observe fun _ => through field links value updated
      | .stop => .done (.error ⟨field, value, updated, none, .ended⟩)
      | .invalid message =>
        .done (.error ⟨field, value, updated, some ⟨link.rule, message⟩, .ended⟩)

/-- Gives further links their turns, unless there is an outcome already. -/
def further (field : String) (links : List (Link σ)) :
    Except Outcome (Value × Bool) → Job σ Outcome
  | .error outcome => .done outcome
  | .ok (value, updated) => runLinks field links value updated

theorem runLinks_append (field : String) (front back : List (Link σ)) (value : Value)
    (updated : Bool) :
    runLinks field (front ++ back) value updated =
      (through field front value updated).bind (further field back) := by
  induction front generalizing value updated with
  | nil => rfl
  | cons link links ih =>
    rw [List.cons_append, runLinks, through, Job.bind_bind]
    congr 1
    funext calls
    obtain ⟨update, verdict⟩ := Call.settle calls
    cases verdict with
    | next => exact congrArg Job.observe (funext fun _ => ih _ _)
    | stop => rfl
    | invalid message => rfl

/-- From where some links have left off, a chain ends as the links after them do. -/
theorem alone_runLinks_append {field : String} {front : List (Link σ)} {value value' : Value}
    {updated updated' : Bool} {s t : σ}
    (hfront : (through field front value updated).alone s = some (.ok (value', updated'), t))
    (back : List (Link σ)) :
    (runLinks field (front ++ back) value updated).alone s =
      (runLinks field back value' updated').alone t := by
  rw [runLinks_append, Job.alone_bind, hfront]
  rfl

section

variable {ν : Type} {view : σ → ν} {field : String} {link : Link σ} {value : Value}
  {updated : Bool} {calls : List Call} {s t : σ}

/-- A link that goes on, and leaves everything that shows as it is, might as well not be there. -/
theorem shown_runLinks_cons_of_next {links : List (Link σ)}
    (hlinks : (runLinks field links value updated).Bounded view (Job.Respects view))
    (hact : (link.act ⟨field, link.rule, .running, value⟩).alone s = some (calls, t))
    (hsettle : Call.settle calls = (none, .next)) (hview : view t = view s) :
    Job.shown view ((runLinks field (link :: links) value updated).alone s) =
      Job.shown view ((runLinks field links value updated).alone s) := by
  have hrest : (runLinks field (link :: links) value updated).alone s =
      (runLinks field links value updated).alone t := by
    rw [runLinks, Job.alone_bind, hact, Option.bind_some, hsettle]
    simp only [Option.getD_none, Option.isSome_none, Bool.or_false, Job.alone]
  rw [hrest]
  exact hlinks.shown_alone hview

/-- A link that stops, and leaves everything that shows as it is, might as well be the end of its
    chain. -/
theorem shown_runLinks_cons_of_stop (links : List (Link σ))
    (hact : (link.act ⟨field, link.rule, .running, value⟩).alone s = some (calls, t))
    (hsettle : Call.settle calls = (none, .stop)) (hview : view t = view s) :
    Job.shown view ((runLinks field (link :: links) value updated).alone s) =
      Job.shown view ((runLinks field [] value updated).alone s) := by
  have hends : (runLinks field (link :: links) value updated).alone s =
      some (⟨field, value, updated, none, .ended⟩, t) := by
    rw [runLinks, Job.alone_bind, hact, Option.bind_some, hsettle]
    simp only [Option.getD_none, Option.isSome_none, Bool.or_false, Job.alone]
  rw [hends]
  exact congrArg (fun shows => some (_, shows)) hview

/-- A link that fails ends its chain, with its message. -/
theorem shown_runLinks_cons_of_invalid (links : List (Link σ)) {message : String}
    (hact : (link.act ⟨field, link.rule, .running, value⟩).alone s = some (calls, t))
    (hsettle : Call.settle calls = (none, .invalid message)) (hview : view t = view s) :
    Job.shown view ((runLinks field (link :: links) value updated).alone s) =
      some (⟨field, value, updated, some ⟨link.rule, message⟩, .ended⟩, view s) := by
  have hends : (runLinks field (link :: links) value updated).alone s =
      some (⟨field, value, updated, some ⟨link.rule, message⟩, .ended⟩, t) := by
    rw [runLinks, Job.alone_bind, hact, Option.bind_some, hsettle]
    simp only [Option.getD_none, Option.isSome_none, Bool.or_false, Job.alone]
  rw [hends]
  exact congrArg (fun shows => some (_, shows)) hview

end

end Chain

end FieldRules
