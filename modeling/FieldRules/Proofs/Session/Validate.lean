import FieldRules.Proofs.Job.Shadow
import FieldRules.Session

namespace FieldRules

/-- A job with a step behind it ends as it does without this step, which then changes the state. -/
theorem Job.run_bind_modify {σ α β : Type} (job : Job σ α) (change : α → σ → σ) (f : α → β)
    (patience : Nat) (s : σ) :
    (job.bind fun a => .modify (change a) (.done (f a))).run patience s =
      match job.run patience s with
      | (none, t) => (none, t)
      | (some a, t) => (some (f a), change a t) := by
  induction job generalizing patience s with
  | done a => rfl
  | observe next ih => exact ih s patience s
  | modify g next ih => exact ih patience (g s)
  | wait ms next ih =>
    simp only [bind, run]
    split
    · exact ih (patience - ms) s
    · rfl
  | never => rfl

/-- The start of a run is told before its chains run, and its end if all of them have ended. -/
theorem Validator.run_conduct {σ : Type} (tell : Hook → σ → σ) (chains : Job σ (List Outcome))
    (patience : Nat) (s : σ) :
    (conduct tell chains).run patience s =
      match chains.run patience (tell .start s) with
      | (none, t) => (none, t)
      | (some outcomes, t) =>
        (some (Report.ofOutcomes outcomes), tell (.ofReport (.ofOutcomes outcomes)) t) := by
  rw [conduct, Job.run, Job.run_bind_modify]
  rcases chains.run patience (tell .start s) with ⟨_ | outcomes, t⟩ <;> rfl

@[simp] theorem Memory.tell_start (memory : Memory) :
    memory.tell .start = ⟨memory.events ++ [.start], memory.last⟩ :=
  rfl

/-- Either end of a run leaves its report. -/
@[simp] theorem Memory.tell_ofReport (report : Report) (memory : Memory) :
    memory.tell (.ofReport report) =
      ⟨memory.events ++ [if report.valid then .pass else .fail], some report⟩ := by
  unfold Hook.ofReport
  split <;> rfl

namespace Session

/-- A validation tells the record that it starts, lets the chains go as far as they will, and tells
    how they have ended if all of them have. -/
theorem validateFor_eq (session : Session) (patience : Nat) :
    session.validateFor patience =
      let started := session.env.tell .start session.memory
      match (session.validator.run session.env).run patience session.atStart with
      | (none, s) => (none, session.after s started)
      | (some outcomes, s) =>
        let report := Report.ofOutcomes outcomes
        (some report, session.after s (session.env.tell (.ofReport report) started)) := by
  rw [validateFor, Validator.validate, Validator.run_conduct, Prod.map_apply, Job.run_zoom_fst, id]
  rcases (session.validator.run session.env).run patience session.atStart with ⟨_ | outcomes, s⟩ <;>
    rfl

theorem validateFor_report (session : Session) (patience : Nat) :
    (session.validateFor patience).1 =
      ((session.validator.run session.env).run patience session.atStart).1.map
        Report.ofOutcomes := by
  rw [validateFor_eq]
  rcases (session.validator.run session.env).run patience session.atStart with ⟨_ | outcomes, s⟩ <;>
    rfl

/-- A record that listens is told of the start and of the end of a run. -/
theorem events_after (session : Session) (s : RunState) (report : Report) :
    (session.after s
        (session.env.tell (.ofReport report) (session.env.tell .start session.memory))).events =
      if session.env.bare then session.events
      else session.events ++ [.start, if report.valid then .pass else .fail] := by
  unfold Environment.tell
  cases session.env.bare with
  | true => rfl
  | false => simp [after, memory]

/-- Telling the record about a run is no part of the run. -/
theorem validateFor_state (session : Session) (patience : Nat) :
    let s := ((session.validator.run session.env).run patience session.atStart).2
    (session.validateFor patience).2.record = s.record ∧
      (session.validateFor patience).2.asked = s.asked := by
  rw [validateFor_eq]
  rcases (session.validator.run session.env).run patience session.atStart with ⟨_ | outcomes, s⟩ <;>
    exact ⟨rfl, rfl⟩

end Session

end FieldRules
