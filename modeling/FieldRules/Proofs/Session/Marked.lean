import FieldRules.Proofs.Job.Bounded
import FieldRules.Proofs.Rule.Effects
import FieldRules.Proofs.Session.Logged

namespace FieldRules

theorem RunState.hasFailed_noteFailure (field message other : String) (s : RunState) :
    (s.noteFailure field message).hasFailed other = true ↔
      s.hasFailed other = true ∨ field = other := by
  unfold noteFailure
  split
  · next hfailed =>
    constructor
    · exact .inl
    · rintro (hother | rfl)
      · exact hother
      · exact hfailed
  · simp [hasFailed, List.any_append]

theorem RunState.hasFailed_noteOutcome (outcome : Outcome) (other : String) (s : RunState) :
    (s.noteOutcome outcome).hasFailed other = true ↔
      s.hasFailed other = true ∨ outcome.field = other ∧ outcome.valid = false := by
  unfold noteOutcome Outcome.valid
  cases outcome.failure with
  | none => simp
  | some failure => simp [hasFailed_noteFailure]

/-- A chain whose checks come to no wait is over at once. -/
theorem Validator.part_prompt {field : String} {rules : List Rule}
    (hsites : ∀ site ∈ Rule.allSites field rules, site.check.immediate) (env : Environment) :
    (part Logged.conclude (startRulesLogged env field rules)).Prompt := by
  have hchain := startRules_prompt hsites env none
  have hlogged := (shadows_startRulesLogged env field rules).prompt hchain
  exact hlogged.bind fun outcome l => ⟨outcome, _, rfl⟩

/-- The turns of the links of some rules of a field. -/
def turnsOf (field : String) (rules : List Rule) : List Mark :=
  rules.map fun rule => .turn field rule.name

def HasEnded (field : String) (log : List Mark) : Prop :=
  ∃ outcome, Mark.ended outcome ∈ log ∧ outcome.field = field

def HasEndedInvalid (field : String) (log : List Mark) : Prop :=
  ∃ outcome, Mark.ended outcome ∈ log ∧ outcome.field = field ∧ outcome.valid = false

section

variable {field : String} {log log' : List Mark}

theorem not_hasEnded_of_turns {rules : List Rule} (hturns : marksOf field log = turnsOf field rules) :
    ¬HasEnded field log := by
  rintro ⟨outcome, hmem, hfield⟩
  have hmark : Mark.ended outcome ∈ marksOf field log := by
    refine List.mem_filter.mpr ⟨hmem, ?_⟩
    simp [Mark.field?, hfield]
  rw [hturns] at hmark
  obtain ⟨rule, _, hturn⟩ := List.mem_map.mp hmark
  cases hturn

theorem HasEnded.mono (hended : HasEnded field log) (hbegins : log <+: log') :
    HasEnded field log' := by
  obtain ⟨outcome, hmem, hfield⟩ := hended
  exact ⟨outcome, hbegins.subset hmem, hfield⟩

theorem HasEndedInvalid.mono (hended : HasEndedInvalid field log) (hbegins : log <+: log') :
    HasEndedInvalid field log' := by
  obtain ⟨outcome, hmem, hinvalid⟩ := hended
  exact ⟨outcome, hbegins.subset hmem, hinvalid⟩

theorem turnsOf_append (field : String) (front back : List Rule) :
    turnsOf field (front ++ back) = turnsOf field front ++ turnsOf field back :=
  List.map_append

end

namespace Logged

/-- The fields whose failures are noted are those whose chains have ended invalid. -/
def Told (l : Logged RunState) : Prop :=
  ∀ field, l.state.hasFailed field = true ↔ HasEndedInvalid field l.log

variable {l : Logged RunState}

theorem told_start {s : RunState} (hs : s.failures = []) : (Logged.mk s []).Told := by
  intro field
  simp [RunState.hasFailed, hs, HasEndedInvalid]

theorem Told.turn (hl : l.Told) (field rule : String) : (l.note (.turn field rule)).Told := by
  intro other
  refine (hl other).trans ?_
  simp [HasEndedInvalid, note]

theorem Told.change (hl : l.Told) {f : RunState → RunState}
    (hf : ∀ s, (f s).failures = s.failures) : (l.change f).Told := by
  intro other
  have hsame : (f l.state).hasFailed other = l.state.hasFailed other := by
    rw [RunState.hasFailed, RunState.hasFailed, hf]
  change (f l.state).hasFailed other = true ↔ HasEndedInvalid other l.log
  rw [hsame]
  exact hl other

theorem Told.conclude (hl : l.Told) (outcome : Outcome) : (l.conclude outcome).Told := by
  intro other
  have hmem : HasEndedInvalid other (l.log ++ [.ended outcome]) ↔
      HasEndedInvalid other l.log ∨ outcome.field = other ∧ outcome.valid = false := by
    simp only [HasEndedInvalid, List.mem_append, List.mem_singleton, Mark.ended.injEq, or_and_right,
      exists_or, exists_eq_left]
  exact ((RunState.hasFailed_noteOutcome outcome other l.state).trans
    (or_congr_left (hl other))).trans hmem.symm

end Logged

end FieldRules
