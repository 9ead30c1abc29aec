import FieldRules.Proofs.Session.InTurn
import FieldRules.Proofs.Session.Orderly

namespace FieldRules

/-- The rules behind a guard go on: the first of them takes its turn. -/
def GoesOn (field : String) (rules : List Rule) (mark : Mark) : Prop :=
  ∃ rule ∈ rules.head?, mark = .turn field rule.name

/-- The mark that follows the turns of some rules in the chain of a field is right if the rules behind
    them go on unless another field has ended invalid. -/
def RightBehind (field other : String) (front back : List Rule) (log : List Mark) (mark : Mark) :
    Prop :=
  mark.field? = some field → marksOf field log = turnsOf field front →
    (GoesOn field back mark ↔ back ≠ [] ∧ ¬HasEndedInvalid other log)

section

variable {field other : String} {front back : List Rule} {wording : Wording} {l : Logged RunState}

/-- The rule that lets the chain of a field go on unless another field has failed. -/
def Rule.guard (other : String) (wording : Wording) : Rule :=
  .check "if_valid" (.siblings .ifValid [other] wording)

theorem eq_of_turnsOf_eq {done todo rules : List Rule} (hsplit : done ++ todo = rules ++ back)
    (hturns : turnsOf field done = turnsOf field rules) : done = rules ∧ todo = back := by
  have hlength := congrArg List.length hturns
  simp only [turnsOf, List.length_map] at hlength
  exact List.append_inj hsplit hlength

/-- Where a chain stands when the next of its rules takes its turn. Behind a guard, the other field
    has not ended invalid. -/
structure StandsAt (field other : String) (front : List Rule) (wording : Wording) (done : List Rule)
    (l : Logged RunState) : Prop where
  told : l.Told
  turns : marksOf field l.log = turnsOf field done
  passed : done = front ++ [.guard other wording] → ¬HasEndedInvalid other l.log

/-- Where a chain stands when it is over. If its guard had the last turn, either there are no rules
    behind the guard, or the other field has ended invalid. -/
structure IsOver (field other : String) (front back : List Rule) (wording : Wording)
    (outcome : Outcome) (l : Logged RunState) : Prop where
  own : outcome.field = field
  turns : ∃ ran, marksOf field l.log = turnsOf field ran
  stopped : marksOf field l.log = turnsOf field (front ++ [.guard other wording]) →
    back = [] ∨ HasEndedInvalid other l.log

theorem isOver_of_rely {right : List Mark → Mark → Prop} {outcome : Outcome}
    {l' : Logged RunState} (hover : IsOver field other front back wording outcome l)
    (hrely : (markContract right field).rely l l') :
    IsOver field other front back wording outcome l' := by
  obtain ⟨hsame, hbegins, -⟩ := hrely
  obtain ⟨ran, hran⟩ := hover.turns
  refine ⟨hover.own, ⟨ran, hsame.trans hran⟩, fun hturns => ?_⟩
  exact (hover.stopped (hsame.symm.trans hturns)).imp_right fun hended => hended.mono hbegins

/-- The guard looks at the noted failures in its turn and takes no other step. -/
theorem ensures_guard {α : Type} {contract : Contract (Logged RunState)}
    {post : α → Logged RunState → Prop} (env : Environment) (turn : Turn)
    {next : List Call → Job (Logged RunState) α}
    (hstop : l.state.hasFailed other = true →
      (next [.finish .stop]).Ensures contract post l)
    (hnext : l.state.hasFailed other = false → (next Check.goOn).Ensures contract post l) :
    ((((Rule.guard other wording).act env turn).zoom Logged.state Logged.change).bind next).Ensures
      contract post l := by
  have hact : (Rule.guard other wording).act env turn =
      .observe fun s => .done (if s.hasFailed other then [.finish .stop] else Check.goOn) := by
    rw [Rule.guard, Rule.act, Check.act]
    congr 1
    funext s
    simp only [SiblingCheck.decide, List.any_cons, List.any_nil, Bool.or_false]
    cases s.hasFailed other <;> rfl
  rw [hact]
  change (next (if l.state.hasFailed other then [.finish .stop] else Check.goOn)).Ensures contract
    post l
  cases hfailed : l.state.hasFailed other with
  | true => exact hstop hfailed
  | false => exact hnext hfailed

/-- The turn of the next rule is a right mark: if it is the first rule behind the guard, the guard has
    let the chain go on. -/
theorem rightBehind_turn {done rest : List Rule} {rule : Rule}
    (hrules : done ++ rule :: rest = (front ++ [.guard other wording]) ++ back)
    (hl : StandsAt field other front wording done l) :
    RightBehind field other (front ++ [.guard other wording]) back l.log
      (.turn field rule.name) := by
  intro _ hturns
  obtain ⟨hdone, hback⟩ := eq_of_turnsOf_eq hrules (hl.turns.symm.trans hturns)
  have hgoesOn : GoesOn field back (.turn field rule.name) := ⟨rule, by simp [← hback], rfl⟩
  exact ⟨fun _ => ⟨by simp [← hback], hl.passed hdone⟩, fun _ => hgoesOn⟩

/-- What a rule does in its turn tells of no failure and takes no turn. -/
theorem ensures_act_turns {right : List Mark → Mark → Prop} (env : Environment) (rule : Rule)
    (value : Value) {ran : List Rule} (htold : l.Told)
    (hturns : marksOf field l.log = turnsOf field ran) :
    ((rule.act env ⟨field, rule.name, .running, value⟩).zoom Logged.state Logged.change).Ensures
      (markContract right field)
      (fun _ l => l.Told ∧ marksOf field l.log = turnsOf field ran) l := by
  refine ensures_act ?_ ?_ env rule value ⟨htold, hturns⟩
  · rintro l l' ⟨hsame, -, hkeep⟩ ⟨htold, hturns⟩
    exact ⟨hkeep htold, hsame.trans hturns⟩
  · rintro l f hf ⟨htold, hturns⟩
    exact ⟨htold.change hf, hturns⟩

/-- The chain of a field, from any of its rules on. -/
theorem ensures_runLinks_guarded (env : Environment) {done todo : List Rule}
    (hrules : done ++ todo = front ++ .guard other wording :: back) (value : Value)
    (updated : Bool) (hl : StandsAt field other front wording done l) :
    (Chain.runLinks field ((todo.map (Rule.link env)).map Link.logged) value updated).Ensures
      (markContract (RightBehind field other (front ++ [.guard other wording]) back) field)
      (IsOver field other front back wording) l := by
  have hrules' : done ++ todo = (front ++ [.guard other wording]) ++ back := by
    rw [hrules, List.append_assoc, List.singleton_append]
  induction todo generalizing done l value updated with
  | nil =>
    have hover : IsOver field other front back wording ⟨field, value, updated, none, .ended⟩ l :=
      ⟨rfl, ⟨done, hl.turns⟩, fun hturns =>
        .inl (eq_of_turnsOf_eq hrules' (hl.turns.symm.trans hturns)).2.symm⟩
    exact fun l' hrely => isOver_of_rely hover hrely
  | cons rule rest ih =>
    have hdone : done ++ [rule] ++ rest = front ++ .guard other wording :: back := by
      rw [List.append_assoc, List.singleton_append, hrules]
    have hdone' : done ++ [rule] ++ rest = (front ++ [.guard other wording]) ++ back := by
      rw [List.append_assoc, List.singleton_append, hrules']
    have htold : (l.note (.turn field rule.name)).Told := hl.told.turn field rule.name
    have hturns : marksOf field (l.note (.turn field rule.name)).log =
        turnsOf field (done ++ [rule]) := by
      rw [turnsOf_append, ← hl.turns]
      exact marksOf_append_singleton rfl
    refine ⟨guarantee_turn rule.name (not_hasEnded_of_turns hl.turns)
      (rightBehind_turn hrules' hl), ?_⟩
    by_cases hguard : done.length = front.length
    -- The rule is the guard: it stops just if the other field has ended invalid.
    · obtain ⟨rfl, htodo⟩ := List.append_inj hrules hguard
      obtain ⟨rfl, rfl⟩ := List.cons.inj htodo
      refine ensures_guard env _ (fun hfailed => ?_) fun hpassed => ?_
      · intro l' hrely
        have hended : HasEndedInvalid other l'.log :=
          HasEndedInvalid.mono ((htold other).mp hfailed) hrely.2.1
        exact ⟨rfl, ⟨_, hrely.1.trans hturns⟩, fun _ => .inr hended⟩
      · refine ih hdone value _ ⟨htold, hturns, fun _ hended => ?_⟩ hdone'
        have hfailed := (htold other).mpr hended
        cases hfailed.symm.trans hpassed
    -- Any other rule leaves the question open, as the turns of the chain show.
    · have hother : done ++ [rule] ≠ front ++ [.guard other wording] := by
        intro heq
        have hlength := congrArg List.length heq
        simp only [List.length_append, List.length_singleton] at hlength
        omega
      refine (ensures_act_turns env rule value htold hturns).weaken ?_ |>.bind
      rintro calls l₁ ⟨htold, hturns⟩
      have hover : ∀ outcome : Outcome, outcome.field = field →
          IsOver field other front back wording outcome l₁ := by
        refine fun outcome hfield => ⟨hfield, ⟨_, hturns⟩, fun hlast => ?_⟩
        exact absurd (eq_of_turnsOf_eq hdone' (hturns.symm.trans hlast)).1 hother
      obtain ⟨update, verdict⟩ := Call.settle calls
      cases verdict with
      | next => exact ih hdone _ _ ⟨htold, hturns, fun heq => absurd heq hother⟩ hdone'
      | stop => exact fun l' hrely => isOver_of_rely (hover _ rfl) hrely
      | invalid message => exact fun l' hrely => isOver_of_rely (hover _ rfl) hrely

theorem Validator.parked_part_guarded (env : Environment)
    (hnone : marksOf field l.log = []) (hl : l.Told) :
    (part Logged.conclude
        (startRulesLogged env field (front ++ .guard other wording :: back))).Parked
      (markContract (RightBehind field other (front ++ [.guard other wording]) back) field)
      (fun outcome l => outcome.field = field ∧ HasEnded field l.log) l := by
  rintro l₁ ⟨hsame, -, hkeep⟩
  have hstands : StandsAt field other front wording [] l₁ := by
    refine ⟨hkeep hl, hsame.trans hnone, fun heq => ?_⟩
    have hlength := congrArg List.length heq
    simp at hlength
  have hchain := ensures_runLinks_guarded env
    (List.nil_append (front ++ .guard other wording :: back)) (l₁.state.record.get field) false hstands
  refine Job.Ensures.bind (hchain.weaken ?_)
  rintro outcome l₂ ⟨hfield, ⟨ran, hran⟩, hstopped⟩
  have hright : RightBehind field other (front ++ [.guard other wording]) back l₂.log
      (.ended outcome) := by
    refine fun _ hturns => ⟨?_, fun ⟨hsome, hvalid⟩ => ?_⟩
    · rintro ⟨rule, _, hturn⟩
      cases hturn
    · exact absurd (hstopped hturns) (not_or.mpr ⟨hsome, hvalid⟩)
  refine ⟨guarantee_conclude hfield (not_hasEnded_of_turns hran) hright, ?_⟩
  intro l₃ hrely
  have hended : HasEnded field (l₂.conclude outcome).log :=
    ⟨outcome, List.mem_append_right _ (List.mem_singleton.mpr rfl), hfield⟩
  exact ⟨hfield, hended.mono hrely.2.1⟩

end

/-- What comes next in the chain of a field when the turns of some first rules are all that has
    happened in it. -/
structure NextBehind (field : String) (front : List Rule) (log past : List Mark) (next : Mark) :
    Prop where
  split : ∃ rest, log = past ++ next :: rest
  own : next.field? = some field
  turns : marksOf field past = turnsOf field front

theorem exists_nextBehind {field : String} {front : List Rule} {log : List Mark}
    (hended : HasEnded field log) (hturns : turnsOf field front <+: marksOf field log) :
    ∃ past next, NextBehind field front log past next := by
  obtain ⟨more, hmore⟩ := hturns
  cases more with
  | nil =>
    rw [List.append_nil] at hmore
    exact absurd hended (not_hasEnded_of_turns hmore.symm)
  | cons next more =>
    obtain ⟨past, rest, hsplit, hpast, hrest⟩ := List.filter_eq_append_iff.mp hmore.symm
    obtain ⟨skipped, rest, rfl, hskipped, hnext, -⟩ := List.filter_eq_cons_iff.mp hrest
    refine ⟨past ++ skipped, next, ⟨rest, ?_⟩, beq_iff_eq.mp hnext, ?_⟩
    · rw [hsplit, List.append_assoc]
    · have hnone : marksOf field skipped = [] := List.filter_eq_nil_iff.mpr hskipped
      calc marksOf field (past ++ skipped)
          = marksOf field past ++ marksOf field skipped := List.filter_append ..
        _ = turnsOf field front := by rw [hnone, List.append_nil]; exact hpast

namespace Validator

variable {validator : Validator} {field other : String} {rules front back : List Rule}
  {wording : Wording} {s : RunState} {patience : Nat}

/-- In every run, the mark behind the turn of a guard is right. -/
theorem orderly_runLogged_guarded (hdistinct : (validator.fields.map (·.1)).Nodup)
    (hfield : (field, front ++ .guard other wording :: back) ∈ validator.fields)
    (env : Environment) (hs : s.failures = []) (patience : Nat) :
    let ran := (validator.runLogged env).run patience ⟨s, []⟩
    Orderly (RightBehind field other (front ++ [.guard other wording]) back) ran.2.log ∧
      (ran.1 ≠ none → HasEnded field ran.2.log) := by
  intro ran
  let right := RightBehind field other (front ++ [.guard other wording]) back
  have hparked : ∀ entry ∈ validator.fields,
      (part Logged.conclude (startRulesLogged env entry.1 entry.2)).Parked
      (markContract right entry.1)
      (fun outcome l => outcome.field = entry.1 ∧ HasEnded entry.1 l.log) ⟨s, []⟩ := by
    intro entry hentry
    by_cases hkey : entry.1 = field
    · obtain rfl := List.inj_on_of_nodup_map hdistinct hentry hfield hkey
      exact parked_part_guarded env rfl (Logged.told_start hs)
    · have hvacuous : ∀ log mark, True → mark.field? = some entry.1 → right log mark :=
        fun log mark _ hmark hown => absurd (Option.some.inj (hmark.symm.trans hown)) hkey
      exact parked_part (fun _ _ _ => id) hvacuous env entry.2 rfl trivial
  have hensures : (validator.runLogged env).Ensures
      (.all (fun entry => markContract right entry.1) validator.fields)
      (fun outcomes l => List.Forall₂ (fun entry outcome =>
        outcome.field = entry.1 ∧ HasEnded entry.1 l.log) validator.fields outcomes) ⟨s, []⟩ := by
    refine Job.ensures_all ?_ hparked
    exact (List.pairwise_map.mp hdistinct).imp fun hne => markContract_compatible hne
  refine ⟨orderly_of_steps (hensures.steps_of_run patience) (by simp [Orderly]), fun hsome => ?_⟩
  obtain ⟨outcomes, houtcomes⟩ := Option.ne_none_iff_exists'.mp hsome
  have hall := hensures.of_run (Prod.ext houtcomes rfl)
  obtain ⟨outcome, -, -, hended⟩ := exists_of_forall₂ hall hfield
  exact hended

/-- Whether the rules behind a guard run is decided when the turn of the guard comes: they run unless
    the other field has ended invalid by then. So they run whenever the other field is valid in the
    end, but a field that becomes invalid later holds nothing up. A field that is declared earlier and
    comes to no wait has always ended by then, however long the lookups of others take. -/
theorem guarded_goesOn_iff {registry : Registry} {schema : Schema} {config : Config}
    (hmade : config.Made) (hcompile : compile registry schema config = .ok validator)
    {before between after : List (String × List Rule)}
    (hfields : validator.fields = before ++ (other, rules) :: (between ++
      (field, front ++ .guard other wording :: back) :: after))
    (env : Environment) (hs : s.failures = []) (patience : Nat) :
    let ran := (validator.runLogged env).run patience ⟨s, []⟩
    (ran.1, ran.2.state) = (validator.run env).run patience s ∧
    (∀ past next, NextBehind field (front ++ [.guard other wording]) ran.2.log past next →
      (GoesOn field back next ↔ back ≠ [] ∧ ¬HasEndedInvalid other past) ∧
      (∀ outcome, .ended outcome ∈ ran.2.log → outcome.field = other →
        (outcome.valid = true → (GoesOn field back next ↔ back ≠ [])) ∧
        (.ended outcome ∈ past → (GoesOn field back next ↔ back ≠ [] ∧ outcome.valid = true))) ∧
      ((∀ site ∈ Rule.allSites other rules, site.check.immediate) →
        ∃ outcome, .ended outcome ∈ past ∧ outcome.field = other)) ∧
    (ran.1 ≠ none → turnsOf field (front ++ [.guard other wording]) <+: marksOf field ran.2.log →
      ∃ past next, NextBehind field (front ++ [.guard other wording]) ran.2.log past next) := by
  intro ran
  have hdistinct := fields_nodup_of_compile hmade hcompile
  have hfield : (field, front ++ .guard other wording :: back) ∈ validator.fields := by
    simp [hfields]
  obtain ⟨horderly, hends⟩ := orderly_runLogged_guarded hdistinct hfield env hs patience
  obtain ⟨hresult, hstate⟩ := (validator.shadows_runLogged env).run_eq patience ⟨s, []⟩
  refine ⟨Prod.ext hresult hstate, fun past next hnext => ?_, fun hsome hturns =>
    exists_nextBehind (hends hsome) hturns⟩
  obtain ⟨⟨rest, hsplit⟩, hown, hturns⟩ := hnext
  have hdecided := (horderly past next rest hsplit).2 hown hturns
  refine ⟨hdecided, fun outcome hmem houtcome => ?_, fun hrules => ?_⟩
  -- No chain ends twice, so the other field has ended invalid just if this outcome says so.
  · have hinvalid : HasEndedInvalid other past → outcome.valid = false := by
      rw [← houtcome]
      exact horderly.valid_eq_false hmem ⟨_, hsplit.symm⟩
    refine ⟨fun hvalid => hdecided.trans (and_iff_left fun hended => ?_), fun hearlier => ?_⟩
    · rw [hinvalid hended] at hvalid
      cases hvalid
    · refine hdecided.trans (and_congr_right fun _ => ⟨fun hended => ?_, fun hvalid hended => ?_⟩)
      · rw [← Bool.not_eq_false]
        exact fun hvalid => hended ⟨outcome, hearlier, houtcome, hvalid⟩
      · rw [hinvalid hended] at hvalid
        cases hvalid
  · have hbehind : field ∈ (between ++ (field, front ++ .guard other wording :: back) ::
        after).map (·.1) := by simp
    have hlate : Orderly (fun past next => next.field? = some field → HasEnded other past)
        ran.2.log := orderly_runLogged_prompt hdistinct hfields hbehind hrules env patience
    exact (hlate past next rest hsplit).2 hown

end Validator

namespace Session

/-- The name must be unique, and the nickname must be given unless the name has failed. -/
def uniqueAndGuarded : Config :=
  (Config.empty.setRules "name" (.list ["unique"])).setRules "nick"
    (.list ["if_valid:name", "required"])

def accounts : Schema := ⟨"Account", ["name", "nick"], true, some Schema.defaultLookupTimeout⟩

def uniqueName : Rule :=
  .check "unique" (.foreign "Account" "name" (.lookup accounts.lookupTimeout) true
    ⟨.forField "name" ⟨[]⟩ accounts, Wording.foreignMessage " must be a unique ",
      [("$class", .string "Account"), ("$matchField", .string "name"),
        ("$matchAlias", .string "name")]⟩)

def nameGuard : Rule :=
  .guard "name" ⟨.forField "nick" ⟨[]⟩ accounts, "",
    [("$fields", .string "name"), ("$fieldAliases", .string "name")]⟩

def requiredNick : Rule :=
  .check "required" (.predicate Finding.required
    ⟨.forField "nick" ⟨[]⟩ accounts, Wording.said " is required.", []⟩)

/-- An account without a nickname, and with a name that another one has, which is found out after a
    while. -/
def takenName (delay : Nat) : Session where
  validator := ⟨accounts, [("name", [uniqueName]), ("nick", [nameGuard, requiredNick])], false⟩
  env :=
    { Environment.empty with
      collections := [("Account", [.other ⟨[("name", .string "Ada")]⟩])]
      lookups := [("Account", .answers delay false)] }
  record := ⟨[("name", .string "Ada")]⟩
  asked := []
  events := []
  last := none
  handedOn := []

theorem uniqueAndGuarded_compile (delay : Nat) :
    Validator.compile .standard accounts uniqueAndGuarded = .ok (takenName delay).validator := by
  refine Validator.compile_eq_ok_iff.mpr ⟨_, mapM_eq_ok_iff.mpr (.cons ?_ (.cons ?_ .nil)), rfl⟩
  · refine bind_eq_ok_iff.mpr ⟨_, mapM_eq_ok_iff.mpr (.cons ?_ .nil), rfl⟩
    exact Compiler.compileEntry_eq_ok_iff.mpr (.check rfl (by rfl) (by rfl))
  · refine bind_eq_ok_iff.mpr ⟨_, mapM_eq_ok_iff.mpr (.cons ?_ (.cons ?_ .nil)), rfl⟩
    all_goals exact Compiler.compileEntry_eq_ok_iff.mpr (.check rfl (by rfl) (by rfl))

/-- While the lookup takes its time, the rules behind the guard go on, and the name fails later. -/
theorem guarded_goesOn_iff_taken_name :
    let session := takenName 5
    let ran := (session.validator.runLogged session.env).run patience ⟨session.atStart, []⟩
    HasEndedInvalid "name" ran.2.log ∧ ∃ past next,
      NextBehind "nick" [nameGuard] ran.2.log past next ∧ ¬HasEndedInvalid "name" past ∧
      GoesOn "nick" [requiredNick] next := by
  intro session ran
  have hmade : uniqueAndGuarded.Made := .setRules (.setRules .empty _ _) _ _
  have hfields : session.validator.fields =
      [] ++ ("name", [uniqueName]) :: ([] ++ ("nick", [] ++ nameGuard :: [requiredNick]) :: []) := rfl
  have hstart : session.atStart.failures = [] := rfl
  obtain ⟨-, hdecided, -⟩ := Validator.guarded_goesOn_iff hmade (uniqueAndGuarded_compile 5) hfields
    session.env hstart patience
  have hnext : NextBehind "nick" [nameGuard] ran.2.log
      [.turn "name" "unique", .turn "nick" "if_valid"] (.turn "nick" "required") :=
    ⟨⟨_, by rfl⟩, rfl, rfl⟩
  have hopen : ¬HasEndedInvalid "name" [.turn "name" "unique", .turn "nick" "if_valid"] := by
    rintro ⟨outcome, hmem, -⟩
    simp at hmem
  have hended : Mark.ended ⟨"name", .string "Ada", false,
      some ⟨"unique", "name must be a unique name in a Account"⟩, .ended⟩ ∈ ran.2.log :=
    List.mem_of_getElem? (show ran.2.log[4]? = some _ by rfl)
  refine ⟨⟨_, hended, rfl, rfl⟩, _, _, hnext, hopen, ?_⟩
  exact ((hdecided _ _ hnext).1).mpr ⟨List.cons_ne_nil _ _, hopen⟩

/-- The name fails however long the lookup takes, but the guard does not always know of it: the rule
    behind the guard has run, and failed, only when the lookup has taken a while. -/
theorem guard_passes_before_late_failure :
    let name : String × Failure :=
      ("name", ⟨"unique", "name must be a unique name in a Account"⟩)
    let nick : String × Failure := ("nick", ⟨"required", "nick is required."⟩)
    (∀ delay ∈ [0, 5], Validator.compile .standard accounts uniqueAndGuarded =
      .ok (takenName delay).validator) ∧
      (takenName 0).validate.1 = some ⟨[name]⟩ ∧
      (takenName 5).validate.1 = some ⟨[name, nick]⟩ :=
  ⟨fun delay _ => uniqueAndGuarded_compile delay, by decide +kernel, by decide +kernel⟩

end Session

end FieldRules
