import FieldRules.Proofs.MapM
import FieldRules.Proofs.Session.Marked

namespace FieldRules

/-- A field's chain counts on being the only one to log something about its field, and on the others
    only adding to the log and noting failures as they log them. It keeps to this itself, logs
    nothing after its end, and adds no mark that is not right after those before it. -/
def markContract (right : List Mark → Mark → Prop) (field : String) :
    Contract (Logged RunState) where
  rely l l' := marksOf field l'.log = marksOf field l.log ∧ l.log <+: l'.log ∧ (l.Told → l'.Told)
  guarantee l l' := (l.Told → l'.Told) ∧ (l'.log = l.log ∨ ∃ mark, l'.log = l.log ++ [mark] ∧
    mark.field? = some field ∧ ¬HasEnded field l.log ∧ right l.log mark)
  refl _ := ⟨rfl, List.prefix_rfl, id⟩
  trans _ _ _ h h' := ⟨h'.1.trans h.1, h.2.1.trans h'.2.1, fun htold => h'.2.2 (h.2.2 htold)⟩

section

variable {right : List Mark → Mark → Prop} {field : String} {l l' : Logged RunState}

theorem markContract_compatible {other : String} (hne : field ≠ other) :
    (markContract right field).Compatible (markContract right other) := by
  have hkeep : ∀ {this that : String}, this ≠ that → ∀ l l' : Logged RunState,
      (markContract right this).guarantee l l' → (markContract right that).rely l l' := by
    rintro this that hne l l' ⟨htold, hsame | ⟨mark, hlog, hmark, -, -⟩⟩
    · exact ⟨by rw [hsame], hsame ▸ List.prefix_rfl, htold⟩
    · refine ⟨?_, ⟨[mark], hlog.symm⟩, htold⟩
      rw [hlog]
      exact marksOf_append_of_ne hmark hne
  exact ⟨hkeep hne, hkeep hne.symm⟩

theorem guarantee_turn (rule : String) (hopen : ¬HasEnded field l.log)
    (hright : right l.log (.turn field rule)) :
    (markContract right field).guarantee l (l.note (.turn field rule)) :=
  ⟨fun htold => htold.turn field rule, .inr ⟨_, rfl, rfl, hopen, hright⟩⟩

theorem guarantee_change_keeping {f : RunState → RunState}
    (hf : ∀ s, (f s).failures = s.failures) : (markContract right field).guarantee l (l.change f) :=
  ⟨fun htold => htold.change hf, .inl rfl⟩

theorem guarantee_conclude {outcome : Outcome} (hfield : outcome.field = field)
    (hopen : ¬HasEnded field l.log) (hright : right l.log (.ended outcome)) :
    (markContract right field).guarantee l (l.conclude outcome) :=
  ⟨fun htold => htold.conclude outcome, .inr ⟨_, rfl, congrArg some hfield, hopen, hright⟩⟩

/-- What a rule does in its turn, without the mark of the turn, keeps what the others keep and what
    does not depend on the state. -/
theorem ensures_act {invariant : Logged RunState → Prop}
    (hrely : ∀ l l', (markContract right field).rely l l' → invariant l → invariant l')
    (hchange : ∀ (l : Logged RunState) (f : RunState → RunState),
      (∀ s, (f s).failures = s.failures) → invariant l → invariant (l.change f))
    (env : Environment) (rule : Rule) (value : Value) (hl : invariant l) :
    ((rule.act env ⟨field, rule.name, .running, value⟩).zoom Logged.state Logged.change).Ensures
      (markContract right field) (fun _ l => invariant l) l := by
  have hact : (rule.act env ⟨field, rule.name, .running, value⟩).Bounded id
      fun change => ∀ s, (change s).failures = s.failures :=
    Rule.act_bounded (fun s t hview => congrArg _ hview) (fun s t hview => congrArg _ hview)
      (fun model s => rfl) (fun field stored s => rfl) env field rule value
  generalize rule.act env ⟨field, rule.name, .running, value⟩ = job at hact ⊢
  induction job generalizing l with
  | done calls => exact fun l' hl' => hrely l l' hl' hl
  | observe next ih => exact ih l.state hl (hact.2 l.state)
  | modify f next ih =>
    exact ⟨guarantee_change_keeping hact.1, ih (hchange l f hact.1 hl) hact.2⟩
  | wait ms next ih => exact fun l' hl' => ih (hrely l l' hl' hl) hact
  | never => trivial

/-- A chain keeps an invariant that its links keep, and its outcome is that of its field. -/
theorem Chain.ensures_runLinks_of_invariant {σ : Type} {contract : Contract σ}
    {invariant : σ → Prop} (hrely : ∀ s t, contract.rely s t → invariant s → invariant t)
    {links : List (Link σ)}
    (hlinks : ∀ link ∈ links, ∀ value s, invariant s →
      (link.act ⟨field, link.rule, .running, value⟩).Ensures contract (fun _ t => invariant t) s)
    (value : Value) (updated : Bool) {s : σ} (hs : invariant s) :
    (runLinks field links value updated).Ensures contract
      (fun outcome t => outcome.field = field ∧ invariant t) s := by
  induction links generalizing value updated s with
  | nil => exact fun t ht => ⟨rfl, hrely s t ht hs⟩
  | cons link links ih =>
    obtain ⟨hlink, hrest⟩ := List.forall_mem_cons.mp hlinks
    refine Job.Ensures.bind ((hlink value s hs).weaken fun calls t ht => ?_)
    obtain ⟨update, verdict⟩ := Call.settle calls
    cases verdict with
    | next => exact ih hrest _ _ ht
    | stop => exact fun u hu => ⟨rfl, hrely t u hu ht⟩
    | invalid message => exact fun u hu => ⟨rfl, hrely t u hu ht⟩

/-- A chain keeps its contract if its marks are right whenever `K` holds of the log, as it does from
    the start of the chain. -/
theorem Validator.parked_part {K : List Mark → Prop}
    (hK : ∀ log log', log <+: log' → K log → K log')
    (hright : ∀ log mark, K log → mark.field? = some field → right log mark) (env : Environment)
    (rules : List Rule) (hnone : marksOf field l.log = []) (hl : K l.log) :
    (part Logged.conclude (startRulesLogged env field rules)).Parked (markContract right field)
      (fun outcome l => outcome.field = field ∧ HasEnded field l.log) l := by
  let invariant (l : Logged RunState) : Prop :=
    (∃ ran, marksOf field l.log = turnsOf field ran) ∧ K l.log
  have hrely : ∀ l l', (markContract right field).rely l l' → invariant l → invariant l' := by
    rintro l l' ⟨hsame, hbegins, -⟩ ⟨⟨ran, hran⟩, hl⟩
    exact ⟨⟨ran, hsame.trans hran⟩, hK _ _ hbegins hl⟩
  have hlinks : ∀ link ∈ (fieldChain env field rules).logged.links, ∀ value l, invariant l →
      (link.act ⟨field, link.rule, .running, value⟩).Ensures (markContract right field)
        (fun _ l => invariant l) l := by
    intro link hlink value l hl
    obtain ⟨_, hrule, rfl⟩ := List.mem_map.mp hlink
    obtain ⟨rule, _, rfl⟩ := List.mem_map.mp hrule
    obtain ⟨⟨ran, hran⟩, hlog⟩ := hl
    refine ⟨guarantee_turn rule.name (not_hasEnded_of_turns hran) (hright _ _ hlog rfl), ?_⟩
    refine ensures_act hrely (fun l f _ hl => hl) env rule value
      ⟨⟨ran ++ [rule], ?_⟩, hK _ _ ⟨_, rfl⟩ hlog⟩
    rw [turnsOf_append, ← hran]
    exact marksOf_append_singleton rfl
  intro l₁ hl₁
  have hstart : invariant l₁ := hrely l l₁ hl₁ ⟨⟨[], hnone⟩, hl⟩
  refine Job.Ensures.bind ((Chain.ensures_runLinks_of_invariant hrely hlinks
    (l₁.state.record.get field) false hstart).weaken ?_)
  rintro outcome l₂ ⟨hfield, ⟨ran, hran⟩, hlog⟩
  refine ⟨guarantee_conclude hfield (not_hasEnded_of_turns hran)
    (hright _ _ hlog (congrArg some hfield)), fun l₃ hl₃ => ⟨hfield, ?_⟩⟩
  have hended : HasEnded field (l₂.conclude outcome).log :=
    ⟨outcome, List.mem_append_right _ (List.mem_singleton.mpr rfl), hfield⟩
  exact hended.mono hl₃.2.1

end

/-- A log in which every mark is right after those before it, and comes before the end of the chain
    that it is from. -/
def Orderly (right : List Mark → Mark → Prop) (log : List Mark) : Prop :=
  ∀ past next rest, log = past ++ next :: rest →
    (∃ field, next.field? = some field ∧ ¬HasEnded field past) ∧ right past next

section

variable {right : List Mark → Mark → Prop} {log : List Mark}

theorem Orderly.append_singleton (hlog : Orderly right log) {mark : Mark} {field : String}
    (hmark : mark.field? = some field) (hopen : ¬HasEnded field log) (hright : right log mark) :
    Orderly right (log ++ [mark]) := by
  intro past next rest hsplit
  rcases rest.eq_nil_or_concat with rfl | ⟨init, last, rfl⟩
  · obtain ⟨rfl, hlast⟩ := List.append_inj' hsplit rfl
    cases hlast
    exact ⟨⟨field, hmark, hopen⟩, hright⟩
  · have hinit : log ++ [mark] = (past ++ next :: init) ++ [last] := by
      rw [hsplit, List.concat_eq_append, List.append_assoc, List.cons_append]
    exact hlog past next init (List.append_inj' hinit rfl).1

theorem orderly_of_steps {fields : List (String × List Rule)} {l l' : Logged RunState}
    (hsteps : Relation.ReflTransGen (Contract.all (fun entry : String × List Rule =>
      markContract right entry.1) fields).guarantee l l') (hl : Orderly right l.log) :
    Orderly right l'.log := by
  induction hsteps with
  | refl => exact hl
  | tail _ hstep ih =>
    obtain ⟨entry, _, -, hsame | ⟨mark, hlog, hmark, hopen, hright⟩⟩ := hstep
    · rwa [hsame]
    · rw [hlog]
      exact ih.append_singleton hmark hopen hright

/-- No chain ends twice. -/
theorem Orderly.ended_unique (hlog : Orderly right log) {outcome outcome' : Outcome}
    (hmem : Mark.ended outcome ∈ log) (hmem' : Mark.ended outcome' ∈ log)
    (hfield : outcome.field = outcome'.field) : outcome = outcome' := by
  have hlast : ∀ past last rest, log = past ++ .ended last :: rest →
      ∀ earlier, Mark.ended earlier ∈ past → earlier.field ≠ last.field := by
    intro past last rest hsplit earlier hearlier heq
    obtain ⟨⟨field, hown, hopen⟩, -⟩ := hlog past _ rest hsplit
    exact hopen ⟨earlier, hearlier, heq.trans (Option.some.inj hown)⟩
  obtain ⟨past, rest, rfl⟩ := List.append_of_mem hmem
  rcases List.mem_append.mp hmem' with hpast | hrest
  · exact absurd hfield.symm (hlast past outcome rest rfl outcome' hpast)
  · rcases List.mem_cons.mp hrest with heq | hrest
    · exact (Mark.ended.inj heq).symm
    · obtain ⟨between, rest, rfl⟩ := List.append_of_mem hrest
      have hmark : Mark.ended outcome ∈ past ++ .ended outcome :: between :=
        List.mem_append_right _ List.mem_cons_self
      refine absurd hfield (hlast (past ++ .ended outcome :: between) outcome' rest ?_ outcome hmark)
      rw [List.append_assoc, List.cons_append]

/-- How a chain has ended by some time is how it has ended in the end. -/
theorem Orderly.valid_eq_false (hlog : Orderly right log) {outcome : Outcome}
    (hmem : Mark.ended outcome ∈ log) {past : List Mark} (hpast : past <+: log)
    (hended : HasEndedInvalid outcome.field past) : outcome.valid = false := by
  obtain ⟨earlier, hearlier, hfield, hvalid⟩ := hended
  obtain rfl := hlog.ended_unique (hpast.subset hearlier) hmem hfield
  exact hvalid

end

namespace Validator

variable {validator : Validator} {field other : String} {rules : List Rule} {s : RunState}

/-- If a chain comes to no wait, the chains of the fields declared behind it start after its end. -/
theorem orderly_runLogged_prompt (hdistinct : (validator.fields.map (·.1)).Nodup)
    {before after : List (String × List Rule)}
    (hfields : validator.fields = before ++ (other, rules) :: after)
    (hfield : field ∈ after.map (·.1))
    (hrules : ∀ site ∈ Rule.allSites other rules, site.check.immediate) (env : Environment)
    (patience : Nat) :
    Orderly (fun past next => next.field? = some field → HasEnded other past)
      ((validator.runLogged env).run patience ⟨s, []⟩).2.log := by
  let right (past : List Mark) (next : Mark) : Prop :=
    next.field? = some field → HasEnded other past
  have hmono : ∀ log log' : List Mark, log <+: log' → HasEnded other log → HasEnded other log' :=
    fun log log' hbegins hended => hended.mono hbegins
  have hvacuous : ∀ entry : String × List Rule, entry.1 ≠ field →
      ∀ log mark, True → mark.field? = some entry.1 → right log mark :=
    fun entry hne log mark _ hmark hown => absurd (Option.some.inj (hmark.symm.trans hown)) hne
  have hkeys := hdistinct
  rw [hfields, List.map_append, List.map_cons, List.nodup_append] at hkeys
  obtain ⟨_, hrest, hbefore⟩ := hkeys
  have hearlier : ∀ entry ∈ before, entry.1 ≠ field := fun entry hentry =>
    hbefore entry.1 (List.mem_map_of_mem hentry) field (List.mem_cons_of_mem other hfield)
  have hother : other ≠ field := fun heq => (List.nodup_cons.mp hrest).1 (heq ▸ hfield)
  have hensures : (validator.runLogged env).Ensures
      (.all (fun entry => markContract right entry.1) validator.fields)
      (fun outcomes l => List.Forall₂ (fun entry outcome =>
        outcome.field = entry.1 ∧ HasEnded entry.1 l.log) validator.fields outcomes) ⟨s, []⟩ := by
    rw [runLogged, join, hfields]
    refine Job.ensures_all_of_prompt ?_ (fun entry hentry => ?_) ?_ ?_ ?_
    · rw [hfields] at hdistinct
      exact (List.pairwise_map.mp hdistinct).imp fun hne => markContract_compatible hne
    · exact parked_part (fun _ _ _ => id) (hvacuous entry (hearlier entry hentry)) env
        entry.2 rfl trivial
    · exact parked_part (fun _ _ _ => id) (hvacuous (other, rules) hother) env rules rfl
        trivial
    · exact part_prompt hrules env
    · rintro outcome l ⟨-, hended⟩ entry - ⟨hnone, -, -⟩
      have hright : ∀ log mark, HasEnded other log → mark.field? = some entry.1 →
          right log mark := fun log mark hlog _ _ => hlog
      exact parked_part hmono hright env entry.2 hnone hended
  exact orderly_of_steps (hensures.steps_of_run patience) (by simp [Orderly])

end Validator

end FieldRules
