import FieldRules.Chain.Script
import FieldRules.Proofs.Chain.Visit

namespace FieldRules

namespace Route

variable {σ : Type} {links : List (Link σ)} {value : Value} {visits : List (Visit σ)}

theorem links_eq (hroute : Route links value visits) :
    visits.map (·.link) = links.take visits.length := by
  induction hroute with
  | nil => rfl
  | last => simp
  | next _ _ ih => simpa using ih

theorem visits_nonempty_iff (hroute : Route links value visits) :
    0 < visits.length ↔ 0 < links.length := by
  cases hroute <;> simp

theorem goesOn_iff (hroute : Route links value visits) {k : Nat} {visit : Visit σ}
    (hvisit : visits[k]? = some visit) :
    k + 1 < visits.length ↔ visit.verdict? = some .next ∧ k + 1 < links.length := by
  induction hroute generalizing k with
  | nil => simp at hvisit
  | last hlast =>
    cases k with
    | zero =>
      obtain rfl : _ = visit := by simpa using hvisit
      simp [hlast]
    | succ k => simp at hvisit
  | next hnext hrest ih =>
    cases k with
    | zero =>
      obtain rfl : _ = visit := by simpa using hvisit
      simpa [hnext] using hrest.visits_nonempty_iff
    | succ k =>
      have hrest := ih (by simpa using hvisit)
      simpa only [List.length_cons, Nat.add_lt_add_iff_right] using hrest

theorem given_eq (hroute : Route links value visits) {k : Nat} {visit : Visit σ}
    (hvisit : visits[k]? = some visit) :
    visit.given = ((visits.take k).flatMap Visit.updates).getLastD value := by
  induction hroute generalizing k with
  | nil => simp at hvisit
  | last =>
    cases k with
    | zero =>
      obtain rfl : _ = visit := by simpa using hvisit
      rfl
    | succ k => simp at hvisit
  | next hnext hrest ih =>
    cases k with
    | zero =>
      obtain rfl : _ = visit := by simpa using hvisit
      rfl
    | succ k =>
      have hgiven := ih (by simpa using hvisit)
      rw [hgiven]
      simp [Visit.left, Option.getD_or]

/-- Turns that come in the order of the links, and go on as long as their first verdicts say so, are
    the turns that the links take. -/
theorem of_laws (hlinks : visits.map (·.link) = links.take visits.length)
    (hstarts : 0 < visits.length ↔ 0 < links.length)
    (hgoesOn : ∀ k visit, visits[k]? = some visit →
      (k + 1 < visits.length ↔ visit.verdict? = some .next ∧ k + 1 < links.length))
    (hgiven : ∀ k visit, visits[k]? = some visit →
      visit.given = ((visits.take k).flatMap Visit.updates).getLastD value) :
    Route links value visits := by
  induction links generalizing value visits with
  | nil =>
    obtain rfl : visits = [] := by simpa using hstarts
    exact .nil value
  | cons link links ih =>
    obtain _ | ⟨visit, visits⟩ := visits
    · simp at hstarts
    · have hfirst : visit.given = value := by simpa using hgiven 0 visit rfl
      obtain ⟨rfl, hothers⟩ : visit.link = link ∧ visits.map (·.link) = links.take visits.length := by
        simpa using hlinks
      obtain ⟨visited, given, calls⟩ := visit
      subst hfirst
      have hsecond := hgoesOn 0 _ rfl
      simp only [List.length_cons, Nat.add_lt_add_iff_right] at hsecond
      by_cases hnext : (Visit.mk visited given calls).verdict? = some .next
      · refine .next hnext (ih hothers ?_ ?_ ?_)
        · simpa [hnext] using hsecond
        · intro k visit hvisit
          have hlater := hgoesOn (k + 1) visit (by simpa using hvisit)
          simpa only [List.length_cons, Nat.add_lt_add_iff_right] using hlater
        · intro k visit hvisit
          have hlater := hgiven (k + 1) visit (by simpa using hvisit)
          rw [hlater]
          simp [Visit.left, Option.getD_or]
      · obtain rfl : visits = [] := by simpa [hnext] using hsecond
        exact .last hnext

end Route

/-- The fold over some turns, part by part: the last update of all counts as the value, any update
    at all as a change, and the last turn alone decides on the failure. -/
theorem Outcome.foldl_after {σ : Type} (outcome : Outcome) (visits : List (Visit σ)) :
    visits.foldl Outcome.after outcome =
      { field := outcome.field
        value := (visits.flatMap Visit.updates).getLastD outcome.value
        updated := outcome.updated || visits.any (!·.updates.isEmpty)
        failure := (visits.getLast?.map Visit.failure?).getD outcome.failure
        state := outcome.state } := by
  induction visits generalizing outcome with
  | nil => simp
  | cons visit visits ih =>
    rw [List.foldl_cons, ih, List.getLast?_cons]
    cases hlast : visits.getLast? <;> simp [Outcome.after, Option.getD_or, Bool.or_assoc]

namespace Chain

variable {σ : Type}

/-- An account of a run of a chain on the value `first`: the turns that its links took, and what
    they have to do with the outcome. -/
structure Account (chain : Chain σ) (first : Value) (visits : List (Visit σ)) (outcome : Outcome) :
    Prop where
  /-- The links take their turns in order, none of them twice. -/
  inOrder : visits.map (·.link) = chain.links.take visits.length
  /-- The first link takes its turn, if there is one. -/
  starts : 0 < visits.length ↔ 0 < chain.links.length
  /-- Another link takes its turn just when the first verdict before it was to go on. -/
  goesOn : ∀ k visit, visits[k]? = some visit →
    (k + 1 < visits.length ↔ visit.verdict? = some .next ∧ k + 1 < chain.links.length)
  /-- A link is given the last update that counts of those before it. -/
  given : ∀ k visit, visits[k]? = some visit →
    visit.given = ((visits.take k).flatMap Visit.updates).getLastD first
  field : outcome.field = chain.field
  ended : outcome.state = .ended
  value : outcome.value = (visits.flatMap Visit.updates).getLastD first
  updated : outcome.updated = true ↔ ∃ visit ∈ visits, visit.updates ≠ []
  /-- The outcome is invalid just when the first verdict of the last turn was. -/
  invalid : outcome.valid = false ↔
    ∃ visit message, visits.getLast? = some visit ∧ visit.verdict? = some (.invalid message)
  /-- Such a verdict names the message, and the link that gave it names the rule. -/
  blamed : ∀ visit message, visits.getLast? = some visit →
    visit.verdict? = some (.invalid message) →
    outcome.message = message ∧ outcome.rule? = some visit.link.rule
  passed : outcome.valid = true → outcome.message = "" ∧ outcome.rule? = none

theorem Visit.failure?_eq_some_iff {visit : Visit σ} {failure : Failure} :
    visit.failure? = some failure ↔
      visit.verdict? = some (.invalid failure.message) ∧ failure.rule = visit.link.rule := by
  obtain ⟨rule, message⟩ := failure
  unfold Visit.failure?
  split
  · next hverdict => simp [hverdict, and_comm, eq_comm]
  · next hverdict =>
    simp only [reduceCtorEq, false_iff, not_and]
    intro hinvalid
    exact (hverdict message hinvalid).elim

/-- The failure of an outcome is told by its validity, its message and its rule. -/
theorem failure_eq_last_iff {visits : List (Visit σ)} {outcome : Outcome} :
    outcome.failure = visits.getLast?.bind Visit.failure? ↔
      (outcome.valid = false ↔
        ∃ visit message, visits.getLast? = some visit ∧
          visit.verdict? = some (.invalid message)) ∧
      (∀ visit message, visits.getLast? = some visit →
        visit.verdict? = some (.invalid message) →
        outcome.message = message ∧ outcome.rule? = some visit.link.rule) ∧
      (outcome.valid = true → outcome.message = "" ∧ outcome.rule? = none) := by
  have hlast : ∀ failure, visits.getLast?.bind Visit.failure? = some failure ↔
      ∃ visit, visits.getLast? = some visit ∧
        visit.verdict? = some (.invalid failure.message) ∧ failure.rule = visit.link.rule := by
    simp [Option.bind_eq_some_iff, Visit.failure?_eq_some_iff]
  constructor
  · intro hfailure
    simp only [← hfailure] at hlast
    refine ⟨⟨?_, ?_⟩, ?_, ?_⟩
    · intro hinvalid
      obtain ⟨failure, hfailed⟩ : ∃ failure, outcome.failure = some failure := by
        simpa [Outcome.valid, Option.isSome_iff_exists] using hinvalid
      obtain ⟨visit, hvisit, hverdict, _⟩ := (hlast failure).mp hfailed
      exact ⟨visit, failure.message, hvisit, hverdict⟩
    · rintro ⟨visit, message, hvisit, hverdict⟩
      have hfailed := (hlast ⟨visit.link.rule, message⟩).mpr ⟨visit, hvisit, hverdict, rfl⟩
      simp [Outcome.valid, hfailed]
    · intro visit message hvisit hverdict
      have hfailed := (hlast ⟨visit.link.rule, message⟩).mpr ⟨visit, hvisit, hverdict, rfl⟩
      simp [Outcome.message, Outcome.rule?, hfailed]
    · intro hvalid
      have hpassed : outcome.failure = none := by simpa [Outcome.valid] using hvalid
      simp [Outcome.message, Outcome.rule?, hpassed]
  · rintro ⟨hinvalid, hblamed, -⟩
    cases hfailed : outcome.failure with
    | none =>
      symm
      rw [Option.eq_none_iff_forall_ne_some]
      intro failure hfailure
      obtain ⟨visit, hvisit, hverdict, _⟩ := (hlast failure).mp hfailure
      have hfalse := hinvalid.mpr ⟨visit, failure.message, hvisit, hverdict⟩
      simp [Outcome.valid, hfailed] at hfalse
    | some failure =>
      symm
      obtain ⟨visit, message, hvisit, hverdict⟩ := hinvalid.mp (by simp [Outcome.valid, hfailed])
      obtain ⟨hmessage, hrule⟩ := hblamed visit message hvisit hverdict
      simp only [Outcome.message, Outcome.rule?, hfailed, Option.map_some, Option.getD_some,
        Option.some.injEq] at hmessage hrule
      exact (hlast failure).mpr ⟨visit, hvisit, hmessage ▸ hverdict, hrule⟩

/-- An account is a route through the links together with the fold over its turns. -/
theorem account_iff {chain : Chain σ} {first : Value} {visits : List (Visit σ)}
    {outcome : Outcome} :
    chain.Account first visits outcome ↔
      Route chain.links first visits ∧
        outcome = visits.foldl Outcome.after (fresh chain.field first false) := by
  have hfold : visits.foldl Outcome.after (fresh chain.field first false) =
      { field := chain.field
        value := (visits.flatMap Visit.updates).getLastD first
        updated := visits.any (!·.updates.isEmpty)
        failure := visits.getLast?.bind Visit.failure?
        state := .ended } := by
    rw [Outcome.foldl_after]
    cases visits.getLast? <;> simp [fresh]
  rw [hfold]
  constructor
  · intro haccount
    refine ⟨Route.of_laws haccount.inOrder haccount.starts haccount.goesOn haccount.given, ?_⟩
    have hfailure := failure_eq_last_iff.mpr
      ⟨haccount.invalid, haccount.blamed, haccount.passed⟩
    have hupdated : outcome.updated = visits.any (!·.updates.isEmpty) := by
      rw [Bool.eq_iff_iff, haccount.updated]
      simp
    obtain ⟨field, value, updated, failure, state⟩ := outcome
    obtain rfl := haccount.field
    obtain rfl := haccount.value
    obtain rfl := haccount.ended
    obtain rfl := hfailure
    obtain rfl := hupdated
    rfl
  · rintro ⟨hroute, rfl⟩
    generalize houtcome : Outcome.mk _ _ _ _ _ = outcome
    obtain ⟨hinvalid, hblamed, hpassed⟩ :=
      failure_eq_last_iff.mp (congrArg Outcome.failure houtcome.symm)
    subst houtcome
    exact
      { inOrder := hroute.links_eq
        starts := hroute.visits_nonempty_iff
        goesOn := fun k visit hvisit => hroute.goesOn_iff hvisit
        given := fun k visit hvisit => hroute.given_eq hvisit
        field := rfl
        ended := rfl
        value := rfl
        updated := by simp
        invalid := hinvalid
        blamed := hblamed
        passed := hpassed }

/-- Links that all come to an end, wherever their turns begin, make a chain that does. -/
theorem exists_ends_runLinks {interference : σ → σ → Prop} {field : String} {links : List (Link σ)}
    (hlinks : ∀ link ∈ links, ∀ turn t, ∃ calls t', (link.act turn).Ends interference t calls t')
    (value : Value) (updated : Bool) (s : σ) :
    ∃ outcome s', (runLinks field links value updated).Ends interference s outcome s' := by
  induction links generalizing value updated s with
  | nil => exact ⟨_, s, .done _ s⟩
  | cons link links ih =>
    obtain ⟨calls, t, hact⟩ :=
      hlinks link List.mem_cons_self ⟨field, link.rule, .running, value⟩ s
    let visit : Visit σ := ⟨link, value, calls⟩
    simp only [runLinks_cons, Job.ends_bind_iff]
    by_cases hnext : visit.verdict? = some .next
    · obtain ⟨outcome, s', hrest⟩ := ih (fun link hlink => hlinks link (.tail _ hlink)) visit.left
        (updated || !visit.updates.isEmpty) t
      refine ⟨outcome, s', calls, t, hact, ?_⟩
      rw [if_pos hnext]
      exact .observe hrest
    · refine ⟨(fresh field value updated).after visit, t, calls, t, hact, ?_⟩
      rw [if_neg hnext]
      exact .done _ t

/-- A chain is a left fold over the turns of its links. Whatever its links do and wait for, whatever
    others do to the state meanwhile, and whether the first value is given or found, it ends with an
    outcome just when that outcome accounts for turns that its links can take; a run of the chain by
    itself is one of these cases. A chain whose links all come to an end comes to an end. -/
theorem start_refines_left_fold (chain : Chain σ) (current : σ → String → Value)
    (start : Option Value) (s : σ) :
    (∀ interference outcome s',
      (chain.start current start).Ends interference s outcome s' ↔
        ∃ visits, Visited interference chain.field s visits s' ∧
          chain.Account (start.getD (current s chain.field)) visits outcome) ∧
    (∀ patience outcome s', (chain.start current start).run patience s = (some outcome, s') →
      ∃ visits, Visited Eq chain.field s visits s' ∧
        chain.Account (start.getD (current s chain.field)) visits outcome) ∧
    ((∀ link ∈ chain.links, ∀ turn t, ∃ patience calls t',
        (link.act turn).run patience t = (some calls, t')) →
      ∃ patience outcome s', (chain.start current start).run patience s = (some outcome, s')) := by
  have hends : ∀ interference outcome s',
      (chain.start current start).Ends interference s outcome s' ↔
        ∃ visits, Visited interference chain.field s visits s' ∧
          chain.Account (start.getD (current s chain.field)) visits outcome := by
    intro interference outcome s'
    simp only [Chain.start, runOn, Job.ends_observe_iff, ends_runLinks_iff, account_iff]
  refine ⟨hends, ?_, ?_⟩
  · intro patience outcome s' hrun
    exact (hends Eq outcome s').mp (Job.ends_of_run hrun)
  · intro hlinks
    have hacts : ∀ link ∈ chain.links, ∀ turn t, ∃ calls t',
        (link.act turn).Ends Eq t calls t' := by
      intro link hlink turn t
      obtain ⟨patience, calls, t', hrun⟩ := hlinks link hlink turn t
      exact ⟨calls, t', Job.ends_of_run hrun⟩
    obtain ⟨outcome, s', hrest⟩ :
        ∃ outcome s', (chain.runOn (start.getD (current s chain.field))).Ends Eq s outcome s' :=
      exists_ends_runLinks hacts (start.getD (current s chain.field)) false s
    have hstart : (chain.start current start).Ends Eq s outcome s' := .observe hrest
    obtain ⟨patience, hrun⟩ := Job.exists_run_of_ends hstart
    exact ⟨patience, outcome, s', hrun⟩

/-- An update after the verdict is lost, and a link without a verdict keeps its update. -/
example :
    let links : List (Link ScriptState) :=
      [.scripted "a" [.call (.update .null), .sleep 5, .call (.finish .next),
          .call (.update (.bool false))],
        .scripted "b" [.call (.update (.bool true))],
        .scripted "c" [.call (.finish (.invalid "late"))]]
    (((Chain.mk "field" links).start (fun s => s.record.get) none).run 5 ⟨.empty, [], []⟩).1 =
      some ⟨"field", .bool true, true, none, .ended⟩ := rfl

end Chain

end FieldRules
