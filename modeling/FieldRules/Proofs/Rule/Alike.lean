import FieldRules.Proofs.Chain.Alike
import FieldRules.Proofs.Environment
import FieldRules.Rule.Basic

namespace FieldRules

/-- In which respects two runs of rules may differ: which states they may be in, which fields are
    the same in these states, which messages they may give, and which wordings give such messages.
    The changes that rules make keep the states related. -/
structure Likeness where
  states : RunState → RunState → Prop
  reads : String → Prop
  texts : String → String → Prop
  wordings : Wording → Wording → Prop
  sizeWordings : SizeWording → SizeWording → Prop
  get_eq : ∀ {s t field}, states s t → reads field → s.record.get field = t.record.get field
  hasFailed_eq : ∀ {s t}, states s t → s.hasFailed = t.hasFailed
  setField : ∀ {s t} field value, states s t →
    states (s.setField field value) (t.setField field value)
  noteLookup : ∀ {s t} model, states s t → states (s.noteLookup model) (t.noteLookup model)
  render : ∀ {wording wording' s t} value, wordings wording wording' → states s t →
    texts (wording.render value s.record) (wording'.render value t.record)
  renderSize : ∀ {wording wording' s t} tag value size, sizeWordings wording wording' →
    states s t → Option.Rel texts
      ((wording.templates.lookup tag).map fun template =>
        wording.renderer.render template value s.record (wording.extra ++ [("$size", size)]))
      ((wording'.templates.lookup tag).map fun template =>
        wording'.renderer.render template value t.record (wording'.extra ++ [("$size", size)]))

/-- Checks that are the same but for their wordings, and that read no other fields of the record
    than those which are the same. Rules that the record brings along are none of them. -/
inductive Check.Alike (like : Likeness) : Check → Check → Prop
  | predicate (find : Value → Finding) {wording wording' : Wording}
    (hwording : like.wordings wording wording') :
    Alike like (.predicate find wording) (.predicate find wording')
  | pattern (pattern : Pattern) {wording wording' : Wording}
    (hwording : like.wordings wording wording') :
    Alike like (.pattern pattern wording) (.pattern pattern wording')
  | sized (isInvalid : Binary64 → Bool) {wording wording' : SizeWording}
    (hwording : like.sizeWordings wording wording') :
    Alike like (.sized isInvalid wording) (.sized isInvalid wording')
  | transform (t : Transform) (field : String) :
    Alike like (.transform t field) (.transform t field)
  | upper : Alike like .upper .upper
  | siblings (check : SiblingCheck) {fields : List String} {wording wording' : Wording}
    (hreads : ∀ field ∈ fields, like.reads field) (hwording : like.wordings wording wording') :
    Alike like (.siblings check fields wording) (.siblings check fields wording')
  | trigger {field : String} (triggers : List String) (requiredWhenListed : Bool)
    {wording wording' : Wording} (hreads : like.reads field)
    (hwording : like.wordings wording wording') :
    Alike like (.trigger field triggers requiredWhenListed wording)
      (.trigger field triggers requiredWhenListed wording')
  | foreign (model : String) {field : String} (source : Source) (failOnMatch : Bool)
    {wording wording' : Wording} (hreads : like.reads field)
    (hwording : like.wordings wording wording') :
    Alike like (.foreign model field source failOnMatch wording)
      (.foreign model field source failOnMatch wording')
  | itemMatch (field : String) (expected : Value) (equal : Value → Value → Bool)
    (failOnMatch : Bool) {wording wording' : Wording}
    (hwording : like.wordings wording wording') :
    Alike like (.itemMatch field expected equal failOnMatch wording)
      (.itemMatch field expected equal failOnMatch wording')
  | membership (members : Membership) (failWhenListed : Bool) {wording wording' : Wording}
    (hwording : like.wordings wording wording') :
    Alike like (.membership members failWhenListed wording)
      (.membership members failWhenListed wording')
  | date {expression : Calendar.Expression} (isInvalid : Int → Int → Bool)
    {wording wording' : Wording} (hreads : ∀ name, expression = .field name → like.reads name)
    (hwording : like.wordings wording wording') :
    Alike like (.date expression isInvalid wording) (.date expression isInvalid wording')

namespace Check

variable {like : Likeness} {s t : RunState} {wording wording' : Wording}

theorem goOn_alike (texts : String → String → Prop) : Call.AllAlike texts goOn goOn :=
  .cons (.finish .next) .nil

theorem fail_alike {texts : String → String → Prop} {message message' : String}
    (hmessage : texts message message') : Call.AllAlike texts (fail message) (fail message') :=
  .cons (.finish (.invalid hmessage)) .nil

theorem replaceBy_alike (texts : String → String → Prop) (value : Value) :
    Call.AllAlike texts (replaceBy value) (replaceBy value) :=
  .cons (.update value) (.cons (.finish .next) .nil)

theorem passIf_alike (hst : like.states s t) (hwording : like.wordings wording wording')
    (valid : Bool) (value : Value) :
    Call.AllAlike like.texts (passIf valid wording value s.record)
      (passIf valid wording' value t.record) := by
  unfold passIf
  split
  · exact goOn_alike _
  · exact fail_alike (like.render value hwording hst)

theorem findingCalls_alike (hst : like.states s t) (hwording : like.wordings wording wording')
    (finding : Finding) (value : Value) :
    Call.AllAlike like.texts (findingCalls finding wording value s.record)
      (findingCalls finding wording' value t.record) := by
  cases finding with
  | valid => exact goOn_alike _
  | replace replacement => exact replaceBy_alike _ replacement
  | invalid => exact fail_alike (like.render value hwording hst)

/-- Whether a value has a template does not depend on the wording, and so neither does whether it is
    checked. -/
theorem sizedCalls_alike {wording wording' : SizeWording} (hst : like.states s t)
    (hwording : like.sizeWordings wording wording') (isInvalid : Binary64 → Bool) (value : Value) :
    Call.AllAlike like.texts (sizedCalls isInvalid wording value s.record)
      (sizedCalls isInvalid wording' value t.record) := by
  unfold sizedCalls
  cases value.tag? with
  | none => exact goOn_alike _
  | some tag =>
    rw [Option.bind_some, Option.bind_some]
    cases value.size? with
    | none =>
      cases wording.templates.lookup tag <;> cases wording'.templates.lookup tag <;>
        exact goOn_alike like.texts
    | some size =>
      have hrendered := like.renderSize tag value (.ofBinary64 size) hwording hst
      generalize wording.templates.lookup tag = template? at hrendered ⊢
      generalize wording'.templates.lookup tag = template'? at hrendered ⊢
      cases template? with
      | none =>
        cases template'? with
        | none => exact goOn_alike like.texts
        | some template' => cases hrendered
      | some template =>
        cases template'? with
        | none => cases hrendered
        | some template' =>
          obtain ⟨hmessage⟩ := hrendered
          dsimp only
          split
          · exact fail_alike hmessage
          · exact goOn_alike like.texts

theorem dateCalls_alike (hst : like.states s t) (hwording : like.wordings wording wording')
    (date : Option Int) (isInvalid : Int → Int → Bool) (value : Value) :
    Call.AllAlike like.texts (dateCalls date isInvalid wording value s.record)
      (dateCalls date isInvalid wording' value t.record) := by
  unfold dateCalls
  cases value.time? with
  | none => exact goOn_alike _
  | some time => exact .cons (.update _) (passIf_alike hst hwording _ _)

/-- Other records are looked through for the value that a member has in one field. -/
theorem foreignCalls_alike {field : String} (hst : like.states s t) (hreads : like.reads field)
    (hwording : like.wordings wording wording') (env : Environment) (failOnMatch : Bool)
    (value : Value) (members : Option (List Instance)) :
    Call.AllAlike like.texts (foreignCalls env s field failOnMatch wording value members)
      (foreignCalls env t field failOnMatch wording' value members) := by
  cases members with
  | none => exact goOn_alike _
  | some members =>
    have hvalue : Environment.memberValue s field = Environment.memberValue t field := by
      funext member
      cases member with
      | self => exact like.get_eq hst hreads
      | other record => rfl
    rw [foreignCalls, foreignCalls, Environment.hasMatch, Environment.hasMatch, hvalue]
    exact passIf_alike hst hwording _ _

/-- What a check does in its turn depends on the record only as far as the check reads it. -/
theorem Alike.act {check check' : Check} (halike : Check.Alike like check check')
    (env : Environment) (turn : Turn) :
    (check.act env turn).Matches like.states (Call.AllAlike like.texts) (check'.act env turn) := by
  refine .observe fun s t hst => ?_
  cases halike with
  | predicate find hwording => exact .done (findingCalls_alike hst hwording _ _)
  | pattern pattern hwording => exact .done (passIf_alike hst hwording _ _)
  | sized isInvalid hwording => exact .done (sizedCalls_alike hst hwording _ _)
  | transform transform field =>
    dsimp only
    cases transform.stored? turn.value with
    | none =>
      cases transform.replacement? turn.value with
      | none => exact .done (goOn_alike _)
      | some replacement => exact .done (replaceBy_alike _ replacement)
    | some stored =>
      refine .modify (fun _ _ => like.setField field stored) ?_
      cases transform.replacement? turn.value with
      | none => exact .done (goOn_alike _)
      | some replacement => exact .done (replaceBy_alike _ replacement)
  | upper =>
    cases turn.value with
    | string text => exact .done (replaceBy_alike _ _)
    | _ => exact .done (.cons (.finish .stop) .nil)
  | @siblings check fields wording wording' hreads hwording =>
    have hvalues : fields.map t.record.get = fields.map s.record.get :=
      List.map_congr_left fun field hfield => (like.get_eq hst (hreads field hfield)).symm
    dsimp only
    rw [hvalues, like.hasFailed_eq hst]
    cases check.decide turn.value (fields.map s.record.get) (fields.any t.hasFailed) with
    | next => exact .done (goOn_alike _)
    | stop => exact .done (.cons (.finish .stop) .nil)
    | invalid => exact .done (fail_alike (like.render turn.value hwording hst))
  | trigger triggers requiredWhenListed hreads hwording =>
    dsimp only
    rw [like.get_eq hst hreads]
    exact .done (passIf_alike hst hwording _ _)
  | foreign model source failOnMatch hreads hwording =>
    dsimp only
    split
    · exact .done (goOn_alike _)
    · cases source with
      | given members => exact .done (foreignCalls_alike hst hreads hwording env failOnMatch _ _)
      | lookup timeout =>
        refine (env.lookup_matches like.noteLookup timeout _).bind ?_
        rintro members _ rfl
        exact .observe fun s t hst =>
          .done (foreignCalls_alike hst hreads hwording env failOnMatch _ _)
  | itemMatch field expected equal failOnMatch hwording =>
    exact .done (passIf_alike hst hwording _ _)
  | membership members failWhenListed hwording => exact .done (passIf_alike hst hwording _ _)
  | @date expression isInvalid _ _ hreads hwording =>
    have hdate : expression.eval env.now s.record = expression.eval env.now t.record := by
      cases expression with
      | field name => exact congrArg Value.time? (like.get_eq hst (hreads name rfl))
      | _ => rfl
    dsimp only
    rw [hdate]
    exact .done (dateCalls_alike hst hwording _ _ _)

end Check

/-- Rules with the same checks but for the wordings of these, none of which the record brings along,
    and with the same branches on fields that may be read. -/
inductive Rule.Alike (like : Likeness) : Rule → Rule → Prop
  | check (name : String) {body body' : Check} (hbody : body.Alike like body') :
    Alike like (.check name body) (.check name body')
  | branch (name : String) (gate : Branch) (own : String) {tested : String}
    {nested nested' : List Rule} (hreads : like.reads tested)
    (hnested : List.Forall₂ (Alike like) nested nested') :
    Alike like (.branch name gate own tested nested) (.branch name gate own tested nested')

namespace Rule

variable {like : Likeness}

theorem Alike.name_eq {rule rule' : Rule} (halike : rule.Alike like rule') :
    rule.name = rule'.name := by
  cases halike <;> rfl

mutual

theorem Alike.act (env : Environment) : ∀ {rule rule' : Rule}, rule.Alike like rule' →
    ∀ turn, (rule.act env turn).Matches like.states (Call.AllAlike like.texts) (rule'.act env turn)
  | .check _ body, _, halike, turn => by
    cases halike with
    | check _ hbody =>
      rw [Rule.act, Rule.act]
      exact hbody.act env turn
  | .branch name gate own tested nested, _, halike, turn => by
    cases halike with
    | branch _ _ _ hreads hnested =>
      rw [Rule.act, Rule.act]
      refine .observe fun s t hst => ?_
      dsimp only
      rw [like.get_eq hst hreads]
      refine (Job.Matches.all (matches_trials (env.within [(own, name)]) hnested _ _)).map ?_
      intro outcomes outcomes' hall
      rw [hall.length_eq, Outcome.countP_alike hall]
      split
      · exact .cons (.finish .stop) .nil
      · exact .cons (.finish .next) .nil

theorem matches_trials (env : Environment) : ∀ {rules rules' : List Rule},
    List.Forall₂ (Alike like) rules rules' → ∀ field value,
      List.Forall₂ (Job.Matches like.states (Outcome.Alike like.texts))
        (trials env field value rules) (trials env field value rules')
  | [], _, hrules, field, value => by
    cases hrules
    rw [trials]
    exact .nil
  | rule :: rules, _, hrules, field, value => by
    cases hrules with
    | cons hrule hrest =>
      rw [trials, trials]
      refine .cons ?_ (matches_trials env hrest field value)
      exact Chain.matches_runLinks (.cons ⟨hrule.name_eq, hrule.act env⟩ .nil) field value false

end

end Rule

/-- The chains of alike rules end alike, if they start from a field that may be read. -/
theorem matches_startRules {like : Likeness} {rules rules' : List Rule}
    (hrules : List.Forall₂ (Rule.Alike like) rules rules') {field : String}
    (hfield : like.reads field) (env : Environment) (value : Option Value) :
    (startRules env field rules value).Matches like.states (Outcome.Alike like.texts)
      (startRules env field rules' value) := by
  refine Chain.matches_start ?_ (fun s t hst => like.get_eq hst hfield) value
  rw [List.forall₂_map_left_iff, List.forall₂_map_right_iff]
  exact hrules.imp fun rule rule' hrule => ⟨hrule.name_eq, hrule.act env⟩

end FieldRules
