import FieldRules.Proofs.Compiler.Alike
import FieldRules.Rule.Standard

namespace FieldRules

namespace Message

/-- A message that is missing, or one text for all types of values. -/
inductive Plain : Option Message → Prop
  | missing : Plain none
  | text (template : String) : Plain (some (.text template))

/-- Messages that are the same, or both plain. -/
def MayReplace (message message' : Option Message) : Prop :=
  message = message' ∨ Plain message ∧ Plain message'

variable {message message' given given' : Option Message}

theorem Plain.or (hmessage : Plain message) (hgiven : Plain given) : Plain (message.or given) := by
  cases hmessage with
  | missing => exact hgiven
  | text template => exact .text template

theorem MayReplace.or (hmessage : MayReplace message message') (hgiven : Plain given)
    (hgiven' : Plain given') : MayReplace (message.or given) (message'.or given') := by
  rcases hmessage with rfl | ⟨hmessage, hmessage'⟩
  · cases message with
    | none => exact .inr ⟨hgiven, hgiven'⟩
    | some message => exact .inl rfl
  · exact .inr ⟨hmessage.or hgiven, hmessage'.or hgiven'⟩

/-- Plain messages serve all types of values that have a size, as the default messages do. -/
theorem Plain.lookup_isSome (hmessage : Plain message) (default : SizeMessages) (tag : TypeTag) :
    (((message.map templates).getD default.templates).lookup tag).isSome = true := by
  cases hmessage <;> cases tag <;> rfl

end Message

namespace RuleEntry

/-- Entries that differ at most in messages, where those that differ are plain. -/
abbrev PlainlyReworded (registry : Registry) : RuleEntry → RuleEntry → Prop :=
  Reworded registry Message.MayReplace

/-- An input that is not taken for a message may be written beside a message as well. -/
theorem plainlyReworded_of_ofConfig (registry : Registry) (rule : String) {input v : Value}
    {template : String} (htext : ∀ s, input ≠ .string s) (hbare : givenMessage? input = none)
    (hmessage : v.get? "message" = some (.string template)) (htemplate : template ≠ "")
    (hinput : (v.get? "input").getD .null = input) :
    ∃ entry entry', ofConfig rule input = .ok entry ∧ ofConfig rule v = .ok entry' ∧
      entry.PlainlyReworded registry entry' := by
  have hread : ofConfig rule input = .ok ⟨rule, none, .ofValue input⟩ := by
    unfold ofConfig
    split
    · next s => exact absurd rfl (htext s)
    · rw [hbare]
  have hgiven : givenMessage? v = some (.string template) := by
    rw [givenMessage?, hmessage, Option.filter_some, if_pos]
    simpa [isGiven] using htemplate
  have hread' : ofConfig rule v = .ok ⟨rule, some (.text template), .ofValue input⟩ := by
    unfold ofConfig
    split
    · cases hmessage
    · rw [hgiven, hinput]
      rfl
  exact ⟨_, _, hread, hread', .same rule _ (.inr ⟨.missing, .text template⟩)⟩

end RuleEntry

namespace Likeness

/-- The same states, in which any messages are given, but for the same types of values. -/
def unworded : Likeness where
  states := Eq
  reads _ := True
  texts _ _ := True
  wordings _ _ := True
  sizeWordings wording wording' :=
    ∀ tag, (wording.templates.lookup tag).isSome = (wording'.templates.lookup tag).isSome
  get_eq hst _ := by rw [hst]
  hasFailed_eq hst := by rw [hst]
  setField _ _ hst := by rw [hst]
  noteLookup _ hst := by rw [hst]
  render _ _ _ := trivial
  renderSize := by
    intro wording wording' s t tag value size hwording _
    have htag := hwording tag
    generalize wording.templates.lookup tag = template? at htag ⊢
    generalize wording'.templates.lookup tag = template'? at htag ⊢
    cases template? with
    | none =>
      cases template'? with
      | none => exact .none
      | some template' => cases htag
    | some template =>
      cases template'? with
      | none => cases htag
      | some template' => exact .some trivial

end Likeness

/-- What an outcome says besides the message of a failure. -/
def Outcome.unworded (outcome : Outcome) : Outcome :=
  { outcome with failure := outcome.failure.map fun failure => { failure with message := "" } }

theorem Outcome.Alike.unworded_eq {texts : String → String → Prop} {outcome outcome' : Outcome}
    (halike : outcome.Alike texts outcome') : outcome.unworded = outcome'.unworded := by
  cases halike <;> rfl

namespace Compiler

variable {compiler compiler' : Compiler}

/-- Display names and plain messages make no other difference than in messages. -/
theorem alike_unworded (hregistry : compiler'.registry = compiler.registry)
    (hschema : compiler'.schema = compiler.schema) :
    Alike .unworded Message.MayReplace
      (fun message message' => Message.Plain message ∧ Message.Plain message')
      compiler compiler' where
  registry_eq := hregistry
  schema_eq := hschema
  reads _ := trivial
  own_refl _ := .inl rfl
  outer_none := ⟨.missing, .missing⟩
  wording _ _ _ _ _ _ _ := trivial
  sizeWording := by
    intro message message' given given' hmessage hgiven rule field params default extra tag
    rw [RuleUse.sizeWording, RuleUse.sizeWording]
    rcases hmessage.or hgiven.1 hgiven.2 with heq | ⟨hplain, hplain'⟩
    · rw [heq]
    · exact (hplain.lookup_isSome default tag).trans (hplain'.lookup_isSome default tag).symm

/-- Messages and display names never influence a verdict, as long as the messages that differ are
    plain ones: with others the same specification fails with the same error, or all runs end alike
    but for the message of a failure, and leave the same state. The rules that a record brings along
    are not among them. To write an input beside a plain message is such a change. -/
theorem compile_reworded (hregistry : compiler'.registry = compiler.registry)
    (hschema : compiler'.schema = compiler.schema) {spec spec' : RuleSpec}
    (hentries : List.Forall₂ (RuleEntry.PlainlyReworded compiler.registry) spec.entries
      spec'.entries)
    {message message' : Option Message} (hmessage : Message.Plain message)
    (hmessage' : Message.Plain message') (field : String) :
    (∀ e, compiler.compile spec field message = .error e ↔
      compiler'.compile spec' field message' = .error e) ∧
    (∀ rules, compiler.compile spec field message = .ok rules →
      (∀ site ∈ Rule.allSites field rules, customName? site.rule = none) →
      ∃ rules', compiler'.compile spec' field message' = .ok rules' ∧
        ∀ env value patience s,
          let ran := (startRules env field rules value).run patience s
          let ran' := (startRules env field rules' value).run patience s
          ran.1.map Outcome.unworded = ran'.1.map Outcome.unworded ∧ ran.2 = ran'.2) ∧
    ∀ rule {input v : Value} {template : String}, (∀ s, input ≠ .string s) →
      RuleEntry.givenMessage? input = none → v.get? "message" = some (.string template) →
      template ≠ "" → (v.get? "input").getD .null = input →
      ∃ entry entry', RuleEntry.ofConfig rule input = .ok entry ∧
        RuleEntry.ofConfig rule v = .ok entry' ∧
        entry.PlainlyReworded compiler.registry entry' := by
  have halike := compile_alike (alike_unworded hregistry hschema) hentries field trivial
    (fun _ _ => trivial) ⟨hmessage, hmessage'⟩
  refine ⟨fun e => halike.error_iff, fun rules hcompile hcustom => ?_,
    fun rule _ _ _ => RuleEntry.plainlyReworded_of_ofConfig _ rule⟩
  obtain ⟨rules', hcompile', hmatches⟩ := halike.exists_ok hcompile
  refine ⟨rules', hcompile', fun env value patience s => ?_⟩
  have hjobs := hmatches hcustom env value
  exact ⟨hjobs.result_map_eq (fun _ _ hsame => hsame.unworded_eq) patience rfl,
    (hjobs.run patience rfl).2⟩

/-- A compiler for accounts, with or without a display name for the nickname. -/
def forNicks (aliases : List (String × String)) : Compiler :=
  ⟨.standard, ⟨"Account", ["name", "nick"], false, none⟩, ⟨aliases⟩⟩

/-- If there is a name, the nickname must have at least three characters. -/
def longNick (hint : Value) (message : Option Message) : RuleSpec :=
  .map [⟨"if", none, .value (.object [("field", .string "name"),
      ("rules", .object [("required", hint)])])⟩,
    ⟨"min", message, .value (.int 3)⟩]

def longNickRules : List Rule :=
  [.branch "if" .all "nick" "name"
    [.check "required" (.predicate Finding.required
      ⟨.forField "name" ⟨[]⟩ (forNicks []).schema, Wording.said " is required.", []⟩)],
    .check "min" (.sized (fun size => size < Binary64.ofInt 3)
      ⟨.forField "nick" ⟨[]⟩ (forNicks []).schema,
        (Wording.boundMessages (" must have a minimum of ", " characters.")
          (" must be at least ", ".") (" must have at least ", " items.")).templates,
        [("$number", .int 3)]⟩)]

theorem compile_reworded_short_nick :
    let s : RunState := .ofRecord ⟨[("name", .string "Ada"), ("nick", .string "Al")]⟩
    (forNicks []).compile (longNick .null none) "nick" none = .ok longNickRules ∧
      ∃ rules', (forNicks [("nick", "Nickname")]).compile
          (longNick (.string "Who is it?") (some (.text "Too short."))) "nick"
          (some (.text "No.")) = .ok rules' ∧
        (((startRules .empty "nick" rules' none).run 0 s).1.map
            Outcome.unworded).map Outcome.rule? = some (some "min") := by
  intro s
  have hcompile : (forNicks []).compile (longNick .null none) "nick" none = .ok longNickRules := by
    refine mapM_eq_ok_iff.mpr (.cons ?_ (.cons ?_ .nil))
    · refine compileEntry_eq_ok_iff.mpr (.branch rfl rfl rfl (.cons ?_ .nil))
      exact .check rfl (by rfl) (by rfl)
    · exact compileEntry_eq_ok_iff.mpr (.check rfl (by rfl) (by rfl))
  refine ⟨hcompile, ?_⟩
  have hentries : List.Forall₂ (RuleEntry.PlainlyReworded (forNicks []).registry)
      (longNick .null none).entries
      (longNick (.string "Who is it?") (some (.text "Too short."))).entries := by
    refine .cons ?_ (.cons (.same _ _ (.inr ⟨.missing, .text _⟩)) .nil)
    refine .nested "if" rfl (.inl rfl) rfl rfl rfl rfl rfl ?_
    exact .cons (.same _ _ (.inr ⟨.missing, .text _⟩)) .nil
  have hcustom : ∀ site ∈ Rule.allSites "nick" longNickRules, customName? site.rule = none := by
    simp [Rule.allSites, Rule.sites, longNickRules, customName?]
  have hregistry : (forNicks [("nick", "Nickname")]).registry = (forNicks []).registry := rfl
  obtain ⟨-, hruns, -⟩ := compile_reworded hregistry rfl hentries .missing (.text "No.") "nick"
  obtain ⟨rules', hcompile', hsame⟩ := hruns longNickRules hcompile hcustom
  refine ⟨rules', hcompile', ?_⟩
  rw [← (hsame .empty none 0 s).1]
  decide +kernel

end Compiler

end FieldRules
