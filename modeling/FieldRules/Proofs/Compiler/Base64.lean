import FieldRules.Proofs.Compiler.Rewrites
import FieldRules.Proofs.Rule.Finding
import FieldRules.Proofs.Text.Base64

namespace FieldRules

namespace Transform

variable {text written : String}

theorem find_base64 (value : Value) :
    base64.find value = .replace (.string (Text.Base64.encode value.display)) := rfl

theorem find_unbase64_of_encodes (hwritten : Text.Base64.Encodes (Text.trim written) text) :
    unbase64.find (.string written) = .replace (.string text) := by
  simp only [find, replacement?, Value.string?, Option.bind_some,
    Text.Base64.decode?_eq_some_iff.mpr hwritten, Option.map_some]

theorem find_unbase64_of_not_encodes
    (hwritten : ∀ text, ¬Text.Base64.Encodes (Text.trim written) text) :
    unbase64.find (.string written) = .valid := by
  simp only [find, replacement?, Value.string?, Option.bind_some,
    Text.Base64.decode?_eq_none_iff.mpr hwritten, Option.map_none]

end Transform

namespace Compiler

variable {compiler : Compiler} {field : String} {message : Option Message} {entry : RuleEntry}

/-- `base64` writes the form of the text of any value, and `unbase64` reads it back. A text is
    rewritten by `unbase64` just if it is the form of another one but for the blanks around it, and
    this form is what `base64` makes of the other one again. -/
theorem compileEntry_base64 (hstandard : compiler.registry = .standard)
    (hname : (splitRule entry.rule).1 = "base64") (hparams : (entryParams entry).isNone = true)
    {entry' : RuleEntry} (hname' : (splitRule entry'.rule).1 = "unbase64")
    (hparams' : (entryParams entry').isNone = true) :
    ∃ encode decode, compiler.compileEntry field message entry = .ok encode ∧
      compiler.compileEntry field message entry' = .ok decode ∧
      ∀ (env : Environment) (s : RunState),
        (∀ value, ∃ written, Text.Base64.Encodes written value.display ∧
          encode.judge env field value s = some ⟨field, .string written, true, none, .ended⟩ ∧
          (startRules env field [encode, decode] (some value)).alone s =
            some (⟨field, .string value.display, true, none, .ended⟩, s)) ∧
        ∀ written : String,
          (∀ text, decode.judge env field (.string written) s =
              some ⟨field, .string text, true, none, .ended⟩ ↔
            Text.Base64.Encodes (Text.trim written) text) ∧
          (∀ text, Text.Base64.Encodes (Text.trim written) text →
            encode.judge env field (.string text) s =
              some ⟨field, .string (Text.trim written), true, none, .ended⟩) ∧
          ((∀ text, ¬Text.Base64.Encodes (Text.trim written) text) →
            decode.judge env field (.string written) s =
              some ⟨field, .string written, false, none, .ended⟩) := by
  refine ⟨_, _, compileEntry_transform hstandard hname rfl hparams,
    compileEntry_transform hstandard hname' rfl hparams', fun env s => ?_⟩
  have hencode : (Rule.check "base64" (.transform .base64 field)).Finds env field
      Transform.base64.find s := Rule.finds_transform fun _ => rfl
  have hdecode : (Rule.check "unbase64" (.transform .unbase64 field)).Finds env field
      Transform.unbase64.find s := Rule.finds_transform fun _ => rfl
  have hwrites := fun value => hencode.rewrites (Transform.find_base64 value)
  refine ⟨fun value => ?_, fun written => ⟨fun text => ⟨fun hjudge => ?_, fun hwritten => ?_⟩,
    fun text hwritten => ?_, fun hnone => ?_⟩⟩
  · have hencodes := Text.Base64.encodes_encode value.display
    refine ⟨_, hencodes, (hwrites value).judge, (hwrites value).alone_pair (hdecode.rewrites ?_)⟩
    apply Transform.find_unbase64_of_encodes
    rwa [Text.Base64.trim_encode]
  · by_cases hsome : ∃ text, Text.Base64.Encodes (Text.trim written) text
    · obtain ⟨text', hwritten⟩ := hsome
      have hjudge' := (hdecode.rewrites (Transform.find_unbase64_of_encodes hwritten)).judge
      cases hjudge.symm.trans hjudge'
      exact hwritten
    · have hjudge' := hdecode.judge_of_valid
        (Transform.find_unbase64_of_not_encodes (not_exists.mp hsome))
      cases hjudge.symm.trans hjudge'
  · exact (hdecode.rewrites (Transform.find_unbase64_of_encodes hwritten)).judge
  · rw [Text.Base64.encodes_iff.mp hwritten]
    exact (hwrites (.string text)).judge
  · exact hdecode.judge_of_valid (Transform.find_unbase64_of_not_encodes hnone)

/-- Blanks around the form are no part of it. A text whose last bits are not zero is not the form of
    anything, though lenient readers take it for the same text. -/
theorem compileEntry_base64_hello :
    let env : Environment := .empty
    let s : RunState := .ofRecord .empty
    ∃ encode decode, forNames.compileEntry "name" none (.ofName "base64") = .ok encode ∧
      forNames.compileEntry "name" none (.ofName "unbase64") = .ok decode ∧
      (startRules env "name" [encode, decode] (some (.string "¿qué?"))).alone s =
        some (⟨"name", .string "¿qué?", true, none, .ended⟩, s) ∧
      decode.judge env "name" (.string " aGVsbG8=\n") s =
        some ⟨"name", .string "hello", true, none, .ended⟩ ∧
      encode.judge env "name" (.string "hello") s =
        some ⟨"name", .string "aGVsbG8=", true, none, .ended⟩ ∧
      decode.judge env "name" (.string "aGVsbG9=") s =
        some ⟨"name", .string "aGVsbG9=", false, none, .ended⟩ := by
  intro env s
  have hstandard : forNames.registry = .standard := rfl
  have hname : (splitRule (RuleEntry.ofName "base64").rule).1 = "base64" := by rfl
  have hparams : (entryParams (.ofName "base64")).isNone = true := by rfl
  have hname' : (splitRule (RuleEntry.ofName "unbase64").rule).1 = "unbase64" := by rfl
  have hparams' : (entryParams (.ofName "unbase64")).isNone = true := by rfl
  obtain ⟨encode, decode, hencode, hdecode, hruns⟩ :
      ∃ encode decode, forNames.compileEntry "name" none (.ofName "base64") = .ok encode ∧
        forNames.compileEntry "name" none (.ofName "unbase64") = .ok decode ∧ _ :=
    compileEntry_base64 hstandard hname hparams hname' hparams'
  obtain ⟨hpipeline, hreads⟩ := hruns env s
  obtain ⟨hread, hwrite, -⟩ := hreads " aGVsbG8=\n"
  obtain ⟨-, -, hnone⟩ := hreads "aGVsbG9="
  have hhello : Text.Base64.Encodes (Text.trim " aGVsbG8=\n") "hello" :=
    Text.Base64.encodes_iff.mpr (by rfl)
  have hother : Text.Base64.decode? (Text.trim "aGVsbG9=") = none := by rfl
  obtain ⟨_, -, -, hwhole⟩ := hpipeline (.string "¿qué?")
  exact ⟨encode, decode, hencode, hdecode, hwhole, (hread "hello").mpr hhello,
    hwrite "hello" hhello, hnone (Text.Base64.decode?_eq_none_iff.mp hother)⟩

end Compiler

end FieldRules
