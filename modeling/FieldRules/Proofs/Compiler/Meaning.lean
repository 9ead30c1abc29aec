import FieldRules.Compiler.Check
import FieldRules.Compiler.Nested
import FieldRules.Proofs.MapM
import FieldRules.Proofs.Text.Numeral

namespace FieldRules

/-- What the parameters of a rule may tell it, however they are written. -/
inductive Meaning where
  | range (first last : Int)
  | bound (n : Int)
  | fields (names : List String)
  /-- A field, and the texts of its values that trigger a rule. -/
  | trigger (field : String) (values : List String)
  | items (texts : List String)
  | foreign (model field : String)
  /-- One rule for a field. -/
  | nested (field token : String)

namespace Meaning

/-- Numbers of a signed 64-bit word, lists that are not empty, names without marks, and a rule that
    can stand alone. -/
def WellFormed : Meaning → Prop
  | range first last =>
    (-0x8000000000000000 ≤ first ∧ first < 0x8000000000000000) ∧
      -0x8000000000000000 ≤ last ∧ last < 0x8000000000000000
  | bound n => -0x8000000000000000 ≤ n ∧ n < 0x8000000000000000
  | fields names => names ≠ [] ∧ ∀ name ∈ names, Text.IsName name
  | trigger field values => values ≠ [] ∧ ∀ name ∈ field :: values, Text.IsName name
  | items texts => texts ≠ [] ∧ ∀ text ∈ texts, Text.IsName text
  | foreign model field => Text.IsName model ∧ Text.IsName field
  | nested field token =>
    Text.IsName field ∧ token.toList ≠ [] ∧ Text.Tight token.toList ∧ '|' ∉ token.toList

end Meaning

namespace Params

/-- The texts, arrays and objects in which something is told. The entries of an object may stand in
    any order, and there may be others. -/
inductive Tells : Params → Meaning → Prop
  | rangeText (first last : Int) :
    Tells (.text (toString first ++ "," ++ toString last)) (.range first last)
  | rangeArray (first last : Int) :
    Tells (.value (.array [.int first, .int last])) (.range first last)
  | rangeObject {first last : Int} {entries : List (String × Value)}
    (hfirst : entries.lookup "start" = some (.int first))
    (hlast : entries.lookup "end" = some (.int last)) :
    Tells (.value (.object entries)) (.range first last)
  | boundText (n : Int) : Tells (.text (toString n)) (.bound n)
  | boundNumber (n : Int) : Tells (.value (.int n)) (.bound n)
  | fieldsText (names : List String) : Tells (.text (",".intercalate names)) (.fields names)
  | fieldsArray (names : List String) : Tells (.value (.array (names.map .string))) (.fields names)
  | triggerText (field : String) (values : List String) :
    Tells (.text (",".intercalate (field :: values))) (.trigger field values)
  | triggerArray (field : String) (values : List String) :
    Tells (.value (.array ((field :: values).map .string))) (.trigger field values)
  | triggerObject {field : String} {values : List String} {entries : List (String × Value)}
    (hfield : entries.lookup "field" = some (.string field))
    (hvalues : entries.lookup "values" = some (.array (values.map .string))) :
    Tells (.value (.object entries)) (.trigger field values)
  | itemsText (texts : List String) : Tells (.text (",".intercalate texts)) (.items texts)
  | itemsArray (texts : List String) : Tells (.value (.array (texts.map .string))) (.items texts)
  | foreignText (model field : String) :
    Tells (.text (model ++ "," ++ field)) (.foreign model field)
  | foreignArray (model field : String) :
    Tells (.value (.array [.string model, .string field])) (.foreign model field)
  | foreignObject {model field : String} {entries : List (String × Value)}
    (hmodel : entries.lookup "model" = some (.string model))
    (hfield : entries.lookup "field" = some (.string field)) :
    Tells (.value (.object entries)) (.foreign model field)
  | nestedText (field token : String) :
    Tells (.text (field ++ ":" ++ token)) (.nested field token)
  | nestedArray (field token : String) :
    Tells (.value (.array [.string field, .string token])) (.nested field token)
  | nestedObject {field token : String} {rules : Value} {entries : List (String × Value)}
    (hfield : entries.lookup "field" = some (.string field))
    (hrules : entries.lookup "rules" = some rules)
    (htoken : rules = .string token ∨ rules = .array [.string token]) :
    Tells (.value (.object entries)) (.nested field token)

namespace Tells

variable {params : Params}

/-- Something is told in all of the forms. -/
theorem isNone_eq_false {meaning : Meaning} (htells : params.Tells meaning)
    (hwell : meaning.WellFormed) : params.isNone = false := by
  have htext : ∀ names : List String, (∀ name ∈ names, Text.IsName name) → names ≠ [] →
      (text (",".intercalate names)).isNone = false := fun names hnames hsome =>
    List.isEmpty_eq_false_iff.mpr (Text.toList_intercalate_names_ne_nil hnames hsome)
  cases htells with
  | rangeText first last => simp [isNone]
  | boundText n => exact List.isEmpty_eq_false_iff.mpr (Text.isName_toString n).some
  | fieldsText names => exact htext names hwell.2 hwell.1
  | triggerText field values => exact htext _ hwell.2 (List.cons_ne_nil field values)
  | itemsText texts => exact htext texts hwell.2 hwell.1
  | foreignText model field => simp [isNone]
  | nestedText field token => simp [isNone]
  | _ => rfl

theorem range?_eq {first last : Int} (htells : params.Tells (.range first last))
    (hwell : (Meaning.range first last).WellFormed) :
    params.range? = some (.ofInt first, .ofInt last) := by
  obtain ⟨hfirst, hlast⟩ := hwell
  cases htells with
  | rangeText =>
    rw [range?, Text.splitTrimmedList_pair (Text.isName_toString first)
      (Text.isName_toString last)]
    dsimp only
    rw [Text.leadingBinary64?_toString (by omega), Text.leadingBinary64?_toString (by omega)]
    rfl
  | rangeArray => rfl
  | rangeObject hstart hend =>
    simp only [range?, Value.get?, hstart, hend]
    rfl

theorem bound?_eq {n : Int} (htells : params.Tells (.bound n))
    (hwell : (Meaning.bound n).WellFormed) : params.bound? = some (.ofInt n) := by
  obtain ⟨hlow, hhigh⟩ := hwell
  cases htells with
  | boundText => exact Text.leadingBinary64?_toString (by omega)
  | boundNumber => rfl

theorem fieldList?_eq {names : List String} (htells : params.Tells (.fields names))
    (hwell : (Meaning.fields names).WellFormed) : params.fieldList? = some names := by
  obtain ⟨hsome, hnames⟩ := hwell
  cases htells with
  | fieldsText => rw [fieldList?, Text.splitTrimmedList_names hnames hsome]
  | fieldsArray =>
    rw [fieldList?, mapM_eq_some_iff, List.forall₂_map_left_iff, List.forall₂_same]
    exact fun name _ => rfl

theorem fieldAndValues?_eq {field : String} {values : List String}
    (htells : params.Tells (.trigger field values))
    (hwell : (Meaning.trigger field values).WellFormed) :
    params.fieldAndValues? = some (field, values.map .string) := by
  obtain ⟨_, hnames⟩ := hwell
  cases htells with
  | triggerText => rw [fieldAndValues?, Text.splitList_names hnames (List.cons_ne_nil _ _)]
  | triggerArray => rfl
  | triggerObject hfield hvalues =>
    simp only [fieldAndValues?, Value.get?, hfield, hvalues]
    rfl

theorem listItems_eq {texts : List String} (htells : params.Tells (.items texts))
    (hwell : (Meaning.items texts).WellFormed) : params.listItems = texts.map .string := by
  obtain ⟨hsome, hnames⟩ := hwell
  cases htells with
  | itemsText => rw [listItems, Text.splitList_names hnames hsome]
  | itemsArray => rfl

theorem nonEmpty?_of_isName {name : String} (hname : Text.IsName name) :
    nonEmpty? name = some name := by
  rw [nonEmpty?, if_neg (by simpa using hname.some)]

theorem foreign?_eq {model field : String} (htells : params.Tells (.foreign model field))
    (hwell : (Meaning.foreign model field).WellFormed) :
    params.foreign? = some (some model, some field, Option.none) := by
  obtain ⟨hmodel, hfield⟩ := hwell
  have hmodel' := nonEmpty?_of_isName hmodel
  have hfield' := nonEmpty?_of_isName hfield
  cases htells with
  | foreignText =>
    rw [foreign?, Text.splitTrimmedList_pair hmodel hfield]
    simp [hmodel', hfield']
  | foreignArray => simp [foreign?, Value.string?, hmodel', hfield']
  | foreignObject hlookup hlookup' =>
    simp [foreign?, Value.string?, hlookup, hlookup', hmodel', hfield']

/-- The rules in a branch are read in different ways, but as the same entries. -/
theorem nestedSpec_eq {field token : String} (htells : params.Tells (.nested field token))
    (hwell : (Meaning.nested field token).WellFormed) (rule own : String) :
    ∃ spec, params.nestedSpec rule own = .ok (field, some spec) ∧
      spec.entries = [.ofName token] := by
  obtain ⟨hfield, hsome, htight, hbar⟩ := hwell
  have hown : fieldOr own field = field := by
    rw [fieldOr, if_neg (by simpa using hfield.some)]
  have htested : ∀ spec : RuleSpec, (Except.ok (fieldOr own field, some spec) :
      Except ConfigError (String × Option RuleSpec)) = .ok (field, some spec) := by
    intro spec
    rw [hown]
  have htext : (RuleSpec.text token).entries = [.ofName token] := by
    rw [RuleSpec.entries, RuleSpec.splitRules_of_no_bar hsome htight hbar, List.map_singleton]
  cases htells with
  | nestedText =>
    have hcolon : ':' ∉ field.toList := fun hmem => hfield.unmarked _ hmem (by simp)
    have hsplit : Text.splitOnce ':' (field ++ ":" ++ token) = some (field, token) := by
      rw [Text.splitOnce_append (String.toList_append ..) hcolon, String.ofList_toList]
    refine ⟨.text token, ?_, htext⟩
    rw [nestedSpec, hsplit]
    simp [hown, hsome]
  | nestedArray =>
    exact ⟨.list [token], htested _, rfl⟩
  | nestedObject hlookup hrules htoken =>
    rw [nestedSpec, hlookup, Value.get?, hrules]
    rcases htoken with rfl | rfl
    · exact ⟨.text token, htested _, htext⟩
    · exact ⟨.list [token], htested _, rfl⟩

end Tells

end Params

end FieldRules
