import FieldRules.Unicode.Age
import FieldRules.Unicode.Segmentation

/-!
Sets of characters by the names of properties and of their values.
-/

namespace FieldRules.Unicode

/-- The form in which names are compared: no case, no spaces, hyphens and underscores, no `is` in
    front, and nothing outside ASCII. Where only a `c` would remain of `is`, both are kept, since
    `isc` is a name of its own. -/
def comparedName (name : List Char) : String :=
  let (dropped, body) :=
    match name with
    | i :: s :: rest => if i.toLower = 'i' ∧ s.toLower = 's' then (true, rest) else (false, name)
    | _ => (false, name)
  let letters := (body.filter fun c => c.toNat < 128 && !" _-".toList.contains c).map Char.toLower
  if dropped ∧ letters = ['c'] then "isc" else String.ofList letters

def ofScriptName? (name : String) : Option CharSet := (Script.ofName? name).map (·.own)

/-- The set that a name stands for by itself. -/
def ofName? (name : List Char) : Option CharSet :=
  let name := comparedName name
  (ofPropertyName? name).or ((ofCategoryName? name).or (ofScriptName? name))

/-- The set of the characters for which a named property has a named value. -/
def ofNameAndValue? (name value : List Char) : Option CharSet :=
  let value := comparedName value
  match comparedName name with
  | "generalcategory" | "gc" => ofCategoryName? value
  | "script" | "sc" => ofScriptName? value
  | "scriptextensions" | "scx" => (Script.ofName? value).map Script.extended
  | "age" => ofVersion? value
  | "graphemeclusterbreak" | "gcb" => Grapheme.ofName? value
  | "wordbreak" | "wb" => Word.ofName? value
  | "sentencebreak" | "sb" => Sentence.ofName? value
  | _ => none

/-- The letters that Unicode 17 added. -/
def laterLetters : CharSet :=
  .ofText
    "88F C5C CDC A7CE-A7CF A7D2 A7D4 A7F1 10940-10959 10EC5-10EC7 10EFA-10EFB 11B60-11B67
    11DB0-11DDB 16EA0-16EB8 16EBB-16ED3 16FF2-16FF6 187F8-187FF 18D09-18D1E 18D80-18DF2
    1E6C0-1E6DE 1E6E0-1E6F5 1E6FE-1E6FF 2B73A-2B73F 2CEA2-2CEAD 323B0-33479"

/-- The letters of Unicode 17. -/
def currentLetters : CharSet := alphabetic.union laterLetters

/-- The letters and numerals of Unicode 17. -/
def currentAlphanumerics : CharSet := .unions [currentLetters, numbers, .ofText "11DE0-11DE9"]

end FieldRules.Unicode
