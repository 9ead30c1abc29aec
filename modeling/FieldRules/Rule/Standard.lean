import FieldRules.Pattern.Standard
import FieldRules.Registry

namespace FieldRules

namespace Wording

/-- A template that begins with the display name of the field. -/
def said (rest : String) : String := Template.slot "$alias" ++ rest

/-- A template with one slot in it. -/
def saidWith (before name after : String) : String := said (before ++ Template.slot name ++ after)

/-- The messages of a rule about one bound. -/
def boundMessages (string number object : String × String) : SizeMessages where
  string := saidWith string.1 "$number" string.2
  number := saidWith number.1 "$number" number.2
  object := saidWith object.1 "$number" object.2

/-- The messages of a rule about a range. -/
def rangeMessages (phrase numberPhrase : String) : SizeMessages where
  string := said (phrase ++ Template.slot "$start" ++ " to " ++ Template.slot "$end" ++
    " characters.")
  number := said (numberPhrase ++ Template.slot "$start" ++ " and " ++ Template.slot "$end" ++ ".")
  object := said (phrase ++ Template.slot "$start" ++ " to " ++ Template.slot "$end" ++ " items.")

/-- The message of a rule about other records. -/
def foreignMessage (phrase : String) : String :=
  said (phrase ++ Template.slot "$matchAlias" ++ " in a " ++ Template.slot "$class")

/-- The message of a rule about the items of an array. -/
def itemMessage (phrase : String) : String :=
  said (phrase ++ Template.slot "$matchAlias" ++ " equals " ++ Template.slot "$matchValue" ++ ".")

end Wording

namespace CheckShape

open Wording

def predicates : List (String × CheckShape) :=
  [("required", .predicate (said " is required.") Finding.required),
    ("accepted", .predicate (said " has not been accepted.") Finding.accepted),
    ("array", .predicate (said " must be an array.") Finding.isArray),
    ("object", .predicate (said " must be an object.") Finding.isObject),
    ("string", .predicate (said " must be a string.") Finding.isString),
    ("number", .predicate (said " must be a number.") Finding.isNumber),
    ("boolean", .predicate (said " must be a true or false.") Finding.isBoolean),
    ("whole", .predicate (said " must be a whole number.") Finding.whole),
    ("numeric", .predicate (said " must be numeric.") Finding.numeric),
    ("yesno", .predicate (said " must be a yes or no.") Finding.yesNo),
    ("date_like", .predicate (said " must be a valid date.") Finding.dateLike)]

def patterns : List (String × CheckShape) :=
  [("alpha", .pattern (said " should only contain alphabetic characters.") Pattern.alpha),
    ("alpha_dash",
      .pattern (said " should only contain alpha-numeric characters, dashes, and underscores.")
        Pattern.alphaDash),
    ("alpha_num",
      .pattern (said " should only contain alpha-numeric characters.") Pattern.alphaNum),
    ("email", .pattern (said " is not a valid email.") Pattern.email),
    ("url", .pattern (said " is not a valid URL.") Pattern.url),
    ("uri", .pattern (said " is not a valid URI.") Pattern.uri),
    ("phone", .pattern (said " is not a valid phone number.") Pattern.phone),
    ("regex", .givenPattern)]

def sizes : List (String × CheckShape) :=
  [("min",
      .size (boundMessages (" must have a minimum of ", " characters.") (" must be at least ", ".")
        (" must have at least ", " items.")) fun size bound => size < bound),
    ("greater_than",
      .size (boundMessages (" must have more than ", " characters.") (" must be greater than ", ".")
        (" must have more than ", " items.")) fun size bound => size ≤ bound),
    ("max",
      .size (boundMessages (" must have no more than ", " characters.")
        (" must be no more than ", ".") (" must have no more than ", " items."))
        fun size bound => bound < size),
    ("less_than",
      .size (boundMessages (" must have less than ", " characters.") (" must be less than ", ".")
        (" must have less than ", " items.")) fun size bound => bound ≤ size),
    ("equal",
      .size (boundMessages (" must have ", " characters.") (" must equal ", ".")
        (" must have ", " items.")) fun size bound => !size.sameValue bound),
    ("not_equal",
      .size (boundMessages (" must not have ", " characters.") (" must not equal ", ".")
        (" must not have ", " items.")) fun size bound => size.sameValue bound),
    ("between",
      .range (rangeMessages " must have between " " must be between ")
        fun size first last => size < first || last < size),
    ("not_between",
      .range (rangeMessages " must not have between " " must not be between ")
        fun size first last => first ≤ size && size ≤ last)]

def transforms : List (String × CheckShape) :=
  [("abs", .transform .abs), ("ceil", .transform .ceil), ("floor", .transform .floor),
    ("round", .transform .round), ("mod", .remainder), ("trim", .transform .trim),
    ("filter", .transform .filter), ("stripTags", .transform .stripTags),
    ("stripEnts", .transform .stripEntities), ("base64", .transform .base64),
    ("unbase64", .transform .unbase64), ("startOfDay", .transform .startOfDay),
    ("endOfDay", .transform .endOfDay), ("apply", .transform .apply), ("null", .transform .null)]

def siblingRules : List (String × CheckShape) :=
  [("confirmed", .siblings (saidWith " must match " "$fieldAliases" ".") .confirmed),
    ("different", .siblings (saidWith " must not match " "$fieldAliases" ".") .different),
    ("if_valid", .siblings "" .ifValid),
    ("required_with", .siblings (said " is required.") .requiredWith),
    ("required_with_all", .siblings (said " is required.") .requiredWithAll),
    ("required_without", .siblings (said " is required.") .requiredWithout),
    ("required_without_all", .siblings (said " is required.") .requiredWithoutAll),
    ("required_if", .trigger (said " is required.") true),
    ("required_unless", .trigger (said " is required.") false)]

def collectionRules : List (String × CheckShape) :=
  [("exists", .foreign (foreignMessage " must match an existing ") false),
    ("unique", .foreign (foreignMessage " must be a unique ") true),
    ("contains", .itemMatch (itemMessage " does not contain an item whose ") false),
    ("not_contains", .itemMatch (itemMessage " contains an item whose ") true),
    ("in", .membership (saidWith " must be one of " "$list" ".") false),
    ("not_in", .membership (saidWith " must not be one of " "$list" ".") true)]

/-- Whether a time lies before the end of the day of a date. A day that has no end rules nothing
    out. -/
def beforeDayEnd (time date : Int) : Bool := (Calendar.endOfDay? date).any (time < ·)

def afterDayEnd (time date : Int) : Bool := (Calendar.endOfDay? date).any (· < time)

def dates : List (String × CheckShape) :=
  [("after", .date (saidWith " must be after " "$date" ".") beforeDayEnd),
    ("after_on", .date (saidWith " must be after or equal to " "$date" ".")
      fun time date => time < date),
    ("before", .date (saidWith " must be before " "$date" ".") fun time date => date < time),
    ("before_on", .date (saidWith " must be before or equal to " "$date" ".") afterDayEnd)]

/-- The standard rules that check values. -/
def standard : List (String × CheckShape) :=
  predicates ++ patterns ++ sizes ++ transforms ++ siblingRules ++ collectionRules ++ dates

end CheckShape

namespace Registry

/-- The standard rules: the checks and the three branches. -/
def standard : Registry where
  rules := CheckShape.standard.map (fun (name, shape) => (name, .check shape)) ++
    [("if", .branch .all), ("if_any", .branch .any), ("if_not", .branch .notAll)]
  readers := Calendar.ExpressionReader.standard

end Registry

end FieldRules
