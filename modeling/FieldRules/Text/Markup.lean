namespace FieldRules.Text

/-- Deletes each stretch from a `<` to the first `>` after it. While a `<` is open, `held` keeps
    the characters from it on, last one first; without a `>` they stay in the text. -/
def stripTagsFrom : Option (List Char) → List Char → List Char
  | none, [] => []
  | some held, [] => held.reverse
  | none, c :: rest =>
    if c = '<' then stripTagsFrom (some [c]) rest else c :: stripTagsFrom none rest
  | some held, c :: rest =>
    if c = '>' then stripTagsFrom none rest else stripTagsFrom (some (c :: held)) rest

def stripTags (s : String) : String :=
  String.ofList (stripTagsFrom none s.toList)

/-- The letters of entity names, in any case: besides the ASCII letters these are the long s and
    the Kelvin sign, which fold to `s` and `k`. -/
def isEntityLetter (c : Char) : Bool :=
  c.isAlpha || c == '\u017f' || c == '\u212a'

/-- Deletes each ampersand that one or more letters and a semicolon follow, with them. While such a
    name may still come to its end, `held` keeps it, last character first. -/
def stripEntitiesFrom : Option (List Char) → List Char → List Char
  | none, [] => []
  | some held, [] => held.reverse
  | none, c :: rest =>
    if c = '&' then stripEntitiesFrom (some [c]) rest else c :: stripEntitiesFrom none rest
  | some held, c :: rest =>
    if c = '&' then held.reverse ++ stripEntitiesFrom (some [c]) rest
    else if isEntityLetter c then stripEntitiesFrom (some (c :: held)) rest
    else if c = ';' ∧ 1 < held.length then stripEntitiesFrom none rest
    else held.reverse ++ c :: stripEntitiesFrom none rest

def stripEntities (s : String) : String :=
  String.ofList (stripEntitiesFrom none s.toList)

end FieldRules.Text
