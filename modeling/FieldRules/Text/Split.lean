import FieldRules.Text.Blank

namespace FieldRules.Text

/-- Placed before a delimiter, this character keeps the delimiter in its part. -/
def escapeChar : Char := '\\'

/-- Puts `front` before the first part of a split. -/
def extendFirst (front : List Char) : List (List Char) → List (List Char)
  | [] => [front]
  | part :: parts => (front ++ part) :: parts

/-- Splits at every `delimiter` that does not directly follow an escape. The escape stays in its
    part, so that a part can be split once more at a deeper level. -/
def splitChars (delimiter : Char) : List Char → List (List Char)
  | [] => [[]]
  | [c] => if c = delimiter then [[], []] else [[c]]
  | c :: d :: rest =>
    if c = escapeChar ∧ d = delimiter then extendFirst [c, d] (splitChars delimiter rest)
    else if c = delimiter then [] :: splitChars delimiter (d :: rest)
    else extendFirst [c] (splitChars delimiter (d :: rest))

def splitEscaped (delimiter : Char) (s : String) : List String :=
  (splitChars delimiter s.toList).map String.ofList

/-- Drops the escape before each escaped comma. -/
def unescapeCommas : List Char → List Char
  | [] => []
  | [c] => [c]
  | c :: d :: rest =>
    if c = escapeChar ∧ d = ',' then ',' :: unescapeCommas rest else c :: unescapeCommas (d :: rest)

/-- The items of a comma list, as they are written. -/
def splitList (s : String) : List String :=
  (splitChars ',' s.toList).map fun item => String.ofList (unescapeCommas item)

/-- The items of a comma list, without surrounding blanks. -/
def splitTrimmedList (s : String) : List String :=
  (splitList s).map trim

/-- The text before and after the first `mark`, if there is one. -/
def splitOnce (mark : Char) (s : String) : Option (String × String) :=
  match s.toList.dropWhile (· != mark) with
  | [] => none
  | _ :: after => some (String.ofList (s.toList.takeWhile (· != mark)), String.ofList after)

theorem length_le_of_mem_extendFirst {bound : Nat} {front part : List Char}
    {parts : List (List Char)} (hfront : ∀ p ∈ parts, (front ++ p).length ≤ bound)
    (hrest : front.length ≤ bound) (hmem : part ∈ extendFirst front parts) :
    part.length ≤ bound := by
  cases parts with
  | nil =>
    simp only [extendFirst, List.mem_singleton] at hmem
    exact hmem ▸ hrest
  | cons head tail =>
    simp only [extendFirst, List.mem_cons] at hmem
    cases hmem with
    | inl heq => exact heq ▸ hfront head List.mem_cons_self
    | inr htail =>
      have hle := hfront part (List.mem_cons_of_mem _ htail)
      simp only [List.length_append] at hle
      omega

/-- No part of a split is longer than the whole. -/
theorem length_le_of_mem_splitChars {delimiter : Char} {part cs : List Char}
    (hmem : part ∈ splitChars delimiter cs) : part.length ≤ cs.length := by
  fun_induction splitChars delimiter cs generalizing part with
  | case1 =>
    simp only [List.mem_singleton] at hmem
    simp [hmem]
  | case2 =>
    simp only [List.mem_cons, List.not_mem_nil, or_false, or_self] at hmem
    simp [hmem]
  | case3 c hc =>
    simp only [List.mem_singleton] at hmem
    simp [hmem]
  | case4 c d rest hescape ih =>
    refine length_le_of_mem_extendFirst (fun p hp => ?_) (by simp) hmem
    have hle := ih hp
    simp only [List.length_append, List.length_cons, List.length_nil]
    omega
  | case5 d rest hescape ih =>
    simp only [List.mem_cons] at hmem
    cases hmem with
    | inl heq => simp [heq]
    | inr htail =>
      have hle := ih htail
      simp only [List.length_cons] at *
      omega
  | case6 c d rest hescape hc ih =>
    refine length_le_of_mem_extendFirst (fun p hp => ?_) (by simp) hmem
    have hle := ih hp
    simp only [List.length_append, List.length_cons, List.length_nil] at *
    omega

/-- What follows a mark is shorter than the whole text. -/
theorem length_lt_of_splitOnce {mark : Char} {s before after : String}
    (hsplit : splitOnce mark s = some (before, after)) : after.toList.length < s.toList.length := by
  have hle := (List.dropWhile_sublist (· != mark) (l := s.toList)).length_le
  unfold splitOnce at hsplit
  split at hsplit
  · cases hsplit
  · next c rest heq =>
    cases hsplit
    rw [heq] at hle
    simp only [String.toList_ofList, List.length_cons] at *
    omega

end FieldRules.Text
