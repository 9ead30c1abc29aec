import FieldRules.Pattern.Basic

/-!
Patterns put together in a normal form: no sequence or alternation stands directly in another one,
no empty pattern or two literals stand side by side, a choice between characters is a class, and
what all alternatives begin with stands before them.
-/

namespace FieldRules.Pattern

/-- A class, or the literal that it amounts to. -/
def ofSet (s : CharSet) : Pattern :=
  match s.single? with
  | some c => literal [c]
  | none => char s

/-- The patterns that a sequence consists of. -/
def parts : Pattern → List Pattern
  | empty => []
  | seq p q => p.parts ++ q.parts
  | p => [p]

/-- The patterns that an alternation consists of. -/
def alternatives : Pattern → List Pattern
  | alt p q => p.alternatives ++ q.alternatives
  | p => [p]

/-- Puts a pattern in front of others. A literal joins the one that follows. -/
def consPart (p : Pattern) (ps : List Pattern) : List Pattern :=
  match p, ps with
  | literal s, literal t :: ps => literal (s ++ t) :: ps
  | p, ps => p :: ps

/-- A sequence in normal form. -/
def sequence (ps : List Pattern) : Pattern := all ((ps.flatMap parts).foldr consPart [])

/-- An alternation of patterns as they are. -/
def anyOf : List Pattern → Pattern
  | [] => char .none
  | [p] => p
  | p :: ps => alt p (anyOf ps)

/-- The character of a literal of one character. -/
def char? : Pattern → Option Char
  | literal [c] => some c
  | _ => none

def set? : Pattern → Option CharSet
  | char s => some s
  | _ => none

/-- The class that alternatives amount to which are all characters, or all classes. -/
def classOf? (ps : List Pattern) : Option Pattern :=
  ((ps.mapM char?).map fun cs => ofSet (.ofChars cs)).or
    ((ps.mapM set?).map fun sets => ofSet (.unions sets))

/-- Whether a part of the pattern is a group. -/
def hasGroup : Pattern → Bool
  | empty | literal _ | char _ | anchor _ => false
  | seq p q | alt p q => p.hasGroup || q.hasGroup
  | times p _ _ => p.hasGroup
  | group _ => true

/-- The parts that two sequences have in common before they differ. Groups are all different. -/
def sharedParts : List Pattern → List Pattern → List Pattern
  | p :: ps, q :: qs => if p = q ∧ !p.hasGroup then p :: sharedParts ps qs else []
  | _, _ => []

/-- The parts that all the patterns begin with if they are all sequences. -/
def commonStart (ps : List Pattern) : List Pattern :=
  match ps.map parts with
  | first :: second :: rest =>
    if (first :: second :: rest).all (2 ≤ ·.length) then (second :: rest).foldl sharedParts first
    else []
  | _ => []

/-- An alternation in normal form, but for a common start of its alternatives. -/
def choice (ps : List Pattern) : Pattern :=
  let ps := ps.flatMap alternatives
  (classOf? ps).getD (anyOf ps)

/-- An alternation in normal form. What the alternatives go on with after their common start has no
    common start any more. -/
def oneOf (ps : List Pattern) : Pattern :=
  let ps := ps.flatMap alternatives
  match commonStart ps with
  | [] => choice ps
  | start => sequence (start ++ [choice (ps.map fun p => sequence (p.parts.drop start.length))])

/-- A repetition in normal form. More repeats than one of what takes no character change nothing. -/
def repeated (p : Pattern) (least : Nat) (most : Option Nat) : Pattern :=
  let (least, most) :=
    if p.takesNothing then (min least 1, some (min (most.getD 1) 1)) else (least, most)
  match least, most with
  | 0, some 0 => empty
  | 1, some 1 => p
  | least, most => times p least most

end FieldRules.Pattern
