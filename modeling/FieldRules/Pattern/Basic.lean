import FieldRules.CharSet.Ascii
import FieldRules.Unicode.Property

namespace FieldRules

/-- What a position between two characters must separate. -/
inductive WordEdge where
  | either
  | neither
  | opening
  | closing
  | openingHalf
  | closingHalf
deriving DecidableEq

/-- Whether an edge lies between two neighbours, given whether each is a character of a word. -/
def WordEdge.between : WordEdge → Bool → Bool → Bool
  | either, before, after => before != after
  | neither, before, after => before == after
  | opening, before, after => !before && after
  | closing, before, after => before && !after
  | openingHalf, before, _ => !before
  | closingHalf, _, after => !after

/-- A condition on a position of a text. -/
inductive Anchor where
  | textStart
  | textEnd
  /-- Lines end at each line feed; with `carriage` also at each carriage return, and the two
      together are one end. -/
  | lineStart (carriage : Bool)
  | lineEnd (carriage : Bool)
  /-- Words consist of ASCII characters only, or of all word characters. -/
  | word (edge : WordEdge) (ascii : Bool)
deriving DecidableEq

/-- A regular expression. -/
inductive Pattern where
  | empty
  /-- These characters, one after the other. -/
  | literal (text : List Char)
  | char (set : CharSet)
  | anchor (a : Anchor)
  | seq (p q : Pattern)
  | alt (p q : Pattern)
  /-- At least `least` times, and at most `most` times if that is given. -/
  | times (p : Pattern) (least : Nat) (most : Option Nat)
  /-- A part of which a matcher notes what it takes. -/
  | group (p : Pattern)
deriving DecidableEq

namespace Anchor

def isWordChar (ascii : Bool) : Option Char → Bool
  | some c => if ascii then CharSet.asciiWordChars.contains c else Unicode.wordChars.contains c
  | none => false

/-- Whether the anchor holds at a position of a text. -/
def holds (text : Array Char) (a : Anchor) (i : Nat) : Bool :=
  let before := if i = 0 then none else text[i - 1]?
  let after := text[i]?
  match a with
  | textStart => i == 0
  | textEnd => i == text.size
  | lineStart false => before.isNone || before == some '\n'
  | lineStart true =>
    before.isNone || before == some '\n' || (before == some '\r' && after != some '\n')
  | lineEnd false => after.isNone || after == some '\n'
  | lineEnd true =>
    after.isNone || after == some '\r' || (after == some '\n' && before != some '\r')
  | word edge ascii => edge.between (isWordChar ascii before) (isWordChar ascii after)

end Anchor

namespace Pattern

/-- The positions of both lists, none of them twice if that is so in each list. -/
def joinPositions (xs ys : List Nat) : List Nat := xs ++ ys.filter (!xs.contains ·)

/-- Takes `count` steps from a list of positions. It stops early where a step changes nothing. -/
def stepTimes (step : List Nat → List Nat) : Nat → List Nat → List Nat
  | 0, positions => positions
  | count + 1, positions =>
    let next := step positions
    if next = positions then positions else stepTimes step count next

/-- Adds to the positions `seen` those that up to `count` steps reach from `fresh`. -/
def stepUpTo (step : List Nat → List Nat) : Nat → List Nat → List Nat → List Nat
  | 0, seen, _ => seen
  | count + 1, seen, fresh =>
    match (step fresh).filter (!seen.contains ·) with
    | [] => seen
    | new => stepUpTo step count (seen ++ new) new

/-- The position after a text that stands at a position of another. -/
def literalEnd? (text : Array Char) (i : Nat) : List Char → Option Nat
  | [] => some i
  | c :: cs => if text[i]? = some c then literalEnd? text (i + 1) cs else none

/-- The positions at which matches end that start at one of the given positions. Where a pattern may
    repeat without end, every useful step but the last reaches a new position, so that there are no
    more of them than positions. -/
def ends (text : Array Char) : Pattern → List Nat → List Nat
  | empty, starts => starts
  | literal cs, starts => starts.filterMap (literalEnd? text · cs)
  | char set, starts =>
    starts.filterMap fun i =>
      match text[i]? with
      | some c => if set.contains c then some (i + 1) else none
      | none => none
  | anchor a, starts => starts.filter (a.holds text)
  | seq p q, starts => q.ends text (p.ends text starts)
  | alt p q, starts => joinPositions (p.ends text starts) (q.ends text starts)
  | times p least most, starts =>
    let starts := stepTimes (p.ends text) least starts
    let count :=
      match most with
      | some most => most - least
      | none => text.size + 1
    stepUpTo (p.ends text) count starts starts
  | group p, starts => p.ends text starts

/-- Whether the pattern matches some part of a text. -/
def isMatch (p : Pattern) (s : String) : Bool :=
  let text := s.toList.toArray
  !(p.ends text (List.range (text.size + 1))).isEmpty

/-- A sequence of patterns. -/
def all : List Pattern → Pattern
  | [] => empty
  | [p] => p
  | p :: ps => seq p (all ps)

def star (p : Pattern) : Pattern := times p 0 none

def plus (p : Pattern) : Pattern := times p 1 none

def optional (p : Pattern) : Pattern := times p 0 (some 1)

/-- Whether no match of the pattern takes a character. -/
def takesNothing : Pattern → Bool
  | empty => true
  | literal _ => false
  | char _ => false
  | anchor _ => true
  | seq p q | alt p q => p.takesNothing && q.takesNothing
  | times p _ most => p.takesNothing || most == some 0
  | group p => p.takesNothing

end Pattern

end FieldRules
