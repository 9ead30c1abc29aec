import FieldRules.Automaton.Class
import FieldRules.Automaton.TextTree
import FieldRules.Pattern.Basic

/-!
The automata of a pattern, which read a text forwards and backwards, and whether they are small
enough.
-/

namespace FieldRules

namespace Pattern

/-- The least number of characters that a match takes, unless there may be none. -/
def leastLength? : Pattern → Option Nat
  | empty | anchor _ => some 0
  | literal cs => some cs.length
  | char s => if s.ranges.isEmpty then none else some 1
  | seq p q => do some ((← p.leastLength?) + (← q.leastLength?))
  | alt p q => do some (min (← p.leastLength?) (← q.leastLength?))
  | times p least _ => p.leastLength?.map (least * ·)
  | group p => p.leastLength?

/-- Whether every match begins at the start of the text, by an anchor in front of all characters. -/
def isStartAnchored : Pattern → Bool
  | anchor a => a == .textStart
  | seq p q => p.isStartAnchored || (p.takesNothing && q.isStartAnchored)
  | alt p q => p.isStartAnchored && q.isStartAnchored
  | times p least _ => 0 < least && p.isStartAnchored
  | group p => p.isStartAnchored
  | _ => false

/-- Whether every match ends at the end of the text, by an anchor behind all characters. -/
def isEndAnchored : Pattern → Bool
  | anchor a => a == .textEnd
  | seq p q => q.isEndAnchored || (q.takesNothing && p.isEndAnchored)
  | alt p q => p.isEndAnchored && q.isEndAnchored
  | times p least _ => 0 < least && p.isEndAnchored
  | group p => p.isEndAnchored
  | _ => false

/-- The texts of a choice of texts. -/
def texts? : Pattern → Option (List (List Char))
  | literal cs => some [cs]
  | alt p q => do some ((← p.texts?) ++ (← q.texts?))
  | _ => none

end Pattern

namespace Automaton

/-- The direction in which an automaton reads a text. -/
inductive Direction where
  | forward
  | backward
deriving DecidableEq

/-- The place of a pattern among the alternatives around it. -/
inductive Place where
  | alone
  | second
  | further

/-- Adds the end of an alternative. With the second one come the states that branch to all
    alternatives and that join them. -/
def addPlace (place : Place) (a : Automaton) : Automaton :=
  match place with
  | .alone => a
  | .second => (a.connect.addStates 2).addBranches 1
  | .further => a.connect.addBranches 1

/-- Adds what a direction needs for a choice of texts. -/
def addChoice (direction : Direction) (texts : List (List Char)) : Automaton → Automaton :=
  addTexts (texts.map fun text =>
    let bs := text.flatMap bytes
    if direction = .forward then bs else bs.reverse)

/-- Adds the part for one character of a set. -/
def addSet (direction : Direction) (s : CharSet) (a : Automaton) : Automaton :=
  if s.ranges.all (·.2 < 0x80) then addAsciiClass s a
  else if direction = .forward then addClass s a
  else addClassBackward s a

/-- Adds one more repeat of a part, which may be left out. -/
def addOptional (part : Automaton → Automaton) (a : Automaton) : Automaton :=
  (part (a.connect.addStates 1)).addBranches 2

/-- Adds a repetition. `takes` says whether every match of the part takes a character. -/
def addRepeats (part : Automaton → Automaton) (takes : Bool) (least : Nat) (most : Option Nat)
    (a : Automaton) : Automaton :=
  match least, most with
  | 0, some 1 => (addOptional part a).connect.addStates 1
  | 0, none =>
    if takes then
      { (part (a.addStates 1)).connect.addBranches 1 with branching := true }
    else ((part a).connect.addStates 3).addBranches 4
  | least, none =>
    { ((addCopies part least a).connect.addStates 1).addBranches 1 with branching := true }
  | least, some most =>
    let a := if least = 0 then a.addStates 1 else addCopies part least a
    if most ≤ least then a
    else (addCopies (addOptional part) (most - least) (a.connect.addStates 1)).connect

/-- Adds the part for a pattern. -/
def addPattern (direction : Direction) (place : Place) : Pattern → Automaton → Automaton
  | .empty, a | .anchor _, a => addPlace place (a.addStates 1)
  | .literal cs, a => addPlace place (a.addStates (cs.flatMap bytes).length)
  | .char s, a => addPlace place (addSet direction s a)
  | .seq p q, a =>
    let (p, q) := (addPattern direction .alone p, addPattern direction .alone q)
    addPlace place (if direction = .forward then q (p a).connect else p (q a).connect)
  | .alt p q, a =>
    let first (a : Automaton) := (addPattern direction .alone p a).connect.addBranches 1
    match place with
    | .alone =>
      match (Pattern.alt p q).texts? with
      | some texts => addChoice direction texts a
      | none => addPattern direction .second q (first a)
    | .second => addPattern direction .further q ((first a).addStates 2)
    | .further => addPattern direction .further q (first a)
  | .times p least most, a =>
    let takes := p.leastLength?.any (0 < ·)
    addPlace place (addRepeats (addPattern direction .alone p) takes least most a)
  | .group p, a =>
    let p := addPattern direction .alone p
    addPlace place
      (if direction = .forward then (p (a.addStates 1)).connect.addStates 1 else p a)

/-- The automaton of a pattern. Unless matches begin only where reading begins, it first skips any
    bytes. Of the automata only the one that reads forwards notes what the groups take, and the
    whole pattern as a group. -/
def ofPattern (direction : Direction) (p : Pattern) : Automaton :=
  let anchored := if direction = .forward then p.isStartAnchored else p.isEndAnchored
  let start :=
    if anchored then empty.addStates 1 else ((empty.addStates 2).addTransitions 1).addBranches 2
  let whole := if direction = .forward then .group p else p
  (addPattern direction .alone whole start).connect.addStates 1

end Automaton

/-- Whether both automata of a pattern are small enough. -/
def Pattern.isSmall (p : Pattern) : Bool :=
  !(Automaton.ofPattern .forward p).isTooLarge && !(Automaton.ofPattern .backward p).isTooLarge

end FieldRules
