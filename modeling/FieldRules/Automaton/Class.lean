import FieldRules.Automaton.Basic
import FieldRules.Automaton.ByteRange
import FieldRules.Automaton.Memo

/-!
The parts of automata that match one character of a set.
-/

namespace FieldRules.Automaton

/-- Adds the part for a class of ASCII characters: a state with a transition for each range. -/
def addAsciiClass (s : CharSet) (a : Automaton) : Automaton :=
  (a.addStates 1).addTransitions s.ranges.length

/-- A state that is still to be built. -/
structure Node where
  /-- Its transitions, each by its bytes and the number of the state it leads to, the last one
      first. -/
  done : List (Nat × Nat × Nat)
  /-- The bytes of one more transition, to the next node. -/
  pending? : Option (Nat × Nat)

namespace Node

/-- A node with a transition that is to lead to the next node. -/
def ofBytes (r : Nat × Nat) : Node := ⟨[], some r⟩

/-- The transitions of a node, with the state that the pending one leads to. -/
def close (node : Node) (next : Nat) : List (Nat × Nat × Nat) :=
  match node.pending? with
  | some (first, last) => (first, last, next) :: node.done
  | none => node.done

end Node

/-- Adds a state with some transitions, if there is none yet. -/
def share (transitions : List (Nat × Nat × Nat)) (m : Memo) (a : Automaton) :
    Nat × Memo × Automaton :=
  let key := transitions.reverse.flatMap fun (first, last, next) => [first, last, next]
  match m.find? key with
  | some state => (state, m, a)
  | none => (a.states, m.insert key a.states, a.addTransitions transitions.length)

/-- Builds all the nodes of a path, the last one first, and gives the first one's state. The last
    one leads to the state `target`. -/
def closePath (target : Nat) (m : Memo) (a : Automaton) : List Node → Nat × Memo × Automaton
  | [] => (target, m, a)
  | node :: nodes =>
    let (next, m, a) := closePath target m a nodes
    share (node.close next) m a

/-- Goes on from a path to the next ranges of bytes. As far as they agree with the path it stays
    as it is, and the rest of it is built. -/
def extendPath (target : Nat) (m : Memo) (a : Automaton) :
    List Node → List (Nat × Nat) → List Node × Memo × Automaton
  | [], rs => (rs.map Node.ofBytes, m, a)
  | nodes, [] => (nodes, m, a)
  | node :: nodes, r :: rs =>
    if node.pending? = some r then
      let (nodes, m, a) := extendPath target m a nodes rs
      (node :: nodes, m, a)
    else
      let (next, m, a) := closePath target m a nodes
      (⟨node.close next, some r⟩ :: rs.map Node.ofBytes, m, a)

/-- Adds the part for a class when characters are read from their first bytes to their last ones.
    Characters that begin with the same bytes share their states, and so do those that end alike,
    as far as the memory goes. -/
def addClass (s : CharSet) (a : Automaton) : Automaton :=
  let target := a.states
  let (path, m, a) :=
    (byteRanges s).foldl (fun (path, m, a) rs => extendPath target m a path rs)
      ([⟨[], none⟩], Memo.ofSlots 10000, a.addStates 1)
  (closePath target m a path).2.2

/-- Adds the states for the ranges of bytes of a character, which lead from the last one back to the
    first one and on to the state `next`. -/
def addBackward (m : Memo) (a : Automaton) (next : Nat) : List (Nat × Nat) → Memo × Automaton
  | [] => (m, a)
  | (first, last) :: rs =>
    match m.find? [next, first, last] with
    | some state => addBackward m a state rs
    | none => addBackward (m.insert [next, first, last] a.states) (a.addStates 1) a.states rs

/-- Adds the part for a class when characters are read from their last bytes to their first ones:
    a state with a branch for each sequence of ranges. -/
def addClassBackward (s : CharSet) (a : Automaton) : Automaton :=
  let target := a.states + 1
  ((byteRanges s).foldl (fun (m, a) rs =>
    let (m, a) := addBackward m a target rs
    (m, a.addBranches 1)) (Memo.ofSlots 1000, a.addStates 2)).2

end FieldRules.Automaton
