/-!
The size of an automaton that matches a pattern. An automaton reads bytes; its states are numbered
in the order in which they are built.
-/

namespace FieldRules

/-- An automaton under construction, as far as its size depends on it. -/
structure Automaton where
  /-- The number of its states. -/
  states : Nat
  /-- The bytes that the lists of transitions and branches of its states take. -/
  listBytes : Nat
  /-- Whether the part that was built last ends in a state that may get one more branch. -/
  branching : Bool
deriving DecidableEq

namespace Automaton

def empty : Automaton := ⟨0, 0, false⟩

/-- The bytes that the automaton takes. -/
def size (a : Automaton) : Nat := 32 * a.states + a.listBytes

/-- The greatest size that an automaton may have. -/
def maxSize : Nat := 10 * 1024 * 1024

def isTooLarge (a : Automaton) : Bool := maxSize < a.size

/-- Adds states without lists. The last one gets no more branches. -/
def addStates (a : Automaton) (count : Nat) : Automaton :=
  { a with states := a.states + count, branching := false }

/-- Adds a state with a list of transitions. -/
def addTransitions (a : Automaton) (count : Nat) : Automaton :=
  { states := a.states + 1, listBytes := a.listBytes + 8 * count, branching := false }

/-- Adds branches to states. -/
def addBranches (a : Automaton) (count : Nat) : Automaton :=
  { a with listBytes := a.listBytes + 4 * count }

/-- Leads from the end of the part that was built last to another part. -/
def connect (a : Automaton) : Automaton :=
  if a.branching then { a.addBranches 1 with branching := false } else a

/-- Adds a part several times, each connected to the one before. It stops where the automaton is
    too large. -/
def addCopies (part : Automaton → Automaton) : Nat → Automaton → Automaton
  | 0, a => a
  | count + 1, a => if a.isTooLarge then a else addCopies part count (part a.connect)

end Automaton

end FieldRules
