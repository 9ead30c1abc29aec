import FieldRules.Automaton.Basic

/-!
The part of an automaton that matches one of several texts. Texts with a common beginning share its
states.
-/

namespace FieldRules.Automaton

/-- What may follow at a point of some texts: an end, or a byte and what follows it. Texts that come
    after one that ends here go on after its end. Between ends the bytes are in increasing order. -/
inductive TextTree where
  | stop
  | textEnd (rest : TextTree)
  | byte (b : Nat) (child rest : TextTree)

namespace TextTree

/-- The tree of one text. -/
def ofText : List Nat → TextTree
  | [] => textEnd stop
  | b :: bs => byte b (ofText bs) stop

def hasEnd : TextTree → Bool
  | stop => false
  | textEnd _ => true
  | byte _ _ rest => rest.hasEnd

/-- Whether nothing follows but ends. -/
def isLeaf : TextTree → Bool
  | stop => true
  | textEnd rest => rest.isLeaf
  | byte _ _ _ => false

def appendEnd : TextTree → TextTree
  | stop => textEnd stop
  | textEnd rest => textEnd rest.appendEnd
  | byte b child rest => byte b child rest.appendEnd

/-- Adds the end of a text. Where nothing but an end is, it is the same one. -/
def addEnd : TextTree → TextTree
  | textEnd stop => textEnd stop
  | t => t.appendEnd

/-- Adds a text. -/
def insert : TextTree → List Nat → TextTree
  | t, [] => t.addEnd
  | stop, bs => ofText bs
  | textEnd rest, bs => textEnd (rest.insert bs)
  | byte b' child rest, b :: bs =>
    if rest.hasEnd then byte b' child (rest.insert (b :: bs))
    else if b = b' then byte b' (child.insert bs) rest
    else if b < b' then byte b (ofText bs) (byte b' child rest)
    else byte b' child (rest.insert (b :: bs))

/-- Adds a state for the bytes between two ends, with a branch that leads to it. -/
def addBytes (count : Nat) (a : Automaton) : Automaton :=
  match count with
  | 0 => a
  | 1 => (a.addStates 1).addBranches 1
  | count => (a.addTransitions count).addBranches 1

/-- Adds the states of a tree. For each point with bytes there is a state with branches to its ends
    and to the states of its bytes. `count` is the number of bytes since the last end. -/
def build (count : Nat) (t : TextTree) (a : Automaton) : Automaton :=
  match t with
  | stop => addBytes count a
  | textEnd rest => rest.build 0 ((addBytes count a).addBranches 1)
  | byte _ child rest =>
    let a := if child.isLeaf then a else child.build 0 (a.addStates 1)
    rest.build (count + 1) a

end TextTree

/-- Adds the part for a choice of texts, of which none is empty. -/
def addTexts (texts : List (List Nat)) (a : Automaton) : Automaton :=
  (texts.foldl TextTree.insert .stop).build 0 (a.addStates 2)

end FieldRules.Automaton
