import Std.Data.HashMap

/-!
A memory of states that have been built, so that no second one is built for the same purpose. It has
a fixed number of slots, and a key displaces the key that was in its slot.
-/

namespace FieldRules.Automaton

/-- The numbers of states by keys of numbers. -/
structure Memo where
  slots : UInt64
  entries : Std.HashMap UInt64 (List Nat × Nat)

namespace Memo

def ofSlots (slots : UInt64) : Memo := ⟨slots, ∅⟩

/-- Stirs a number into a hash. -/
def stir (hash : UInt64) (n : Nat) : UInt64 := (hash ^^^ n.toUInt64) * 1099511628211

/-- The slot of a key. -/
def slot (m : Memo) (key : List Nat) : UInt64 := key.foldl stir 14695981039346656037 % m.slots

def find? (m : Memo) (key : List Nat) : Option Nat :=
  match m.entries[m.slot key]? with
  | some (key', state) => if key = key' then some state else none
  | none => none

def insert (m : Memo) (key : List Nat) (state : Nat) : Memo :=
  { m with entries := m.entries.insert (m.slot key) (key, state) }

end Memo

end FieldRules.Automaton
