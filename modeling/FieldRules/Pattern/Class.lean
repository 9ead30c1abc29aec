import FieldRules.Pattern.Escape

/-!
Classes in brackets.
-/

namespace FieldRules.Pattern

/-- A thing with the depth to which its notation is nested. -/
structure Nested (α : Type) where
  value : α
  depth : Nat

/-- The members of a class since the last operator. -/
structure Members where
  set : CharSet
  /-- The number of characters, ranges and classes that were read. -/
  count : Nat
  /-- The greatest depth of one of them. -/
  depth : Nat

namespace Members

def none : Members := ⟨.none, 0, 0⟩

def add (ms : Members) (member : Nested CharSet) : Members :=
  ⟨ms.set.union member.value, ms.count + 1, max ms.depth member.depth⟩

/-- Adds a member whose notation is not nested. -/
def addPlain (ms : Members) (s : CharSet) : Members := ms.add ⟨s, 0⟩

/-- The members together. More than one are nested in a list. -/
def toSet (ms : Members) : Nested CharSet :=
  ⟨ms.set, if ms.count < 2 then ms.depth else ms.depth + 1⟩

end Members

/-- The operators that join the sets of a class. They bind alike and to the left. -/
inductive SetOperator where
  | inter
  | diff
  | symmDiff

def SetOperator.apply : SetOperator → CharSet → CharSet → CharSet
  | inter => .inter
  | diff => .diff
  | symmDiff => .symmDiff

/-- Joins the set read so far to the operand and operator before it. -/
def joinOperand (mode : Mode) (pending : Option (Nested CharSet × SetOperator))
    (right : Nested CharSet) : Nested CharSet :=
  match pending with
  | none => right
  | some (left, operator) =>
    ⟨operator.apply (mode.fold left.value) (mode.fold right.value),
      max left.depth right.depth + 1⟩

/-- A named class of ASCII characters inside brackets, such as `[:alpha:]`. -/
def readAsciiClass? (mode : Mode) : List Char → Option (Option CharSet × List Char)
  | ':' :: rest => do
    let (negated, rest) :=
      match rest with
      | '^' :: rest => (true, rest)
      | rest => (false, rest)
    match rest.span (· != ':') with
    | (name, ':' :: ']' :: rest) =>
      let s ← CharSet.ofAsciiName? (String.ofList name)
      some (mode.negate? negated (mode.fold s), rest)
    | _ => none
  | _ => none

/-- Adds the hyphens at the start of a class. -/
def readHyphens (mode : Mode) (ms : Members) (fuel : Nat) (cs : List Char) :
    Members × List Char :=
  match fuel, cs with
  | fuel + 1, '-' :: rest => readHyphens mode (ms.addPlain (.single '-')) fuel (mode.skip rest)
  | _, cs => (ms, cs)

/-- The start of a class after its bracket: whether it is negated, the hyphens or the closing
    bracket that stand for themselves there, and what follows. -/
def readClassStart (mode : Mode) (cs : List Char) : Bool × Members × List Char :=
  let (negated, cs) :=
    match mode.skip cs with
    | '^' :: rest => (true, mode.skip rest)
    | cs => (false, cs)
  match readHyphens mode .none cs.length cs with
  | (⟨_, 0, _⟩, ']' :: rest) => (negated, Members.none.addPlain (.single ']'), mode.skip rest)
  | (ms, rest) => (negated, ms, rest)

/-- A character or class inside brackets. -/
def readMember? (mode : Mode) : List Char → Option (Atom × List Char)
  | '\\' :: rest => readEscape? mode rest
  | c :: rest => some (.char c, rest)
  | [] => none

/-- The set of one character. Where only ASCII is meant, a class has no others. -/
def singleOf? (mode : Mode) (c : Char) : Option CharSet :=
  if c.toNat < 128 ∨ mode.unicode then some (.single c) else none

/-- A character, class or range inside brackets. -/
def readRange? (mode : Mode) (cs : List Char) : Option (CharSet × List Char) := do
  let (first, rest) ← readMember? mode cs
  let rest := mode.skip rest
  let isRange :=
    match rest with
    | '-' :: after => mode.peek after != some ']' && mode.peek after != some '-'
    | _ => false
  if isRange then
    match first, readMember? mode (mode.skip rest.tail) with
    | .char first, some (.char last, rest) =>
      if first ≤ last ∧ (last.toNat < 128 ∨ mode.unicode) then some (.range first last, rest)
      else none
    | _, _ => none
  else
    match first with
    | .char c => (singleOf? mode c).map (·, rest)
    | .set s => some (s, rest)
    | .anchor _ => none

/-- The rest of a class, up to its closing bracket. `ms` are the members since the last operator.
    Every step takes a character, so that their number is enough fuel. -/
def readClassBody (fuel : Nat) (mode : Mode) (pending : Option (Nested CharSet × SetOperator))
    (ms : Members) (cs : List Char) : Option (Nested CharSet × List Char) :=
  match fuel with
  | 0 => none
  | fuel + 1 =>
    match mode.skip cs with
    | ']' :: rest => some (joinOperand mode pending ms.toSet, rest)
    | '[' :: rest =>
      match readAsciiClass? mode rest with
      | some (named, rest) => do
        let named ← named
        readClassBody fuel mode pending (ms.addPlain named) rest
      | none => do
        let (negated, start, rest) := readClassStart mode rest
        let (inner, rest) ← readClassBody fuel mode none start rest
        let s ← mode.negate? negated (mode.fold inner.value)
        readClassBody fuel mode pending (ms.add ⟨s, inner.depth + 1⟩) rest
    | '&' :: '&' :: rest =>
      readClassBody fuel mode (some (joinOperand mode pending ms.toSet, .inter)) .none rest
    | '-' :: '-' :: rest =>
      readClassBody fuel mode (some (joinOperand mode pending ms.toSet, .diff)) .none rest
    | '~' :: '~' :: rest =>
      readClassBody fuel mode (some (joinOperand mode pending ms.toSet, .symmDiff)) .none rest
    | cs => do
      let (range, rest) ← readRange? mode cs
      readClassBody fuel mode pending (ms.addPlain range) rest

/-- A class after its opening bracket. -/
def readClass? (mode : Mode) (cs : List Char) : Option (Nested CharSet × List Char) := do
  let (negated, start, rest) := readClassStart mode cs
  let (inner, rest) ← readClassBody (rest.length + 1) mode none start rest
  let s ← mode.negate? negated (mode.fold inner.value)
  some (⟨s, inner.depth + 1⟩, rest)

end FieldRules.Pattern
