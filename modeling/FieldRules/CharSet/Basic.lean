import FieldRules.Text.Hex

/-!
Sets of characters as lists of ranges, with the operations on them.
-/

namespace FieldRules

/-- A set of characters: ranges of code points in increasing order, none of which begins directly
    after the end of the one before it. -/
structure CharSet where
  ranges : List (Nat × Nat)
deriving DecidableEq

namespace CharSet

def none : CharSet := ⟨[]⟩

/-- The greatest code point. -/
def lastCode : Nat := 0x10FFFF

def any : CharSet := ⟨[(0, lastCode)]⟩

def range (first last : Char) : CharSet := ⟨[(first.toNat, last.toNat)]⟩

def single (c : Char) : CharSet := range c c

def containsCode (s : CharSet) (n : Nat) : Bool :=
  s.ranges.any fun (first, last) => first ≤ n && n ≤ last

def contains (s : CharSet) (c : Char) : Bool := s.containsCode c.toNat

/-- Adds ranges to a range before them, all in the order of their first code points. Ranges that
    overlap or touch become one. -/
def joinAfter (first last : Nat) : List (Nat × Nat) → List (Nat × Nat)
  | [] => [(first, last)]
  | (first', last') :: rest =>
    if first' ≤ last + 1 then joinAfter first (max last last') rest
    else (first, last) :: joinAfter first' last' rest

/-- The set of ranges that are in the order of their first code points. -/
def ofOrdered : List (Nat × Nat) → CharSet
  | [] => none
  | (first, last) :: rest => ⟨joinAfter first last rest⟩

/-- The set of some ranges, which may overlap. -/
def ofRanges (ranges : List (Nat × Nat)) : CharSet :=
  ofOrdered (ranges.mergeSort fun r r' => r.1 ≤ r'.1)

def ofChars (cs : List Char) : CharSet := ofRanges (cs.map fun c => (c.toNat, c.toNat))

def union (s t : CharSet) : CharSet :=
  ofOrdered (List.merge s.ranges t.ranges fun r r' => r.1 ≤ r'.1)

def unions (sets : List CharSet) : CharSet := ofRanges (sets.flatMap ranges)

/-- The code point of the next character. The surrogates are no characters. -/
def codeAfter (n : Nat) : Nat := if n = 0xD7FF then 0xE000 else n + 1

/-- The code point of the character before. -/
def codeBefore (n : Nat) : Nat := if n = 0xE000 then 0xD7FF else n - 1

/-- What lies between the ends of two neighbouring ranges. If these are the two characters beside
    the surrogates, nothing lies between them, and the two themselves are taken. -/
def gap (last first : Nat) : Nat × Nat :=
  let (below, above) := (codeAfter last, codeBefore first)
  if below ≤ above then (below, above) else (above, below)

/-- What lies between and after ranges, the first of which ends at `last`. -/
def gapsAfter (last : Nat) : List (Nat × Nat) → List (Nat × Nat)
  | [] => if last < lastCode then [(codeAfter last, lastCode)] else []
  | (first, last') :: rest => gap last first :: gapsAfter last' rest

def compl (s : CharSet) : CharSet :=
  match s.ranges with
  | [] => any
  | (first, last) :: rest =>
    ⟨(if 0 < first then [(0, codeBefore first)] else []) ++ gapsAfter last rest⟩

/-- What two ranges have in common. -/
def overlap? (r r' : Nat × Nat) : Option (Nat × Nat) :=
  let (first, last) := (max r.1 r'.1, min r.2 r'.2)
  if first ≤ last then some (first, last) else Option.none

def inter (s t : CharSet) : CharSet :=
  ⟨s.ranges.flatMap fun r => t.ranges.filterMap (overlap? r)⟩

/-- The parts of a range before and after another one. -/
def cut (r r' : Nat × Nat) : List (Nat × Nat) :=
  if r'.2 < r.1 ∨ r.2 < r'.1 then [r]
  else
    (if r.1 < r'.1 then [(r.1, codeBefore r'.1)] else []) ++
      (if r'.2 < r.2 then [(codeAfter r'.2, r.2)] else [])

def diff (s t : CharSet) : CharSet :=
  ⟨s.ranges.flatMap fun r =>
    t.ranges.foldl (fun parts r' => parts.flatMap (cut · r')) [r]⟩

def symmDiff (s t : CharSet) : CharSet := (s.union t).diff (s.inter t)

/-- The one character of the set. -/
def single? (s : CharSet) : Option Char :=
  match s.ranges with
  | [(first, last)] => if first = last then some (Char.ofNat first) else Option.none
  | _ => Option.none

/-- Ends a range of a text: `last` is its last code point, if it has been read. -/
def closeRange (done : List (Nat × Nat)) (first last : Option Nat) : List (Nat × Nat) :=
  match last with
  | some last => (first.getD last, last) :: done
  | Option.none => done

/-- Reads ranges of hexadecimal code points. `done` are the ranges before the present one, the last
    one first, `first` is its first code point if that has been read, and `current` is the number
    that is being read. -/
def readRanges (done : List (Nat × Nat)) (first current : Option Nat) :
    List Char → List (Nat × Nat)
  | [] => (closeRange done first current).reverse
  | c :: rest =>
    match Text.hexValue? c with
    | some digit => readRanges done first (some (16 * current.getD 0 + digit)) rest
    | Option.none =>
      if c = '-' then readRanges done current Option.none rest
      else readRanges (closeRange done first current) Option.none Option.none rest

/-- The set that a text writes as ranges such as `41-5A` and single code points such as `AA`, in
    hexadecimal digits and in increasing order. -/
def ofText (text : String) : CharSet :=
  ofOrdered (readRanges [] Option.none Option.none text.toList)

end CharSet

end FieldRules
