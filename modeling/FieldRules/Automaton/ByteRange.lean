import FieldRules.CharSet.Basic

/-!
The bytes of characters in UTF-8, and ranges of them.
-/

namespace FieldRules.Automaton

/-- The bytes of a character. -/
def bytes (c : Char) : List Nat := (String.utf8EncodeChar c).map UInt8.toNat

/-- The code points of the characters of one, two, three and four bytes. -/
def lengths : List (Nat × Nat) :=
  [(0, 0x7F), (0x80, 0x7FF), (0x800, 0xD7FF), (0xE000, 0xFFFF), (0x10000, CharSet.lastCode)]

/-- Cuts a range of code points so that each part either lies inside a block of one of the sizes,
    or consists of whole blocks. The smallest size comes first. -/
def alignedParts : List Nat → Nat × Nat → List (Nat × Nat)
  | [], r => [r]
  | size :: sizes, (first, last) =>
    if first / size = last / size then [(first, last)]
    else
      let start := if first % size = 0 then first else (first / size + 1) * size
      let before := if first < start then [(first, start - 1)] else []
      let stop := last / size * size
      if start / size = last / size ∨ last % size = size - 1 then
        before ++ alignedParts sizes (start, last)
      else before ++ alignedParts sizes (start, stop - 1) ++ [(stop, last)]

/-- Cuts a range of code points of one length so that for each part the bytes can be chosen each
    from a range of its own. -/
def bytewiseParts (r : Nat × Nat) : List (Nat × Nat) :=
  if r.2 < 0x80 then [r] else alignedParts [64, 64 * 64, 64 * 64 * 64] r

/-- The ranges of the bytes of a range of characters that is not to be cut. -/
def byteRange (r : Nat × Nat) : List (Nat × Nat) :=
  (bytes (Char.ofNat r.1)).zip (bytes (Char.ofNat r.2))

/-- The ranges of the bytes of the characters of a set, in increasing order. -/
def byteRanges (s : CharSet) : List (List (Nat × Nat)) :=
  s.ranges.flatMap fun r =>
    (lengths.filterMap (CharSet.overlap? r)).flatMap fun r => (bytewiseParts r).map byteRange

end FieldRules.Automaton
