import FieldRules.CharSet.Ascii
import FieldRules.Unicode.CaseFold

/-!
Sets in which letters count in either case.
-/

namespace FieldRules.CharSet

/-- The set with the characters that differ in case alone from one of its own. -/
def caseless (s : CharSet) : CharSet :=
  let groups := Unicode.caseGroups.filter (·.any s.containsCode)
  s.union (ofRanges (groups.flatten.map fun n => (n, n)))

/-- A range moved up or down by the distance between the cases of ASCII letters. -/
def shiftRange (up : Bool) (r : Nat × Nat) : Nat × Nat :=
  if up then (r.1 + 0x20, r.2 + 0x20) else (r.1 - 0x20, r.2 - 0x20)

/-- The set with the ASCII letters that differ in case alone from one of its own. -/
def asciiCaseless (s : CharSet) : CharSet :=
  let upper := (s.inter asciiUpper).ranges.map (shiftRange true)
  let lower := (s.inter asciiLower).ranges.map (shiftRange false)
  s.union (ofRanges (upper ++ lower))

end FieldRules.CharSet
