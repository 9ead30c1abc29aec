namespace FieldRules.Unicode

/-- A run of characters that a mapping moves by the same distance: every `stride`-th one from
    `first` to `last`. -/
structure CaseRun where
  first : Nat
  last : Nat
  stride : Nat
  shift : Int

namespace CaseRun

def covers (run : CaseRun) (n : Nat) : Bool :=
  run.first ≤ n && n ≤ run.last && (n - run.first) % run.stride == 0

/-- The code points that the run covers, in increasing order. -/
def codes (run : CaseRun) : List Nat :=
  (List.range ((run.last - run.first) / run.stride + 1)).map fun i => run.first + run.stride * i

/-- The code point that a run leads to from a code point that it covers. -/
def image (run : CaseRun) (n : Nat) : Nat := ((n : Int) + run.shift).toNat

def ofTuples (runs : List (Nat × Nat × Nat × Int)) : List CaseRun :=
  runs.map fun (first, last, stride, shift) => ⟨first, last, stride, shift⟩

/-- Where the first run that covers a code point leads to from it. -/
def apply (runs : List CaseRun) (n : Nat) : Nat :=
  match runs.find? (·.covers n) with
  | some run => run.image n
  | none => n

end CaseRun

end FieldRules.Unicode
