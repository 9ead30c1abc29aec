namespace FieldRules

/-- When a branch lets its chain go on. -/
inductive Branch where
  /-- Every nested rule passed. -/
  | all
  /-- At least one nested rule passed. -/
  | any
  /-- Not every nested rule passed. -/
  | notAll
deriving DecidableEq

/-- Whether the chain stops when `invalid` of `total` nested rules failed. -/
def Branch.stops : Branch → (invalid total : Nat) → Bool
  | all, invalid, _ => 0 < invalid
  | any, invalid, total => total ≤ invalid
  | notAll, invalid, total => invalid < total

end FieldRules
