import FieldRules.Value.Basic

namespace FieldRules

/-- Sets the value under a key: in place if the key is there, at the end otherwise. -/
def putEntry {α : Type} (key : String) (value : α) : List (String × α) → List (String × α)
  | [] => [(key, value)]
  | (k, v) :: entries =>
    if k = key then (k, value) :: entries else (k, v) :: putEntry key value entries

end FieldRules
