import FieldRules.Binary64.Basic

namespace FieldRules

/-- A number of a record: a whole number as such, or a binary64 number. The two kinds stay apart,
    so `1` and `1.0` are different numbers of equal value. -/
inductive Number where
  | integer (n : Int)
  | float (x : Binary64)
deriving DecidableEq

namespace Number

def toBinary64 : Number → Binary64
  | .integer n => Binary64.ofInt n
  | .float x => x

/-- The number with the value of `x`, as a whole number where `x` has no fraction and is smaller
    than `9·10^15`. -/
def ofBinary64 (x : Binary64) : Number :=
  if x.isWhole && x.absBelow 9000000000000000 then .integer x.truncate else .float x

end Number

/-- The values that record fields hold. The entries of an object keep their order, and no key
    appears in it twice. -/
inductive Value where
  | null
  | bool (b : Bool)
  | number (n : Number)
  | string (s : String)
  | array (items : List Value)
  | object (entries : List (String × Value))

namespace Value

instance : Inhabited Value := ⟨.null⟩

def int (n : Int) : Value := .number (.integer n)

def ofBinary64 (x : Binary64) : Value := .number (Number.ofBinary64 x)

def isNull : Value → Bool
  | .null => true
  | _ => false

def string? : Value → Option String
  | .string s => some s
  | _ => none

def binary64? : Value → Option Binary64
  | .number n => some n.toBinary64
  | _ => none

def array? : Value → Option (List Value)
  | .array items => some items
  | _ => none

def object? : Value → Option (List (String × Value))
  | .object entries => some entries
  | _ => none

/-- The entry of an object under a key. -/
def get? (v : Value) (key : String) : Option Value :=
  match v with
  | .object entries => entries.lookup key
  | _ => none

/-- Whether the value is no array and no object. -/
def isScalar : Value → Bool
  | .array _ | .object _ => false
  | _ => true

/-- Whether the value counts as not provided: null, a zero, and the empty text, array and object. -/
def isEmpty : Value → Bool
  | .null => true
  | .bool _ => false
  | .number n => n.toBinary64.isZero
  | .string s => s.toList.isEmpty
  | .array items => items.isEmpty
  | .object entries => entries.isEmpty

mutual

/-- Equality of values in which numbers compare by their binary64 value and the entries of objects
    in any order. -/
def equal : Value → Value → Bool
  | .null, .null => true
  | .bool a, .bool b => a == b
  | .number a, .number b => a.toBinary64.sameValue b.toBinary64
  | .string a, .string b => a == b
  | .array xs, .array ys => equalItems xs ys
  | .object xs, .object ys => xs.length == ys.length && equalEntries xs ys
  | _, _ => false

def equalItems : List Value → List Value → Bool
  | [], [] => true
  | x :: xs, y :: ys => equal x y && equalItems xs ys
  | _, _ => false

/-- Whether every entry of the first list has an equal one under its key in the second. -/
def equalEntries : List (String × Value) → List (String × Value) → Bool
  | [], _ => true
  | (key, x) :: xs, ys =>
    (match ys.lookup key with
      | some y => equal x y
      | none => false) && equalEntries xs ys

end

end Value

/-- The types of value that sized rules tell apart. -/
inductive TypeTag where
  | string
  | number
  /-- Arrays and objects. -/
  | object
deriving DecidableEq

namespace TypeTag

def all : List TypeTag := [.string, .number, .object]

def name : TypeTag → String
  | .string => "string"
  | .number => "number"
  | .object => "object"

def ofName? (s : String) : Option TypeTag := all.find? (·.name == s)

end TypeTag

namespace Value

/-- Null and the booleans have no tag. -/
def tag? : Value → Option TypeTag
  | .string _ => some .string
  | .number _ => some .number
  | .array _ | .object _ => some .object
  | .null | .bool _ => none

/-- The size that sized rules measure: the characters of a text, the magnitude of a number, the
    items of an array or object. -/
def size? : Value → Option Binary64
  | .string s => some (Binary64.ofNat s.toList.length)
  | .number n => some n.toBinary64
  | .array items => some (Binary64.ofNat items.length)
  | .object entries => some (Binary64.ofNat entries.length)
  | .null | .bool _ => none

end Value

end FieldRules
