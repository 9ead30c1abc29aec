import FieldRules.Value.Entries

namespace FieldRules

/-- A record: named fields in the order in which they were first set. -/
structure Record where
  entries : List (String × Value)

namespace Record

def empty : Record := ⟨[]⟩

/-- The entries of an object; any other value makes an empty record. -/
def ofValue : Value → Record
  | .object entries => ⟨entries⟩
  | _ => empty

def toValue (record : Record) : Value := .object record.entries

/-- The value of a field, null if it was never set. -/
def get (record : Record) (field : String) : Value := (record.entries.lookup field).getD .null

def set (record : Record) (field : String) (value : Value) : Record :=
  ⟨putEntry field value record.entries⟩

/-- Sets every field of the record to null. -/
def clear (record : Record) : Record :=
  ⟨record.entries.map fun (field, _) => (field, .null)⟩

end Record

/-- A member of a collection: the very record under validation, or another one. -/
inductive Instance where
  | self
  | other (record : Record)

/-- The fields that records of a kind declare, and how their foreign collections are found: whether
    there is a source to look them up in, and how many milliseconds a lookup may take. -/
structure Schema where
  name : String
  fields : List String
  hasCollections : Bool
  lookupTimeout : Option Nat

namespace Schema

/-- The time that a lookup may take unless the schema says otherwise. -/
def defaultLookupTimeout : Nat := 30000

def hasField (schema : Schema) (field : String) : Bool := schema.fields.contains field

end Schema

end FieldRules
