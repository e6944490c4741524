import FacetRules.Json.Value

/-!
# Records in JSON

Readers for the values that a JSON value is expected to stand for.  A record is
written as an object, or as an array of its fields in order.  In an object, members
that are no fields are passed over and a field given twice is a mistake; in an
array, the last fields may be missing and there must be no further items.  Whether
a missing field is a mistake or has a default is for the record to say.
-/

namespace FacetRules
namespace Json

abbrev Decoder (α : Type) := Value -> Option α

namespace Decoder

def word32 : Decoder UInt32
  | .integer (.ofNat n) => Text.word32? n
  | _ => none

def word64 : Decoder UInt64
  | .integer (.ofNat n) => Text.word64? n
  | _ => none

def int64 : Decoder Int64
  | .integer i => Text.int64? i
  | _ => none

def text : Decoder String
  | .string l => l.text?
  | _ => none

def list {α : Type} (item : Decoder α) : Decoder (List α)
  | .array vs => vs.mapM item
  | _ => none

/-- A value that may be absent, which is written as null. -/
def nullable {α : Type} (value : Decoder α) : Decoder (Option α)
  | .null => some none
  | v => (value v).map some

end Decoder

/-- The fields that a record gives, each at most once. -/
abbrev Fields := List (String × Value)

def fields? (names : List String) : Value -> Option Fields
  | .object members => do
      let named <- members.mapM fun (key, v) => key.text?.map fun name => (name, v)
      let known := named.filter fun (name, _) => names.contains name
      if (known.map Prod.fst).Nodup then some known else none
  | .array items => if items.length ≤ names.length then some (names.zip items) else none
  | _ => none

namespace Fields

def required {α : Type} (fields : Fields) (name : String) (value : Decoder α) : Option α :=
  match fields.lookup name with
  | some v => value v
  | none => none

def optional {α : Type} (fields : Fields) (name : String) (value : Decoder α) (default : α) :
    Option α :=
  match fields.lookup name with
  | some v => value v
  | none => some default

end Fields
end Json
end FacetRules
