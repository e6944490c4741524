import FacetRules.Json.Reader
import FacetRules.Json.Record
import FacetRules.Query.Conditions

/-!
# Search conditions in JSON

Conditions are read and written under the same field names.  Every field of the
conditions may be left out; the fields of a pair and of a filter must be given.
-/

namespace FacetRules
namespace Wire

open Json

def pair : Decoder Pair := fun v => do
  let fields <- fields? ["attribute_id", "option_id"] v
  return {
    attributeId := <- fields.required "attribute_id" .word32
    optionId := <- fields.required "option_id" .word32 }

def titleFilter : Decoder TitleFilter := fun v => do
  let fields <- fields? ["attribute_id", "prefix"] v
  return {
    attributeId := <- fields.required "attribute_id" .word32
    start := <- fields.required "prefix" .text }

def conditions : Decoder Conditions := fun v => do
  let fields <- fields? ["category_id", "attributes", "page_size", "offset", "filters"] v
  return {
    categoryIds := <- fields.optional "category_id" (.list .word32) []
    pairs := <- fields.optional "attributes" (.list pair) []
    pageSize := <- fields.optional "page_size" .word64 0
    offset := <- fields.optional "offset" .word64 0
    filters := <- fields.optional "filters" (.list titleFilter) [] }

def ofPair (p : Pair) : Value :=
  .record [("attribute_id", .ofNat p.attributeId.toNat), ("option_id", .ofNat p.optionId.toNat)]

def ofTitleFilter (f : TitleFilter) : Value :=
  .record [("attribute_id", .ofNat f.attributeId.toNat), ("prefix", .ofString f.start)]

def ofConditions (q : Conditions) : Value :=
  .record
    [("category_id", .array (q.categoryIds.map fun id => .ofNat id.toNat)),
      ("attributes", .array (q.pairs.map ofPair)),
      ("page_size", .ofNat q.pageSize.toNat),
      ("offset", .ofNat q.offset.toNat),
      ("filters", .array (q.filters.map ofTitleFilter))]

end Wire

namespace Conditions

def ofJson (text : String) : Except Error Conditions :=
  match (Json.Value.read? text.toList).bind Wire.conditions with
  | some q => .ok q
  | none => .error (.malformedJson "search conditions")

end Conditions
end FacetRules
