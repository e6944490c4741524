import FacetRules.Category
import FacetRules.Json.Reader
import FacetRules.Json.Record

/-!
# The category tree in JSON

The tree is an object whose member names are the numbers of the categories.  The
numbers are written in plain digits, without superfluous zeros and without
escapes; when a number comes up twice, the later category counts.
-/

namespace FacetRules
namespace Wire

open Json

def category : Decoder Category := fun v => do
  let fields <- fields? ["id", "name", "order", "parent_id", "path"] v
  return {
    id := <- fields.required "id" .word32
    name := <- fields.required "name" .text
    order := <- fields.optional "order" .int64 0
    parentId := <- fields.optional "parent_id" (.nullable .word32) none
    path := <- fields.optional "path" (.list .word32) [] }

/-- The number that a member name stands for. -/
def categoryKey (key : Literal) : Option CategoryId := do
  let digits <- key.plainChars?
  let (whole, rest) <- wholeDigits? digits
  if rest.isEmpty then Text.word32? (Nat.ofDigitChars 10 whole 0) else none

def categoryTree : Decoder CategoryTree
  | .object members => do
      let entries <- members.mapM fun (key, v) => do
        return (<- categoryKey key, <- category v)
      return Std.ExtTreeMap.ofList entries
  | _ => none

end Wire
end FacetRules
