import FacetRules.Id
import FacetRules.Text.Decimal

/-!
# Values on a command line

The value of an option is a text, a path, the number of a category or a count.
What it has to be is checked when the option is read.
-/

namespace FacetRules
namespace CommandLine

def pathValue (value : String) : Option String :=
  if value = "" then none else some value

/-- A category number, read as a signed number and then held against its range. -/
def categoryValue (value : String) : Option CategoryId := do
  let n <- Text.readInt64? value.toList
  if 0 ≤ n.toInt then Text.word32? n.toInt.toNat else none

def countValue (value : String) : Option UInt64 :=
  Text.readUInt64? value.toList

def textValue (value : String) : Option String :=
  some value

inductive ValueKind
  | text
  | path
  | category
  | count
  deriving DecidableEq, Repr

def ValueKind.accepts (kind : ValueKind) (value : String) : Bool :=
  match kind with
  | text => (textValue value).isSome
  | path => (pathValue value).isSome
  | category => (categoryValue value).isSome
  | count => (countValue value).isSome

end CommandLine
end FacetRules
