import FacetRules.Json.Reader

/-!
# Reading JSON from bytes

Bytes in UTF-8 are read as the text that they stand for.  A byte that belongs to no
character is a mistake wherever it is looked at, but a string literal that is passed
over may hold it.  In this it is like a unit of UTF-16 that stands alone.  So two
units that close a pair are put in its place: whatever stands in front, one of them
is left alone.  Behind a backslash, such a byte is always a mistake.
-/

namespace FacetRules
namespace Json

/-- What is put in the place of a byte that belongs to no character. -/
def strayUnits : List Char :=
  ['\\', 'u', 'd', 'c', '0', '0', '\\', 'u', 'd', 'c', '0', '0']

/-- The characters of bytes from a place on, put in front of those in reverse that are
given, with a flag that tells whether an open backslash stands in front. -/
def charsFrom (bytes : ByteArray) (escaped : Bool) (before : List Char) (i : Nat) :
    Option (List Char) :=
  if i < bytes.size then
    match bytes.utf8DecodeChar? i with
    | some c => charsFrom bytes (c == '\\' && !escaped) (c :: before) (i + c.utf8Size)
    | none =>
        if escaped then
          none
        else
          charsFrom bytes false (strayUnits.reverse ++ before) (i + 1)
  else
    some before.reverse
  termination_by bytes.size - i
  decreasing_by
    · have := c.utf8Size_pos
      omega
    · omega

namespace Value

def readBytes? (bytes : List UInt8) : Option Value :=
  (charsFrom ⟨bytes.toArray⟩ false [] 0).bind read?

end Value
end Json
end FacetRules
