import FacetRules.Gzip.Bits

/-!
# Codes of varying length

A code gives each symbol a word of bits, none of which begins another.  The lengths
of the words determine the code: shorter words come first, words of one length
follow each other in the order of their symbols, and the first word of a length
follows the last one that is shorter.

So a word is found by its distance from the first word of its length.  Where the
distance is not below the number of words of that length, the word is longer.
-/

namespace FacetRules
namespace Gzip

structure Code where
  rows : List (Array Nat)
  deriving DecidableEq, Repr

namespace Code

def maxLength : Nat := 15

/-- The code in which each symbol has a word of the length given for it; symbols
with length zero have none. -/
def ofLengths (lengths : List Nat) : Code where
  rows := (List.range maxLength).map fun k =>
    ((lengths.zipIdx.filter fun (length, _) => length = k + 1).map (·.2)).toArray

/-- Reads on, given the distance of the bits read so far from those that begin the
first word of this or a greater length. -/
def decodeRows : List (Array Nat) -> Nat -> Reader Nat
  | [], _ => failure
  | symbols :: longer, distance => do
      let distance := 2 * distance + (<- Reader.bit)
      match symbols[distance]? with
      | some symbol => return symbol
      | none => decodeRows longer (distance - symbols.size)

def decode (c : Code) : Reader Nat :=
  decodeRows c.rows 0

end Code
end Gzip
end FacetRules
