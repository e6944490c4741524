/-!
# Bits of a packed file

A packed file is read bit by bit.  Within an octet the lowest bit comes first, and
so it does in a number of several bits.  A reader takes what it needs from the
place where the last one stopped; it fails where the octets end.
-/

namespace FacetRules
namespace Gzip

structure Bits where
  octets : ByteArray
  position : Nat := 0

abbrev Reader := StateT Bits Option

namespace Bits

def index (b : Bits) : Nat :=
  b.position / 8

def remaining (b : Bits) : Nat :=
  8 * b.octets.size - b.position

def next? (b : Bits) : Option Nat :=
  (b.octets[b.index]?).map fun octet => (octet.toNat >>> (b.position % 8)) % 2

end Bits

namespace Reader

def bit : Reader Nat := fun b =>
  b.next?.map (·, { b with position := b.position + 1 })

def number : Nat -> Reader Nat
  | 0 => pure 0
  | width + 1 => do
      let low <- bit
      let high <- number width
      return low + 2 * high

/-- Passes over the rest of an octet that is read in part. -/
def align : Reader Unit := fun b =>
  some ((), { b with position := (b.position + 7) / 8 * 8 })

def octet : Reader UInt8 := fun b =>
  (b.octets[b.index]?).map (·, { b with position := b.position + 8 })

def octets : Nat -> ByteArray -> Reader ByteArray
  | 0, out => pure out
  | count + 1, out => do
      let o <- octet
      octets count (out.push o)

def skip (count : Nat) : Reader Unit :=
  modify fun b => { b with position := b.position + 8 * count }

/-- Passes over octets up to the first that is zero, at most so many. -/
def skipText : Nat -> Reader Unit
  | 0 => failure
  | fuel + 1 => do
      if (<- octet) = 0 then
        return ()
      else
        skipText fuel

end Reader
end Gzip
end FacetRules
