import FacetRules.Gzip.Checksum
import FacetRules.Gzip.Deflate
import FacetRules.Storage

/-!
# Members of a packed file

A packed file is a sequence of members.  Each starts with two fixed octets and the
method, may carry a name and other notes, holds packed data, and ends with the
checksum and the size of what was packed.

A file is cut into its members as far as they are sound; what follows the last sound
one is taken as it is.
-/

namespace FacetRules
namespace Gzip

/-- What may stand in front of the packed data, each announced by a bit of its own. -/
structure Flags where
  headerCheck : Bool
  extra : Bool
  name : Bool
  comment : Bool
  deriving DecidableEq, Repr

def Flags.ofNat (n : Nat) : Flags where
  headerCheck := n.testBit 1
  extra := n.testBit 2
  name := n.testBit 3
  comment := n.testBit 4

def header : Reader Unit := do
  let start <- Reader.number 24
  if start ≠ 0x088b1f then
    failure
  let flags := Flags.ofNat (<- Reader.number 8)
  Reader.skip 6
  if flags.extra then
    Reader.skip (<- Reader.number 16)
  let limit := (<- get).remaining
  if flags.name then
    Reader.skipText limit
  if flags.comment then
    Reader.skipText limit
  if flags.headerCheck then
    Reader.skip 2

def member : Reader ByteArray := do
  header
  let out <- inflate
  Reader.align
  let check <- Reader.number 32
  let size <- Reader.number 32
  if check = (checksum out).toNat ∧ size = out.size % UInt32.size then
    return out
  else
    failure

def segments : Nat -> Bits -> FileContent
  | 0, _ => []
  | fuel + 1, b =>
      if b.octets.size ≤ b.index then
        []
      else
        match member b with
        | some (out, rest) => .packed out.toList :: segments fuel rest
        | none => [.plain (b.octets.toList.drop b.index)]

end Gzip

def FileContent.ofOctets (octets : ByteArray) : FileContent :=
  Gzip.segments octets.size { octets }

end FacetRules
