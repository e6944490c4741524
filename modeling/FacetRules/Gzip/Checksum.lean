/-!
# Checksum of unpacked data

The octets are taken as a polynomial over two elements, lowest bit first, and
divided by a fixed polynomial of degree 32.  The remainder, turned over as the
start value is, is the checksum.
-/

namespace FacetRules
namespace Gzip

namespace Checksum

/-- The divisor without its leading term. -/
def divisor : UInt32 := 0xedb88320

def shift (r : UInt32) : UInt32 :=
  if r % 2 = 1 then (r >>> 1) ^^^ divisor else r >>> 1

def addOctet (r : UInt32) (o : UInt8) : UInt32 :=
  Nat.repeat shift 8 (r ^^^ o.toUInt32)

end Checksum

def checksum (octets : ByteArray) : UInt32 :=
  ~~~ octets.foldl Checksum.addOctet 0xffffffff

end Gzip
end FacetRules
