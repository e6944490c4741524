import FacetRules.Gzip.Code

/-!
# Packed data

Packed data is a sequence of blocks.  A block holds octets as they are, or symbols
of two codes: an octet, the end of the block, or a length, which a distance
follows.  The latter two ask to repeat what was unpacked that far back.  The codes
are fixed ones or written in front of the block.
-/

namespace FacetRules
namespace Gzip

namespace Deflate

/-! ## Lengths and distances -/

def lengthOf (n : Nat) : Reader Nat :=
  if n < 8 then
    return n + 3
  else if n < 28 then do
    let width := n / 4 - 1
    return 3 + (4 + n % 4) <<< width + (<- Reader.number width)
  else if n = 28 then
    return 258
  else
    failure

def distanceOf (n : Nat) : Reader Nat :=
  if n < 4 then
    return n + 1
  else if n < 30 then do
    let width := n / 2 - 1
    return 1 + (2 + n % 2) <<< width + (<- Reader.number width)
  else
    failure

def repeatFrom (distance : Nat) : Nat -> ByteArray -> Option ByteArray
  | 0, out => some out
  | count + 1, out =>
      if distance ≤ out.size then
        (out[out.size - distance]?).bind fun o => repeatFrom distance count (out.push o)
      else
        none

/-! ## Blocks -/

structure Codes where
  literals : Code
  distances : Code

def fixedCodes : Codes where
  literals := .ofLengths
    (List.replicate 144 8 ++ List.replicate 112 9 ++ List.replicate 24 7 ++ List.replicate 8 8)
  distances := .ofLengths (List.replicate 30 5)

/-- The symbol that ends a block; smaller ones are octets, and greater ones lengths. -/
def endOfBlock : Nat := 256

def symbols (codes : Codes) : Nat -> ByteArray -> Reader ByteArray
  | 0, _ => failure
  | fuel + 1, out => do
      let symbol <- codes.literals.decode
      if symbol < endOfBlock then
        symbols codes fuel (out.push symbol.toUInt8)
      else if symbol = endOfBlock then
        return out
      else
        let length <- lengthOf (symbol - endOfBlock - 1)
        let distance <- distanceOf (<- codes.distances.decode)
        symbols codes fuel (<- repeatFrom distance length out)

/-- Reads a block that holds octets as they are: their number, the same number with
every bit turned over, and the octets. -/
def stored (out : ByteArray) : Reader ByteArray := do
  Reader.align
  let count <- Reader.number 16
  let check <- Reader.number 16
  if count + check = 0xffff then
    Reader.octets count out
  else
    failure

/-! ## Written codes -/

def lengthOrder : List Nat :=
  [16, 17, 18, 0, 8, 7, 9, 6, 10, 5, 11, 4, 12, 3, 13, 2, 14, 1, 15]

def lengthCode (written : List Nat) : Code :=
  .ofLengths ((List.range lengthOrder.length).map fun symbol =>
    ((lengthOrder.zip written).lookup symbol).getD 0)

/-- Reads lengths until there are so many, in at most so many steps.  The lengths read
so far come last first.  A symbol is a length, or repeats the last length or zero. -/
def wordLengths (c : Code) (count : Nat) : Nat -> List Nat -> Reader (List Nat)
  | 0, _ => failure
  | fuel + 1, lengths => do
      if lengths.length = count then
        return lengths.reverse
      else if count < lengths.length then
        failure
      else
        match <- c.decode, lengths with
        | 16, last :: _ =>
            let times <- Reader.number 2
            wordLengths c count fuel (List.replicate (times + 3) last ++ lengths)
        | 16, [] => failure
        | 17, _ =>
            let times <- Reader.number 3
            wordLengths c count fuel (List.replicate (times + 3) 0 ++ lengths)
        | 18, _ =>
            let times <- Reader.number 7
            wordLengths c count fuel (List.replicate (times + 11) 0 ++ lengths)
        | length, _ => wordLengths c count fuel (length :: lengths)

def threeBits : Nat -> Reader (List Nat)
  | 0 => pure []
  | count + 1 => do
      let n <- Reader.number 3
      let rest <- threeBits count
      return n :: rest

def writtenCodes : Reader Codes := do
  let literalCount := (<- Reader.number 5) + 257
  let distanceCount := (<- Reader.number 5) + 1
  let lengthCount := (<- Reader.number 4) + 4
  let code := lengthCode (<- threeBits lengthCount)
  let count := literalCount + distanceCount
  let lengths <- wordLengths code count (count + 1) []
  return {
    literals := .ofLengths (lengths.take literalCount)
    distances := .ofLengths (lengths.drop literalCount) }

/-! ## All blocks -/

/-- Reads a block of a kind: zero for octets as they are, one for fixed codes and two
for written ones. -/
def block (kind : Nat) (out : ByteArray) : Reader ByteArray := do
  match kind with
  | 0 => stored out
  | 1 => symbols fixedCodes (<- get).remaining out
  | 2 =>
      let codes <- writtenCodes
      symbols codes (<- get).remaining out
  | _ => failure

def blocks : Nat -> ByteArray -> Reader ByteArray
  | 0, _ => failure
  | fuel + 1, out => do
      let last <- Reader.bit
      let kind <- Reader.number 2
      let out <- block kind out
      if last = 1 then
        return out
      else
        blocks fuel out

end Deflate

/-- Reads packed data; every symbol and every block takes at least one bit. -/
def inflate : Reader ByteArray := do
  Deflate.blocks (<- get).remaining .empty

end Gzip
end FacetRules
