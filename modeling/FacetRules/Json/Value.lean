import FacetRules.Text.Decimal

/-!
# JSON values

String literals are kept as they are written, piece by piece.  A literal that is
passed over need not stand for a text, while one that is read must: its units of
UTF-16 have to pair up.  A number is an integer when it is written without a
fraction, an exponent and a minus sign in front of zero; any other number is kept
as it is written, because nothing here is measured in fractions.
-/

namespace FacetRules
namespace Json

inductive Piece
  | plain (c : Char)
  | escape (c : Char)
  | unit (n : UInt16)
  deriving DecidableEq, Repr

abbrev Literal := List Piece

inductive Value
  | null
  | bool (b : Bool)
  | integer (i : Int)
  | number (written : List Char)
  | string (literal : Literal)
  | array (items : List Value)
  | object (members : List (Literal × Value))
  deriving Repr

namespace Literal

def shortEscapes : List (Char × Char) :=
  [('"', '"'), ('\\', '\\'), ('/', '/'), ('\x08', 'b'), ('\x0c', 'f'), ('\n', 'n'), ('\r', 'r'),
    ('\t', 't')]

def unescape? (mark : Char) : Option Char :=
  (shortEscapes.find? fun (_, m) => m == mark).map Prod.fst

def isHighUnit (n : UInt16) : Bool :=
  0xD800 ≤ n.toNat && n.toNat < 0xDC00

def isLowUnit (n : UInt16) : Bool :=
  0xDC00 ≤ n.toNat && n.toNat < 0xE000

def ofPair (high low : UInt16) : Char :=
  Char.ofNat (0x10000 + (high.toNat - 0xD800) * 0x400 + (low.toNat - 0xDC00))

/-- The characters that a literal stands for.  A unit of a pair that stands alone
stands for nothing. -/
def chars? : Literal -> Option (List Char)
  | [] => some []
  | .plain c :: rest => (chars? rest).map (c :: ·)
  | .escape mark :: rest => do
      let c <- unescape? mark
      return c :: (<- chars? rest)
  | .unit high :: .unit low :: rest =>
      if isHighUnit high then
        if isLowUnit low then (chars? rest).map (ofPair high low :: ·) else none
      else if isLowUnit high then
        none
      else
        (chars? (.unit low :: rest)).map (Char.ofNat high.toNat :: ·)
  | .unit n :: rest =>
      if isHighUnit n || isLowUnit n then
        none
      else
        (chars? rest).map (Char.ofNat n.toNat :: ·)

def text? (l : Literal) : Option String :=
  l.chars?.map String.ofList

def plainChars? : Literal -> Option (List Char)
  | [] => some []
  | .plain c :: rest => (plainChars? rest).map (c :: ·)
  | _ => none

/-- How a character is written: quotation marks, backslashes and controls are
escaped, with a short escape where there is one, and all else stands for itself.
A slash needs no escape. -/
def pieceOf (c : Char) : Piece :=
  match (shortEscapes.find? fun (d, _) => d == c && d != '/') with
  | some (_, mark) => .escape mark
  | none => if c.toNat < 0x20 then .unit c.toNat.toUInt16 else .plain c

def ofString (s : String) : Literal :=
  s.toList.map pieceOf

end Literal

namespace Value

def ofString (s : String) : Value :=
  .string (Literal.ofString s)

def ofNat (n : Nat) : Value :=
  .integer n

def record (members : List (String × Value)) : Value :=
  .object (members.map fun (name, v) => (Literal.ofString name, v))

end Value
end Json
end FacetRules
