import FacetRules.Json.Value

/-!
# Printing JSON

Values are printed over several lines, each item of an array and each member of an
object on lines of its own, two spaces further in than what it belongs to.  Empty
arrays and objects stay on one line.
-/

namespace FacetRules
namespace Json

def unitDigits (n : UInt16) : List Char :=
  [Nat.digitChar (n.toNat / 4096), Nat.digitChar (n.toNat / 256 % 16),
    Nat.digitChar (n.toNat / 16 % 16), Nat.digitChar (n.toNat % 16)]

namespace Piece

def print : Piece -> List Char
  | plain c => [c]
  | escape mark => ['\\', mark]
  | unit n => '\\' :: 'u' :: unitDigits n

end Piece

namespace Literal

def print (l : Literal) : List Char :=
  '"' :: (l.flatMap Piece.print ++ ['"'])

end Literal

def printInteger : Int -> List Char
  | .ofNat n => Nat.toDigits 10 n
  | .negSucc n => '-' :: Nat.toDigits 10 (n + 1)

/-- The end of a line, and the space in front of the next one. -/
def newLine (depth : Nat) : List Char :=
  '\n' :: List.replicate (2 * depth) ' '

mutual

def printValue (depth : Nat) : Value -> List Char
  | .null => ['n', 'u', 'l', 'l']
  | .bool true => ['t', 'r', 'u', 'e']
  | .bool false => ['f', 'a', 'l', 's', 'e']
  | .integer i => printInteger i
  | .number written => written
  | .string literal => literal.print
  | .array [] => ['[', ']']
  | .array (v :: vs) =>
      '[' :: (newLine (depth + 1) ++ printValue (depth + 1) v ++ printItems (depth + 1) vs ++
        newLine depth ++ [']'])
  | .object [] => ['\x7b', '\x7d']
  | .object ((key, v) :: ms) =>
      '\x7b' :: (newLine (depth + 1) ++ key.print ++ ':' :: ' ' :: printValue (depth + 1) v ++
        printMembers (depth + 1) ms ++ newLine depth ++ ['\x7d'])

def printItems (depth : Nat) : List Value -> List Char
  | [] => []
  | v :: vs => ',' :: (newLine depth ++ printValue depth v ++ printItems depth vs)

def printMembers (depth : Nat) : List (Literal × Value) -> List Char
  | [] => []
  | (key, v) :: ms =>
      ',' :: (newLine depth ++ key.print ++ ':' :: ' ' :: printValue depth v ++
        printMembers depth ms)

end

namespace Value

def print (v : Value) : String :=
  String.ofList (printValue 0 v)

end Value
end Json
end FacetRules
