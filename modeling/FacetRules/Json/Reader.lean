import FacetRules.Json.Value

/-!
# Reading JSON

The grammar of JSON, without liberties: no commas before a closing bracket, no
comments, no numbers with superfluous zeros, no bare control characters in
strings, and nothing but white space around the value.

A value is read from the front of a text and leaves the rest of it.  Every call
goes one step down in a budget that no text exhausts, because twice the number of
characters and some more is enough: a bracket costs two calls, and any other
character at most one.
-/

namespace FacetRules
namespace Json

def isSpace (c : Char) : Bool :=
  c == ' ' || c == '\t' || c == '\n' || c == '\r'

def skipSpace (cs : List Char) : List Char :=
  cs.dropWhile isSpace

def hexDigit? (c : Char) : Option Nat :=
  if '0' ≤ c ∧ c ≤ '9' then
    some (c.toNat - '0'.toNat)
  else if 'a' ≤ c ∧ c ≤ 'f' then
    some (c.toNat - 'a'.toNat + 10)
  else if 'A' ≤ c ∧ c ≤ 'F' then
    some (c.toNat - 'A'.toNat + 10)
  else
    none

def unit? (a b c d : Char) : Option UInt16 := do
  let a <- hexDigit? a
  let b <- hexDigit? b
  let c <- hexDigit? c
  let d <- hexDigit? d
  return (((a * 16 + b) * 16 + c) * 16 + d).toUInt16

/-- Reads a string literal whose opening quotation mark is behind. -/
def readLiteral : List Char -> Option (Literal × List Char)
  | [] => none
  | '"' :: rest => some ([], rest)
  | '\\' :: 'u' :: a :: b :: c :: d :: rest => do
      let n <- unit? a b c d
      let (pieces, rest) <- readLiteral rest
      return (.unit n :: pieces, rest)
  | '\\' :: mark :: rest =>
      if (Literal.unescape? mark).isSome then do
        let (pieces, rest) <- readLiteral rest
        return (.escape mark :: pieces, rest)
      else
        none
  | c :: rest =>
      if c == '\\' || c.toNat < 0x20 then
        none
      else do
        let (pieces, rest) <- readLiteral rest
        return (.plain c :: pieces, rest)

/-! ## Numbers -/

def spanDigits (cs : List Char) : List Char × List Char :=
  (cs.takeWhile Char.isDigit, cs.dropWhile Char.isDigit)

/-- The digits of an integer: at least one, and no zero in front of others. -/
def wholeDigits? (cs : List Char) : Option (List Char × List Char) :=
  match spanDigits cs with
  | ([], _) => none
  | ('0' :: _ :: _, _) => none
  | digits => some digits

def fraction? : List Char -> Option (List Char × List Char)
  | '.' :: cs =>
      match spanDigits cs with
      | ([], _) => none
      | (digits, rest) => some ('.' :: digits, rest)
  | cs => some ([], cs)

def exponent? : List Char -> Option (List Char × List Char)
  | [] => some ([], [])
  | c :: cs =>
      if c == 'e' || c == 'E' then
        let (sign, cs) :=
          match cs with
          | '+' :: cs => (['+'], cs)
          | '-' :: cs => (['-'], cs)
          | cs => ([], cs)
        match spanDigits cs with
        | ([], _) => none
        | (digits, rest) => some (c :: sign ++ digits, rest)
      else
        some ([], c :: cs)

def readNumber (cs : List Char) : Option (Value × List Char) := do
  let (minus, unsigned) :=
    match cs with
    | '-' :: cs => (true, cs)
    | cs => (false, cs)
  let (whole, rest) <- wholeDigits? unsigned
  let (fraction, rest) <- fraction? rest
  let (exponent, rest) <- exponent? rest
  let n := Nat.ofDigitChars 10 whole 0
  if fraction.isEmpty && exponent.isEmpty && !(minus && n == 0) then
    return (.integer (if minus then -(n : Int) else n), rest)
  else
    let sign := if minus then ['-'] else []
    return (.number (sign ++ whole ++ fraction ++ exponent), rest)

/-! ## Values -/

mutual

def readValue : Nat -> List Char -> Option (Value × List Char)
  | 0, _ => none
  | budget + 1, cs =>
      match skipSpace cs with
      | 'n' :: 'u' :: 'l' :: 'l' :: rest => some (.null, rest)
      | 't' :: 'r' :: 'u' :: 'e' :: rest => some (.bool true, rest)
      | 'f' :: 'a' :: 'l' :: 's' :: 'e' :: rest => some (.bool false, rest)
      | '"' :: rest => (readLiteral rest).map fun (l, rest) => (.string l, rest)
      | '[' :: rest =>
          match skipSpace rest with
          | ']' :: rest => some (.array [], rest)
          | rest => (readItems budget rest).map fun (vs, rest) => (.array vs, rest)
      | '\x7b' :: rest =>
          match skipSpace rest with
          | '\x7d' :: rest => some (.object [], rest)
          | rest => (readMembers budget rest).map fun (ms, rest) => (.object ms, rest)
      | cs => readNumber cs

/-- Reads the items of an array, at least one, and the closing bracket. -/
def readItems : Nat -> List Char -> Option (List Value × List Char)
  | 0, _ => none
  | budget + 1, cs => do
      let (v, rest) <- readValue budget cs
      match skipSpace rest with
      | ',' :: rest =>
          let (vs, rest) <- readItems budget rest
          return (v :: vs, rest)
      | ']' :: rest => return ([v], rest)
      | _ => none

/-- Reads the members of an object, at least one, and the closing brace. -/
def readMembers : Nat -> List Char -> Option (List (Literal × Value) × List Char)
  | 0, _ => none
  | budget + 1, cs => do
      match skipSpace cs with
      | '"' :: rest =>
          let (key, rest) <- readLiteral rest
          match skipSpace rest with
          | ':' :: rest =>
              let (v, rest) <- readValue budget rest
              match skipSpace rest with
              | ',' :: rest =>
                  let (ms, rest) <- readMembers budget rest
                  return ((key, v) :: ms, rest)
              | '\x7d' :: rest => return ([(key, v)], rest)
              | _ => none
          | _ => none
      | _ => none

end

namespace Value

def read? (cs : List Char) : Option Value :=
  match readValue (2 * cs.length + 2) cs with
  | some (v, rest) => if (skipSpace rest).isEmpty then some v else none
  | none => none

end Value
end Json
end FacetRules
