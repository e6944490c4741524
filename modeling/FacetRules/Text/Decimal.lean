/-!
# Decimal numbers

Decimal texts are read with an optional sign, at least one ASCII digit and
nothing else; a number outside the range of its type is no number.  Only signed
types take a minus sign.

Numbers are written with `Nat.toDigits`, so that reading is the inverse of
writing, and can be set flush right in a column.
-/

namespace FacetRules
namespace Text

def natOfDigits? (cs : List Char) : Option Nat :=
  if !cs.isEmpty && cs.all Char.isDigit then some (Nat.ofDigitChars 10 cs 0) else none

/-- An unsigned decimal: digits, with an optional plus sign in front. -/
def unsigned? : List Char -> Option Nat
  | '+' :: ds => natOfDigits? ds
  | ds => natOfDigits? ds

/-- A signed decimal: digits, with an optional plus or minus sign in front. -/
def signed? : List Char -> Option Int
  | '+' :: ds => (natOfDigits? ds).map Int.ofNat
  | '-' :: ds => (natOfDigits? ds).map fun n => -(n : Int)
  | ds => (natOfDigits? ds).map Int.ofNat

def word32? (n : Nat) : Option UInt32 :=
  if n < UInt32.size then some (UInt32.ofNat n) else none

def word64? (n : Nat) : Option UInt64 :=
  if n < UInt64.size then some (UInt64.ofNat n) else none

def int64? (i : Int) : Option Int64 :=
  if -9223372036854775808 ≤ i ∧ i ≤ 9223372036854775807 then some (Int64.ofInt i) else none

def readUInt32? (cs : List Char) : Option UInt32 :=
  (unsigned? cs).bind word32?

def readUInt64? (cs : List Char) : Option UInt64 :=
  (unsigned? cs).bind word64?

def readInt64? (cs : List Char) : Option Int64 :=
  (signed? cs).bind int64?

/-- A number set flush right in a column of the given width. -/
def flushRight (width : Nat) (fill : Char) (n : Nat) : String :=
  String.ofList ((Nat.toDigits 10 n).leftpad width fill)

theorem natOfDigits?_toDigits (n : Nat) :
    natOfDigits? (Nat.toDigits 10 n) = some n := by
  have hne : Nat.toDigits 10 n ≠ [] := Nat.toDigits_ne_nil
  have hall : (Nat.toDigits 10 n).all Char.isDigit = true := by
    rw [List.all_eq_true]
    intro c hc
    exact Nat.isDigit_of_mem_toDigits (b := 10) (n := n) (by decide) (by decide) hc
  simp [natOfDigits?, hne, hall]

@[simp]
theorem word32?_toNat (n : UInt32) : word32? n.toNat = some n := by
  simp [word32?, n.toNat_lt_size]

@[simp]
theorem word64?_toNat (n : UInt64) : word64? n.toNat = some n := by
  simp [word64?, n.toNat_lt_size]

end Text
end FacetRules
