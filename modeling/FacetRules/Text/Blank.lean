/-!
# Blank characters

Columns and typed-in numbers are read without the blank characters around them.
A character is blank when it has the Unicode property White_Space; the zero-width
space and the byte order mark do not have it.

Trimming is stated for any class of characters, because damaged lists are
trimmed of other marks than blanks.
-/

namespace FacetRules
namespace Text

/-- The Unicode property White_Space. -/
def isBlank (c : Char) : Bool :=
  let n := c.toNat
  (9 ≤ n && n ≤ 13) || n == 0x20 || n == 0x85 || n == 0xA0 || n == 0x1680 ||
    (0x2000 ≤ n && n ≤ 0x200A) || n == 0x2028 || n == 0x2029 || n == 0x202F ||
    n == 0x205F || n == 0x3000

def trimOf (p : Char -> Bool) (cs : List Char) : List Char :=
  ((cs.dropWhile p).reverse.dropWhile p).reverse

def trim (cs : List Char) : List Char :=
  trimOf isBlank cs

@[simp]
theorem trimOf_nil (p : Char -> Bool) : trimOf p [] = [] := by
  simp [trimOf]

theorem trimOf_eq_self {p : Char -> Bool} {cs : List Char}
    (hhead : forall c, c ∈ cs.head? -> p c = false)
    (hlast : forall c, c ∈ cs.getLast? -> p c = false) :
    trimOf p cs = cs := by
  have keep : forall ds : List Char, (forall c, c ∈ ds.head? -> p c = false) ->
      ds.dropWhile p = ds := by
    intro ds h
    cases ds with
    | nil => rfl
    | cons d rest =>
        have hd : p d = false := h d (by simp)
        simp [hd]
  have hfront := keep cs hhead
  have hback := keep cs.reverse (by simpa using hlast)
  simp [trimOf, hfront, hback]

end Text
end FacetRules
