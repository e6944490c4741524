import FacetRules.Proofs.Text.Pieces
import FacetRules.Text.Decimal

/-!
# The grammar of numbers

A decimal is a run of ASCII digits, of which there is at least one; a sign may stand in front of
it.  What is read as a number of a certain width is exactly what spells a number of this width, and
what is written for a number spells it.
-/

namespace FacetRules
namespace Text

/-- One or more digits with this value. -/
structure Digits (cs : List Char) (n : Nat) : Prop where
  ne_nil : cs ≠ []
  isDigit_of_mem : forall c, c ∈ cs -> c.isDigit = true
  value_eq : Nat.ofDigitChars 10 cs 0 = n

/-- Digits with a plus sign in front or none. -/
inductive Unsigned : List Char -> Nat -> Prop
  | bare {ds : List Char} {n : Nat} (digits : Digits ds n) : Unsigned ds n
  | plus {ds : List Char} {n : Nat} (digits : Digits ds n) : Unsigned ('+' :: ds) n

/-- Digits with a sign in front or none. -/
inductive Signed : List Char -> Int -> Prop
  | bare {ds : List Char} {n : Nat} (digits : Digits ds n) : Signed ds n
  | plus {ds : List Char} {n : Nat} (digits : Digits ds n) : Signed ('+' :: ds) n
  | minus {ds : List Char} {n : Nat} (digits : Digits ds n) : Signed ('-' :: ds) (-n)

/-- An unsigned decimal of 32 bits with blanks around it. -/
def Number (cs : List Char) (n : UInt32) : Prop :=
  exists kept, Trims isBlank cs kept ∧ Unsigned kept n.toNat

/-!
# What is read
-/

theorem natOfDigits?_eq_some_iff {cs : List Char} {n : Nat} :
    natOfDigits? cs = some n <-> Digits cs n := by
  unfold natOfDigits?
  constructor
  · intro h
    split at h
    · rename_i hdigits
      rw [Bool.and_eq_true, Bool.not_eq_true', List.isEmpty_eq_false_iff, List.all_eq_true]
        at hdigits
      exact ⟨hdigits.1, hdigits.2, Option.some.inj h⟩
    · cases h
  · intro h
    have hdigits : (!cs.isEmpty && cs.all Char.isDigit) = true := by
      rw [Bool.and_eq_true, Bool.not_eq_true', List.isEmpty_eq_false_iff, List.all_eq_true]
      exact ⟨h.ne_nil, h.isDigit_of_mem⟩
    rw [if_pos hdigits, h.value_eq]

theorem Digits.not_sign {c : Char} {ds : List Char} {n : Nat} (h : Digits (c :: ds) n)
    (hc : c.isDigit = false) : False := by
  have hdigit := h.isDigit_of_mem c List.mem_cons_self
  rw [hc] at hdigit
  cases hdigit

theorem unsigned?_eq_some_iff {cs : List Char} {n : Nat} :
    unsigned? cs = some n <-> Unsigned cs n := by
  unfold unsigned?
  split
  · rename_i ds
    rw [natOfDigits?_eq_some_iff]
    constructor
    · exact .plus
    · intro h
      cases h with
      | bare digits => exact (digits.not_sign rfl).elim
      | plus digits => exact digits
  · rename_i hplus
    rw [natOfDigits?_eq_some_iff]
    constructor
    · exact .bare
    · intro h
      cases h with
      | bare digits => exact digits
      | plus digits => exact (hplus _ rfl).elim

theorem signed?_eq_some_iff {cs : List Char} {i : Int} : signed? cs = some i <-> Signed cs i := by
  unfold signed?
  split
  · rename_i ds
    simp only [Option.map_eq_some_iff, natOfDigits?_eq_some_iff]
    constructor
    · intro hexists
      rcases hexists with ⟨n, digits, rfl⟩
      exact .plus digits
    · intro h
      cases h with
      | bare digits => exact (digits.not_sign rfl).elim
      | plus digits => exact ⟨_, digits, rfl⟩
  · rename_i ds
    simp only [Option.map_eq_some_iff, Option.bind_eq_bind, Option.bind_eq_some_iff,
      Option.pure_def, Option.some.injEq, natOfDigits?_eq_some_iff]
    constructor
    · intro hexists
      rcases hexists with ⟨_, ⟨n, digits, rfl⟩, rfl⟩
      exact .minus digits
    · intro h
      cases h with
      | bare digits => exact (digits.not_sign rfl).elim
      | minus digits => exact ⟨_, ⟨_, digits, rfl⟩, rfl⟩
  · rename_i hplus hminus
    simp only [Option.map_eq_some_iff, natOfDigits?_eq_some_iff]
    constructor
    · intro hexists
      rcases hexists with ⟨n, digits, rfl⟩
      exact .bare digits
    · intro h
      cases h with
      | bare digits => exact ⟨_, digits, rfl⟩
      | plus digits => exact (hplus _ rfl).elim
      | minus digits => exact (hminus _ rfl).elim

theorem word32?_eq_some_iff {m : Nat} {n : UInt32} : word32? m = some n <-> m = n.toNat := by
  constructor
  · intro h
    unfold word32? at h
    split at h
    · rename_i hlt
      rw [<- Option.some.inj h, UInt32.toNat_ofNat_of_lt' hlt]
    · cases h
  · intro h
    rw [h, word32?_toNat]

theorem int64?_eq_some_iff {i : Int} {n : Int64} : int64? i = some n <-> i = n.toInt := by
  unfold int64?
  constructor
  · intro h
    split at h
    · rename_i hrange
      rw [<- Option.some.inj h, Int64.toInt_ofInt_of_le (by omega) (by omega)]
    · cases h
  · intro h
    have hlower := n.le_toInt
    have hupper := n.toInt_lt
    rw [if_pos (by omega), h, Int64.ofInt_toInt]

theorem readUInt32?_eq_some_iff {cs : List Char} {n : UInt32} :
    readUInt32? cs = some n <-> Unsigned cs n.toNat := by
  simp [readUInt32?, Option.bind_eq_some_iff, word32?_eq_some_iff, unsigned?_eq_some_iff]

theorem readInt64?_eq_some_iff {cs : List Char} {n : Int64} :
    readInt64? cs = some n <-> Signed cs n.toInt := by
  simp [readInt64?, Option.bind_eq_some_iff, int64?_eq_some_iff, signed?_eq_some_iff]

/-- There is one way to trim a text. -/
theorem exists_trims_iff {p : Char -> Bool} {cs : List Char} {q : List Char -> Prop} :
    (exists kept, Trims p cs kept ∧ q kept) <-> q (trimOf p cs) := by
  constructor
  · intro hexists
    rcases hexists with ⟨kept, htrims, hkept⟩
    rw [<- htrims.eq_trimOf]
    exact hkept
  · intro h
    exact ⟨_, trims_trimOf p cs, h⟩

theorem readUInt32?_trim_eq_some_iff {cs : List Char} {n : UInt32} :
    readUInt32? (trim cs) = some n <-> Number cs n := by
  rw [readUInt32?_eq_some_iff, Number, exists_trims_iff, trim]

/-!
# What is written
-/

theorem digits_toDigits (n : Nat) : Digits (Nat.toDigits 10 n) n :=
  natOfDigits?_eq_some_iff.mp (natOfDigits?_toDigits n)

theorem isBlank_eq_false_of_isDigit {c : Char} (h : c.isDigit = true) : isBlank c = false := by
  have hlower : 48 ≤ c.toNat := (Char.isDigit_iff_toNat.mp h).1
  have hupper : c.toNat ≤ 57 := (Char.isDigit_iff_toNat.mp h).2
  simp [isBlank]
  omega

theorem Digits.trims {cs : List Char} {n : Nat} (h : Digits cs n) : Trims isBlank cs cs where
  split := ⟨[], [], by simp⟩
  head := by
    intro c hc
    exact isBlank_eq_false_of_isDigit (h.isDigit_of_mem c (List.mem_of_mem_head? hc))
  last := by
    intro c hc
    exact isBlank_eq_false_of_isDigit (h.isDigit_of_mem c (List.mem_of_getLast? hc))

theorem digits_toString (n : UInt32) : Digits (toString n).toList n.toNat := by
  have htext : (toString n).toList = Nat.toDigits 10 n.toNat := by
    show (toString n.toNat).toList = _
    rw [Nat.toString_eq_ofList_toDigits, String.toList_ofList]
  rw [htext]
  exact digits_toDigits n.toNat

theorem number_toString (n : UInt32) : Number (toString n).toList n :=
  ⟨_, (digits_toString n).trims, .bare (digits_toString n)⟩

end Text
end FacetRules
