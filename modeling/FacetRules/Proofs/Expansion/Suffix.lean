import FacetRules.Import

/-!
# The suffixes of the passes

A suffix ends with a hyphen and digits.  The last hyphen of a key that was formed under
such a suffix therefore tells where the number of the pass begins, whatever the key was
before, and no two passes form the same key.
-/

namespace FacetRules

namespace Text

/-- Zeros in front do not change the value of digits. -/
theorem ofDigitChars_leftpad (width n : Nat) :
    Nat.ofDigitChars 10 ((Nat.toDigits 10 n).leftpad width '0') 0 = n := by
  rw [List.leftpad, Nat.ofDigitChars_append, Nat.ofDigitChars_replicate_zero, Nat.mul_zero,
    Nat.ofDigitChars_ten_toDigits]

theorem isDigit_of_mem_leftpad {width n : Nat} {c : Char}
    (h : c ∈ (Nat.toDigits 10 n).leftpad width '0') : c.isDigit = true := by
  rcases List.mem_append.mp h with hzero | hdigit
  · rw [(List.mem_replicate.mp hzero).2]
    rfl
  · exact Nat.isDigit_of_mem_toDigits (by decide) (by decide) hdigit

end Text

namespace Import

/-- The digits at the end of a suffix. -/
def passDigits (pass : Nat) : List Char :=
  (Nat.toDigits 10 pass).leftpad 3 '0'

theorem passDigits_inj {p q : Nat} (h : passDigits p = passDigits q) : p = q := by
  have hp := Text.ofDigitChars_leftpad 3 p
  have hq := Text.ofDigitChars_leftpad 3 q
  change (Nat.toDigits 10 p).leftpad 3 '0' = (Nat.toDigits 10 q).leftpad 3 '0' at h
  rw [h, hq] at hp
  exact hp.symm

theorem hyphen_notMem_passDigits (pass : Nat) : '-' ∉ passDigits pass := by
  intro h
  have hdigit := Text.isDigit_of_mem_leftpad h
  exact absurd hdigit (by decide)

theorem toList_append_expandSuffix (uuid : String) (pass : Nat) :
    (uuid ++ expandSuffix pass).toList =
      (uuid.toList ++ "-expanded".toList) ++ '-' :: passDigits pass := by
  have hstart : "-expanded-".toList = "-expanded".toList ++ ['-'] := by decide
  have hdigits : (Text.flushRight 3 '0' pass).toList = passDigits pass := String.toList_ofList
  rw [expandSuffix, String.toList_append, String.toList_append, hstart, hdigits,
    List.append_assoc, List.append_assoc]
  rfl

/-- A key that was formed in a pass tells the pass and the key without suffix. -/
theorem append_expandSuffix_inj {u v : String} {p q : Nat}
    (h : u ++ expandSuffix p = v ++ expandSuffix q) : p = q ∧ u = v := by
  have hlists := congrArg (fun s : String => s.toList.reverse) h
  simp only [toList_append_expandSuffix, List.reverse_append, List.reverse_cons,
    List.append_assoc, List.singleton_append] at hlists
  have hp : '-' ∉ (passDigits p).reverse := by
    rw [List.mem_reverse]
    exact hyphen_notMem_passDigits p
  have hq : '-' ∉ (passDigits q).reverse := by
    rw [List.mem_reverse]
    exact hyphen_notMem_passDigits q
  have hsplit := congrArg (Text.splitFirst '-') hlists
  simp only [List.cons_append, Text.splitFirst_append hp, Text.splitFirst_append hq] at hsplit
  rcases Prod.mk.inj (Option.some.inj hsplit) with ⟨hdigits, hrest⟩
  constructor
  · exact passDigits_inj (List.reverse_inj.mp hdigits)
  · exact String.toList_inj.mp (List.reverse_inj.mp (List.append_cancel_left hrest))

theorem expandSuffix_ne_empty (pass : Nat) : expandSuffix pass ≠ "" := by
  intro h
  have hlist := congrArg String.toList h
  rw [expandSuffix, String.toList_append] at hlist
  cases hlist

end Import
end FacetRules
