import FacetRules.Proofs.Copies
import FacetRules.Proofs.Expansion.Suffix
import FacetRules.Proofs.Registry.Growth

/-!
# The numbers of the copies

When every pass numbers the same keys under a suffix of its own, the numbers of a pass
follow those of the pass before.  The copy of a number is found by adding as many numbers
as all earlier passes have given; as long as there are numbers left for all passes, no two
copies are the same.
-/

namespace FacetRules

/-- The copy of a number that a pass makes, where each pass numbers so many keys. -/
def copyId (size pass : Nat) (id : Id) : Id :=
  id + UInt32.ofNat (pass * size)

/-- The number is one of those that so many keys get. -/
def InRange (size : Nat) (id : Id) : Prop :=
  0 < id.toNat ∧ id.toNat ≤ size

theorem copyId_inj {size pass : Nat} {i j : Id} (h : copyId size pass i = copyId size pass j) :
    i = j :=
  (UInt32.add_left_inj _).mp h

theorem copyId_numberAt (size pass i : Nat) :
    copyId size pass (Registry.numberAt i) = Registry.numberAt (i + pass * size) := by
  rw [copyId, Registry.numberAt, Registry.numberAt, <- UInt32.ofNat_add]
  congr 1
  omega

section Bounds

variable {size n : Nat} {p q : Nat} {i j : Id}

theorem toNat_copyId (hn : n * size < UInt32.size) (hp : p < n) (hi : InRange size i) :
    (copyId size p i).toNat = i.toNat + p * size := by
  have hle : (p + 1) * size ≤ n * size := Nat.mul_le_mul_right _ hp
  rw [Nat.succ_mul] at hle
  have hsum : i.toNat + p * size < UInt32.size := by
    have hrange := hi.2
    omega
  have hoffset : (UInt32.ofNat (p * size)).toNat = p * size :=
    UInt32.toNat_ofNat_of_lt (by omega)
  rw [copyId, UInt32.toNat_add, hoffset]
  exact Nat.mod_eq_of_lt hsum

/-- Copies are the same only when they are copies of one number by one pass. -/
theorem copyId_eq_iff (hn : n * size < UInt32.size) (hp : p < n) (hq : q < n)
    (hi : InRange size i) (hj : InRange size j) :
    copyId size p i = copyId size q j <-> p = q ∧ i = j := by
  constructor
  · intro h
    have hnumbers := congrArg UInt32.toNat h
    rw [toNat_copyId hn hp hi, toNat_copyId hn hq hj] at hnumbers
    have hpass : p = q := by
      rcases Nat.lt_trichotomy p q with hlt | heq | hlt
      · have hle : (p + 1) * size ≤ q * size := Nat.mul_le_mul_right _ hlt
        rw [Nat.succ_mul] at hle
        have hupper := hi.2
        have hlower := hj.1
        omega
      · exact heq
      · have hle : (q + 1) * size ≤ p * size := Nat.mul_le_mul_right _ hlt
        rw [Nat.succ_mul] at hle
        have hupper := hj.2
        have hlower := hi.1
        omega
    subst hpass
    exact ⟨rfl, copyId_inj h⟩
  · intro h
    rw [h.1, h.2]

theorem beq_copyId (hn : n * size < UInt32.size) (hp : p < n) (hq : q < n)
    (hi : InRange size i) (hj : InRange size j) :
    (copyId size p i == copyId size q j) = true <-> p = q ∧ (i == j) = true := by
  rw [beq_iff_eq, beq_iff_eq]
  exact copyId_eq_iff hn hp hq hi hj

end Bounds

/-!
# Looking up by number

A number that is a copy is found in the copy of its pass alone.
-/

section LookUp

variable {α β : Type} {size n : Nat} {xs : List α} {mark : Nat -> α -> β} (number : α -> Id)
  (number' : β -> Id)

theorem filter_copies_of_number (hn : n * size < UInt32.size)
    (hmark : forall p x, number' (mark p x) = copyId size p (number x))
    (hxs : forall x, x ∈ xs -> InRange size (number x)) {q : Nat} (hq : q < n) {i : Id}
    (hi : InRange size i) :
    (copies n mark xs).filter (fun y => number' y == copyId size q i) =
      (xs.filter fun x => number x == i).map (mark q) := by
  apply filter_copies_of_pass hq
  intro p x hp hx
  rw [hmark]
  exact beq_copyId hn hp hq (hxs x hx) hi

theorem findRev?_copies_of_number (hn : n * size < UInt32.size)
    (hmark : forall p x, number' (mark p x) = copyId size p (number x))
    (hxs : forall x, x ∈ xs -> InRange size (number x)) {q : Nat} (hq : q < n) {i : Id}
    (hi : InRange size i) :
    (copies n mark xs).findRev? (fun y => number' y == copyId size q i) =
      (xs.findRev? fun x => number x == i).map (mark q) := by
  apply findRev?_copies_of_pass hq
  intro p x hp hx
  rw [hmark]
  exact beq_copyId hn hp hq (hxs x hx) hi

theorem copyId_mem_copies (hn : n * size < UInt32.size) {ids : List Id}
    (hids : forall id, id ∈ ids -> InRange size id) {q : Nat} (hq : q < n) {i : Id}
    (hi : InRange size i) : copyId size q i ∈ copies n (copyId size) ids <-> i ∈ ids := by
  rw [mem_copies]
  constructor
  · intro hexists
    rcases hexists with ⟨p, id, hp, hid, heq⟩
    rcases (copyId_eq_iff hn hp hq (hids id hid) hi).mp heq with ⟨_hpass, rfl⟩
    exact hid
  · intro hmem
    exact ⟨q, i, hq, hmem, rfl⟩

end LookUp

namespace Registry

theorem inRange_lookupSuffixed {r : Registry} (hr : r.size < UInt32.size) {uuid : String}
    {suffix : Option String} {id : Id} (h : r.lookupSuffixed uuid suffix = some id) :
    InRange r.size id := by
  by_cases hu : uuid = ""
  · rw [hu, lookupSuffixed_empty] at h
    cases h
  · rw [lookupSuffixed_of_ne hu] at h
    rcases Option.map_eq_some_iff.mp h with ⟨i, hi, rfl⟩
    have hlt : i < r.keys.toList.length := (List.findIdx?_eq_some_iff_findIdx_eq.mp hi).1
    change i < r.size at hlt
    have hnumber : (numberAt i).toNat = i + 1 := UInt32.toNat_ofNat_of_lt (by omega)
    constructor
    · omega
    · omega

/-- Each pass has numbered the keys of the first registry under its own suffix. -/
def CopiedTo (r : Registry) (n : Nat) (s : Registry) : Prop :=
  s.keys.toList = copies n (fun p key => key ++ Import.expandSuffix p) r.keys.toList

section Copies

variable {r s : Registry} {n : Nat}

theorem CopiedTo.size_eq (h : r.CopiedTo n s) : s.size = n * r.size := by
  have hlength := congrArg List.length h
  rw [length_copies] at hlength
  exact hlength

/-- In a pass, a key is found under the copy of its number. -/
theorem CopiedTo.lookupSuffixed_eq (h : r.CopiedTo n s) {p : Nat} (hp : p < n) (uuid : String) :
    s.lookupSuffixed uuid (some (Import.expandSuffix p)) =
      (r.lookupSuffixed uuid none).map (copyId r.size p) := by
  by_cases hu : uuid = ""
  · rw [hu, lookupSuffixed_empty, lookupSuffixed_empty]
    rfl
  · have hkey : keyOf uuid none = uuid := String.append_empty
    have hplace : (copies n (fun p key => key ++ Import.expandSuffix p) r.keys.toList).idxOf?
        (keyOf uuid (some (Import.expandSuffix p))) =
          (r.keys.toList.idxOf? uuid).map (· + p * r.keys.toList.length) :=
      idxOf?_copies (fun p q x y heq => Import.append_expandSuffix_inj heq) hp uuid
    rw [lookupSuffixed_of_ne hu, lookupSuffixed_of_ne hu, hkey, h, hplace, Option.map_map,
      Option.map_map]
    congr 1
    funext i
    exact (copyId_numberAt r.size p i).symm

theorem CopiedTo.uuidOf_eq (h : r.CopiedTo n s) (hn : n * r.size < UInt32.size) {p : Nat}
    (hp : p < n) {id : Id} (hid : InRange r.size id) :
    s.uuidOf (copyId r.size p id) =
      (r.uuidOf id).map fun key => key ++ Import.expandSuffix p := by
  have hnumber := toNat_copyId hn hp hid
  have hpositive := hid.1
  have hbound := hid.2
  have hne : id ≠ 0 := by
    intro hzero
    rw [hzero] at hpositive
    exact absurd hpositive (by decide)
  have hne' : copyId r.size p id ≠ 0 := by
    intro hzero
    rw [hzero] at hnumber
    change 0 = _ at hnumber
    omega
  have hplace : id.toNat + p * r.size - 1 = (id.toNat - 1) + p * r.keys.toList.length := by
    show id.toNat + p * r.size - 1 = (id.toNat - 1) + p * r.size
    omega
  have hlt : id.toNat - 1 < r.keys.toList.length := by
    show id.toNat - 1 < r.size
    omega
  rw [uuidOf, uuidOf, if_neg hne, if_neg hne', hnumber, <- Array.getElem?_toList,
    <- Array.getElem?_toList, h, hplace, getElem?_copies hp hlt]

end Copies

end Registry
end FacetRules
