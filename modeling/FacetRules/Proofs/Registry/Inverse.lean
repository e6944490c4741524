import Mathlib.Data.List.Nodup
import FacetRules.Proofs.Registry.Growth

/-!
# Numbers and keys

As long as the numbers have not run out, every number stands for one key and every key
for one number.  Two registries with the same keys may have seen them in different
orders; then they differ by a renumbering, which takes the number of a key in the one to
its number in the other.
-/

namespace FacetRules
namespace Registry

theorem toNat_numberAt {i : Nat} (h : i + 1 < UInt32.size) : (numberAt i).toNat = i + 1 :=
  UInt32.toNat_ofNat_of_lt h

/-- A key is found where it stands, because it stands at one place only. -/
theorem idxOf?_keys_eq_some_iff {r : Registry} {key : String} {i : Nat} :
    r.keys.toList.idxOf? key = some i <-> r.keys[i]? = some key := by
  rw [<- Array.getElem?_toList]
  constructor
  · intro h
    rcases List.idxOf?_eq_some_iff.mp h with ⟨hlt, hkey, _hfirst⟩
    rw [List.getElem?_eq_getElem hlt, hkey]
  · intro h
    have hmem := List.mem_of_getElem? h
    rcases Option.isSome_iff_exists.mp (List.isSome_idxOf?.mpr hmem) with ⟨j, hj⟩
    rcases List.idxOf?_eq_some_iff.mp hj with ⟨hlt, hkey, _hfirst⟩
    have hsame : r.keys.toList[j]? = r.keys.toList[i]? := by
      rw [h, List.getElem?_eq_getElem hlt, hkey]
    rw [hj, (List.getElem?_inj hlt r.keys_nodup).mp hsame]

theorem exists_number_iff {r : Registry} {key : String} :
    (exists id, r.ids[key]? = some id) <-> key ∈ r.keys := by
  rw [<- Option.isSome_iff_exists, getElem?_ids, Option.isSome_map, List.isSome_idxOf?,
    Array.mem_toList_iff]

/-- The list of the keys and the map of the numbers are inverse to each other. -/
theorem uuidOf_eq_some_iff {r : Registry} (hr : r.size < UInt32.size) {id : Id}
    {key : String} : r.uuidOf id = some key <-> r.ids[key]? = some id := by
  rw [getElem?_ids]
  constructor
  · intro h
    unfold uuidOf at h
    split at h
    · cases h
    · rename_i hne
      have hpositive : 0 < id.toNat := UInt32.pos_iff_ne_zero.mpr hne
      rw [idxOf?_keys_eq_some_iff.mpr h, Option.map_some, numberAt,
        Nat.sub_add_cancel hpositive, UInt32.ofNat_toNat]
  · intro h
    rcases Option.map_eq_some_iff.mp h with ⟨i, hi, rfl⟩
    have hkey := idxOf?_keys_eq_some_iff.mp hi
    have hlt : i < r.size := (Array.getElem?_eq_some_iff.mp hkey).1
    have hnumber := toNat_numberAt (i := i) (by omega)
    have hne : numberAt i ≠ 0 := by
      intro hzero
      rw [hzero] at hnumber
      cases hnumber
    rw [uuidOf, if_neg hne, hnumber]
    exact hkey

theorem eq_of_uuidOf_eq_some {r : Registry} (hr : r.size < UInt32.size) {i j : Id}
    {key : String} (hi : r.uuidOf i = some key) (hj : r.uuidOf j = some key) : i = j := by
  rw [uuidOf_eq_some_iff hr] at hi hj
  exact Option.some.inj (hi.symm.trans hj)

theorem uuidOf_eq_none_iff {r : Registry} {id : Id} :
    r.uuidOf id = none <-> id = 0 ∨ r.size < id.toNat := by
  unfold uuidOf
  by_cases hzero : id = 0
  · simp [hzero]
  · have hpositive : 0 < id.toNat := UInt32.pos_iff_ne_zero.mpr hzero
    rw [if_neg hzero, Array.getElem?_eq_none_iff]
    change r.size ≤ id.toNat - 1 <-> _
    constructor
    · intro hle
      exact Or.inr (by omega)
    · intro hcase
      have hlt := hcase.resolve_left hzero
      omega

theorem Extends.uuidOf {r s : Registry} (h : r.Extends s) {id : Id} {key : String}
    (hid : r.uuidOf id = some key) : s.uuidOf id = some key := by
  unfold Registry.uuidOf at hid ⊢
  split at hid
  · cases hid
  · rename_i hne
    rw [<- Array.getElem?_toList] at hid
    rw [if_neg hne, <- Array.getElem?_toList]
    rcases h with ⟨added, hadded⟩
    rw [<- hadded, List.getElem?_append_left (List.getElem?_eq_some_iff.mp hid).1]
    exact hid

/-!
# Renumbering
-/

/-- The same keys are numbered, in whatever order. -/
def SameKeys (r s : Registry) : Prop :=
  forall key, key ∈ s.keys <-> key ∈ r.keys

/-- The number in the second registry of the key that has this number in the first one.
A number that stands for no key is kept. -/
def translate (r s : Registry) (id : Id) : Id :=
  match r.uuidOf id with
  | some key => s.ids[key]?.getD id
  | none => id

theorem SameKeys.symm {r s : Registry} (h : r.SameKeys s) : s.SameKeys r :=
  fun key => (h key).symm

theorem SameKeys.size_eq {r s : Registry} (h : r.SameKeys s) : s.size = r.size := by
  have hperm : s.keys.toList.Perm r.keys.toList := by
    apply (List.perm_ext_iff_of_nodup s.keys_nodup r.keys_nodup).mpr
    intro key
    rw [Array.mem_toList_iff, Array.mem_toList_iff]
    exact h key
  exact hperm.length_eq

section Translate

variable {r s : Registry} (h : r.SameKeys s) (hr : r.size < UInt32.size)

include h hr

/-- A key is found under the translated number. -/
theorem SameKeys.getElem?_ids_eq (key : String) :
    s.ids[key]? = r.ids[key]?.map (r.translate s) := by
  cases hid : r.ids[key]? with
  | none =>
      cases hother : s.ids[key]? with
      | none =>
          rfl
      | some other =>
          have hkey := (h key).mp (exists_number_iff.mp ⟨other, hother⟩)
          rcases exists_number_iff.mpr hkey with ⟨id, hsome⟩
          rw [hid] at hsome
          cases hsome
  | some id =>
      have hkey := (h key).mpr (exists_number_iff.mp ⟨id, hid⟩)
      rcases exists_number_iff.mpr hkey with ⟨other, hother⟩
      have huuid := (uuidOf_eq_some_iff hr).mpr hid
      rw [Option.map_some, translate, huuid]
      show s.ids[key]? = some (s.ids[key]?.getD id)
      rw [hother]
      rfl

theorem SameKeys.lookupSuffixed_eq (uuid : String) (suffix : Option String) :
    s.lookupSuffixed uuid suffix = (r.lookupSuffixed uuid suffix).map (r.translate s) := by
  unfold lookupSuffixed
  split
  · rfl
  · exact h.getElem?_ids_eq hr _

theorem SameKeys.uuidOf_translate (id : Id) : s.uuidOf (r.translate s id) = r.uuidOf id := by
  have hs : s.size < UInt32.size := by
    rw [h.size_eq]
    exact hr
  cases huuid : r.uuidOf id with
  | none =>
      rw [translate, huuid, uuidOf_eq_none_iff, h.size_eq, <- uuidOf_eq_none_iff]
      exact huuid
  | some key =>
      rw [uuidOf_eq_some_iff hs, h.getElem?_ids_eq hr, (uuidOf_eq_some_iff hr).mp huuid]
      rfl

theorem SameKeys.translate_translate (id : Id) : s.translate r (r.translate s id) = id := by
  have huuid := h.uuidOf_translate hr id
  rw [translate, huuid]
  cases hid : r.uuidOf id with
  | none =>
      show r.translate s id = id
      rw [translate, hid]
  | some key =>
      show r.ids[key]?.getD _ = id
      rw [(uuidOf_eq_some_iff hr).mp hid]
      rfl

theorem SameKeys.bijective_translate : Function.Bijective (r.translate s) := by
  have hs : s.size < UInt32.size := by
    rw [h.size_eq]
    exact hr
  exact Function.bijective_iff_has_inverse.mpr
    ⟨s.translate r, h.translate_translate hr, h.symm.translate_translate hs⟩

end Translate

end Registry
end FacetRules
