import FacetRules.Proofs.Lists
import FacetRules.Registry

/-!
# Growth of the registry

Resolving adds a key at the end of the registry or leaves the registry as it is.
The keys of a registry are therefore everything that was ever resolved, without its
repetitions, and a number once given stays: whatever is looked up in a registry is
found under the same number in every registry that has grown out of it.
-/

namespace FacetRules
namespace Registry

/-!
# Look-ups by position

The map of the numbers repeats what the list of the keys says.
-/

theorem getElem?_ids (r : Registry) (key : String) :
    r.ids[key]? = (r.keys.toList.idxOf? key).map numberAt :=
  r.ids_eq key

theorem lookupSuffixed_of_ne {uuid : String} (h : uuid ≠ "") (r : Registry)
    (suffix : Option String) :
    r.lookupSuffixed uuid suffix =
      (r.keys.toList.idxOf? (keyOf uuid suffix)).map numberAt := by
  rw [lookupSuffixed, if_neg h, getElem?_ids]

theorem lookupSuffixed_empty (r : Registry) (suffix : Option String) :
    r.lookupSuffixed "" suffix = none := by
  simp [lookupSuffixed]

/-!
# What resolving does

A key that is not empty always gets a number, which is the one under which it is
found afterwards.
-/

theorem resolve_of_some {r : Registry} {uuid : String} {id : Id} (h : uuid ≠ "")
    (hid : r.ids[keyOf uuid r.suffix]? = some id) : r.resolve uuid = (.ok id, r) := by
  unfold resolve
  rw [if_neg h]
  split
  · rename_i found hfound
    rw [hid] at hfound
    cases hfound
    rfl
  · rename_i hnone
    rw [hid] at hnone
    cases hnone

theorem resolve_of_none {r : Registry} {uuid : String} (h : uuid ≠ "")
    (hid : r.ids[keyOf uuid r.suffix]? = none) :
    r.resolve uuid = (.ok (numberAt r.keys.size), r.append (keyOf uuid r.suffix) hid) := by
  unfold resolve
  rw [if_neg h]
  split
  · rename_i found hfound
    rw [hid] at hfound
    cases hfound
  · rfl

theorem suffix_resolve (r : Registry) (uuid : String) :
    (r.resolve uuid).2.suffix = r.suffix := by
  by_cases h : uuid = ""
  · rw [h, resolve_empty]
  · cases hid : r.ids[keyOf uuid r.suffix]? with
    | some id =>
        rw [resolve_of_some h hid]
    | none =>
        rw [resolve_of_none h hid]
        rfl

theorem keys_resolve {uuid : String} (h : uuid ≠ "") (r : Registry) :
    (r.resolve uuid).2.keys.toList =
      (r.keys.toList ++ [keyOf uuid r.suffix]).eraseDups := by
  cases hid : r.ids[keyOf uuid r.suffix]? with
  | some id =>
      have hmem : keyOf uuid r.suffix ∈ r.keys.toList := by
        rw [getElem?_ids] at hid
        rcases Option.map_eq_some_iff.mp hid with ⟨i, hi, _hnumber⟩
        exact List.isSome_idxOf?.mp (by rw [hi]; rfl)
      rw [resolve_of_some h hid, eraseDups_append_of_subset (by simpa using hmem),
        eraseDups_of_nodup r.keys_nodup]
  | none =>
      have hnot : keyOf uuid r.suffix ∉ r.keys.toList := by
        rw [getElem?_ids, Option.map_eq_none_iff] at hid
        exact List.idxOf?_eq_none_iff.mp hid
      rw [resolve_of_none h hid, eraseDups_append_of_disjoint (by simpa using hnot),
        eraseDups_of_nodup r.keys_nodup]
      show (r.keys.push (keyOf uuid r.suffix)).toList = _
      simp [List.eraseDups_cons]

/-!
# Registries that have grown
-/

/-- All keys of the first registry are in the second, at the same places. -/
def Extends (r s : Registry) : Prop :=
  r.keys.toList <+: s.keys.toList

theorem Extends.refl (r : Registry) : Extends r r :=
  List.prefix_refl _

theorem Extends.trans {r s t : Registry} (hrs : Extends r s) (hst : Extends s t) :
    Extends r t :=
  List.IsPrefix.trans hrs hst

theorem Extends.getElem?_ids {r s : Registry} (h : Extends r s) {key : String} {id : Id}
    (hid : r.ids[key]? = some id) : s.ids[key]? = some id := by
  rw [Registry.getElem?_ids] at hid ⊢
  rcases Option.map_eq_some_iff.mp hid with ⟨i, hi, hnumber⟩
  rcases h with ⟨added, hadded⟩
  have hi' : s.keys.toList.idxOf? key = some i := by
    unfold List.idxOf? at hi ⊢
    rw [<- hadded, List.findIdx?_append, hi]
    rfl
  rw [hi', <- hnumber]
  rfl

theorem Extends.lookupSuffixed {r s : Registry} (h : Extends r s) {uuid : String}
    {suffix : Option String} {id : Id} (hid : r.lookupSuffixed uuid suffix = some id) :
    s.lookupSuffixed uuid suffix = some id := by
  unfold Registry.lookupSuffixed at hid ⊢
  split at hid
  · cases hid
  · rename_i hne
    rw [if_neg hne]
    exact h.getElem?_ids hid

theorem extends_resolve (r : Registry) (uuid : String) : Extends r (r.resolve uuid).2 := by
  by_cases h : uuid = ""
  · rw [h, resolve_empty]
    exact Extends.refl r
  · unfold Extends
    rw [keys_resolve h, List.eraseDups_append, eraseDups_of_nodup r.keys_nodup]
    exact List.prefix_append _ _

/-- Resolving a key that is not empty gives the number under which it is found from
then on. -/
theorem resolve_fst {uuid : String} (h : uuid ≠ "") (r : Registry) :
    exists id, (r.resolve uuid).1 = .ok id ∧
      (r.resolve uuid).2.lookupSuffixed uuid r.suffix = some id := by
  cases hid : r.ids[keyOf uuid r.suffix]? with
  | some id =>
      exists id
      rw [resolve_of_some h hid]
      constructor
      · rfl
      · rw [lookupSuffixed, if_neg h, hid]
  | none =>
      exists numberAt r.keys.size
      rw [resolve_of_none h hid]
      constructor
      · rfl
      · rw [lookupSuffixed, if_neg h]
        exact Std.ExtTreeMap.getElem?_insert_self

end Registry
end FacetRules
