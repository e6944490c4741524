import FacetRules.Proofs.Maps
import FacetRules.Total

/-!
# Adding up

Sizes and counts are added up over lists and over the entries of maps.  Where every entry
of a map has collected what a list says about its key, the entries together come to what
the list says about keys that the map has.
-/

namespace FacetRules

section Lists

variable {α β : Type}

@[simp]
theorem total_replicate_zero (n : Nat) : total (List.replicate n 0) = 0 := by
  induction n with
  | zero =>
      rfl
  | succ n ih =>
      rw [List.replicate_succ, total_cons, ih]

theorem total_map_one (xs : List α) : total (xs.map fun _ => 1) = xs.length := by
  induction xs with
  | nil =>
      rfl
  | cons x xs ih =>
      rw [List.map_cons, total_cons, ih, List.length_cons, Nat.add_comm]

theorem total_map_add (f g : α -> Nat) (xs : List α) :
    total (xs.map fun x => f x + g x) = total (xs.map f) + total (xs.map g) := by
  induction xs with
  | nil =>
      rfl
  | cons x xs ih =>
      simp only [List.map_cons, total_cons, ih]
      omega

theorem total_map_filter (p : α -> Bool) (f : α -> Nat) (xs : List α) :
    total ((xs.filter p).map f) = total (xs.map fun x => if p x then f x else 0) := by
  induction xs with
  | nil =>
      rfl
  | cons x xs ih =>
      rw [List.filter_cons, List.map_cons, total_cons, <- ih]
      cases p x with
      | true => rfl
      | false => exact (Nat.zero_add _).symm

theorem countP_eq_total (p : α -> Bool) (xs : List α) :
    xs.countP p = total (xs.map fun x => if p x then 1 else 0) := by
  induction xs with
  | nil =>
      rfl
  | cons x xs ih =>
      rw [List.countP_cons, List.map_cons, total_cons, ih, Nat.add_comm]

theorem length_flatMap (f : α -> List β) (xs : List α) :
    (xs.flatMap f).length = total (xs.map fun x => (f x).length) := by
  induction xs with
  | nil =>
      rfl
  | cons x xs ih =>
      rw [List.flatMap_cons, List.length_append, ih, List.map_cons, total_cons]

/-!
# Counting what is put together
-/

section Count

variable [DecidableEq β]

theorem count_flatMap_append (f g : α -> List β) (xs : List α) (y : β) :
    (xs.flatMap fun x => f x ++ g x).count y = (xs.flatMap f).count y + (xs.flatMap g).count y := by
  induction xs with
  | nil =>
      rfl
  | cons x xs ih =>
      simp only [List.flatMap_cons, List.count_append, ih]
      omega

theorem count_flatMap_of (p : α -> Bool) (f : α -> List β) (xs : List α) (y : β) :
    (xs.flatMap fun x => if p x then f x else []).count y =
      total ((xs.filter p).map fun x => (f x).count y) := by
  induction xs with
  | nil =>
      rfl
  | cons x xs ih =>
      rw [List.flatMap_cons, List.count_append, ih, List.filter_cons]
      cases p x with
      | true => rfl
      | false => exact Nat.zero_add _

end Count

/-!
# Sorting by keys
-/

section Keys

variable {κ : Type} [DecidableEq κ] {ks : List κ}

theorem total_at_key (hks : ks.Nodup) (k : κ) (n : Nat) :
    total (ks.map fun j => if k = j then n else 0) = if k ∈ ks then n else 0 := by
  induction ks with
  | nil =>
      rfl
  | cons j ks ih =>
      rcases List.nodup_cons.mp hks with ⟨hj, hks⟩
      rw [List.map_cons, total_cons, ih hks]
      by_cases h : k = j
      · subst h
        simp [hj]
      · simp [h]

theorem total_sorted (hks : ks.Nodup) (key : α -> κ) (weight : α -> Nat) (xs : List α) :
    total (ks.map fun k => total (xs.map fun x => if key x = k then weight x else 0)) =
      total (xs.map fun x => if key x ∈ ks then weight x else 0) := by
  induction xs with
  | nil =>
      show total (ks.map fun _k => 0) = 0
      rw [List.map_const', total_replicate_zero]
  | cons x xs ih =>
      simp only [List.map_cons, total_cons]
      rw [total_map_add, ih, total_at_key hks]

end Keys

end Lists

namespace IdMap

variable {α β : Type}

theorem nodup_keys (m : IdMap β) : (m.toList.map Prod.fst).Nodup := by
  rw [Std.ExtTreeMap.map_fst_toList_eq_keys]
  exact Std.ExtTreeMap.nodup_keys

theorem mem_keys {m : IdMap β} {k : UInt32} :
    k ∈ m.toList.map Prod.fst <-> m.contains k = true := by
  rw [Std.ExtTreeMap.map_fst_toList_eq_keys]
  exact Std.ExtTreeMap.mem_keys

/-- Where every entry has collected what a list says about its key, the entries together
come to what the list says about the keys of the map. -/
theorem total_entries {m : IdMap β} {size : β -> Nat} {key : α -> UInt32} {weight : α -> Nat}
    {xs : List α}
    (h : forall k v, m[k]? = some v ->
      size v = total (xs.map fun x => if key x = k then weight x else 0)) :
    total (m.toList.map fun e => size e.2) =
      total (xs.map fun x => if m.contains (key x) then weight x else 0) := by
  have hsorted := total_sorted m.nodup_keys key weight xs
  simp only [mem_keys] at hsorted
  rw [<- hsorted, List.map_map]
  congr 1
  apply List.map_congr_left
  intro e he
  exact h e.1 e.2 (mem_toList.mp he)

end IdMap
end FacetRules
