import FacetRules.Proofs.Catalog.Partition
import FacetRules.Proofs.Compile.Rules

/-!
# Display order

Sorting is stable: equal keys stay in the order of the list that is sorted, whatever is left
out of it before or after.  A catalog in display order stays as it is when it is put into
display order again, so the order in which a compiled catalog is served goes back to the
rows, however often it was sorted on the way.
-/

namespace FacetRules

namespace StableSort

variable {α : Type}

/-- The elements of the source in ascending order of keys, equal keys in the order of the
source. -/
structure Arranges (key : α -> Int64) (source xs : List α) : Prop where
  sorted : Sorted key xs
  ties_eq : forall n, (xs.filter fun x => key x == n) = source.filter fun x => key x == n

theorem sorted_of_keys_eq {key : α -> Int64} {n : Int64} {xs : List α}
    (h : forall x, x ∈ xs -> key x = n) : Sorted key xs := by
  rw [Sorted, List.pairwise_iff_forall_sublist]
  intro x y hsub
  rw [h x (hsub.subset (by simp)), h y (hsub.subset (by simp))]
  exact Int64.le_refl n

theorem arranges_sort (key : α -> Int64) (xs : List α) : Arranges key xs (sort key xs) where
  sorted := sort_sorted key xs
  ties_eq := by
    intro n
    rw [filter_sort]
    apply sort_of_sorted
    apply sorted_of_keys_eq (n := n)
    intro x hx
    exact beq_iff_eq.mp (List.mem_filter.mp hx).2

/-- What is kept of a sorted list is what is kept of the source, arranged. -/
theorem arranges_filter_sort [DecidableEq α] (key : α -> Int64) (p : α -> Bool) (xs : List α) :
    Arranges key (xs.filter ((sort key xs).filter p).contains) ((sort key xs).filter p) := by
  have hkept : xs.filter ((sort key xs).filter p).contains = xs.filter p := by
    apply List.filter_congr
    intro x hx
    rw [Bool.eq_iff_iff, List.contains_iff_mem, List.mem_filter, (sort_perm key xs).mem_iff]
    exact and_iff_right hx
  rw [hkept, filter_sort]
  exact arranges_sort key (xs.filter p)

end StableSort

/-- In a list without repetitions a sublist is known by its elements. -/
theorem filter_contains_of_sublist {α : Type} [DecidableEq α] {xs ys : List α}
    (h : xs.Sublist ys) (hys : ys.Nodup) : ys.filter xs.contains = xs := by
  induction h with
  | slnil =>
      rfl
  | cons y hsub ih =>
      rcases List.nodup_cons.mp hys with ⟨hy, hys⟩
      rw [List.filter_cons_of_neg, ih hys]
      intro hmem
      exact hy (hsub.subset (List.contains_iff_mem.mp hmem))
  | cons_cons y hsub ih =>
      rename_i xs ys
      rcases List.nodup_cons.mp hys with ⟨hy, hys⟩
      have hrest : ys.filter (y :: xs).contains = ys.filter xs.contains := by
        apply List.filter_congr
        intro z hz
        have hne : z ≠ y := fun heq => hy (heq ▸ hz)
        simp [hne]
      rw [List.filter_cons_of_pos (by simp), hrest, ih hys]

namespace Catalog

/-!
# Sorting again
-/

theorem attributeOrder_presort (c : Catalog) : c.presort.attributeOrder = c.attributeOrder := by
  funext id
  rw [attributeOrder, attributeOrder, getElem?_attributes_presort]
  cases c.attributes[id]? with
  | none => rfl
  | some a => rfl

theorem optionOrder_presort (c : Catalog) : c.presort.optionOrder = c.optionOrder :=
  rfl

theorem presort_presort (c : Catalog) : c.presort.presort = c.presort := by
  have hrules : c.presort.presort.rules = c.presort.rules := by
    apply Std.ExtTreeMap.ext_getElem?
    intro category
    rw [getElem?_rules_presort, getElem?_rules_presort, Option.map_map]
    congr 1
    funext r
    simp only [Function.comp_apply, sortRule, attributeOrder_presort, StableSort.sort_sort]
  have hattributes : c.presort.presort.attributes = c.presort.attributes := by
    apply Std.ExtTreeMap.ext_getElem?
    intro id
    rw [getElem?_attributes_presort, getElem?_attributes_presort, Option.map_map]
    congr 1
    funext a
    simp only [Function.comp_apply, sortAttribute, optionOrder_presort, StableSort.sort_sort]
  show { c.presort with
    rules := c.presort.presort.rules, attributes := c.presort.presort.attributes } = c.presort
  rw [hrules, hattributes]

/-- The catalogs that come of these calls: put into display order and given names, any
number of times. -/
inductive CompiledFrom (calls : List Builder.Call) : Catalog -> Prop where
  | finish (tree : CategoryTree) :
      CompiledFrom calls (((∅ : Builder).withCategories tree).performAll calls).finish.1
  | presort {c : Catalog} : CompiledFrom calls c -> CompiledFrom calls c.presort
  | withCategories {c : Catalog} (tree : CategoryTree) :
      CompiledFrom calls c -> CompiledFrom calls (c.withCategories tree)

theorem compiled_iff {c : Catalog} : c.Compiled <-> exists calls, c.CompiledFrom calls := by
  constructor
  · intro h
    induction h with
    | finish tree calls =>
        exact ⟨calls, .finish tree⟩
    | presort _hc ih =>
        rcases ih with ⟨calls, hcalls⟩
        exact ⟨calls, hcalls.presort⟩
    | withCategories tree _hc ih =>
        rcases ih with ⟨calls, hcalls⟩
        exact ⟨calls, hcalls.withCategories tree⟩
  · intro hexists
    rcases hexists with ⟨calls, hcalls⟩
    induction hcalls with
    | finish tree =>
        exact .finish tree calls
    | presort _hc ih =>
        exact ih.presort
    | withCategories tree _hc ih =>
        exact ih.withCategories tree

/-- However often a catalog was sorted before, in display order it is what compiling gave,
sorted once; only the names of the categories may be others. -/
theorem CompiledFrom.presort_eq {c : Catalog} {calls : List Builder.Call}
    (h : c.CompiledFrom calls) :
    exists tree named, c.presort =
      (((∅ : Builder).withCategories tree).performAll calls).finish.1.presort.withCategories
        named := by
  induction h with
  | finish tree =>
      exact ⟨tree, _, rfl⟩
  | presort _hc ih =>
      rw [presort_presort]
      exact ih
  | withCategories named _hc ih =>
      rcases ih with ⟨tree, _former, heq⟩
      refine ⟨tree, named, ?_⟩
      show (Catalog.presort _).withCategories named = _
      rw [heq]
      rfl

end Catalog
end FacetRules
