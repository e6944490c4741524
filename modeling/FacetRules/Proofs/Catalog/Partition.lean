import FacetRules.Proofs.Catalog.Closed

/-!
# How a rule divides what it mentions

The attributes of a category fall into those that are always visible and those with a
group under some trigger, and an option that is listed without a precondition belongs to
one of them.  Sorting into display order keeps this.
-/

namespace FacetRules

namespace StableSort

variable {α : Type}

theorem filter_insert {key : α -> Int64} (p : α -> Bool) (x : α) {ys : List α}
    (h : Sorted key ys) :
    (insert key x ys).filter p =
      if p x then insert key x (ys.filter p) else ys.filter p := by
  induction ys with
  | nil =>
      rw [insert, List.filter_cons]
      rfl
  | cons y ys ih =>
      have hall := (List.pairwise_cons.mp h).1
      have htail := (List.pairwise_cons.mp h).2
      by_cases hle : key x ≤ key y
      · have hfront : forall z, z ∈ (y :: ys).filter p -> key x ≤ key z := by
          intro z hz
          rcases List.mem_cons.mp (List.mem_filter.mp hz).1 with rfl | hz
          · exact hle
          · exact Int64.le_trans hle (hall z hz)
        rw [insert, if_pos hle, List.filter_cons, insert_of_forall_le hfront]
      · rw [insert, if_neg hle, List.filter_cons, List.filter_cons, ih htail]
        cases hx : p x with
        | true =>
            cases hy : p y with
            | true =>
                simp [insert, hle]
            | false =>
                rfl
        | false =>
            rfl

theorem filter_sort (key : α -> Int64) (p : α -> Bool) (xs : List α) :
    (sort key xs).filter p = sort key (xs.filter p) := by
  induction xs with
  | nil =>
      rfl
  | cons x xs ih =>
      rw [sort, filter_insert p x (sort_sorted key xs), ih, List.filter_cons]
      cases p x with
      | true => rfl
      | false => rfl

end StableSort

namespace Catalog

/-- The attributes of a rule are divided, and its ungated options are theirs. -/
structure DividedRule (c : Catalog) (r : Rule) : Prop where
  visible_eq : r.alwaysVisibleIds =
    r.attributeIds.filter fun a => !r.gatedAttributes.contains a
  ungated : forall id, id ∈ r.ungatedOptions ->
    exists o : AttributeOption, c.options[id]? = some o ∧ o.attributeId ∈ r.attributeIds

/-- Options are listed for their attributes, and all rules are divided. -/
structure Divided (c : Catalog) : Prop where
  listed : forall (id : Id) (o : AttributeOption) (a : Attribute),
    c.options[id]? = some o -> c.attributes[o.attributeId]? = some a -> id ∈ a.optionIds
  rule : forall (category : CategoryId) (r : Rule),
    c.rules[category]? = some r -> c.DividedRule r

theorem DividedRule.mem_visible {c : Catalog} {r : Rule} (h : c.DividedRule r) {id : Id} :
    id ∈ r.alwaysVisibleIds <-> id ∈ r.attributeIds ∧ id ∉ r.gatedAttributes := by
  rw [h.visible_eq, List.mem_filter, Bool.not_eq_true', Std.ExtTreeSet.mem_iff_contains,
    Bool.not_eq_true]

open Builder

theorem divided_finish {b : Builder} (h : b.Keyed) : b.finish.1.Divided where
  listed := by
    intro id o a ho ha
    rw [(linked_finish h ha).2]
    have hid : o.id = id := h.option_id id o ho
    exact mem_linkedTo.mpr ⟨o, OptionTable.mem_toList.mpr ⟨id, ho⟩, rfl, hid⟩
  rule := by
    intro category r hr
    rw [(rules_finish_eq_some hr).2]
    constructor
    · rw [attributeIds_compiledRule]
      change (Rule.classify _).alwaysVisibleIds = _
      rw [Rule.classify, Rule.alwaysVisibleIds_fill, Rule.attributeIds_fill, List.nil_append]
      rfl
    · intro id hid
      rcases Loaded.mem_shown.mp (mem_ungatedOptions_compiledRule.mp hid) with
        ⟨row, o, _hrow, _hcategory, hlisting, rfl⟩
      rcases Loaded.listingOf_eq_always_iff.mp hlisting with
        ⟨_henabled, hstored, _hread, hmem⟩
      have hid : o.id = row.optionId := h.option_id row.optionId o hstored
      refine ⟨o, ?_, ?_⟩
      · rw [hid]
        exact hstored
      · rw [attributeIds_compiledRule]
        exact hmem

theorem DividedRule.presort {c : Catalog} {r : Rule} (h : c.DividedRule r) :
    c.presort.DividedRule (c.sortRule r) where
  visible_eq := by
    change StableSort.sort c.attributeOrder r.alwaysVisibleIds =
      (StableSort.sort c.attributeOrder r.attributeIds).filter _
    rw [StableSort.filter_sort, h.visible_eq]
    rfl
  ungated := by
    intro id hid
    rcases h.ungated id hid with ⟨o, ho, hmem⟩
    exact ⟨o, ho, (StableSort.sort_perm c.attributeOrder r.attributeIds).mem_iff.mpr hmem⟩

theorem Divided.presort {c : Catalog} (h : c.Divided) : c.presort.Divided where
  listed := by
    intro id o a ho ha
    rw [getElem?_attributes_presort] at ha
    rcases Option.map_eq_some_iff.mp ha with ⟨stored, hstored, rfl⟩
    exact (StableSort.sort_perm c.optionOrder stored.optionIds).mem_iff.mpr
      (h.listed id o stored ho hstored)
  rule := by
    intro category r hr
    rw [getElem?_rules_presort] at hr
    rcases Option.map_eq_some_iff.mp hr with ⟨stored, hstored, rfl⟩
    exact (h.rule category stored hstored).presort

theorem Divided.withCategories {c : Catalog} (h : c.Divided) (tree : CategoryTree) :
    (c.withCategories tree).Divided where
  listed := h.listed
  rule := by
    intro category r hr
    have hrule := h.rule category r hr
    exact ⟨hrule.visible_eq, hrule.ungated⟩

theorem Compiled.divided {c : Catalog} (h : c.Compiled) : c.Divided := by
  induction h with
  | finish tree calls =>
      exact divided_finish (holds_performAll tree calls).keyed
  | presort _hc ih =>
      exact ih.presort
  | withCategories tree _hc ih =>
      exact ih.withCategories tree

end Catalog
end FacetRules
