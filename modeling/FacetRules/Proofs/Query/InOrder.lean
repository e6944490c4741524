import FacetRules.Proofs.Catalog.DisplayOrder
import FacetRules.Proofs.Query.Offered

/-!
# Answers in display order

A catalog in display order answers in display order: the attributes that are always visible
come by their display orders, equal ones in the order of the assignments, and so do the
options of each of them, equal ones in the order in which they came up in the option table.
Leaving out attributes without a page, and options that are filtered out or on other pages,
does not disturb the order.
-/

namespace FacetRules

namespace OptionTable

/-- The options are listed as they first came up. -/
theorem map_id_toList {t : OptionTable} (ht : forall id o, t.get? id = some o -> o.id = id) :
    t.toList.map AttributeOption.id = t.order.toList := by
  rw [toList, map_filterMap_of_some (k := id), List.map_id]
  intro id hid
  rcases IdMap.mem_iff_exists.mp ((t.mem_order id).mp hid) with ⟨o, ho⟩
  exact ⟨o, ho, ht id o ho⟩

end OptionTable

namespace Catalog

open Builder

/-- Attributes are listed in display order, and so are the options of each of them. -/
structure InDisplayOrder (c : Catalog) (rows : List Reading) (category : CategoryId)
    (vs : List VisibleAttribute) : Prop where
  attributes : StableSort.Arranges c.attributeOrder
    ((c.assignedIds (assignmentsOf c.registry rows) category).filter
      (vs.map VisibleAttribute.id).contains)
    (vs.map VisibleAttribute.id)
  options : forall v, v ∈ vs -> StableSort.Arranges c.optionOrder
    (((optionsOf c.registry rows).map AttributeOption.id).eraseDups.filter
      (v.options.map VisibleOption.id).contains)
    (v.options.map VisibleOption.id)

/-!
# The lists that are sorted
-/

theorem assignedIds_presort (c : Catalog) (assignments : List Assignment)
    (category : CategoryId) :
    c.presort.assignedIds assignments category = c.assignedIds assignments category := by
  have hloaded : forall id, c.presort.attributes.contains id = c.attributes.contains id := by
    intro id
    rw [IdMap.contains_eq_isSome, IdMap.contains_eq_isSome, getElem?_attributes_presort,
      Option.isSome_map]
  simp only [assignedIds, hloaded]

section Sorted

variable {b : Builder}

/-- The attributes of a category in display order, without those that are gated. -/
theorem alwaysVisibleIds_sortRule (category : CategoryId) :
    (b.finish.1.sortRule (b.compiledRule category)).alwaysVisibleIds =
      (StableSort.sort b.finish.1.attributeOrder
        (b.finish.1.assignedIds b.assignments.toList category)).filter fun a =>
          !((b.gatingsIn category).map Gating.attributeId).contains a := by
  show StableSort.sort _ (b.compiledRule category).alwaysVisibleIds = _
  rw [alwaysVisibleIds_compiledRule, assignedTo_eq, <- StableSort.filter_sort]

/-- The option table tells the order of the options of an attribute. -/
theorem filter_linkedTo (h : b.Keyed) {id : Id} {xs : List Id}
    (hxs : forall x, x ∈ xs -> x ∈ linkedTo id b.options.toList) :
    (linkedTo id b.options.toList).filter xs.contains =
      b.options.order.toList.filter xs.contains := by
  rw [<- OptionTable.map_id_toList h.option_id, linkedTo, List.filter_map, List.filter_map,
    List.filter_filter]
  congr 1
  apply List.filter_congr
  intro o ho
  rw [Bool.and_eq_left_iff_imp]
  intro hmem
  rcases mem_linkedTo.mp (hxs o.id (List.contains_iff_mem.mp hmem)) with
    ⟨other, hother, howner, hid⟩
  have heq : other = o :=
    List.inj_on_of_nodup_map (OptionTable.nodup_id_toList h.option_id) hother ho hid
  rw [<- heq, howner, beq_self_eq_true]

theorem arranges_page (h : b.Keyed) (id : Id) {xs : List Id}
    (hxs : xs.Sublist (StableSort.sort b.finish.1.optionOrder (linkedTo id b.options.toList))) :
    StableSort.Arranges b.finish.1.optionOrder
      (b.options.order.toList.filter xs.contains) xs := by
  have hperm := StableSort.sort_perm b.finish.1.optionOrder (linkedTo id b.options.toList)
  have hnodup : (linkedTo id b.options.toList).Nodup :=
    (OptionTable.nodup_id_toList h.option_id).sublist
      (List.Sublist.map AttributeOption.id List.filter_sublist)
  have hkept := filter_contains_of_sublist hxs (hperm.nodup_iff.mpr hnodup)
  have harranges := StableSort.arranges_filter_sort b.finish.1.optionOrder xs.contains
    (linkedTo id b.options.toList)
  rw [hkept, filter_linkedTo h fun x hx => hperm.mem_iff.mp (hxs.subset hx)] at harranges
  exact harranges

end Sorted

/-!
# Answers
-/

theorem Closed.sublist_pageOf {c : Catalog} (h : c.Closed) {id : Id} {a : Attribute}
    (ha : c.attributes[id]? = some a) (pageSize : Nat) (filter : Option TitleFilter) :
    ((c.pageOf pageSize filter a).map VisibleOption.id).Sublist a.optionIds := by
  have hids : (c.optionsAt a.optionIds).map AttributeOption.id = a.optionIds :=
    h.map_id_optionsAt fun o ho => (h.linked id a o ha ho).mem_options
  have hpage : (c.pageOf pageSize filter a).map VisibleOption.id =
      (((c.optionsAt a.optionIds).filter fun o => keepsFor filter a.id o.title).take
        pageSize).map AttributeOption.id := by
    rw [pageOf, List.map_map]
    rfl
  rw [hpage]
  conv =>
    rhs
    rw [<- hids]
  exact ((List.take_sublist _ _).trans List.filter_sublist).map AttributeOption.id

section Served

variable {b : Builder} {rows : List Reading}

theorem closed_served (h : b.Keyed) (named : CategoryTree) :
    (b.finish.1.presort.withCategories named).Closed :=
  (closed_finish h).presort.withCategories named

theorem alwaysVisibleIds_served (h : b.Holds rows) (named : CategoryTree)
    {category : CategoryId} {r : Rule}
    (hr : (b.finish.1.presort.withCategories named).rules[category]? = some r) :
    let c := b.finish.1.presort.withCategories named
    r.alwaysVisibleIds =
      (StableSort.sort c.attributeOrder
        (c.assignedIds (assignmentsOf c.registry rows) category)).filter fun a =>
          !((b.gatingsIn category).map Gating.attributeId).contains a := by
  intro c
  have hassignments : assignmentsOf c.registry rows = b.assignments.toList :=
    h.assignments_eq.symm
  have hassigned : c.assignedIds b.assignments.toList category =
      b.finish.1.assignedIds b.assignments.toList category :=
    assignedIds_presort b.finish.1 b.assignments.toList category
  have horder : c.attributeOrder = b.finish.1.attributeOrder :=
    attributeOrder_presort b.finish.1
  have hrule : b.finish.1.presort.rules[category]? = some r := hr
  rw [getElem?_rules_presort] at hrule
  rcases Option.map_eq_some_iff.mp hrule with ⟨stored, hstored, rfl⟩
  rw [hassignments, hassigned, horder, (rules_finish_eq_some hstored).2]
  exact alwaysVisibleIds_sortRule category

/-- Whatever a catalog in display order lists as always visible is in display order. -/
theorem inDisplayOrder_alwaysPart (h : b.Holds rows) (named : CategoryTree)
    {category : CategoryId} {r : Rule}
    (hr : (b.finish.1.presort.withCategories named).rules[category]? = some r) (q : Conditions) :
    (b.finish.1.presort.withCategories named).InDisplayOrder rows category
      ((b.finish.1.presort.withCategories named).alwaysPart r q) where
  attributes := by
    rw [(closed_served h.keyed named).ids_alwaysPart, alwaysVisibleIds_served h named hr,
      List.filter_filter]
    exact StableSort.arranges_filter_sort _ _ _
  options := by
    intro v hv
    rcases mem_alwaysPart.mp hv with ⟨id, a, _hid, ha, hpaged⟩
    have hpage := (closed_served h.keyed named).sublist_pageOf ha
      (effectivePageSize q.pageSize).toNat q.activeFilter
    have hattribute : b.finish.1.presort.attributes[id]? = some a := ha
    rw [getElem?_attributes_presort] at hattribute
    rcases Option.map_eq_some_iff.mp hattribute with ⟨stored, hstored, rfl⟩
    have horder : b.options.order.toList =
        ((optionsOf b.registry rows).map AttributeOption.id).eraseDups := by
      rw [h.options_eq]
      exact OptionTable.order_insertAll ∅ (optionsOf b.registry rows)
    rw [(paged?_eq_some hpaged).2]
    show StableSort.Arranges b.finish.1.optionOrder
      (((optionsOf b.registry rows).map AttributeOption.id).eraseDups.filter _) _
    rw [<- horder]
    apply arranges_page h.keyed id
    rw [<- (linked_finish h.keyed hstored).2]
    exact hpage

end Served

/-- The attributes that are always visible come first, in display order. -/
def AnswersInOrder (c : Catalog) (rows : List Reading) (category : CategoryId) (r : Rule)
    (v : Visible) : Prop :=
  exists always rest, v.attributes = always ++ rest ∧
    (forall a, a ∈ always -> a.id ∈ r.alwaysVisibleIds) ∧
    (forall a, a ∈ rest -> a.id ∉ r.alwaysVisibleIds) ∧
    c.InDisplayOrder rows category always

/-- A catalog that was put into display order answers in display order, whether or not it
was in this order before. -/
theorem CompiledFrom.answer_in_order {c : Catalog} {calls : List Call}
    (h : c.CompiledFrom calls) {category : CategoryId} {r : Rule}
    (hr : c.presort.rules[category]? = some r) (q : Conditions) :
    c.presort.AnswersInOrder (readings none calls) category r
      (c.presort.answer r category q) := by
  have hcompiled : c.presort.Compiled := compiled_iff.mpr ⟨calls, h.presort⟩
  refine ⟨c.presort.alwaysPart r q, c.presort.unlockedPart r q, rfl, ?_, ?_, ?_⟩
  · intro a ha
    have hid := List.mem_map_of_mem (f := VisibleAttribute.id) ha
    rw [hcompiled.closed.ids_alwaysPart] at hid
    exact (List.mem_filter.mp hid).1
  · intro a ha hvisible
    have hunlocks := (hcompiled.closed.mem_ids_unlockedPart
      (hcompiled.closed.rule category r hr)).mp (List.mem_map.mpr ⟨a, ha, rfl⟩)
    exact ((hcompiled.divided.rule category r hr).mem_visible.mp hvisible).2
      (mem_gatedAttributes_of_unlocks hunlocks)
  · rcases h.presort_eq with ⟨tree, named, heq⟩
    rw [heq] at hr ⊢
    exact inDisplayOrder_alwaysPart (holds_performAll tree calls) named hr q

end Catalog
end FacetRules
