import FacetRules.Proofs.Builder.Stored
import FacetRules.Proofs.Compile.Finish

/-!
# Closed catalogs

A catalog is closed when every number that it mentions leads somewhere: attributes and
options are stored under their own numbers, the options listed for an attribute are
its own, and the rules name only attributes and options that are stored.  Every
catalog that compiling gives is closed, whatever was read, and putting it into display
order or giving it another category tree keeps it so.
-/

namespace FacetRules
namespace Catalog

def Owns (c : Catalog) (attributeId id : Id) : Prop :=
  exists o : AttributeOption, c.options[id]? = some o ∧ o.attributeId = attributeId

/-- All that a rule mentions is stored. -/
structure ClosedRule (c : Catalog) (r : Rule) : Prop where
  assigned : forall id, id ∈ r.attributeIds -> id ∈ c.attributes
  visible : forall id, id ∈ r.alwaysVisibleIds -> id ∈ c.attributes
  ungated : forall id, id ∈ r.ungatedOptions -> id ∈ c.options
  trigger : forall id, id ∈ r.triggers ->
    exists o : AttributeOption, c.options[id]? = some o ∧ o.attributeId ∈ c.attributes
  group : forall (t : Id) (groups : List Group) (g : Group),
    r.triggers[t]? = some groups -> g ∈ groups -> g.attributeId ∈ c.attributes
  grouped : forall (t : Id) (groups : List Group) (g : Group) (id : Id),
    r.triggers[t]? = some groups -> g ∈ groups -> id ∈ g.optionIds ->
      c.Owns g.attributeId id

/-- All that a catalog mentions is stored. -/
structure Closed (c : Catalog) : Prop where
  attribute_id : forall (id : Id) (a : Attribute), c.attributes[id]? = some a -> a.id = id
  option_id : forall (id : Id) (o : AttributeOption), c.options[id]? = some o -> o.id = id
  rule_category : forall (category : CategoryId) (r : Rule),
    c.rules[category]? = some r -> r.categoryId = category
  linked : forall (id : Id) (a : Attribute) (o : Id),
    c.attributes[id]? = some a -> o ∈ a.optionIds -> c.Owns id o
  linked_nodup : forall (id : Id) (a : Attribute),
    c.attributes[id]? = some a -> a.optionIds.Nodup
  rule : forall (category : CategoryId) (r : Rule),
    c.rules[category]? = some r -> c.ClosedRule r

/-- The catalogs that can be compiled, put into display order and given names. -/
inductive Compiled : Catalog -> Prop where
  | finish (tree : CategoryTree) (calls : List Builder.Call) :
      Compiled (((∅ : Builder).withCategories tree).performAll calls).finish.1
  | presort {c : Catalog} : Compiled c -> Compiled c.presort
  | withCategories {c : Catalog} (tree : CategoryTree) :
      Compiled c -> Compiled (c.withCategories tree)

/-!
# Compiling

An attribute lists stored options, and what a dynamic option puts behind a trigger has
passed all checks.
-/

open Builder

section Finish

variable {b : Builder}

theorem linked_finish (h : b.Keyed) {id : Id} {a : Attribute}
    (ha : b.finish.1.attributes[id]? = some a) :
    a.id = id ∧ a.optionIds = linkedTo id b.options.toList := by
  rw [attributes_finish, getElem?_attributes_loaded] at ha
  rcases Option.map_eq_some_iff.mp ha with ⟨stored, hstored, rfl⟩
  constructor
  · exact h.attribute_id id stored hstored
  · rw [Attribute.addOptions, h.attribute_optionIds id stored hstored, List.nil_append]

/-- A gating puts an option of a loaded attribute behind an option of another one. -/
theorem gating_closed (h : b.Keyed) {category : CategoryId} {g : Gating}
    (hg : g ∈ b.gatingsIn category) :
    (exists o : AttributeOption, b.finish.1.options[g.trigger]? = some o ∧
        o.attributeId ∈ b.finish.1.attributes) ∧
      g.attributeId ∈ b.finish.1.attributes ∧ b.finish.1.Owns g.attributeId g.optionId := by
  rcases Loaded.mem_gatings.mp hg with
    ⟨row, o, uuids, rejected, uuid, _hrow, _hcategory, hlisting, _huuid, htrigger, ha, ho⟩
  rcases Loaded.triggerOf_eq_ok_iff.mp htrigger with ⟨_hlookup, _hoption, owner, howner, hloaded⟩
  rcases Loaded.listingOf_eq_behind_iff.mp hlisting with ⟨_henabled, hstored, _hread, hattribute⟩
  refine ⟨⟨owner, howner, hloaded⟩, ?_, o, ?_, ha.symm⟩
  · rw [ha]
    exact hattribute
  · have hid : o.id = row.optionId := h.option_id row.optionId o hstored
    rw [ho, hid]
    exact hstored

theorem closedRule_finish (h : b.Keyed) (category : CategoryId) :
    b.finish.1.ClosedRule (b.compiledRule category) where
  assigned := by
    intro id hid
    rw [attributeIds_compiledRule] at hid
    rcases mem_assigned.mp hid with ⟨row, _hrow, _hcategory, _henabled, hloaded, rfl⟩
    exact hloaded
  visible := by
    intro id hid
    rw [alwaysVisibleIds_compiledRule] at hid
    rcases mem_assigned.mp (List.mem_filter.mp hid).1 with
      ⟨row, _hrow, _hcategory, _henabled, hloaded, rfl⟩
    exact hloaded
  ungated := by
    intro id hid
    rcases Loaded.mem_shown.mp (mem_ungatedOptions_compiledRule.mp hid) with
      ⟨row, o, _hrow, _hcategory, hlisting, rfl⟩
    rcases Loaded.listingOf_eq_always_iff.mp hlisting with ⟨_henabled, hstored, _hread, _hmem⟩
    have hid : o.id = row.optionId := h.option_id row.optionId o hstored
    rw [hid]
    exact IdMap.mem_iff_exists.mpr ⟨o, hstored⟩
  trigger := by
    intro t ht
    rcases IdMap.mem_iff_exists.mp ht with ⟨groups, hgroups⟩
    rcases exists_gating_of_trigger hgroups with ⟨gating, hgating, rfl⟩
    exact (gating_closed h hgating).1
  group := by
    intro t groups g hgroups hg
    rcases List.exists_mem_of_ne_nil _ (optionIds_ne_nil_of_group hgroups hg) with ⟨id, hid⟩
    rcases exists_gating_of_group hgroups hg hid with ⟨gating, hgating, hattribute, _hoption⟩
    rw [<- hattribute]
    exact (gating_closed h hgating).2.1
  grouped := by
    intro t groups g id hgroups hg hid
    rcases exists_gating_of_group hgroups hg hid with ⟨gating, hgating, hattribute, hoption⟩
    rw [<- hattribute, <- hoption]
    exact (gating_closed h hgating).2.2

theorem closed_finish (h : b.Keyed) : b.finish.1.Closed where
  attribute_id := by
    intro id a ha
    exact (linked_finish h ha).1
  option_id := h.option_id
  rule_category := by
    intro category r hr
    rw [(rules_finish_eq_some hr).2]
    exact categoryId_compiledRule
  linked := by
    intro id a x ha hx
    rw [(linked_finish h ha).2] at hx
    rcases mem_linkedTo.mp hx with ⟨o, ho, hattribute, rfl⟩
    rcases OptionTable.mem_toList.mp ho with ⟨number, hstored⟩
    have hid : o.id = number := h.option_id number o hstored
    refine ⟨o, ?_, hattribute⟩
    rw [hid]
    exact hstored
  linked_nodup := by
    intro id a ha
    rw [(linked_finish h ha).2]
    exact (OptionTable.nodup_id_toList h.option_id).sublist
      (List.Sublist.map AttributeOption.id List.filter_sublist)
  rule := by
    intro category r hr
    rw [(rules_finish_eq_some hr).2]
    exact closedRule_finish h category

end Finish

/-!
# Display order

Sorting moves what is listed and neither adds nor removes anything.
-/

theorem mem_attributes_presort {c : Catalog} {id : Id} :
    id ∈ c.presort.attributes <-> id ∈ c.attributes :=
  Std.ExtTreeMap.mem_map

theorem getElem?_attributes_presort (c : Catalog) (id : Id) :
    c.presort.attributes[id]? = c.attributes[id]?.map c.sortAttribute :=
  Std.ExtTreeMap.getElem?_map

theorem getElem?_rules_presort (c : Catalog) (category : CategoryId) :
    c.presort.rules[category]? = c.rules[category]?.map c.sortRule :=
  Std.ExtTreeMap.getElem?_map

theorem ClosedRule.presort {c : Catalog} {r : Rule} (h : c.ClosedRule r) :
    c.presort.ClosedRule (c.sortRule r) where
  assigned := by
    intro id hid
    exact mem_attributes_presort.mpr
      (h.assigned id ((StableSort.sort_perm c.attributeOrder r.attributeIds).mem_iff.mp hid))
  visible := by
    intro id hid
    exact mem_attributes_presort.mpr
      (h.visible id ((StableSort.sort_perm c.attributeOrder r.alwaysVisibleIds).mem_iff.mp hid))
  ungated := h.ungated
  trigger := by
    intro t ht
    rcases h.trigger t ht with ⟨o, ho, hloaded⟩
    exact ⟨o, ho, mem_attributes_presort.mpr hloaded⟩
  group := by
    intro t groups g hgroups hg
    exact mem_attributes_presort.mpr (h.group t groups g hgroups hg)
  grouped := h.grouped

theorem Closed.presort {c : Catalog} (h : c.Closed) : c.presort.Closed where
  attribute_id := by
    intro id a ha
    rw [getElem?_attributes_presort] at ha
    rcases Option.map_eq_some_iff.mp ha with ⟨stored, hstored, rfl⟩
    exact h.attribute_id id stored hstored
  option_id := h.option_id
  rule_category := by
    intro category r hr
    rw [getElem?_rules_presort] at hr
    rcases Option.map_eq_some_iff.mp hr with ⟨stored, hstored, rfl⟩
    exact h.rule_category category stored hstored
  linked := by
    intro id a x ha hx
    rw [getElem?_attributes_presort] at ha
    rcases Option.map_eq_some_iff.mp ha with ⟨stored, hstored, rfl⟩
    exact h.linked id stored x hstored
      ((StableSort.sort_perm c.optionOrder stored.optionIds).mem_iff.mp hx)
  linked_nodup := by
    intro id a ha
    rw [getElem?_attributes_presort] at ha
    rcases Option.map_eq_some_iff.mp ha with ⟨stored, hstored, rfl⟩
    exact (StableSort.sort_perm c.optionOrder stored.optionIds).nodup_iff.mpr
      (h.linked_nodup id stored hstored)
  rule := by
    intro category r hr
    rw [getElem?_rules_presort] at hr
    rcases Option.map_eq_some_iff.mp hr with ⟨stored, hstored, rfl⟩
    exact (h.rule category stored hstored).presort

theorem Closed.withCategories {c : Catalog} (h : c.Closed) (tree : CategoryTree) :
    (c.withCategories tree).Closed where
  attribute_id := h.attribute_id
  option_id := h.option_id
  rule_category := h.rule_category
  linked := h.linked
  linked_nodup := h.linked_nodup
  rule := by
    intro category r hr
    have hrule := h.rule category r hr
    exact ⟨hrule.assigned, hrule.visible, hrule.ungated, hrule.trigger, hrule.group,
      hrule.grouped⟩

/-- Whatever was read, and whatever was done to the catalog since, it is closed. -/
theorem Compiled.closed {c : Catalog} (h : c.Compiled) : c.Closed := by
  induction h with
  | finish tree calls =>
      exact closed_finish (holds_performAll tree calls).keyed
  | presort _hc ih =>
      exact ih.presort
  | withCategories tree _hc ih =>
      exact ih.withCategories tree

end Catalog
end FacetRules
