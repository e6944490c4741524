import Mathlib.Data.List.Basic
import FacetRules.Proofs.Renumbering.Basic

/-!
# Loading under other numbers

Two builders that have read the same rows of the first two tables, in the same order,
store the same attributes and options under different numbers, whatever else they have
read in between.
-/

namespace FacetRules
namespace Builder

/-- The second builder holds the attributes and options of the first one under other
numbers.  A key that only the second one knows is the key of neither. -/
structure Renumbers (f : Id -> Id) (b c : Builder) : Prop where
  injective : Function.Injective f
  attribute_eq : forall id, c.attributes[f id]? = b.attributes[id]?.map (Attribute.renumber f)
  option_eq : forall id,
    c.options.get? (f id) = (b.options.get? id).map (AttributeOption.renumber f)
  listed : c.options.toList = b.options.toList.map (AttributeOption.renumber f)
  lookup_of_some : forall (uuid : String) (id : Id),
    b.registry.lookupSuffixed uuid none = some id ->
      c.registry.lookupSuffixed uuid none = some (f id)
  lookup_of_none : forall (uuid : String) (id : Id),
    b.registry.lookupSuffixed uuid none = none ->
      c.registry.lookupSuffixed uuid none = some id ->
        c.attributes[id]? = none ∧ c.options.get? id = none

/-- Moreover the same is put aside for the category. -/
structure RenumbersIn (f : Id -> Id) (category : CategoryId) (b c : Builder) : Prop
    extends b.Renumbers f c where
  assignments_eq : c.assignments.toList.filter (·.categoryId == category) =
    (b.assignments.toList.filter (·.categoryId == category)).map (Assignment.renumber f)
  dynamicOptions_eq : c.dynamicOptions.toList.filter (·.categoryId == category) =
    (b.dynamicOptions.toList.filter (·.categoryId == category)).map
      (DynamicOption.renumber f none)
  suffix_eq : forall row, row ∈ b.dynamicOptions.toList -> row.suffix = none

/-- Moreover the same is put aside for all categories, in the same order. -/
structure RenumbersAll (f : Id -> Id) (b c : Builder) : Prop extends b.Renumbers f c where
  assignments_eq : c.assignments.toList = b.assignments.toList.map (Assignment.renumber f)
  dynamicOptions_eq : c.dynamicOptions.toList =
    b.dynamicOptions.toList.map (DynamicOption.renumber f none)
  suffix_eq : forall row, row ∈ b.dynamicOptions.toList -> row.suffix = none

section Loading

variable {f : Id -> Id} {b c : Builder} {xs ys : List Reading}

theorem RenumbersAll.inCategory (h : b.RenumbersAll f c) (category : CategoryId) :
    b.RenumbersIn f category c where
  toRenumbers := h.toRenumbers
  assignments_eq := by
    rw [h.assignments_eq, List.filter_map]
    rfl
  dynamicOptions_eq := by
    rw [h.dynamicOptions_eq, List.filter_map]
    rfl
  suffix_eq := h.suffix_eq

/-!
# Rows read with other numbers
-/

section Rows

variable {r s : Registry} (hread : forall x, x ∈ xs -> x.Renumbers f r s x)

include hread

theorem attributesOf_renumber :
    attributesOf s xs = (attributesOf r xs).map (Attribute.renumber f) := by
  rw [attributesOf, attributesOf, List.map_filterMap]
  exact List.filterMap_congr fun x hx => (hread x hx).attribute?_eq

theorem optionsOf_renumber :
    optionsOf s xs = (optionsOf r xs).map (AttributeOption.renumber f) := by
  rw [optionsOf, optionsOf, List.map_filterMap]
  exact List.filterMap_congr fun x hx => (hread x hx).option?_eq

theorem assignmentsOf_renumber :
    assignmentsOf s xs = (assignmentsOf r xs).map (Assignment.renumber f) := by
  rw [assignmentsOf, assignmentsOf, List.map_filterMap]
  exact List.filterMap_congr fun x hx => (hread x hx).assignment?_eq

theorem dynamicOptionsOf_renumber (hsuffix : forall x, x ∈ xs -> x.suffix = none) :
    dynamicOptionsOf s xs = (dynamicOptionsOf r xs).map (DynamicOption.renumber f none) := by
  rw [dynamicOptionsOf, dynamicOptionsOf, List.map_filterMap]
  apply List.filterMap_congr
  intro x hx
  rw [(hread x hx).dynamicOption?_eq, hsuffix x hx]

end Rows

/-!
# What is stored
-/

theorem toList_insertAll_renumber (hf : Function.Injective f) (os : List AttributeOption) :
    ((∅ : OptionTable).insertAll (os.map (AttributeOption.renumber f))).toList =
      ((∅ : OptionTable).insertAll os).toList.map (AttributeOption.renumber f) := by
  have hids : (os.map (AttributeOption.renumber f)).map AttributeOption.id =
      (os.map AttributeOption.id).map f := by
    rw [List.map_map, List.map_map]
    rfl
  rw [OptionTable.toList_insertAll_empty, OptionTable.toList_insertAll_empty, hids,
    eraseDups_map fun _i _j heq => hf heq, List.filterMap_map, List.map_filterMap]
  congr 1
  funext id
  exact findRev?_map_of_number hf AttributeOption.id AttributeOption.id (fun _o => rfl) id os

/-- The builders store the same, if the rows of the first two tables are the same. -/
theorem Holds.renumbers (hb : b.Holds xs) (hc : c.Holds ys) (hf : Function.Injective f)
    (hattributes : attributesOf c.registry ys =
      (attributesOf b.registry xs).map (Attribute.renumber f))
    (hoptions : optionsOf c.registry ys =
      (optionsOf b.registry xs).map (AttributeOption.renumber f))
    (hlookup : forall uuid, c.registry.lookupSuffixed uuid none =
      (b.registry.lookupSuffixed uuid none).map f) : b.Renumbers f c where
  injective := hf
  attribute_eq := by
    intro id
    rw [hc.getElem?_attributes, hb.getElem?_attributes, hattributes]
    exact findRev?_map_of_number hf Attribute.id Attribute.id (fun _a => rfl) id _
  option_eq := by
    intro id
    rw [hc.get?_options, hb.get?_options, hoptions]
    exact findRev?_map_of_number hf AttributeOption.id AttributeOption.id (fun _o => rfl) id _
  listed := by
    have htable : c.options = (∅ : OptionTable).insertAll
        ((optionsOf b.registry xs).map (AttributeOption.renumber f)) := by
      rw [<- hoptions]
      exact hc.options_eq
    rw [htable, hb.options_eq]
    exact toList_insertAll_renumber hf _
  lookup_of_some := by
    intro uuid id hid
    rw [hlookup, hid]
    rfl
  lookup_of_none := by
    intro uuid id hnone hid
    rw [hlookup, hnone] at hid
    cases hid

end Loading

end Builder
end FacetRules
