import FacetRules.Proofs.Builder.Readings
import FacetRules.Proofs.OptionTable

/-!
# What is stored under a number

Of the rows with one key the last one counts.  Attributes are stored without options,
and everything is stored under its own number.
-/

namespace FacetRules
namespace Builder

def attributesOf (r : Registry) (xs : List Reading) : List Attribute :=
  xs.filterMap (Reading.attribute? r)

def optionsOf (r : Registry) (xs : List Reading) : List AttributeOption :=
  xs.filterMap (Reading.option? r)

def assignmentsOf (r : Registry) (xs : List Reading) : List Assignment :=
  xs.filterMap (Reading.assignment? r)

def dynamicOptionsOf (r : Registry) (xs : List Reading) : List DynamicOption :=
  xs.filterMap (Reading.dynamicOption? r)

theorem Holds.getElem?_attributes {b : Builder} {xs : List Reading} (h : b.Holds xs)
    (id : Id) :
    b.attributes[id]? = (attributesOf b.registry xs).findRev? (·.id == id) := by
  have hempty : (∅ : IdMap Attribute)[id]? = none := Std.ExtTreeMap.getElem?_empty
  rw [h.attributes_eq, IdMap.getElem?_foldl_insert Attribute.id, hempty, Option.or_none]
  rfl

theorem Holds.get?_options {b : Builder} {xs : List Reading} (h : b.Holds xs) (id : Id) :
    b.options.get? id = (optionsOf b.registry xs).findRev? (·.id == id) := by
  rw [h.options_eq]
  exact OptionTable.get?_insertAll_empty _ id

theorem optionIds_of_mem_attributesOf {r : Registry} {xs : List Reading} {a : Attribute}
    (h : a ∈ attributesOf r xs) : a.optionIds = [] := by
  rcases List.mem_filterMap.mp h with ⟨x, _hx, ha⟩
  rcases Reading.exists_row_of_attribute? ha with ⟨row, id, _hrow, _hid, rfl⟩
  rfl

theorem suffix_of_mem_dynamicOptionsOf {r : Registry} {xs : List Reading}
    (hsuffix : forall x, x ∈ xs -> x.suffix = none) {row : DynamicOption}
    (hrow : row ∈ dynamicOptionsOf r xs) : row.suffix = none := by
  rcases List.mem_filterMap.mp hrow with ⟨x, hx, hread⟩
  rcases Reading.exists_row_of_dynamicOption? hread with ⟨read, id, _hrow, _hid, rfl⟩
  exact hsuffix x hx

/-- Everything is stored under its own number, and no option is linked yet. -/
structure Keyed (b : Builder) : Prop where
  attribute_id : forall (id : Id) (a : Attribute), b.attributes[id]? = some a -> a.id = id
  attribute_optionIds : forall (id : Id) (a : Attribute),
    b.attributes[id]? = some a -> a.optionIds = []
  option_id : forall (id : Id) (o : AttributeOption), b.options.get? id = some o -> o.id = id

theorem Holds.keyed {b : Builder} {xs : List Reading} (h : b.Holds xs) : b.Keyed where
  attribute_id := by
    intro id a ha
    rw [h.getElem?_attributes, List.findRev?_eq_find?_reverse] at ha
    simpa using List.find?_some ha
  attribute_optionIds := by
    intro id a ha
    rw [h.getElem?_attributes, List.findRev?_eq_find?_reverse] at ha
    exact optionIds_of_mem_attributesOf (List.mem_reverse.mp (List.mem_of_find?_eq_some ha))
  option_id := by
    intro id o ho
    rw [h.get?_options, List.findRev?_eq_find?_reverse] at ho
    simpa using List.find?_some ho

end Builder
end FacetRules
