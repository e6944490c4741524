import Std.Data.ExtTreeMap

/-!
# Tables

The four exported tables, in the order in which they are loaded, and the reasons
for which a row, or a part of one, is left out of the catalog.

Tables and reasons are ordered as they are listed here.  Both orders are linear,
so they can be the keys of counters that are listed in this order.
-/

namespace FacetRules

inductive Table
  | attributes
  | options
  | assignments
  | dynamicOptions
  deriving DecidableEq, Repr

namespace Table

/-- The tables in load order. -/
def all : List Table :=
  [attributes, options, assignments, dynamicOptions]

def name : Table -> String
  | attributes => "attribute"
  | options => "attribute_option"
  | assignments => "category_attribute"
  | dynamicOptions => "dynamic_attribute_option"

/-- How the names of a table's files begin. -/
def fileStart : Table -> String
  | attributes => "attribute.csv.gz"
  | options => "attribute_option.csv.gz"
  | assignments => "category_attribute.csv.gz"
  | dynamicOptions => "dynamic_attribute_option.csv.gz"

instance : Ord Table where
  compare := compareOn Table.ctorIdx

instance : Std.TransOrd Table :=
  inferInstanceAs (Std.TransCmp (compareOn Table.ctorIdx))

instance : Std.LawfulEqOrd Table where
  eq_of_compare {s t} h := by
    have hidx : s.ctorIdx = t.ctorIdx := Std.compare_eq_iff_eq.mp h
    cases s <;> cases t <;> first | rfl | exact absurd hidx (by decide)

theorem mem_all (t : Table) : t ∈ all := by
  cases t <;> decide

end Table

inductive SkipReason
  | tooFewFields
  | invalidNumber
  | missingCategory
  | missingAttribute
  | missingOption
  | disabledRow
  | optionWithoutAttribute
  | unknownAttribute
  | unknownOption
  | unknownCategoryRule
  | attributeNotInCategory
  | malformedPrecondition
  | preconditionIsAttribute
  | unknownPrecondition
  deriving DecidableEq, Repr

namespace SkipReason

def all : List SkipReason :=
  [tooFewFields, invalidNumber, missingCategory, missingAttribute, missingOption, disabledRow,
    optionWithoutAttribute, unknownAttribute, unknownOption, unknownCategoryRule,
    attributeNotInCategory, malformedPrecondition, preconditionIsAttribute, unknownPrecondition]

def name : SkipReason -> String
  | tooFewFields => "too_few_fields"
  | invalidNumber => "invalid_number"
  | missingCategory => "missing_category"
  | missingAttribute => "missing_attribute"
  | missingOption => "missing_option"
  | disabledRow => "disabled_row"
  | optionWithoutAttribute => "option_without_attribute"
  | unknownAttribute => "unknown_attribute"
  | unknownOption => "unknown_option"
  | unknownCategoryRule => "unknown_category_rule"
  | attributeNotInCategory => "attribute_not_in_category"
  | malformedPrecondition => "malformed_precondition"
  | preconditionIsAttribute => "precondition_is_attribute"
  | unknownPrecondition => "unknown_precondition"

def text : SkipReason -> String
  | tooFewFields => "too few fields"
  | invalidNumber => "invalid number"
  | missingCategory => "empty category id"
  | missingAttribute => "empty attribute id"
  | missingOption => "empty option id"
  | disabledRow => "disabled row"
  | optionWithoutAttribute => "option without attribute"
  | unknownAttribute => "unknown attribute"
  | unknownOption => "unknown option"
  | unknownCategoryRule => "category without rule"
  | attributeNotInCategory => "attribute not in category"
  | malformedPrecondition => "malformed precondition uuid"
  | preconditionIsAttribute => "precondition is an attribute"
  | unknownPrecondition => "unknown precondition"

instance : Ord SkipReason where
  compare := compareOn SkipReason.ctorIdx

instance : Std.TransOrd SkipReason :=
  inferInstanceAs (Std.TransCmp (compareOn SkipReason.ctorIdx))

instance : Std.LawfulEqOrd SkipReason where
  eq_of_compare {s t} h := by
    have hidx : s.ctorIdx = t.ctorIdx := Std.compare_eq_iff_eq.mp h
    cases s <;> cases t <;> first | rfl | exact absurd hidx (by decide)

theorem mem_all (r : SkipReason) : r ∈ all := by
  cases r <;> decide

end SkipReason
end FacetRules
