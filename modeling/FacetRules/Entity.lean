import FacetRules.Row

/-!
# Attributes and options

What a catalog keeps of the rows of the first two tables: the columns, under the
numbers of the keys.  An attribute lists its options in the order of the option
table; the list is filled when the catalog is compiled.
-/

namespace FacetRules

/-- A property of products, such as their color. -/
structure Attribute where
  id : Id
  kind : String
  isMultipleAllowed : Bool
  isRequired : Bool
  isDisabled : Bool
  title : String
  displayOrder : Int64
  isSearchable : Bool
  listingType : String
  displayPage : Int64
  optionIds : List Id
  deriving DecidableEq, Repr

namespace Attribute

def ofRow (id : Id) (row : AttributeRow) : Attribute where
  id := id
  kind := row.kind
  isMultipleAllowed := row.isMultipleAllowed
  isRequired := row.isRequired
  isDisabled := row.isDisabled
  title := row.title
  displayOrder := row.displayOrder
  isSearchable := row.isSearchable
  listingType := row.listingType
  displayPage := row.displayPage
  optionIds := []

def addOption (a : Attribute) (option : Id) : Attribute :=
  { a with optionIds := a.optionIds ++ [option] }

end Attribute

/-- A value that an attribute can have, such as red. -/
structure AttributeOption where
  id : Id
  attributeId : Id
  title : String
  isDisabled : Bool
  displayOrder : Int64
  color : String
  subtitle : String
  deriving DecidableEq, Repr

namespace AttributeOption

def ofRow (id attributeId : Id) (row : OptionRow) : AttributeOption where
  id := id
  attributeId := attributeId
  title := row.title
  isDisabled := row.isDisabled
  displayOrder := row.displayOrder
  color := row.color
  subtitle := row.subtitle

end AttributeOption
end FacetRules
