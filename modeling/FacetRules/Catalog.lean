import FacetRules.Category
import FacetRules.Entity
import FacetRules.Registry
import FacetRules.Rule
import FacetRules.StableSort
import FacetRules.Total

/-!
# Catalogs

A catalog is what loading and compiling the tables gives: the numbered keys, the
attributes and options by number, a rule for every category that has an
attribute, and the tree that names the categories.  It is only read by queries.

Looking up a number that nothing has is an error, because going on without it
would give a wrong answer.
-/

namespace FacetRules

structure Stats where
  attributes : Nat := 0
  options : Nat := 0
  categoryRules : Nat := 0
  /-- A rough count of everything that is stored, to compare catalogs by. -/
  refs : Nat := 0
  deriving DecidableEq, Repr

structure Catalog where
  registry : Registry := ∅
  attributes : IdMap Attribute := ∅
  options : IdMap AttributeOption := ∅
  rules : IdMap Rule := ∅
  categories : CategoryTree := ∅

namespace Catalog

instance : EmptyCollection Catalog where
  emptyCollection := {}

instance : Inhabited Catalog where
  default := ∅

/-! ## Looking up -/

def attributeOf (c : Catalog) (id : Id) : Except Error Attribute :=
  match c.attributes[id]? with
  | some a => .ok a
  | none => .error (.unknownAttribute id (c.registry.describe id))

def optionOf (c : Catalog) (id : Id) : Except Error AttributeOption :=
  match c.options[id]? with
  | some o => .ok o
  | none => .error (.unknownOption id (c.registry.describe id))

def ruleOf (c : Catalog) (category : CategoryId) : Except Error Rule :=
  match c.rules[category]? with
  | some r => .ok r
  | none => .error (.unknownCategoryRule category)

def ruleList (c : Catalog) : List Rule :=
  c.rules.toList.map Prod.snd

def pairLabel (c : Catalog) (attributeId optionId : Id) : Except Error String := do
  let a <- c.attributeOf attributeId
  let o <- c.optionOf optionId
  return a.title ++ " - " ++ o.title

def withCategories (c : Catalog) (tree : CategoryTree) : Catalog :=
  { c with categories := tree }

/-! ## Display order -/

/-- The display order of an attribute, 0 for a number that no attribute has. -/
def attributeOrder (c : Catalog) (id : Id) : Int64 :=
  match c.attributes[id]? with
  | some a => a.displayOrder
  | none => 0

def optionOrder (c : Catalog) (id : Id) : Int64 :=
  match c.options[id]? with
  | some o => o.displayOrder
  | none => 0

def sortRule (c : Catalog) (r : Rule) : Rule :=
  { r with
    attributeIds := StableSort.sort c.attributeOrder r.attributeIds
    alwaysVisibleIds := StableSort.sort c.attributeOrder r.alwaysVisibleIds }

def sortAttribute (c : Catalog) (a : Attribute) : Attribute :=
  { a with optionIds := StableSort.sort c.optionOrder a.optionIds }

/-- Puts the attributes of the rules and the options of the attributes into
display order.  Equal orders keep the order of the tables. -/
def presort (c : Catalog) : Catalog :=
  { c with
    rules := c.rules.map fun _ r => c.sortRule r
    attributes := c.attributes.map fun _ a => c.sortAttribute a }

/-! ## Sizes -/

/-- What a rule stores: itself, its lists of attributes, its triggers, their
groups and the options of these. -/
def ruleRefs (r : Rule) : Nat :=
  1 + r.attributeIds.length + r.alwaysVisibleIds.length +
    total (r.triggers.toList.map fun (_, groups) =>
      1 + total (groups.map fun g => 1 + g.optionIds.length))

/-- The sizes of a catalog.  A key is stored twice, with its number and by it. -/
def stats (c : Catalog) : Stats where
  attributes := c.attributes.size
  options := c.options.size
  categoryRules := c.rules.size
  refs :=
    total (c.attributes.toList.map fun (_, a) => 1 + a.optionIds.length) +
      c.options.size + 2 * c.registry.size + total (c.ruleList.map ruleRefs)

end Catalog
end FacetRules
