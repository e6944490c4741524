import FacetRules.Id

/-!
# The category tree

Categories form a tree, given as a map in which every category lists its
ancestors from the root downwards.  Nothing says that an ancestor is in the map:
a category that is not is named by its number.
-/

namespace FacetRules

structure Category where
  id : CategoryId
  name : String
  order : Int64 := 0
  parentId : Option CategoryId := none
  path : List CategoryId := []
  deriving DecidableEq, Repr

abbrev CategoryTree := IdMap Category

namespace CategoryTree

def nameOf (tree : CategoryTree) (id : CategoryId) : String :=
  match tree[id]? with
  | some c => c.name
  | none => toString id

/-- The name of a category with those of its ancestors in front. -/
def fullName (tree : CategoryTree) (id : CategoryId) : String :=
  match tree[id]? with
  | some c => " - ".intercalate (c.path.map tree.nameOf ++ [c.name])
  | none => toString id

end CategoryTree
end FacetRules
