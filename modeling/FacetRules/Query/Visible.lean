import FacetRules.Catalog
import FacetRules.Query.Conditions

/-!
# Visible attributes

A query against a catalog answers which attributes and options to offer.  The
answer has two parts.  First come the attributes of the category that no trigger
gates, each with one page of its options, narrowed by the title filter.  After
them come the attributes that the selected options bring into view, each with
exactly the options of one group.  When several selected triggers have a group for
an attribute, the smallest group counts, and among equally small ones that of the
trigger selected first.

The answer repeats the conditions without the pairs that no longer name a visible
attribute and a visible option.
-/

namespace FacetRules

structure VisibleOption where
  id : Id
  title : String
  deriving DecidableEq, Repr

structure VisibleAttribute where
  id : Id
  title : String
  options : List VisibleOption
  deriving DecidableEq, Repr

structure Visible where
  /-- How many pages the longest list of options needs. -/
  pages : Nat := 0
  pageSize : UInt64 := 0
  attributes : List VisibleAttribute := []
  /-- The conditions without what is no longer visible. -/
  corrected : Conditions := {}
  deriving DecidableEq, Repr

namespace Visible

def get? (v : Visible) (id : Id) : Option VisibleAttribute :=
  v.attributes.find? (·.id == id)

end Visible

namespace Catalog

def offer (o : AttributeOption) : VisibleOption :=
  { id := o.id, title := o.title }

/-! ## The attributes that are always visible -/

def listOptions (c : Catalog) (keeps : String -> Bool) :
    Nat -> List Id -> Except Error (List VisibleOption)
  | 0, _ => .ok []
  | _, [] => .ok []
  | room + 1, id :: ids => do
      let o <- c.optionOf id
      if keeps o.title then
        return offer o :: (<- c.listOptions keeps room ids)
      else
        c.listOptions keeps (room + 1) ids

def keepsFor (filter : Option TitleFilter) (attributeId : Id) (title : String) : Bool :=
  match filter with
  | some f => f.attributeId != attributeId || f.keeps title
  | none => true

def pagesFor (pageSize count : Nat) : Nat :=
  (count + pageSize - 1) / pageSize

/-- Offers attributes page by page; one without options to list is passed over.
Also gives the number of pages that the longest list needs, and at least one. -/
def listAttributes (c : Catalog) (pageSize : Nat) (filter : Option TitleFilter) :
    List Id -> Except Error (Nat × List VisibleAttribute)
  | [] => .ok (1, [])
  | id :: ids => do
      let a <- c.attributeOf id
      let options <- c.listOptions (keepsFor filter a.id) pageSize a.optionIds
      let (pages, rest) <- c.listAttributes pageSize filter ids
      let pages := max (pagesFor pageSize a.optionIds.length) pages
      if options.isEmpty then
        return (pages, rest)
      else
        return (pages, { id := a.id, title := a.title, options } :: rest)

/-! ## The attributes brought into view -/

/-- Records a group: a new attribute comes last, and a smaller group replaces the
one recorded for its attribute. -/
def recordGroup (g : Group) : List Group -> List Group
  | [] => [g]
  | h :: hs =>
      if h.attributeId = g.attributeId then
        (if g.optionIds.length < h.optionIds.length then g else h) :: hs
      else
        h :: recordGroup g hs

def unlockedGroups (r : Rule) (selected : List Id) : List Group :=
  selected.foldl
    (fun unlocked id => (r.triggers.getD id []).foldl (fun us g => recordGroup g us) unlocked) []

def offerGroup (c : Catalog) (g : Group) : Except Error VisibleAttribute := do
  let a <- c.attributeOf g.attributeId
  let options <- g.optionIds.mapM c.optionOf
  return { id := a.id, title := a.title, options := options.map offer }

/-! ## The answer -/

def isOffered (attributes : List VisibleAttribute) (p : Pair) : Bool :=
  attributes.any (fun a => a.id == p.attributeId) &&
    attributes.any (fun a => a.options.any fun o => o.id == p.optionId)

def findIn (c : Catalog) (category : CategoryId) (q : Conditions) : Except Error Visible := do
  let pageSize := effectivePageSize q.pageSize
  let r <- c.ruleOf category
  let (pages, always) <- c.listAttributes pageSize.toNat q.activeFilter r.alwaysVisibleIds
  let unlocked <- (unlockedGroups r q.selectedOptions).mapM c.offerGroup
  let attributes := always ++ unlocked
  return {
    pages
    pageSize
    attributes
    corrected := {
      categoryIds := [category]
      pairs := q.pairs.filter (isOffered attributes)
      pageSize
      offset := q.offset
      filters := q.filters } }

/-- Answers a query.  Without a category there is nothing to offer; more than one
category cannot be handled. -/
def find (c : Catalog) (q : Conditions) : Except Error Visible :=
  match q.categoryIds with
  | [] => .ok {}
  | [category] => c.findIn category q
  | _ => .error .severalCategories

end Catalog
end FacetRules
