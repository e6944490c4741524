import FacetRules.Id

/-!
# Category rules

The rule of a category says which attributes the category has, which of them are
offered whatever is selected, and which options come into view when a certain
option, the trigger, is selected.

Under a trigger the options are grouped by their attribute, in the order in which
the attributes first came up.  An attribute with options behind a trigger is
gated, and is not offered until one of its triggers is selected.
-/

namespace FacetRules

structure Group where
  attributeId : Id
  optionIds : List Id
  deriving DecidableEq, Repr

namespace Group

/-- Adds an option to the group of its attribute, or opens a group for it. -/
def add (attributeId optionId : Id) : List Group -> List Group
  | [] => [{ attributeId, optionIds := [optionId] }]
  | g :: gs =>
      if g.attributeId = attributeId then
        { g with optionIds := g.optionIds ++ [optionId] } :: gs
      else
        g :: add attributeId optionId gs

end Group

structure Rule where
  categoryId : CategoryId
  /-- The attributes of the category, in the order of their assignments. -/
  attributeIds : List Id := []
  alwaysVisibleIds : List Id := []
  ungatedOptions : IdSet := ∅
  /-- The groups that each trigger brings into view. -/
  triggers : IdMap (List Group) := ∅

namespace Rule

def gate (r : Rule) (trigger attributeId optionId : Id) : Rule :=
  { r with
    triggers := r.triggers.insert trigger
      (Group.add attributeId optionId (r.triggers.getD trigger [])) }

def gatedAttributes (r : Rule) : IdSet :=
  Std.ExtTreeSet.ofList
    (r.triggers.toList.flatMap fun (_, groups) => groups.map Group.attributeId)

def assign (r : Rule) (attributeId : Id) : Rule :=
  { r with attributeIds := r.attributeIds ++ [attributeId] }

def showAlways (r : Rule) (optionId : Id) : Rule :=
  { r with ungatedOptions := r.ungatedOptions.insert optionId }

/-- Completes a rule: the attributes that are not gated are always visible. -/
def classify (r : Rule) : Rule :=
  let gated := r.gatedAttributes
  { r with
    alwaysVisibleIds :=
      r.alwaysVisibleIds ++ r.attributeIds.filter fun id => !gated.contains id }

end Rule
end FacetRules
