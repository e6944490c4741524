import FacetRules.Proofs.Builder.Stored
import FacetRules.Proofs.Rule.Grouping

/-!
# Renumbering

What a builder holds mentions attributes and options by number.  Here everything is put
under other numbers, and the tables stay as they are: a row that is read with a registry
in which its keys have other numbers gives the same thing under these numbers.
-/

namespace FacetRules

/-!
# Selecting by number

Numbers that are told apart stay apart, so the same things are selected by them.
-/

section Numbers

variable {α β : Type} {f : Id -> Id} (hf : Function.Injective f) {mark : α -> β}
  (number : α -> Id) (number' : β -> Id) (hmark : forall x, number' (mark x) = f (number x))

include hf hmark

theorem beq_of_number (i : Id) (x : α) : (number' (mark x) == f i) = (number x == i) := by
  rw [Bool.eq_iff_iff, beq_iff_eq, beq_iff_eq, hmark]
  constructor
  · intro heq
    exact hf heq
  · intro heq
    rw [heq]

theorem filter_map_of_number (i : Id) (xs : List α) :
    (xs.map mark).filter (fun y => number' y == f i) =
      (xs.filter fun x => number x == i).map mark := by
  rw [List.filter_map]
  congr 1
  apply List.filter_congr
  intro x _hx
  exact beq_of_number hf number number' hmark i x

theorem findRev?_map_of_number (i : Id) (xs : List α) :
    (xs.map mark).findRev? (fun y => number' y == f i) =
      (xs.findRev? fun x => number x == i).map mark := by
  rw [List.findRev?_eq_find?_reverse, List.findRev?_eq_find?_reverse, <- List.map_reverse,
    List.find?_map]
  congr 2
  funext x
  exact beq_of_number hf number number' hmark i x

end Numbers

namespace Attribute

def renumber (f : Id -> Id) (a : Attribute) : Attribute :=
  { a with
    id := f a.id
    optionIds := a.optionIds.map f }

end Attribute

namespace AttributeOption

def renumber (f : Id -> Id) (o : AttributeOption) : AttributeOption :=
  { o with
    id := f o.id
    attributeId := f o.attributeId }

end AttributeOption

namespace Assignment

def renumber (f : Id -> Id) (row : Assignment) : Assignment :=
  { row with attributeId := f row.attributeId }

end Assignment

namespace DynamicOption

/-- The dynamic option under another number and another suffix. -/
def renumber (f : Id -> Id) (suffix : Option String) (row : DynamicOption) : DynamicOption :=
  { row with
    optionId := f row.optionId
    suffix }

end DynamicOption

namespace Group

def renumber (f : Id -> Id) (g : Group) : Group where
  attributeId := f g.attributeId
  optionIds := g.optionIds.map f

end Group

namespace Gating

def renumber (f : Id -> Id) (g : Gating) : Gating where
  trigger := f g.trigger
  attributeId := f g.attributeId
  optionId := f g.optionId

section Groups

variable {f : Id -> Id}

theorem optionsOf_map_renumber (hf : Function.Injective f) (a : Id)
    (gs : List Gating) :
    optionsOf (f a) (gs.map (Gating.renumber f)) = (optionsOf a gs).map f := by
  have hfilter : (gs.map (Gating.renumber f)).filter (·.attributeId == f a) =
      (gs.filter (·.attributeId == a)).map (Gating.renumber f) :=
    filter_map_of_number hf Gating.attributeId Gating.attributeId (fun _g => rfl) a gs
  rw [optionsOf, optionsOf, hfilter, List.map_map, List.map_map]
  rfl

theorem groups_map_renumber (hf : Function.Injective f) (gs : List Gating) :
    groups (gs.map (Gating.renumber f)) = (groups gs).map (Group.renumber f) := by
  have hids : (gs.map (Gating.renumber f)).map Gating.attributeId =
      (gs.map Gating.attributeId).map f := by
    rw [List.map_map, List.map_map]
    rfl
  rw [groups, groups, hids, eraseDups_map fun _i _j heq => hf heq, List.map_map, List.map_map]
  apply List.map_congr_left
  intro a _ha
  rw [Function.comp_apply, Function.comp_apply, optionsOf_map_renumber hf]
  rfl

end Groups

end Gating

/-!
# Rows

The keys of a row are the same in both readings; only their numbers differ.
-/

namespace Reading

section Rows

variable {r s : Registry} {f : Id -> Id} {x y : Reading}

/-- Both readings are of one row, whose keys have other numbers in the second one. -/
structure Renumbers (f : Id -> Id) (r s : Registry) (x y : Reading) : Prop where
  row_eq : y.row = x.row
  number?_eq : forall uuid, y.number? s uuid = (x.number? r uuid).map f

theorem Renumbers.attribute?_eq (h : Renumbers f r s x y) :
    y.attribute? s = (x.attribute? r).map (Attribute.renumber f) := by
  rw [attribute?, attribute?, h.row_eq]
  cases x.row with
  | ofAttribute row =>
      simp only
      rw [h.number?_eq, Option.map_map, Option.map_map]
      rfl
  | ofOption row => rfl
  | ofAssignment row => rfl
  | ofDynamicOption row => rfl

theorem Renumbers.option?_eq (h : Renumbers f r s x y) :
    y.option? s = (x.option? r).map (AttributeOption.renumber f) := by
  rw [option?, option?, h.row_eq]
  cases x.row with
  | ofOption row =>
      simp only
      rw [h.number?_eq, h.number?_eq]
      cases x.number? r row.uuid with
      | none =>
          rfl
      | some id =>
          cases x.number? r row.attributeUuid with
          | none => rfl
          | some attributeId => rfl
  | ofAttribute row => rfl
  | ofAssignment row => rfl
  | ofDynamicOption row => rfl

theorem Renumbers.assignment?_eq (h : Renumbers f r s x y) :
    y.assignment? s = (x.assignment? r).map (Assignment.renumber f) := by
  rw [assignment?, assignment?, h.row_eq]
  cases x.row with
  | ofAssignment row =>
      simp only
      rw [h.number?_eq, Option.map_map, Option.map_map]
      rfl
  | ofAttribute row => rfl
  | ofOption row => rfl
  | ofDynamicOption row => rfl

theorem Renumbers.dynamicOption?_eq (h : Renumbers f r s x y) :
    y.dynamicOption? s = (x.dynamicOption? r).map (DynamicOption.renumber f y.suffix) := by
  rw [dynamicOption?, dynamicOption?, h.row_eq]
  cases x.row with
  | ofDynamicOption row =>
      simp only
      rw [h.number?_eq, Option.map_map, Option.map_map]
      rfl
  | ofAttribute row => rfl
  | ofOption row => rfl
  | ofAssignment row => rfl

end Rows

end Reading
end FacetRules
