import FacetRules.Proofs.Compile.Finish
import FacetRules.Proofs.Expansion.Loading
import FacetRules.Proofs.Renumbering.Listing

/-!
# Compiling all passes

Every step of compiling treats the copy of a row as it treats the row, and puts the copy of
the result where the result would be.  A precondition is looked up under the suffix of
the pass that read it, so it names triggers of the same pass.
-/

namespace FacetRules

namespace Gating

def copy (size pass : Nat) (g : Gating) : Gating where
  trigger := copyId size pass g.trigger
  attributeId := copyId size pass g.attributeId
  optionId := copyId size pass g.optionId

end Gating

namespace Group

def copy (size pass : Nat) (g : Group) : Group where
  attributeId := copyId size pass g.attributeId
  optionIds := g.optionIds.map (copyId size pass)

end Group

namespace Builder

/-- The second builder holds the copies of what the first one holds, and there are numbers
enough to tell the copies apart. -/
structure Expands (b : Builder) (n : Nat) (c : Builder) : Prop
    extends CopiedTo b n c, Ranged b, Keyed b where
  positive : 1 ≤ n
  bound : n * b.registry.size < UInt32.size

section Expansion

variable {b c : Builder} {n p : Nat} {id : Id}

/-!
# What is loaded
-/

theorem Expands.inRange_loaded (h : b.Expands n c) (hid : id ∈ b.loaded.attributes) :
    InRange b.registry.size id := by
  rw [Std.ExtTreeMap.mem_iff_contains, contains_attributes_loaded,
    IdMap.contains_eq_isSome] at hid
  rcases Option.isSome_iff_exists.mp hid with ⟨a, ha⟩
  exact h.attribute_range id a ha

theorem Expands.linkedTo_eq (h : b.Expands n c) (hp : p < n)
    (hid : InRange b.registry.size id) :
    linkedTo (copyId b.registry.size p id) c.options.toList =
      (linkedTo id b.options.toList).map (copyId b.registry.size p) := by
  have howners : forall o, o ∈ b.options.toList -> InRange b.registry.size o.attributeId := by
    intro o ho
    rcases OptionTable.mem_toList.mp ho with ⟨number, hstored⟩
    exact (h.option_range number o hstored).2
  rw [linkedTo, linkedTo, h.listed, filter_copies_of_number AttributeOption.attributeId
    AttributeOption.attributeId h.bound (fun _p _o => rfl) howners hp hid, List.map_map,
    List.map_map]
  rfl

theorem Expands.attributes_loaded (h : b.Expands n c) (hp : p < n)
    (hid : InRange b.registry.size id) :
    c.loaded.attributes[copyId b.registry.size p id]? =
      b.loaded.attributes[id]?.map (Attribute.copy b.registry.size p) := by
  rw [getElem?_attributes_loaded, getElem?_attributes_loaded, h.attribute_eq p id hp hid,
    h.linkedTo_eq hp hid, Option.map_map, Option.map_map]
  congr 1
  funext a
  simp [Attribute.copy, Attribute.addOptions]

theorem Expands.attributes_loaded_number (h : b.Expands n c) {a : Attribute}
    (ha : c.loaded.attributes[id]? = some a) :
    exists p i, p < n ∧ InRange b.registry.size i ∧ id = copyId b.registry.size p i := by
  rw [getElem?_attributes_loaded] at ha
  rcases Option.map_eq_some_iff.mp ha with ⟨stored, hstored, _heq⟩
  exact h.attribute_number id stored hstored

theorem Expands.contains_loaded (h : b.Expands n c) (hp : p < n)
    (hid : InRange b.registry.size id) :
    c.loaded.attributes.contains (copyId b.registry.size p id) =
      b.loaded.attributes.contains id := by
  rw [IdMap.contains_eq_isSome, IdMap.contains_eq_isSome, h.attributes_loaded hp hid,
    Option.isSome_map]

theorem Expands.options_loaded (h : b.Expands n c) (hp : p < n)
    (hid : InRange b.registry.size id) :
    c.loaded.options[copyId b.registry.size p id]? =
      b.loaded.options[id]?.map (AttributeOption.copy b.registry.size p) :=
  h.option_eq p id hp hid

/-!
# Assignments
-/

theorem Expands.assignmentSkip?_eq (h : b.Expands n c) (hp : p < n) {row : Assignment}
    (hrow : row ∈ b.assignments.toList) :
    assignmentSkip? c.loaded.attributes (row.copy b.registry.size p) =
      assignmentSkip? b.loaded.attributes row := by
  have hloaded := h.contains_loaded hp (h.assignment_range row hrow)
  change (if row.isDisabled then _ else if c.loaded.attributes.contains
    (copyId b.registry.size p row.attributeId) then _ else _) = _
  rw [hloaded]
  rfl

theorem Expands.assignedTo_eq (h : b.Expands n c) (category : CategoryId) :
    c.assignedTo category = copies n (copyId b.registry.size) (b.assignedTo category) := by
  have hfilter : (copies n (Assignment.copy b.registry.size) b.assignments.toList).filter
      (fun row => row.categoryId == category &&
        (assignmentSkip? c.loaded.attributes row).isNone) =
      copies n (Assignment.copy b.registry.size) (b.assignments.toList.filter fun row =>
        row.categoryId == category && (assignmentSkip? b.loaded.attributes row).isNone) := by
    apply filter_copies
    intro p row hp hrow
    rw [h.assignmentSkip?_eq hp hrow]
    rfl
  rw [assignedTo, assignedTo, assigned, assigned, h.assignments, hfilter, map_copies,
    copies_map]
  rfl

theorem Expands.inRange_assignedTo (h : b.Expands n c) {category : CategoryId}
    (hid : id ∈ b.assignedTo category) : InRange b.registry.size id := by
  rcases mem_assigned.mp hid with ⟨row, hrow, _hcategory, _henabled, _hloaded, rfl⟩
  exact h.assignment_range row hrow

theorem Expands.attributeIdsOf?_eq (h : b.Expands n c) (category : CategoryId) :
    c.attributeIdsOf? category =
      (b.attributeIdsOf? category).map (copies n (copyId b.registry.size)) := by
  rw [attributeIdsOf?, attributeIdsOf?, h.assignedTo_eq]
  by_cases hnil : b.assignedTo category = []
  · rw [if_pos ((copies_eq_nil_iff h.positive).mpr hnil), if_pos hnil]
    rfl
  · rw [if_neg (mt (copies_eq_nil_iff h.positive).mp hnil), if_neg hnil]
    rfl

/-!
# Dynamic options
-/

theorem Expands.lookupSuffixed_eq (h : b.Expands n c) (hp : p < n) (uuid : String) :
    c.loaded.registry.lookupSuffixed uuid (some (Import.expandSuffix p)) =
      (b.loaded.registry.lookupSuffixed uuid none).map (copyId b.registry.size p) :=
  h.registry.lookupSuffixed_eq hp uuid

/-- In a pass, what is loaded is loaded under the copies of its numbers. -/
theorem Expands.renumbers (h : b.Expands n c) (hp : p < n) :
    b.loaded.Renumbers (copyId b.registry.size p) (InRange b.registry.size) none
      (some (Import.expandSuffix p)) c.loaded where
  contains_eq := by
    intro id hid
    exact h.contains_loaded hp hid
  option_eq := by
    intro id hid
    exact h.options_loaded hp hid
  known_owner := by
    intro id o ho
    exact (h.option_range id o ho).2
  lookup_of_some := by
    intro uuid id hid
    have hsize : b.registry.size < UInt32.size := by
      have hle := Nat.mul_le_mul_right b.registry.size h.positive
      have hbound := h.bound
      omega
    rw [h.lookupSuffixed_eq hp, hid]
    exact ⟨Registry.inRange_lookupSuffixed hsize hid, rfl⟩
  lookup_of_none := by
    intro uuid id hnone hid
    rw [h.lookupSuffixed_eq hp, hnone] at hid
    cases hid

theorem Expands.members_rel (h : b.Expands n c) (hp : p < n) {ids? : Option (List Id)}
    (hids : forall ids, ids? = some ids -> forall id, id ∈ ids -> InRange b.registry.size id) :
    Option.Rel (Loaded.SameMembers (copyId b.registry.size p) (InRange b.registry.size)) ids?
      (ids?.map (copies n (copyId b.registry.size))) := by
  cases ids? with
  | none =>
      exact Option.Rel.none
  | some ids =>
      apply Option.Rel.some
      intro id hid
      rw [Bool.eq_iff_iff, List.contains_iff_mem, List.contains_iff_mem]
      exact copyId_mem_copies h.bound (hids ids rfl) hp hid

end Expansion

end Builder
end FacetRules
