import Mathlib.Data.List.TakeWhile
import FacetRules.Proofs.Import.Records
import FacetRules.Proofs.OptionTable
import FacetRules.Proofs.Registry.Inverse

/-!
# What adding a record changes

A record is read into a row or refused.  A row becomes one thing: an attribute or an option that
is stored under its number, or an assignment or a dynamic option that is put aside.  Adding a
record therefore changes one of the four collections of a builder, in one place, and a record
that is refused changes none of them.
-/

namespace FacetRules

/-- What becomes of a row once its keys are numbered. -/
inductive Entry
  | ofAttribute (a : Attribute)
  | ofOption (o : AttributeOption)
  | ofAssignment (row : Assignment)
  | ofDynamicOption (row : DynamicOption)

namespace Entry

def attribute? : Entry -> Option Attribute
  | ofAttribute a => some a
  | _ => none

def option? : Entry -> Option AttributeOption
  | ofOption o => some o
  | _ => none

def assignment? : Entry -> Option Assignment
  | ofAssignment row => some row
  | _ => none

def dynamicOption? : Entry -> Option DynamicOption
  | ofDynamicOption row => some row
  | _ => none

end Entry

/-- The entry of a row, if the registry knows all its keys under the suffix in force. -/
def Row.entry? (r : Registry) : Row -> Option Entry
  | ofAttribute row => (r.lookup row.uuid).map fun id => .ofAttribute (Attribute.ofRow id row)
  | ofOption row => do
      let id <- r.lookup row.uuid
      let attributeId <- r.lookup row.attributeUuid
      return .ofOption (AttributeOption.ofRow id attributeId row)
  | ofAssignment row =>
      (r.lookup row.attributeUuid).map fun attributeId =>
        .ofAssignment { categoryId := row.categoryId, attributeId, isDisabled := row.isDisabled }
  | ofDynamicOption row =>
      (r.lookup row.optionUuid).map fun optionId =>
        .ofDynamicOption
          { categoryId := row.categoryId
            optionId
            precondition := row.precondition
            isDisabled := row.isDisabled
            suffix := r.suffix }

theorem findRev?_toList {α : Type} (x : Option α) (p : α -> Bool) :
    x.toList.findRev? p = x.filter p := by
  cases x with
  | none => rfl
  | some x => cases hx : p x <;> simp [Option.filter, hx]

namespace Builder

/-- The second builder holds what the first one does and the entry, if there is one.  An entry
with a number takes the place of an earlier one with this number. -/
structure Gains (b c : Builder) (entry : Option Entry) : Prop where
  attributes : forall id, c.attributes[id]? =
    ((entry.bind Entry.attribute?).filter (·.id == id)).or b.attributes[id]?
  options : forall id, c.options.get? id =
    ((entry.bind Entry.option?).filter (·.id == id)).or (b.options.get? id)
  optionOrder : c.options.order.toList =
    (b.options.order.toList ++
      ((entry.bind Entry.option?).map AttributeOption.id).toList).eraseDups
  assignments : c.assignments.toList =
    b.assignments.toList ++ (entry.bind Entry.assignment?).toList
  dynamicOptions : c.dynamicOptions.toList =
    b.dynamicOptions.toList ++ (entry.bind Entry.dynamicOption?).toList
  categories : c.categories = b.categories

theorem Gains.of_eq {b c : Builder} (hattributes : c.attributes = b.attributes)
    (hoptions : c.options = b.options) (hassignments : c.assignments = b.assignments)
    (hdynamicOptions : c.dynamicOptions = b.dynamicOptions)
    (hcategories : c.categories = b.categories) : Gains b c none where
  attributes := by
    intro id
    rw [hattributes]
    rfl
  options := by
    intro id
    rw [hoptions]
    rfl
  optionOrder := by
    rw [hoptions]
    exact (eraseDups_of_nodup b.options.order_nodup).symm.trans (by simp)
  assignments := by simp [hassignments]
  dynamicOptions := by simp [hdynamicOptions]
  categories := hcategories

/-- What a row gives is one entry, and absorbing the row adds this entry. -/
theorem gains_absorb_of_eq {b : Builder} {x : Reading} {entry : Entry}
    (hattribute : x.attribute? b.registry = entry.attribute?)
    (hoption : x.option? b.registry = entry.option?)
    (hassignment : x.assignment? b.registry = entry.assignment?)
    (hdynamicOption : x.dynamicOption? b.registry = entry.dynamicOption?) :
    Gains b (b.absorb x) (some entry) where
  attributes := by
    intro id
    rw [absorb, hattribute, IdMap.getElem?_foldl_insert Attribute.id, findRev?_toList]
    rfl
  options := by
    intro id
    rw [absorb, hoption]
    show (b.options.insertAll entry.option?.toList).get? id = _
    rw [OptionTable.get?_insertAll, findRev?_toList]
    rfl
  optionOrder := by
    rw [absorb, hoption]
    show (b.options.insertAll entry.option?.toList).order.toList = _
    rw [OptionTable.order_insertAll, Option.toList_map]
    rfl
  assignments := by
    rw [absorb, hassignment]
    exact toList_foldl_push b.assignments _
  dynamicOptions := by
    rw [absorb, hdynamicOption]
    exact toList_foldl_push b.dynamicOptions _
  categories := rfl

theorem gains_absorb {b : Builder} {row : Row}
    (h : Reading.Numbered b.registry ⟨b.registry.suffix, row⟩) :
    exists entry, row.entry? b.registry = some entry ∧
      Gains b (b.absorb ⟨b.registry.suffix, row⟩) (some entry) := by
  have hlookup : forall key, key ∈ row.keys -> exists id, b.registry.lookup key = some id := h
  cases row with
  | ofAttribute row =>
      rcases hlookup row.uuid (by simp [Row.keys]) with ⟨id, hid⟩
      refine ⟨_, by rw [Row.entry?, hid]; rfl, gains_absorb_of_eq ?_ rfl rfl rfl⟩
      exact congrArg (Option.map fun id => Attribute.ofRow id row) hid
  | ofOption row =>
      rcases hlookup row.uuid (by simp [Row.keys]) with ⟨id, hid⟩
      rcases hlookup row.attributeUuid (by simp [Row.keys]) with ⟨owner, howner⟩
      refine ⟨_, by rw [Row.entry?, hid, howner]; rfl, gains_absorb_of_eq rfl ?_ rfl rfl⟩
      simp only [Reading.option?, Reading.number?]
      rw [Registry.lookup] at hid howner
      rw [hid, howner]
      rfl
  | ofAssignment row =>
      rcases hlookup row.attributeUuid (by simp [Row.keys]) with ⟨id, hid⟩
      refine ⟨_, by rw [Row.entry?, hid]; rfl, gains_absorb_of_eq rfl rfl ?_ rfl⟩
      exact congrArg (Option.map _) hid
  | ofDynamicOption row =>
      rcases hlookup row.optionUuid (by simp [Row.keys]) with ⟨id, hid⟩
      refine ⟨_, by rw [Row.entry?, hid]; rfl, gains_absorb_of_eq rfl rfl rfl ?_⟩
      exact congrArg (Option.map _) hid

end Builder

/-!
# Keys of a row
-/

/-- The keys of the second registry are those of the first and what the uuids stand for.  Each
uuid has a number, which stands for its key alone. -/
structure Registry.Registers (r s : Registry) (uuids : List String) : Prop where
  suffix_eq : s.suffix = r.suffix
  keys_eq : s.keys.toList =
    (r.keys.toList ++ uuids.map fun uuid => keyOf uuid r.suffix).eraseDups
  numbered : forall uuid, uuid ∈ uuids -> exists id, s.lookup uuid = some id ∧
    forall key, s.uuidOf id = some key <-> key = keyOf uuid r.suffix

theorem Row.ne_empty_of_isKeyed {row : Row} (h : row.isKeyed = true) {uuid : String}
    (huuid : uuid ∈ row.keys) : uuid ≠ "" :=
  bne_iff_ne.mp (List.all_eq_true.mp h uuid huuid)

namespace Builder

theorem registers_addRow (b : Builder) {row : Row} (h : row.isKeyed = true)
    (hroom : (b.addRow row).2.registry.size < UInt32.size) :
    b.registry.Registers (b.addRow row).2.registry row.keys := by
  have hne : forall uuid, uuid ∈ row.keys -> uuid ≠ "" := fun _ => Row.ne_empty_of_isKeyed h
  have hall : row.numbered = row.keys :=
    List.takeWhile_eq_self_iff.mpr fun uuid huuid => bne_iff_ne.mpr (hne uuid huuid)
  have hresolved := registry_addRow b row
  rw [hall] at hresolved
  have hkeys := b.registry.keys_resolveAll hne
  have hsuffix := b.registry.suffix_resolveAll row.keys
  rw [<- hresolved] at hkeys hsuffix
  refine ⟨hsuffix, hkeys, ?_⟩
  intro uuid huuid
  have hmem : Registry.keyOf uuid b.registry.suffix ∈ (b.addRow row).2.registry.keys := by
    rw [<- Array.mem_toList_iff, hkeys, List.mem_eraseDups]
    exact List.mem_append_right _ (List.mem_map.mpr ⟨uuid, huuid, rfl⟩)
  rcases Registry.exists_number_iff.mpr hmem with ⟨id, hid⟩
  refine ⟨id, ?_, ?_⟩
  · rw [Registry.lookup, Registry.lookupSuffixed, if_neg (hne uuid huuid), hsuffix, hid]
  · intro key
    have hown := (Registry.uuidOf_eq_some_iff hroom).mpr hid
    rw [hown, Option.some.injEq, eq_comm]

end Builder
end FacetRules
