import FacetRules.Proofs.Expansion.Passes

/-!
# What a builder holds after all passes

A builder that has made all passes holds one copy of everything that a builder without a
suffix holds: under the copy of a number there is the copy of what is stored under the
number, and nothing else is stored.
-/

namespace FacetRules
namespace Builder

/-- All numbers in the builder are numbers of its keys, and nothing in it has a suffix. -/
structure Ranged (b : Builder) : Prop where
  attribute_range : forall (id : Id) (a : Attribute),
    b.attributes[id]? = some a -> InRange b.registry.size id
  option_range : forall (id : Id) (o : AttributeOption), b.options.get? id = some o ->
    InRange b.registry.size id ∧ InRange b.registry.size o.attributeId
  assignment_range : forall row, row ∈ b.assignments.toList ->
    InRange b.registry.size row.attributeId
  dynamicOption_range : forall row, row ∈ b.dynamicOptions.toList ->
    InRange b.registry.size row.optionId ∧ row.suffix = none

/-- The second builder holds the copies of what the first one holds. -/
structure CopiedTo (b : Builder) (n : Nat) (c : Builder) : Prop where
  registry : b.registry.CopiedTo n c.registry
  attribute_eq : forall (p : Nat) (id : Id), p < n -> InRange b.registry.size id ->
    c.attributes[copyId b.registry.size p id]? =
      b.attributes[id]?.map (Attribute.copy b.registry.size p)
  attribute_number : forall (id : Id) (a : Attribute), c.attributes[id]? = some a ->
    exists p i, p < n ∧ InRange b.registry.size i ∧ id = copyId b.registry.size p i
  option_eq : forall (p : Nat) (id : Id), p < n -> InRange b.registry.size id ->
    c.options.get? (copyId b.registry.size p id) =
      (b.options.get? id).map (AttributeOption.copy b.registry.size p)
  option_number : forall (id : Id) (o : AttributeOption), c.options.get? id = some o ->
    exists p i, p < n ∧ InRange b.registry.size i ∧ id = copyId b.registry.size p i
  listed : c.options.toList =
    copies n (AttributeOption.copy b.registry.size) b.options.toList
  assignments : c.assignments.toList =
    copies n (Assignment.copy b.registry.size) b.assignments.toList
  dynamicOptions : c.dynamicOptions.toList =
    copies n (DynamicOption.copy b.registry.size) b.dynamicOptions.toList

/-!
# Numbers of what was read
-/

section Range

variable {r : Registry} {xs : List Reading}

theorem inRange_of_mem_attributesOf (hr : r.size < UInt32.size) {a : Attribute}
    (h : a ∈ attributesOf r xs) : InRange r.size a.id := by
  rcases List.mem_filterMap.mp h with ⟨x, _hx, ha⟩
  rcases Reading.exists_row_of_attribute? ha with ⟨row, id, _hrow, hid, rfl⟩
  exact Registry.inRange_lookupSuffixed hr hid

theorem inRange_of_mem_optionsOf (hr : r.size < UInt32.size) {o : AttributeOption}
    (h : o ∈ optionsOf r xs) : InRange r.size o.id ∧ InRange r.size o.attributeId := by
  rcases List.mem_filterMap.mp h with ⟨x, _hx, ho⟩
  rcases Reading.exists_row_of_option? ho with ⟨row, id, attributeId, _hrow, hid, howner, rfl⟩
  exact ⟨Registry.inRange_lookupSuffixed hr hid, Registry.inRange_lookupSuffixed hr howner⟩

theorem inRange_of_mem_assignmentsOf (hr : r.size < UInt32.size) {row : Assignment}
    (h : row ∈ assignmentsOf r xs) : InRange r.size row.attributeId := by
  rcases List.mem_filterMap.mp h with ⟨x, _hx, hread⟩
  rcases Reading.exists_row_of_assignment? hread with ⟨read, id, _hrow, hid, rfl⟩
  exact Registry.inRange_lookupSuffixed hr hid

theorem inRange_of_mem_dynamicOptionsOf (hr : r.size < UInt32.size) {row : DynamicOption}
    (h : row ∈ dynamicOptionsOf r xs) : InRange r.size row.optionId := by
  rcases List.mem_filterMap.mp h with ⟨x, _hx, hread⟩
  rcases Reading.exists_row_of_dynamicOption? hread with ⟨read, id, _hrow, hid, rfl⟩
  exact Registry.inRange_lookupSuffixed hr hid

end Range

section Holds

variable {b c : Builder} {xs : List Reading} {n : Nat}

theorem Holds.ranged (h : b.Holds xs) (hsize : b.registry.size < UInt32.size)
    (hxs : forall x, x ∈ xs -> x.suffix = none) : b.Ranged where
  attribute_range := by
    intro id a ha
    have hid : a.id = id := h.keyed.attribute_id id a ha
    rw [h.getElem?_attributes, List.findRev?_eq_find?_reverse] at ha
    rw [<- hid]
    exact inRange_of_mem_attributesOf hsize
      (List.mem_reverse.mp (List.mem_of_find?_eq_some ha))
  option_range := by
    intro id o ho
    have hid : o.id = id := h.keyed.option_id id o ho
    rw [h.get?_options, List.findRev?_eq_find?_reverse] at ho
    rw [<- hid]
    exact inRange_of_mem_optionsOf hsize (List.mem_reverse.mp (List.mem_of_find?_eq_some ho))
  assignment_range := by
    intro row hrow
    rw [h.assignments_eq] at hrow
    exact inRange_of_mem_assignmentsOf hsize hrow
  dynamicOption_range := by
    intro row hrow
    rw [h.dynamicOptions_eq] at hrow
    exact ⟨inRange_of_mem_dynamicOptionsOf hsize hrow, suffix_of_mem_dynamicOptionsOf hxs hrow⟩

/-!
# Reading in passes
-/

theorem attributesOf_copies (hr : b.registry.CopiedTo n c.registry)
    (hxs : forall x, x ∈ xs -> x.suffix = none) :
    attributesOf c.registry (copies n Reading.inPass xs) =
      copies n (Attribute.copy b.registry.size) (attributesOf b.registry xs) :=
  filterMap_copies fun _p x hp hx => Reading.attribute?_inPass hr hp (hxs x hx)

theorem optionsOf_copies (hr : b.registry.CopiedTo n c.registry)
    (hxs : forall x, x ∈ xs -> x.suffix = none) :
    optionsOf c.registry (copies n Reading.inPass xs) =
      copies n (AttributeOption.copy b.registry.size) (optionsOf b.registry xs) :=
  filterMap_copies fun _p x hp hx => Reading.option?_inPass hr hp (hxs x hx)

theorem exists_of_findRev?_copies {α : Type} {mark : Nat -> α -> α} (number : α -> Id)
    {size : Nat} (hmark : forall p x, number (mark p x) = copyId size p (number x))
    {ys : List α} (hys : forall y, y ∈ ys -> InRange size (number y)) {id : Id} {z : α}
    (h : (copies n mark ys).findRev? (fun y => number y == id) = some z) :
    exists p i, p < n ∧ InRange size i ∧ id = copyId size p i := by
  rw [List.findRev?_eq_find?_reverse] at h
  have hid : number z = id := by simpa using List.find?_some h
  rcases mem_copies.mp (List.mem_reverse.mp (List.mem_of_find?_eq_some h)) with
    ⟨p, y, hp, hy, rfl⟩
  exact ⟨p, number y, hp, hys y hy, by rw [<- hid, hmark]⟩

theorem toList_options_copies {size : Nat} (hn : n * size < UInt32.size)
    {os : List AttributeOption} (hos : forall o, o ∈ os -> InRange size o.id) :
    ((∅ : OptionTable).insertAll (copies n (AttributeOption.copy size) os)).toList =
      copies n (AttributeOption.copy size) ((∅ : OptionTable).insertAll os).toList := by
  have hids : forall id, id ∈ os.map AttributeOption.id -> InRange size id := by
    intro id hid
    rcases List.mem_map.mp hid with ⟨o, ho, rfl⟩
    exact hos o ho
  have hmap : (copies n (AttributeOption.copy size) os).map AttributeOption.id =
      copies n (copyId size) (os.map AttributeOption.id) := by
    rw [map_copies, copies_map]
    rfl
  have horder : (copies n (copyId size) (os.map AttributeOption.id)).eraseDups =
      copies n (copyId size) (os.map AttributeOption.id).eraseDups := by
    apply eraseDups_copies
    · intro p i j heq
      exact copyId_inj heq
    · intro p q i j hp hq hi hj heq
      exact ((copyId_eq_iff hn hp hq (hids i hi) (hids j hj)).mp heq).1
  rw [OptionTable.toList_insertAll_empty, OptionTable.toList_insertAll_empty, hmap, horder]
  apply filterMap_copies
  intro p id hp hid
  exact findRev?_copies_of_number AttributeOption.id AttributeOption.id hn (fun _p _o => rfl) hos hp
    (hids id (List.mem_eraseDups.mp hid))

theorem Holds.copiedTo (hb : b.Holds xs) (hc : c.Holds (copies n Reading.inPass xs))
    (hr : b.registry.CopiedTo n c.registry) (hn : n * b.registry.size < UInt32.size)
    (hsize : b.registry.size < UInt32.size) (hxs : forall x, x ∈ xs -> x.suffix = none) :
    b.CopiedTo n c where
  registry := hr
  attribute_eq := by
    intro p id hp hid
    rw [hc.getElem?_attributes, hb.getElem?_attributes, attributesOf_copies hr hxs]
    exact findRev?_copies_of_number Attribute.id Attribute.id hn (fun _p _a => rfl)
      (fun a ha => inRange_of_mem_attributesOf hsize ha) hp hid
  attribute_number := by
    intro id a ha
    rw [hc.getElem?_attributes, attributesOf_copies hr hxs] at ha
    exact exists_of_findRev?_copies Attribute.id (fun _p _a => rfl)
      (fun a ha => inRange_of_mem_attributesOf hsize ha) ha
  option_eq := by
    intro p id hp hid
    rw [hc.get?_options, hb.get?_options, optionsOf_copies hr hxs]
    exact findRev?_copies_of_number AttributeOption.id AttributeOption.id hn (fun _p _o => rfl)
      (fun o ho => (inRange_of_mem_optionsOf hsize ho).1) hp hid
  option_number := by
    intro id o ho
    rw [hc.get?_options, optionsOf_copies hr hxs] at ho
    exact exists_of_findRev?_copies AttributeOption.id (fun _p _o => rfl)
      (fun o ho => (inRange_of_mem_optionsOf hsize ho).1) ho
  listed := by
    have htable : c.options = (∅ : OptionTable).insertAll
        (copies n (AttributeOption.copy b.registry.size) (optionsOf b.registry xs)) := by
      rw [<- optionsOf_copies hr hxs]
      exact hc.options_eq
    rw [htable, hb.options_eq]
    exact toList_options_copies hn fun o ho => (inRange_of_mem_optionsOf hsize ho).1
  assignments := by
    rw [hc.assignments_eq, hb.assignments_eq]
    exact filterMap_copies fun _p x hp hx => Reading.assignment?_inPass hr hp (hxs x hx)
  dynamicOptions := by
    rw [hc.dynamicOptions_eq, hb.dynamicOptions_eq]
    exact filterMap_copies fun _p x hp hx => Reading.dynamicOption?_inPass hr hp (hxs x hx)

end Holds

/-!
# Making the passes
-/

theorem registry_passes (tree : CategoryTree) (n : Nat) (records : List (Table × List String)) :
    (((∅ : Builder).withCategories tree).performAll (recordCalls records)).registry.CopiedTo n
      (((∅ : Builder).withCategories tree).performAll (passes n records)).registry := by
  rw [Registry.CopiedTo, keys_performAll_withCategories, keys_performAll_withCategories,
    mentions_passes]
  apply eraseDups_copies
  · intro p u v heq
    exact (Import.append_expandSuffix_inj heq).2
  · intro p q u v _hp _hq _hu _hv heq
    exact (Import.append_expandSuffix_inj heq).1

end Builder
end FacetRules
