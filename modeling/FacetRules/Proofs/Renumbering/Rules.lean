import FacetRules.Proofs.Compile.Finish
import FacetRules.Proofs.Renumbering.Listing
import FacetRules.Proofs.Renumbering.Loading

/-!
# Compiling under other numbers

Two builders that hold the same rows under different numbers compile to the same rules
under these numbers: no step looks at a number except to compare it with another one.
The attributes and options must correspond as a whole; of the assignments and dynamic
options, those of a category decide its rule.
-/

namespace FacetRules

namespace Rule

/-- The second rule says under other numbers what the first one says. -/
structure Renumbers (f : Id -> Id) (r s : Rule) : Prop where
  categoryId_eq : s.categoryId = r.categoryId
  attributeIds_eq : s.attributeIds = r.attributeIds.map f
  alwaysVisibleIds_eq : s.alwaysVisibleIds = r.alwaysVisibleIds.map f
  mem_ungatedOptions_iff : forall id, f id ∈ s.ungatedOptions <-> id ∈ r.ungatedOptions
  triggers_eq : forall t, s.triggers[f t]? = r.triggers[t]?.map (List.map (Group.renumber f))

end Rule

namespace Builder

section Renumbers

variable {f : Id -> Id} {b c : Builder} {category : CategoryId}

/-!
# What is loaded
-/

theorem Renumbers.linkedTo_eq (h : b.Renumbers f c) (id : Id) :
    linkedTo (f id) c.options.toList = (linkedTo id b.options.toList).map f := by
  have hfilter : (b.options.toList.map (AttributeOption.renumber f)).filter
      (·.attributeId == f id) = (b.options.toList.filter (·.attributeId == id)).map
        (AttributeOption.renumber f) :=
    filter_map_of_number h.injective AttributeOption.attributeId AttributeOption.attributeId
      (fun _o => rfl) id _
  rw [linkedTo, linkedTo, h.listed, hfilter, List.map_map, List.map_map]
  rfl

theorem Renumbers.attributes_loaded (h : b.Renumbers f c) (id : Id) :
    c.loaded.attributes[f id]? = b.loaded.attributes[id]?.map (Attribute.renumber f) := by
  rw [getElem?_attributes_loaded, getElem?_attributes_loaded, h.attribute_eq, h.linkedTo_eq,
    Option.map_map, Option.map_map]
  congr 1
  funext a
  simp [Attribute.renumber, Attribute.addOptions]

theorem Renumbers.loaded (h : b.Renumbers f c) :
    b.loaded.Renumbers f (fun _id => True) none none c.loaded where
  contains_eq := by
    intro id _hid
    rw [IdMap.contains_eq_isSome, IdMap.contains_eq_isSome, h.attributes_loaded,
      Option.isSome_map]
  option_eq := by
    intro id _hid
    exact h.option_eq id
  known_owner := by
    intro id o _ho
    trivial
  lookup_of_some := by
    intro uuid id hid
    exact ⟨trivial, h.lookup_of_some uuid id hid⟩
  lookup_of_none := by
    intro uuid id hnone hid
    rcases h.lookup_of_none uuid id hnone hid with ⟨hattribute, hoption⟩
    constructor
    · rw [contains_attributes_loaded, IdMap.contains_eq_isSome, hattribute]
      rfl
    · exact hoption

/-!
# The attributes of a category
-/

theorem Renumbers.assignmentSkip?_eq (h : b.Renumbers f c) (row : Assignment) :
    assignmentSkip? c.loaded.attributes (row.renumber f) =
      assignmentSkip? b.loaded.attributes row := by
  have hcontains : c.loaded.attributes.contains (f row.attributeId) = _ :=
    h.loaded.contains_eq row.attributeId trivial
  simp only [assignmentSkip?, Assignment.renumber, hcontains]

theorem assigned_eq (attributes : IdMap Attribute) (rows : List Assignment)
    (category : CategoryId) :
    assigned attributes rows category =
      ((rows.filter (·.categoryId == category)).filter fun row =>
        (assignmentSkip? attributes row).isNone).map Assignment.attributeId := by
  rw [assigned, List.filter_filter]
  simp only [Bool.and_comm]

theorem RenumbersIn.assignedTo_eq (h : b.RenumbersIn f category c) :
    c.assignedTo category = (b.assignedTo category).map f := by
  have hcounts : (fun row => (assignmentSkip? c.loaded.attributes row).isNone) ∘
      Assignment.renumber f = fun row => (assignmentSkip? b.loaded.attributes row).isNone := by
    funext row
    rw [Function.comp_apply, h.assignmentSkip?_eq]
  rw [assignedTo, assignedTo, assigned_eq, assigned_eq, h.assignments_eq, List.filter_map,
    hcounts, List.map_map, List.map_map]
  rfl

theorem RenumbersIn.sameMembers (h : b.RenumbersIn f category c) :
    Loaded.SameMembers f (fun _id => True) (b.assignedTo category) (c.assignedTo category) := by
  intro id _hid
  rw [h.assignedTo_eq, Bool.eq_iff_iff, List.contains_iff_mem, List.contains_iff_mem]
  exact List.mem_map_of_injective h.injective

theorem RenumbersIn.attributeIdsOf?_rel (h : b.RenumbersIn f category c) :
    Option.Rel (Loaded.SameMembers f fun _id => True) (b.attributeIdsOf? category)
      (c.attributeIdsOf? category) := by
  have hnil : c.assignedTo category = [] <-> b.assignedTo category = [] := by
    rw [h.assignedTo_eq]
    exact List.map_eq_nil_iff
  unfold attributeIdsOf?
  by_cases hempty : b.assignedTo category = []
  · rw [if_pos hempty, if_pos (hnil.mpr hempty)]
    exact Option.Rel.none
  · rw [if_neg hempty, if_neg (mt hnil.mp hempty)]
    exact Option.Rel.some h.sameMembers

/-!
# The options of a category
-/

theorem RenumbersIn.shownIn_eq (h : b.RenumbersIn f category c) :
    c.shownIn category = (b.shownIn category).map f := by
  rw [shownIn, shownIn, Loaded.shown, Loaded.shown, h.dynamicOptions_eq, List.flatMap_map,
    List.map_flatMap]
  apply List.flatMap_congr
  intro row _hrow
  exact h.loaded.shownBy_eq (Option.Rel.some h.sameMembers) trivial

theorem RenumbersIn.gatingsIn_eq (h : b.RenumbersIn f category c) :
    c.gatingsIn category = (b.gatingsIn category).map (Gating.renumber f) := by
  rw [gatingsIn, gatingsIn, Loaded.gatings, Loaded.gatings, h.dynamicOptions_eq,
    List.flatMap_map, List.map_flatMap]
  apply List.flatMap_congr
  intro row hrow
  exact h.loaded.gatingsBy_eq (Option.Rel.some h.sameMembers) trivial
    (h.suffix_eq row (List.mem_filter.mp hrow).1)

/-!
# The rule of a category
-/

theorem RenumbersIn.alwaysVisibleIds_eq (h : b.RenumbersIn f category c) :
    (c.compiledRule category).alwaysVisibleIds =
      (b.compiledRule category).alwaysVisibleIds.map f := by
  have hgated : (c.gatingsIn category).map Gating.attributeId =
      ((b.gatingsIn category).map Gating.attributeId).map f := by
    rw [h.gatingsIn_eq, List.map_map, List.map_map]
    rfl
  rw [alwaysVisibleIds_compiledRule, alwaysVisibleIds_compiledRule, h.assignedTo_eq, hgated,
    List.filter_map]
  congr 1
  apply List.filter_congr
  intro a _ha
  rw [Function.comp_apply]
  congr 1
  rw [Bool.eq_iff_iff, List.contains_iff_mem, List.contains_iff_mem]
  exact List.mem_map_of_injective h.injective

theorem RenumbersIn.getElem?_triggers (h : b.RenumbersIn f category c) (t : Id) :
    (c.compiledRule category).triggers[f t]? =
      (b.compiledRule category).triggers[t]?.map (List.map (Group.renumber f)) := by
  have hunder : Gating.under (f t) (c.gatingsIn category) =
      (Gating.under t (b.gatingsIn category)).map (Gating.renumber f) := by
    rw [Gating.under, h.gatingsIn_eq]
    exact filter_map_of_number h.injective Gating.trigger Gating.trigger (fun _g => rfl) t _
  rw [getElem?_triggers_compiledRule, getElem?_triggers_compiledRule, hunder]
  by_cases hnil : Gating.under t (b.gatingsIn category) = []
  · rw [hnil]
    rfl
  · rw [if_neg hnil, if_neg (mt List.map_eq_nil_iff.mp hnil),
      Gating.groups_map_renumber h.injective]
    rfl

theorem RenumbersIn.compiledRule (h : b.RenumbersIn f category c) :
    (b.compiledRule category).Renumbers f (c.compiledRule category) where
  categoryId_eq := by
    rw [categoryId_compiledRule, categoryId_compiledRule]
  attributeIds_eq := by
    rw [attributeIds_compiledRule, attributeIds_compiledRule]
    exact h.assignedTo_eq
  alwaysVisibleIds_eq := h.alwaysVisibleIds_eq
  mem_ungatedOptions_iff := by
    intro id
    rw [mem_ungatedOptions_compiledRule, mem_ungatedOptions_compiledRule, h.shownIn_eq]
    exact List.mem_map_of_injective h.injective
  triggers_eq := h.getElem?_triggers

/-- The category has a rule on both sides or on neither, and both rules say the same. -/
theorem RenumbersIn.finish (h : b.RenumbersIn f category c) :
    Option.Rel (Rule.Renumbers f) b.finish.1.rules[category]? c.finish.1.rules[category]? := by
  have hnil : c.assignedTo category = [] <-> b.assignedTo category = [] := by
    rw [h.assignedTo_eq]
    exact List.map_eq_nil_iff
  rw [getElem?_rules_finish, getElem?_rules_finish]
  by_cases hempty : b.assignedTo category = []
  · rw [if_pos hempty, if_pos (hnil.mpr hempty)]
    exact Option.Rel.none
  · rw [if_neg hempty, if_neg (mt hnil.mp hempty)]
    exact Option.Rel.some h.compiledRule

/-!
# What is left out
-/

theorem Renumbers.linkSkips_eq (h : b.Renumbers f c) :
    linkSkips c.attributes c.options.toList = linkSkips b.attributes b.options.toList := by
  have hleft : (fun o : AttributeOption => !c.attributes.contains o.attributeId) ∘
      AttributeOption.renumber f = fun o => !b.attributes.contains o.attributeId := by
    funext o
    show (!c.attributes.contains (f o.attributeId)) = _
    rw [IdMap.contains_eq_isSome, IdMap.contains_eq_isSome, h.attribute_eq, Option.isSome_map]
  rw [linkSkips, linkSkips, h.listed, List.filter_map, hleft, List.map_map]
  rfl

theorem RenumbersAll.compileSkips_eq (h : b.RenumbersAll f c) :
    c.compileSkips = b.compileSkips := by
  have hassignments : c.assignments.toList.filterMap (assignmentSkip? c.loaded.attributes) =
      b.assignments.toList.filterMap (assignmentSkip? b.loaded.attributes) := by
    rw [h.assignments_eq, List.filterMap_map]
    congr 1
    funext row
    exact h.assignmentSkip?_eq row
  have hdynamic : (c.dynamicOptions.toList.flatMap fun row =>
      c.loaded.skipsBy (c.attributeIdsOf? row.categoryId) row) =
      b.dynamicOptions.toList.flatMap fun row =>
        b.loaded.skipsBy (b.attributeIdsOf? row.categoryId) row := by
    rw [h.dynamicOptions_eq, List.flatMap_map]
    apply List.flatMap_congr
    intro row hrow
    exact h.loaded.skipsBy_eq (h.inCategory row.categoryId).attributeIdsOf?_rel trivial
      (h.suffix_eq row hrow)
  rw [compileSkips, compileSkips, h.linkSkips_eq, hassignments, hdynamic]

end Renumbers

end Builder
end FacetRules
