import FacetRules.Proofs.Expansion.Compiling

/-!
# The rules after all passes

A category has a rule after all passes when it has one without a suffix, and the rule
mentions, pass after pass, the copies of what the single rule mentions.  What is left
out is left out once in every pass.
-/

namespace FacetRules

namespace Builder

section Expansion

variable {b c : Builder} {n p : Nat} {id : Id}

section Category

variable {category : CategoryId}

theorem Expands.inRange_assigned (h : b.Expands n c) (ids : List Id)
    (hids : some (b.assignedTo category) = some ids) (id : Id) (hid : id ∈ ids) :
    InRange b.registry.size id := by
  cases hids
  exact h.inRange_assignedTo hid

theorem Expands.filter_dynamicOptions (h : b.Expands n c) :
    c.dynamicOptions.toList.filter (·.categoryId == category) =
      copies n (DynamicOption.copy b.registry.size)
        (b.dynamicOptions.toList.filter (·.categoryId == category)) := by
  rw [h.dynamicOptions]
  exact filter_copies fun _p _row _hp _hrow => rfl

theorem Expands.shownIn_eq (h : b.Expands n c) :
    c.shownIn category = copies n (copyId b.registry.size) (b.shownIn category) := by
  rw [shownIn, shownIn, Loaded.shown, Loaded.shown, h.filter_dynamicOptions, h.assignedTo_eq]
  apply flatMap_copies
  intro p row hp hrow
  have hrange := h.dynamicOption_range row (List.mem_filter.mp hrow).1
  exact (h.renumbers hp).shownBy_eq (h.members_rel hp h.inRange_assigned) hrange.1

theorem Expands.gatingsIn_eq (h : b.Expands n c) :
    c.gatingsIn category = copies n (Gating.copy b.registry.size) (b.gatingsIn category) := by
  rw [gatingsIn, gatingsIn, Loaded.gatings, Loaded.gatings, h.filter_dynamicOptions,
    h.assignedTo_eq]
  apply flatMap_copies
  intro p row hp hrow
  have hrange := h.dynamicOption_range row (List.mem_filter.mp hrow).1
  exact (h.renumbers hp).gatingsBy_eq (h.members_rel hp h.inRange_assigned) hrange.1 hrange.2

theorem Expands.inRange_gating (h : b.Expands n c) {g : Gating}
    (hg : g ∈ b.gatingsIn category) :
    InRange b.registry.size g.trigger ∧ InRange b.registry.size g.attributeId ∧
      InRange b.registry.size g.optionId := by
  rcases Loaded.mem_gatings.mp hg with
    ⟨row, o, uuids, rejected, uuid, _hrow, _hcategory, hlisting, _huuid, htrigger, ha, ho⟩
  rcases Loaded.triggerOf_eq_ok_iff.mp htrigger with ⟨_hlookup, _hoption, owner, howner, _hloaded⟩
  rcases Loaded.listingOf_eq_behind_iff.mp hlisting with ⟨_henabled, hstored, _hread, _hmem⟩
  have hoption := h.option_range row.optionId o hstored
  refine ⟨(h.option_range g.trigger owner howner).1, ?_, ?_⟩
  · rw [ha]
    exact hoption.2
  · rw [ho, h.option_id row.optionId o hstored]
    exact hoption.1

/-!
# The rule of a category
-/

theorem Expands.alwaysVisibleIds_eq (h : b.Expands n c) :
    (c.compiledRule category).alwaysVisibleIds =
      copies n (copyId b.registry.size) (b.compiledRule category).alwaysVisibleIds := by
  have hgated : (c.gatingsIn category).map Gating.attributeId =
      copies n (copyId b.registry.size) ((b.gatingsIn category).map Gating.attributeId) := by
    rw [h.gatingsIn_eq, map_copies, copies_map]
    rfl
  have hrange : forall a, a ∈ (b.gatingsIn category).map Gating.attributeId ->
      InRange b.registry.size a := by
    intro a ha
    rcases List.mem_map.mp ha with ⟨g, hg, rfl⟩
    exact (h.inRange_gating hg).2.1
  rw [alwaysVisibleIds_compiledRule, alwaysVisibleIds_compiledRule, h.assignedTo_eq, hgated]
  apply filter_copies
  intro p a hp ha
  have hmem := copyId_mem_copies h.bound hrange hp (h.inRange_assignedTo ha)
  rw [<- List.contains_iff_mem, <- List.contains_iff_mem] at hmem
  rw [Bool.eq_iff_iff.mpr hmem]

theorem Expands.mem_ungatedOptions_iff (h : b.Expands n c) :
    id ∈ (c.compiledRule category).ungatedOptions <->
      exists p i, p < n ∧ i ∈ (b.compiledRule category).ungatedOptions ∧
        copyId b.registry.size p i = id := by
  rw [mem_ungatedOptions_compiledRule, h.shownIn_eq, mem_copies]
  simp only [mem_ungatedOptions_compiledRule]

theorem Expands.under_eq (h : b.Expands n c) (hp : p < n) {t : Id}
    (ht : InRange b.registry.size t) :
    Gating.under (copyId b.registry.size p t) (c.gatingsIn category) =
      (Gating.under t (b.gatingsIn category)).map (Gating.copy b.registry.size p) := by
  rw [Gating.under, Gating.under, h.gatingsIn_eq]
  exact filter_copies_of_number Gating.trigger Gating.trigger h.bound (fun _p _g => rfl)
    (fun g hg => (h.inRange_gating hg).1) hp ht

/-- A trigger of a pass brings the copies of the groups into view. -/
theorem Expands.getElem?_triggers (h : b.Expands n c) (hp : p < n) {t : Id}
    (ht : InRange b.registry.size t) :
    (c.compiledRule category).triggers[copyId b.registry.size p t]? =
      (b.compiledRule category).triggers[t]?.map
        (List.map (Group.copy b.registry.size p)) := by
  rw [getElem?_triggers_compiledRule, getElem?_triggers_compiledRule, h.under_eq hp ht]
  by_cases hnil : Gating.under t (b.gatingsIn category) = []
  · rw [hnil]
    rfl
  · have hgroups : Gating.groups ((Gating.under t (b.gatingsIn category)).map
        (Gating.copy b.registry.size p)) = (Gating.groups (Gating.under t
          (b.gatingsIn category))).map (Group.copy b.registry.size p) :=
      Gating.groups_map_renumber (fun _i _j heq => copyId_inj heq) _
    rw [if_neg hnil, if_neg (mt List.map_eq_nil_iff.mp hnil), hgroups]
    rfl

theorem Expands.inRange_trigger (h : b.Expands n c) {t : Id} {groups : List Group}
    (ht : (b.compiledRule category).triggers[t]? = some groups) :
    InRange b.registry.size t := by
  rcases exists_gating_of_trigger ht with ⟨gating, hgating, rfl⟩
  exact (h.inRange_gating hgating).1

theorem Expands.trigger_number (h : b.Expands n c) {t : Id} {groups : List Group}
    (ht : (c.compiledRule category).triggers[t]? = some groups) :
    exists p i, p < n ∧ InRange b.registry.size i ∧ t = copyId b.registry.size p i := by
  rcases exists_gating_of_trigger ht with ⟨gating, hgating, rfl⟩
  rw [h.gatingsIn_eq] at hgating
  rcases mem_copies.mp hgating with ⟨p, single, hp, hsingle, rfl⟩
  exact ⟨p, single.trigger, hp, (h.inRange_gating hsingle).1, rfl⟩

end Category

/-!
# What is left out
-/

theorem Expands.linkSkips_eq (h : b.Expands n c) :
    linkSkips c.attributes c.options.toList =
      copies n (fun _ reason => reason) (linkSkips b.attributes b.options.toList) := by
  have hfilter : (copies n (AttributeOption.copy b.registry.size) b.options.toList).filter
      (fun o => !c.attributes.contains o.attributeId) =
      copies n (AttributeOption.copy b.registry.size)
        (b.options.toList.filter fun o => !b.attributes.contains o.attributeId) := by
    apply filter_copies
    intro p o hp ho
    rcases OptionTable.mem_toList.mp ho with ⟨number, hstored⟩
    have hloaded := h.contains_loaded hp (h.option_range number o hstored).2
    rw [contains_attributes_loaded, contains_attributes_loaded] at hloaded
    exact congrArg not hloaded
  rw [linkSkips, linkSkips, h.listed, hfilter, map_copies, copies_map]

theorem Expands.compileSkips_eq (h : b.Expands n c) (reason : SkipReason) :
    c.compileSkips.count reason = n * b.compileSkips.count reason := by
  have hassignments : c.assignments.toList.filterMap (assignmentSkip? c.loaded.attributes) =
      copies n (fun _ reason => reason)
        (b.assignments.toList.filterMap (assignmentSkip? b.loaded.attributes)) := by
    rw [h.assignments]
    apply filterMap_copies
    intro p row hp hrow
    rw [h.assignmentSkip?_eq hp hrow, Option.map_id']
  have hdynamic : (c.dynamicOptions.toList.flatMap fun row =>
      c.loaded.skipsBy (c.attributeIdsOf? row.categoryId) row) =
      copies n (fun _ reason => reason) (b.dynamicOptions.toList.flatMap fun row =>
        b.loaded.skipsBy (b.attributeIdsOf? row.categoryId) row) := by
    rw [h.dynamicOptions]
    apply flatMap_copies
    intro p row hp hrow
    have hids : forall ids, b.attributeIdsOf? row.categoryId = some ids -> forall id, id ∈ ids ->
        InRange b.registry.size id := by
      intro ids hids id hid
      unfold attributeIdsOf? at hids
      split at hids
      · cases hids
      · cases hids
        exact h.inRange_assignedTo hid
    rw [List.map_id']
    have hrange := h.dynamicOption_range row hrow
    change c.loaded.skipsBy (c.attributeIdsOf? row.categoryId) _ = _
    rw [h.attributeIdsOf?_eq]
    exact (h.renumbers hp).skipsBy_eq (h.members_rel hp hids) hrange.1 hrange.2
  rw [compileSkips, compileSkips, h.linkSkips_eq, hassignments, hdynamic, List.count_append,
    List.count_append, List.count_append, List.count_append, count_copies, count_copies,
    count_copies, Nat.mul_add, Nat.mul_add]

end Expansion

end Builder
end FacetRules
