import FacetRules.Proofs.Catalog.Totality
import FacetRules.Proofs.Dump.Texts
import FacetRules.Proofs.Query.Smallest

/-!
# The sections of a dump

The section of a rule shows the attributes that are always visible with the first of their
options, and everything that a trigger brings into view.  The dump of all categories is made of
the sections that the dumps of the single ones show.
-/

namespace FacetRules

/-!
# The section of a rule
-/

namespace Catalog

open DumpLine

/-- Under an attribute stand the first of its options, in their order, and then how many there
are beyond them. -/
structure Lists (maxLines : Nat) (a : Attribute) (lines : List DumpLine) : Prop where
  options : (lines.filterMap listed?).map AttributeOption.id = a.optionIds.take maxLines
  number : (lines.filterMap listed?).length = min a.optionIds.length maxLines
  layout : lines = (lines.filterMap listed?).map listed ++
    if maxLines < a.optionIds.length then
      [.omitted (a.optionIds.length - maxLines)]
    else
      []
  total : (lines.filterMap listed?).length + skipped lines = a.optionIds.length

/-- The lines are a section for the rule: they show what is stored, the attributes that are always
visible with the first of their options, and what every trigger brings into view. -/
structure IsSection (c : Catalog) (maxLines : Nat) (r : Rule) (lines : List DumpLine) : Prop where
  heading : lines.head? =
    some (.heading r.categoryId (c.categories.fullName r.categoryId)
      r.alwaysVisibleIds.length r.attributeIds.length r.triggers.size)
  stored : forall line, line ∈ lines -> line.Stored c
  visible : (blocks shown? lines).map (fun block => block.1.id) = r.alwaysVisibleIds
  listing : forall a below, (a, below) ∈ blocks shown? lines -> Lists maxLines a below
  triggers : (blocks trigger? lines).map (fun block => block.1.id) = r.triggers.keys
  ascending : ((blocks trigger? lines).map fun block => block.1.id).Pairwise fun t u => t < u
  entries : DumpLine.entries lines = r.entries
  times : forall t a o, (DumpLine.entries lines).count (t, a, o) = r.timesStored t a o

section Section

variable {c : Catalog} {r : Rule}

theorem listed_listing (c : Catalog) (maxLines : Nat) (a : Attribute) :
    (c.listing maxLines a).filterMap listed? = c.optionsAt (a.optionIds.take maxLines) := by
  have hlisted : forall options : List AttributeOption,
      (options.map listed).filterMap listed? = options := by
    intro options
    rw [List.filterMap_map]
    exact List.filterMap_some
  rw [listing, List.filterMap_append, hlisted]
  split
  · exact List.append_nil _
  · exact List.append_nil _

theorem skipped_listing (c : Catalog) (maxLines : Nat) (a : Attribute) :
    skipped (c.listing maxLines a) = a.optionIds.length - maxLines := by
  have hlisted : forall options : List AttributeOption,
      (options.map listed).filterMap omitted? = [] := by
    intro options
    rw [List.filterMap_map]
    exact List.filterMap_eq_nil_iff.mpr fun _ _ => rfl
  rw [skipped, listing, List.filterMap_append, hlisted, List.nil_append]
  split
  · rfl
  · rename_i hall
    exact (Nat.sub_eq_zero_of_le (Nat.le_of_not_lt hall)).symm

theorem Closed.lists_listing (h : c.Closed) {id : Id} {a : Attribute}
    (ha : c.attributes[id]? = some a) (maxLines : Nat) :
    Lists maxLines a (c.listing maxLines a) := by
  have hoptions : (c.optionsAt (a.optionIds.take maxLines)).map AttributeOption.id =
      a.optionIds.take maxLines := by
    apply h.map_id_optionsAt
    intro o ho
    exact (h.linked id a o ha (List.mem_of_mem_take ho)).mem_options
  have hnumber : (c.optionsAt (a.optionIds.take maxLines)).length =
      min a.optionIds.length maxLines := by
    rw [<- List.length_map AttributeOption.id, hoptions, List.length_take, Nat.min_comm]
  rw [<- listed_listing] at hoptions hnumber
  refine ⟨hoptions, hnumber, by rw [listed_listing]; rfl, ?_⟩
  rw [hnumber, skipped_listing]
  omega

theorem Closed.stored_listing (h : c.Closed) {maxLines : Nat} {a : Attribute} {line : DumpLine}
    (hline : line ∈ c.listing maxLines a) : line.Stored c := by
  rcases mem_listing hline with ⟨o, ho, rfl⟩ | ⟨count, rfl⟩
  · rcases mem_optionsAt.mp ho with ⟨id, _hid, hstored⟩
    exact h.option_stored hstored
  · trivial

theorem Closed.stored_sectionLines (h : c.Closed) {category : CategoryId}
    (hrule : c.rules[category]? = some r) {maxLines : Nat} {line : DumpLine}
    (hline : line ∈ c.sectionLines maxLines r) : line.Stored c := by
  have hr := h.rule category r hrule
  rcases List.mem_append.mp hline with hline | hline
  · rcases List.mem_cons.mp hline with rfl | hline
    · refine ⟨r, ?_, rfl, rfl, rfl, rfl⟩
      rw [h.rule_category category r hrule]
      exact hrule
    · rcases List.mem_flatMap.mp hline with ⟨a, ha, hline⟩
      rcases List.mem_cons.mp hline with rfl | hline
      · rcases List.mem_filterMap.mp ha with ⟨id, _hid, hstored⟩
        exact h.attribute_stored hstored
      · exact h.stored_listing hline
  · rcases List.mem_flatMap.mp hline with ⟨t, ht, hline⟩
    rcases hr.mem_triggersAt ht with ⟨id, groups, hgroups, hoption, howner, htgroups⟩
    rcases StoredTrigger.mem_lines.mp hline with rfl | ⟨g, hg, hline⟩
    · exact ⟨h.option_stored hoption, (h.attribute_id _ _ howner).symm,
        h.attribute_stored howner⟩
    · rw [htgroups] at hg
      rcases hr.mem_groupsAt hgroups hg with ⟨group, _hgroup, howner, hoptions⟩
      rcases StoredGroup.mem_lines.mp hline with rfl | ⟨o, ho, rfl⟩
      · exact h.attribute_stored howner
      · rw [hoptions] at ho
        rcases mem_optionsAt.mp ho with ⟨id, _hid, hstored⟩
        exact h.option_stored hstored

theorem Closed.entries_sectionLines_eq (h : c.Closed) (hr : c.ClosedRule r) (maxLines : Nat) :
    DumpLine.entries (c.sectionLines maxLines r) = r.entries := by
  rw [entries_sectionLines, triggersAt, Rule.entries]
  apply flatMap_filterMap_of_some
  intro entry hentry
  have hgroups := IdMap.mem_toList.mp hentry
  rcases hr.triggerAt?_eq hgroups with ⟨t, ht, hoption, _howner, htgroups⟩
  refine ⟨t, ht, ?_⟩
  rw [htgroups, Rule.entriesUnder]
  apply flatMap_filterMap_of_some
  intro group hgroup
  rcases hr.groupAt?_eq hgroups hgroup with ⟨g, hg, howner, hoptions⟩
  refine ⟨g, hg, ?_⟩
  have hids : g.options.map AttributeOption.id = group.optionIds := by
    rw [hoptions]
    apply h.map_id_optionsAt
    intro id hid
    exact (hr.grouped entry.1 entry.2 group id hgroups hgroup hid).mem_options
  rw [h.option_id entry.1 t.option hoption, h.attribute_id group.attributeId g.owner howner,
    <- hids, List.map_map]
  rfl

theorem Closed.isSection (h : c.Closed) {category : CategoryId}
    (hrule : c.rules[category]? = some r) (maxLines : Nat) :
    IsSection c maxLines r (c.sectionLines maxLines r) where
  heading := rfl
  stored := fun line hline => h.stored_sectionLines hrule hline
  visible := by
    rw [blocks_shown_sectionLines, List.map_map]
    exact h.map_id_attributesAt (h.rule category r hrule).visible
  listing := by
    intro a below hblock
    rw [blocks_shown_sectionLines] at hblock
    rcases List.mem_map.mp hblock with ⟨stored, hstored, heq⟩
    cases heq
    rcases List.mem_filterMap.mp hstored with ⟨id, _hid, ha⟩
    exact h.lists_listing ha maxLines
  triggers := by
    rw [blocks_trigger_sectionLines, List.map_map]
    exact h.map_option_triggersAt (h.rule category r hrule)
  ascending := by
    rw [blocks_trigger_sectionLines, List.map_map]
    show ((c.triggersAt r).map fun t => t.option.id).Pairwise _
    rw [h.map_option_triggersAt (h.rule category r hrule)]
    exact IdMap.pairwise_keys r.triggers
  entries := h.entries_sectionLines_eq (h.rule category r hrule) maxLines
  times := by
    intro t a o
    rw [h.entries_sectionLines_eq (h.rule category r hrule)]
    exact r.count_entries t a o

end Section

/-!
# Dumps
-/

/-- The section of a category, without lines where there is no rule. -/
def sectionOf (c : Catalog) (maxLines : Nat) (category : CategoryId) : List DumpLine :=
  (c.rules[category]?.map (c.sectionLines maxLines)).getD []

section Dump

variable {c : Catalog}

theorem sectionOf_of_some {category : CategoryId} {r : Rule}
    (hr : c.rules[category]? = some r) (maxLines : Nat) :
    c.sectionOf maxLines category = c.sectionLines maxLines r := by
  rw [sectionOf, hr]
  rfl

theorem Closed.stored_sectionOf (h : c.Closed) {maxLines : Nat} {category : CategoryId}
    {line : DumpLine} (hline : line ∈ c.sectionOf maxLines category) : line.Stored c := by
  cases hr : c.rules[category]? with
  | none =>
      rw [sectionOf, hr] at hline
      cases hline
  | some r =>
      rw [sectionOf_of_some hr] at hline
      exact h.stored_sectionLines hr hline

theorem map_sectionLines_ruleList (maxLines : Nat) :
    c.ruleList.map (c.sectionLines maxLines) = c.rules.keys.map (c.sectionOf maxLines) := by
  rw [ruleList, <- Std.ExtTreeMap.map_fst_toList_eq_keys, List.map_map, List.map_map]
  apply List.map_congr_left
  intro entry hentry
  exact (sectionOf_of_some (IdMap.mem_toList.mp hentry) maxLines).symm

theorem Closed.dump_of_some (h : c.Closed) {category : CategoryId} {r : Rule}
    (hr : c.rules[category]? = some r) (maxLines : UInt64) :
    c.dump { category := some category, maxLines } =
      .ok (render (c.sectionOf (if maxLines = 0 then 5 else maxLines.toNat) category) ++
        ("\n" ++ c.stats.text)) := by
  have hclosed : forall s, s ∈ [r] -> c.ClosedRule s := by
    intro s hs
    rw [List.mem_singleton.mp hs]
    exact h.rule category r hr
  rw [h.dump_eq (rulesToDump_of_some rfl hr) hclosed, sectionOf_of_some hr, List.map_singleton,
    List.map_singleton, String.join_cons, String.join_nil, String.append_empty]
  rfl

theorem Closed.dump_eq_ok_iff (h : c.Closed) {category : CategoryId} {maxLines : UInt64}
    {text : String} :
    c.dump { category := some category, maxLines } = .ok text <->
      category ∈ c.rules ∧
        text = render (c.sectionOf (if maxLines = 0 then 5 else maxLines.toNat) category) ++
          ("\n" ++ c.stats.text) := by
  cases hr : c.rules[category]? with
  | none =>
      rw [dump, rulesToDump_of_none rfl hr, Std.ExtTreeMap.mem_iff_isSome_getElem?, hr]
      constructor
      · intro htext
        cases htext
      · intro hboth
        cases hboth.1
  | some r =>
      rw [h.dump_of_some hr, Std.ExtTreeMap.mem_iff_isSome_getElem?, hr]
      constructor
      · intro htext
        cases htext
        exact ⟨rfl, rfl⟩
      · intro hboth
        rw [hboth.2]

theorem Closed.dump_all (h : c.Closed) (maxLines : UInt64) :
    c.dump { maxLines } =
      .ok (String.join (c.rules.keys.map fun category =>
          render (c.sectionOf (if maxLines = 0 then 5 else maxLines.toNat) category)) ++
        ("\n" ++ c.stats.text)) := by
  rw [h.dump_eq (rulesToDump_of_all rfl) fun r hr => h.closedRule_of_mem_ruleList hr,
    map_sectionLines_ruleList, List.map_map]
  rfl

end Dump

end Catalog
end FacetRules
