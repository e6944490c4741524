import FacetRules.Dump
import FacetRules.Proofs.Query.Answer

/-!
# The lines of a section

In a closed catalog no look-up of a dump fails, so the lines of a section can be written down
from what is stored under the numbers of its rule.
-/

namespace FacetRules

/-- A group with the attribute and the options that its numbers lead to. -/
structure StoredGroup where
  owner : Attribute
  options : List AttributeOption

structure StoredTrigger where
  owner : Attribute
  option : AttributeOption
  groups : List StoredGroup

def StoredGroup.lines (g : StoredGroup) : List DumpLine :=
  .gated g.owner :: g.options.map .unlocked

def StoredTrigger.lines (t : StoredTrigger) : List DumpLine :=
  .trigger t.owner t.option :: t.groups.flatMap StoredGroup.lines

theorem DumpLine.render_append (lines more : List DumpLine) :
    render (lines ++ more) = render lines ++ render more := by
  rw [render, List.map_append, String.join_append]
  rfl

theorem DumpLine.render_flatten (sections : List (List DumpLine)) :
    render sections.flatten = String.join (sections.map render) := by
  induction sections with
  | nil =>
      rfl
  | cons lines sections ih =>
      rw [List.flatten_cons, render_append, ih, List.map_cons, String.join_cons]

namespace Catalog

def groupAt? (c : Catalog) (g : Group) : Option StoredGroup :=
  c.attributes[g.attributeId]?.map fun a =>
    { owner := a, options := c.optionsAt g.optionIds }

def triggerAt? (c : Catalog) (entry : Id × List Group) : Option StoredTrigger :=
  c.options[entry.1]?.bind fun o =>
    c.attributes[o.attributeId]?.map fun a =>
      { owner := a, option := o, groups := entry.2.filterMap c.groupAt? }

/-- The triggers of a rule, in ascending order. -/
def triggersAt (c : Catalog) (r : Rule) : List StoredTrigger :=
  r.triggers.toList.filterMap c.triggerAt?

/-- What stands under an attribute that is always visible. -/
def listing (c : Catalog) (maxLines : Nat) (a : Attribute) : List DumpLine :=
  (c.optionsAt (a.optionIds.take maxLines)).map .listed ++
    if maxLines < a.optionIds.length then
      [.omitted (a.optionIds.length - maxLines)]
    else
      []

def visibleLines (c : Catalog) (maxLines : Nat) (r : Rule) : List DumpLine :=
  (c.attributesAt r.alwaysVisibleIds).flatMap fun a => .shown a :: c.listing maxLines a

def triggerLines (c : Catalog) (r : Rule) : List DumpLine :=
  (c.triggersAt r).flatMap StoredTrigger.lines

def headingOf (c : Catalog) (r : Rule) : DumpLine :=
  .heading r.categoryId (c.categories.fullName r.categoryId)
    r.alwaysVisibleIds.length r.attributeIds.length r.triggers.size

def sectionLines (c : Catalog) (maxLines : Nat) (r : Rule) : List DumpLine :=
  c.headingOf r :: c.visibleLines maxLines r ++ c.triggerLines r

/-!
# Look-ups
-/

section LookUp

variable {c : Catalog} {r : Rule}

theorem Closed.dumpVisible_eq (h : c.Closed) {id : Id} {a : Attribute}
    (ha : c.attributes[id]? = some a) (maxLines : Nat) :
    c.dumpVisible maxLines id = .ok (.shown a :: c.listing maxLines a) := by
  have hoptions : forall o, o ∈ a.optionIds.take maxLines -> o ∈ c.options := by
    intro o ho
    exact (h.linked id a o ha (List.mem_of_mem_take ho)).mem_options
  rw [dumpVisible, attributeOf_of_some ha, ok_bind, mapM_optionOf hoptions]
  rfl

theorem ClosedRule.groupAt?_eq (hr : c.ClosedRule r) {t : Id} {groups : List Group} {g : Group}
    (hgroups : r.triggers[t]? = some groups) (hg : g ∈ groups) :
    exists s : StoredGroup, c.groupAt? g = some s ∧ c.attributes[g.attributeId]? = some s.owner ∧
      s.options = c.optionsAt g.optionIds := by
  rcases exists_attribute (hr.group t groups g hgroups hg) with ⟨a, ha⟩
  exact ⟨⟨a, c.optionsAt g.optionIds⟩, by rw [groupAt?, ha]; rfl, ha, rfl⟩

theorem ClosedRule.triggerAt?_eq (hr : c.ClosedRule r) {t : Id} {groups : List Group}
    (hgroups : r.triggers[t]? = some groups) :
    exists s : StoredTrigger, c.triggerAt? (t, groups) = some s ∧ c.options[t]? = some s.option ∧
      c.attributes[s.option.attributeId]? = some s.owner ∧
      s.groups = groups.filterMap c.groupAt? := by
  have ht : t ∈ r.triggers := IdMap.mem_iff_exists.mpr ⟨groups, hgroups⟩
  rcases hr.trigger t ht with ⟨o, ho, hloaded⟩
  rcases exists_attribute hloaded with ⟨a, ha⟩
  exact ⟨⟨a, o, groups.filterMap c.groupAt?⟩, by simp [triggerAt?, ho, ha], ho, ha, rfl⟩

theorem ClosedRule.dumpGroup_eq (hr : c.ClosedRule r) {t : Id} {groups : List Group} {g : Group}
    (hgroups : r.triggers[t]? = some groups) (hg : g ∈ groups) :
    exists lines, c.dumpGroup g = .ok lines ∧
      (c.groupAt? g).map StoredGroup.lines = some lines := by
  rcases hr.groupAt?_eq hgroups hg with ⟨s, hs, hattribute, hoptions⟩
  have hstored : forall id, id ∈ g.optionIds -> id ∈ c.options := by
    intro id hid
    exact (hr.grouped t groups g id hgroups hg hid).mem_options
  refine ⟨s.lines, ?_, by rw [hs]; rfl⟩
  rw [dumpGroup, attributeOf_of_some hattribute, ok_bind, mapM_optionOf hstored,
    StoredGroup.lines, hoptions]
  rfl

theorem ClosedRule.dumpTrigger_eq (hr : c.ClosedRule r) {t : Id} {groups : List Group}
    (hgroups : r.triggers[t]? = some groups) :
    exists lines, c.dumpTrigger (t, groups) = .ok lines ∧
      (c.triggerAt? (t, groups)).map StoredTrigger.lines = some lines := by
  rcases hr.triggerAt?_eq hgroups with ⟨s, hs, hoption, hattribute, hsgroups⟩
  have hlines := mapM_eq_ok fun g hg => hr.dumpGroup_eq hgroups hg
  refine ⟨s.lines, ?_, by rw [hs]; rfl⟩
  rw [dumpTrigger, optionOf_of_some hoption, ok_bind, attributeOf_of_some hattribute, ok_bind,
    hlines, <- List.map_filterMap, <- hsgroups, StoredTrigger.lines]
  rfl

theorem Closed.dumpRule_eq (h : c.Closed) (hr : c.ClosedRule r) (maxLines : Nat) :
    c.dumpRule maxLines r = .ok (c.sectionLines maxLines r) := by
  have hvisible : r.alwaysVisibleIds.mapM (c.dumpVisible maxLines) =
      .ok ((c.attributesAt r.alwaysVisibleIds).map fun a => .shown a :: c.listing maxLines a) := by
    rw [attributesAt, List.map_filterMap]
    apply mapM_eq_ok
    intro id hid
    rcases exists_attribute (hr.visible id hid) with ⟨a, ha⟩
    exact ⟨_, h.dumpVisible_eq ha maxLines, by rw [ha]; rfl⟩
  have htriggers : r.triggers.toList.mapM c.dumpTrigger =
      .ok ((c.triggersAt r).map StoredTrigger.lines) := by
    rw [triggersAt, List.map_filterMap]
    apply mapM_eq_ok
    intro entry hentry
    exact hr.dumpTrigger_eq (IdMap.mem_toList.mp hentry)
  rw [dumpRule, hvisible, ok_bind, htriggers]
  rfl

/-!
# The text of a dump
-/

theorem Closed.dump_eq (h : c.Closed) {options : DumpOptions} {rules : List Rule}
    (hrules : c.rulesToDump options = .ok rules)
    (hclosed : forall r, r ∈ rules -> c.ClosedRule r) :
    c.dump options =
      .ok (String.join
          ((rules.map (c.sectionLines options.effectiveMaxLines)).map DumpLine.render) ++
        ("\n" ++ c.stats.text)) := by
  have hsections : rules.mapM (c.dumpRule options.effectiveMaxLines) =
      .ok (rules.map (c.sectionLines options.effectiveMaxLines)) := by
    rw [<- List.filterMap_eq_map]
    apply mapM_eq_ok
    intro r hr
    exact ⟨_, h.dumpRule_eq (hclosed r hr) _, rfl⟩
  rw [dump, hrules, ok_bind, hsections, ok_bind, DumpLine.render_flatten, String.append_assoc]
  rfl

/-!
# What is stored
-/

theorem Closed.attribute_stored (h : c.Closed) {id : Id} {a : Attribute}
    (ha : c.attributes[id]? = some a) : c.attributes[a.id]? = some a := by
  rw [h.attribute_id id a ha]
  exact ha

theorem Closed.option_stored (h : c.Closed) {id : Id} {o : AttributeOption}
    (ho : c.options[id]? = some o) : c.options[o.id]? = some o := by
  rw [h.option_id id o ho]
  exact ho

theorem ClosedRule.mem_triggersAt (hr : c.ClosedRule r) {s : StoredTrigger}
    (hs : s ∈ c.triggersAt r) :
    exists (t : Id) (groups : List Group),
      r.triggers[t]? = some groups ∧ c.options[t]? = some s.option ∧
      c.attributes[s.option.attributeId]? = some s.owner ∧
      s.groups = groups.filterMap c.groupAt? := by
  rcases List.mem_filterMap.mp hs with ⟨⟨t, groups⟩, hentry, hs⟩
  have hgroups := IdMap.mem_toList.mp hentry
  rcases hr.triggerAt?_eq hgroups with ⟨found, hfound, hstored⟩
  rw [hfound] at hs
  cases hs
  exact ⟨t, groups, hgroups, hstored⟩

theorem ClosedRule.mem_groupsAt (hr : c.ClosedRule r) {t : Id} {groups : List Group}
    (hgroups : r.triggers[t]? = some groups) {s : StoredGroup}
    (hs : s ∈ groups.filterMap c.groupAt?) :
    exists g, g ∈ groups ∧ c.attributes[g.attributeId]? = some s.owner ∧
      s.options = c.optionsAt g.optionIds := by
  rcases List.mem_filterMap.mp hs with ⟨g, hg, hs⟩
  rcases hr.groupAt?_eq hgroups hg with ⟨found, hfound, hstored⟩
  rw [hfound] at hs
  cases hs
  exact ⟨g, hg, hstored⟩

theorem Closed.map_option_triggersAt (h : c.Closed) (hr : c.ClosedRule r) :
    (c.triggersAt r).map (fun t => t.option.id) = r.triggers.keys := by
  rw [triggersAt, map_filterMap_of_some (k := Prod.fst), Std.ExtTreeMap.map_fst_toList_eq_keys]
  intro entry hentry
  rcases hr.triggerAt?_eq (IdMap.mem_toList.mp hentry) with ⟨s, hs, hoption, _hrest⟩
  exact ⟨s, hs, h.option_id entry.1 s.option hoption⟩

end LookUp

end Catalog

/-!
# The lines under a line
-/

theorem StoredGroup.mem_lines {g : StoredGroup} {line : DumpLine} :
    line ∈ g.lines <->
      line = .gated g.owner ∨ exists o, o ∈ g.options ∧ DumpLine.unlocked o = line := by
  rw [StoredGroup.lines, List.mem_cons, List.mem_map]

theorem StoredTrigger.mem_lines {t : StoredTrigger} {line : DumpLine} :
    line ∈ t.lines <->
      line = .trigger t.owner t.option ∨ exists g, g ∈ t.groups ∧ line ∈ g.lines := by
  rw [StoredTrigger.lines, List.mem_cons, List.mem_flatMap]

theorem Catalog.mem_listing {c : Catalog} {maxLines : Nat} {a : Attribute} {line : DumpLine}
    (h : line ∈ c.listing maxLines a) :
    (exists o, o ∈ c.optionsAt (a.optionIds.take maxLines) ∧ DumpLine.listed o = line) ∨
      exists count, line = .omitted count := by
  rcases List.mem_append.mp h with hlisted | homitted
  · exact Or.inl (List.mem_map.mp hlisted)
  · split at homitted
    · exact Or.inr ⟨_, List.mem_singleton.mp homitted⟩
    · cases homitted

end FacetRules
