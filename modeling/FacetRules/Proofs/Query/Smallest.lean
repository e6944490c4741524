import FacetRules.Proofs.Query.Pages

/-!
# The smallest group counts

Of the groups that an attribute has under the selected triggers the smallest one is shown, and
of several that are equally small the one under the trigger that was selected first.  What an
answer shows behind the attributes that are always visible can be said in this way, without
the steps in which the groups are recorded.
-/

namespace FacetRules

namespace Rule

def HasGroup (r : Rule) (t : Id) (g : Group) : Prop :=
  exists groups, r.triggers[t]? = some groups ∧ g ∈ groups

/-- Under a trigger an attribute has one group, and the group has options. -/
structure Grouped (r : Rule) : Prop where
  nodup : forall (t : Id) (groups : List Group),
    r.triggers[t]? = some groups -> (groups.map Group.attributeId).Nodup
  optionIds_ne_nil : forall (t : Id) (g : Group), r.HasGroup t g -> g.optionIds ≠ []

/-- No group of the same attribute under the triggers is smaller, and each one under an earlier
trigger is larger. -/
def Prefers (r : Rule) (triggers : List Id) (g : Group) : Prop :=
  exists (before : List Id) (t : Id) (after : List Id),
    triggers = before ++ t :: after ∧ r.HasGroup t g ∧
      (forall (s : Id) (h : Group), s ∈ triggers -> r.HasGroup s h ->
        h.attributeId = g.attributeId -> g.optionIds.length ≤ h.optionIds.length) ∧
      forall (s : Id) (h : Group), s ∈ before -> r.HasGroup s h ->
        h.attributeId = g.attributeId -> g.optionIds.length < h.optionIds.length

/-- The selected options that are triggers, in the order of their first selection. -/
def selectedTriggers (r : Rule) (q : Conditions) : List Id :=
  q.selectedOptions.filter fun id => r.triggers.contains id

/-- The attributes with a group under one of the triggers, in the order in which they come up. -/
def attributesUnder (r : Rule) (triggers : List Id) : List Id :=
  (triggers.flatMap fun t => (r.triggers.getD t []).map Group.attributeId).eraseDups

end Rule

/-- What an answer offers, by numbers: the attributes, each with its options. -/
def Visible.numbers (v : Visible) : List (Id × List Id) :=
  v.attributes.map fun a => (a.id, a.options.map VisibleOption.id)

/-!
# Rules that are compiled
-/

section Compiled

open Builder

theorem Builder.grouped_compiledRule (b : Builder) (category : CategoryId) :
    (b.compiledRule category).Grouped where
  nodup := (groupedBy_compiledRule b category).nodup
  optionIds_ne_nil := by
    intro t g hgroup
    rcases hgroup with ⟨groups, hgroups, hg⟩
    exact optionIds_ne_nil_of_group hgroups hg

theorem Catalog.Compiled.grouped {c : Catalog} (h : c.Compiled) {category : CategoryId}
    {r : Rule} (hr : c.rules[category]? = some r) : r.Grouped := by
  induction h generalizing r with
  | finish tree calls =>
      rw [(rules_finish_eq_some hr).2]
      exact grouped_compiledRule _ category
  | presort _hc ih =>
      rw [Catalog.getElem?_rules_presort] at hr
      rcases Option.map_eq_some_iff.mp hr with ⟨stored, hstored, rfl⟩
      -- Sorting leaves the triggers of a rule as they are.
      exact ⟨(ih hstored).nodup, (ih hstored).optionIds_ne_nil⟩
  | withCategories tree _hc ih =>
      exact ih hr

end Compiled

namespace Catalog

/-!
# Which group is recorded
-/

/-- A group takes the place of a larger one of its attribute, and gives way to the others. -/
theorem mem_recordGroup_of_nodup {g k : Group} {us : List Group}
    (hus : (us.map Group.attributeId).Nodup) (hg : g ∈ recordGroup k us) :
    (g = k ∧ forall u, u ∈ us -> u.attributeId = k.attributeId ->
        k.optionIds.length < u.optionIds.length) ∨
      (g ∈ us ∧ (k.attributeId = g.attributeId ->
        g.optionIds.length ≤ k.optionIds.length)) := by
  induction us with
  | nil =>
      refine Or.inl ⟨List.mem_singleton.mp hg, ?_⟩
      intro u hu
      cases hu
  | cons u us ih =>
      rcases List.nodup_cons.mp hus with ⟨hu, hus⟩
      have hother : forall v, v ∈ us -> v.attributeId ≠ u.attributeId := by
        intro v hv heq
        exact hu (List.mem_map.mpr ⟨v, hv, heq⟩)
      rw [recordGroup] at hg
      by_cases hhead : u.attributeId = k.attributeId
      · rw [if_pos hhead] at hg
        rcases List.mem_cons.mp hg with hg | hg
        · by_cases hsmaller : k.optionIds.length < u.optionIds.length
          · rw [if_pos hsmaller] at hg
            refine Or.inl ⟨hg, ?_⟩
            intro v hv hid
            rcases List.mem_cons.mp hv with rfl | hv
            · exact hsmaller
            · exact absurd (hid.trans hhead.symm) (hother v hv)
          · rw [if_neg hsmaller] at hg
            rw [hg]
            exact Or.inr ⟨by simp, fun _ => Nat.le_of_not_lt hsmaller⟩
        · refine Or.inr ⟨by simp [hg], ?_⟩
          intro hid
          exact absurd (hid.symm.trans hhead.symm) (hother g hg)
      · rw [if_neg hhead] at hg
        rcases List.mem_cons.mp hg with rfl | hg
        · exact Or.inr ⟨by simp, fun hid => absurd hid.symm hhead⟩
        · rcases ih hus hg with ⟨rfl, hall⟩ | ⟨hmem, hle⟩
          · refine Or.inl ⟨rfl, ?_⟩
            intro v hv hid
            rcases List.mem_cons.mp hv with rfl | hv
            · exact absurd hid hhead
            · exact hall v hv hid
          · exact Or.inr ⟨by simp [hmem], hle⟩

theorem nodup_attributeIds_recordAll (gs : List Group) :
    ((recordAll gs).map Group.attributeId).Nodup := by
  rw [attributeIds_recordAll]
  exact nodup_eraseDups _

/-- What is recorded of an attribute is the first of its smallest groups. -/
theorem exists_split_of_mem_recordAll {gs : List Group} {g : Group} (hg : g ∈ recordAll gs) :
    exists front back, gs = front ++ g :: back ∧
      (forall h, h ∈ gs -> h.attributeId = g.attributeId ->
        g.optionIds.length ≤ h.optionIds.length) ∧
      forall h, h ∈ front -> h.attributeId = g.attributeId ->
        g.optionIds.length < h.optionIds.length := by
  induction gs using List.reverseRecOn generalizing g with
  | nil =>
      cases hg
  | append_singleton gs k ih =>
      rw [recordAll_append_singleton] at hg
      rcases mem_recordGroup_of_nodup (nodup_attributeIds_recordAll gs) hg with
        ⟨rfl, hsmaller⟩ | ⟨hg, hle⟩
      · -- The new group is smaller than the recorded one, which is as small as any before.
        have hfront : forall h, h ∈ gs -> h.attributeId = g.attributeId ->
            g.optionIds.length < h.optionIds.length := by
          intro h hh hid
          have hrecorded : h.attributeId ∈ (recordAll gs).map Group.attributeId := by
            rw [attributeIds_recordAll, List.mem_eraseDups]
            exact List.mem_map.mpr ⟨h, hh, rfl⟩
          rcases List.mem_map.mp hrecorded with ⟨u, hu, huid⟩
          rcases ih hu with ⟨_front, _back, _hsplit, hleast, _hfirst⟩
          exact Nat.lt_of_lt_of_le (hsmaller u hu (huid.trans hid)) (hleast h hh huid.symm)
        refine ⟨gs, [], rfl, ?_, hfront⟩
        intro h hh hid
        rcases List.mem_append.mp hh with hh | hh
        · exact Nat.le_of_lt (hfront h hh hid)
        · rw [List.mem_singleton.mp hh]
      · rcases ih hg with ⟨front, back, hsplit, hleast, hfirst⟩
        refine ⟨front, back ++ [k], by rw [hsplit]; simp, ?_, hfirst⟩
        intro h hh hid
        rcases List.mem_append.mp hh with hh | hh
        · exact hleast h hh hid
        · rw [List.mem_singleton.mp hh] at hid ⊢
          exact hle hid

/-- A place in a list that is put together from parts lies in one of the parts. -/
theorem exists_part_of_flatMap {α β : Type} {f : α -> List β} {xs : List α} {front back : List β}
    {y : β} (h : xs.flatMap f = front ++ y :: back) :
    exists before x after, xs = before ++ x :: after ∧ y ∈ f x ∧ before.flatMap f <+: front := by
  induction xs generalizing front with
  | nil =>
      exact absurd h (by simp)
  | cons x xs ih =>
      rw [List.flatMap_cons] at h
      rcases List.append_eq_append_iff.mp h with ⟨rest, hfront, hrest⟩ | ⟨rest, hpart, hrest⟩
      · rcases ih hrest with ⟨before, x', after, hxs, hy, hbefore⟩
        refine ⟨x :: before, x', after, by rw [hxs]; rfl, hy, ?_⟩
        rw [List.flatMap_cons, hfront]
        exact (List.prefix_append_right_inj (f x)).mpr hbefore
      · cases rest with
        | nil =>
            rw [List.append_nil] at hpart
            have hstart : xs.flatMap f = [] ++ y :: back := hrest.symm
            rcases ih hstart with ⟨before, x', after, hxs, hy, hbefore⟩
            refine ⟨x :: before, x', after, by rw [hxs]; rfl, hy, ?_⟩
            rw [List.flatMap_cons, hpart, List.prefix_nil.mp hbefore, List.append_nil]
        | cons y' rest =>
            cases hrest
            exact ⟨[], x, xs, rfl, by rw [hpart]; simp, List.nil_prefix⟩

/-!
# Groups under triggers
-/

section Triggers

variable {r : Rule}

theorem mem_groupsUnder_iff {selected : List Id} {g : Group} :
    g ∈ groupsUnder r selected <-> exists t, t ∈ selected ∧ r.HasGroup t g := by
  rw [mem_groupsUnder]
  constructor
  · intro hexists
    rcases hexists with ⟨t, groups, ht, hgroup⟩
    exact ⟨t, ht, groups, hgroup⟩
  · intro hexists
    rcases hexists with ⟨t, ht, groups, hgroup⟩
    exact ⟨t, groups, ht, hgroup⟩

/-- An option that is no trigger brings nothing into view. -/
theorem groupsUnder_selectedTriggers (r : Rule) (q : Conditions) :
    groupsUnder r (r.selectedTriggers q) = groupsUnder r q.selectedOptions := by
  rw [Rule.selectedTriggers, groupsUnder, groupsUnder]
  induction q.selectedOptions with
  | nil =>
      rfl
  | cons id ids ih =>
      cases hid : r.triggers.contains id with
      | true =>
          rw [List.filter_cons_of_pos hid, List.flatMap_cons, List.flatMap_cons, ih]
      | false =>
          have hnone : r.triggers.getD id [] = [] :=
            Std.ExtTreeMap.getD_eq_fallback (ne_true_of_eq_false hid)
          rw [List.filter_cons_of_neg (ne_true_of_eq_false hid), List.flatMap_cons, ih, hnone,
            List.nil_append]

theorem unlockedGroups_selectedTriggers (r : Rule) (q : Conditions) :
    unlockedGroups r q.selectedOptions = unlockedGroups r (r.selectedTriggers q) := by
  rw [unlockedGroups_eq, unlockedGroups_eq, groupsUnder_selectedTriggers]

theorem prefers_of_mem_unlockedGroups {triggers : List Id} {g : Group}
    (hg : g ∈ unlockedGroups r triggers) : r.Prefers triggers g := by
  rw [unlockedGroups_eq] at hg
  rcases exists_split_of_mem_recordAll hg with ⟨front, back, hsplit, hleast, hfirst⟩
  rcases exists_part_of_flatMap hsplit with ⟨before, t, after, htriggers, hmem, hbefore⟩
  have hgroup : r.HasGroup t g := by
    have ht : g ∈ groupsUnder r [t] := by
      simpa [groupsUnder] using hmem
    rcases mem_groupsUnder_iff.mp ht with ⟨s, hs, hgroup⟩
    rw [List.mem_singleton.mp hs] at hgroup
    exact hgroup
  refine ⟨before, t, after, htriggers, hgroup, ?_, ?_⟩
  · intro s h hs hh hid
    exact hleast h (mem_groupsUnder_iff.mpr ⟨s, hs, hh⟩) hid
  · intro s h hs hh hid
    exact hfirst h (hbefore.mem (mem_groupsUnder_iff.mpr ⟨s, hs, hh⟩)) hid

theorem attributeIds_unlockedGroups_eq (r : Rule) (triggers : List Id) :
    (unlockedGroups r triggers).map Group.attributeId = r.attributesUnder triggers := by
  rw [attributeIds_unlockedGroups, groupsUnder, List.map_flatMap, Rule.attributesUnder]

end Triggers

/-!
# Answers
-/

/-- The entries show, for every attribute with a group under one of the triggers, the group
that counts: all its options in their order, whatever the filter and the page size. -/
structure ShowsGroups (c : Catalog) (r : Rule) (triggers : List Id)
    (entries : List VisibleAttribute) : Prop where
  ids_eq : entries.map VisibleAttribute.id = r.attributesUnder triggers
  group : forall v, v ∈ entries -> exists g, r.Prefers triggers g ∧ g.attributeId = v.id ∧
    v.options.map VisibleOption.id = g.optionIds
  title : forall v, v ∈ entries -> c.attributes[v.id]?.map Attribute.title = some v.title
  option_title : forall v o, v ∈ entries -> o ∈ v.options ->
    c.options[o.id]?.map AttributeOption.title = some o.title
  options_ne_nil : forall v, v ∈ entries -> v.options ≠ []

section Parts

variable {c : Catalog} {r : Rule}

theorem ids_unlockedPart_eq (h : c.Closed) (hr : c.ClosedRule r) (q : Conditions) :
    (c.unlockedPart r q).map VisibleAttribute.id = r.attributesUnder (r.selectedTriggers q) := by
  rw [h.ids_unlockedPart hr, <- groupsUnder_selectedTriggers, <- attributeIds_unlockedGroups,
    attributeIds_unlockedGroups_eq]

/-- A group under a trigger has an entry, which shows its attribute and its options. -/
theorem Closed.exists_entry (h : c.Closed) (hr : c.ClosedRule r) {t : Id} {g : Group}
    (hgroup : r.HasGroup t g) :
    exists v, c.unlocked? g = some v ∧ v.id = g.attributeId ∧
      v.options.map VisibleOption.id = g.optionIds := by
  rcases hgroup with ⟨groups, hgroups, hg⟩
  rcases exists_attribute (hr.group t groups g hgroups hg) with ⟨a, ha⟩
  refine ⟨_, by rw [unlocked?, ha]; rfl, h.attribute_id g.attributeId a ha, ?_⟩
  rw [List.map_map]
  apply h.map_id_optionsAt
  intro id hid
  exact (hr.grouped t groups g id hgroups hg hid).mem_options

/-- An entry that was brought into view shows a group under a selected option. -/
theorem Closed.exists_group_of_entry (h : c.Closed) (hr : c.ClosedRule r) {q : Conditions}
    {v : VisibleAttribute} (hv : v ∈ c.unlockedPart r q) :
    exists g, g ∈ unlockedGroups r q.selectedOptions ∧ c.unlocked? g = some v ∧
      v.id = g.attributeId ∧ v.options.map VisibleOption.id = g.optionIds := by
  rcases List.mem_filterMap.mp hv with ⟨g, hg, hentry⟩
  rcases mem_unlockedGroups hg with ⟨t, groups, _ht, hgroup⟩
  rcases h.exists_entry hr ⟨groups, hgroup⟩ with ⟨w, hw, hid, hoptions⟩
  rw [hentry] at hw
  cases hw
  exact ⟨g, hg, hentry, hid, hoptions⟩

theorem Closed.ids_unlockedPart_groups (h : c.Closed) (hr : c.ClosedRule r) (q : Conditions) :
    (c.unlockedPart r q).map VisibleAttribute.id =
      (unlockedGroups r q.selectedOptions).map Group.attributeId := by
  rw [h.ids_unlockedPart hr, attributeIds_unlockedGroups]

theorem Closed.showsGroups_unlockedPart (h : c.Closed) (hr : c.ClosedRule r)
    (hgrouped : r.Grouped) (q : Conditions) :
    c.ShowsGroups r (r.selectedTriggers q) (c.unlockedPart r q) where
  ids_eq := ids_unlockedPart_eq h hr q
  group := by
    intro v hv
    rcases h.exists_group_of_entry hr hv with ⟨g, hg, _hentry, hid, hoptions⟩
    rw [unlockedGroups_selectedTriggers] at hg
    exact ⟨g, prefers_of_mem_unlockedGroups hg, hid.symm, hoptions⟩
  title := by
    intro v hv
    rcases mem_unlockedPart.mp hv with ⟨g, a, _hg, ha, rfl⟩
    show c.attributes[a.id]?.map Attribute.title = some a.title
    rw [h.attribute_id g.attributeId a ha, ha]
    rfl
  option_title := by
    intro v shown hv hshown
    rcases mem_unlockedPart.mp hv with ⟨g, a, _hg, _ha, rfl⟩
    rcases List.mem_map.mp hshown with ⟨o, ho, rfl⟩
    rcases mem_optionsAt.mp ho with ⟨id, _hid, hstored⟩
    show c.options[o.id]?.map AttributeOption.title = some o.title
    rw [h.option_id id o hstored, hstored]
    rfl
  options_ne_nil := by
    intro v hv hnil
    rcases h.exists_group_of_entry hr hv with ⟨g, hg, _hentry, _hid, hoptions⟩
    rcases mem_unlockedGroups hg with ⟨t, groups, _ht, hgroup⟩
    rw [hnil] at hoptions
    exact hgrouped.optionIds_ne_nil t g ⟨groups, hgroup⟩ hoptions.symm

/-- What comes into view depends on the selected options alone, not on the attributes that they
were selected for. -/
theorem attributes_answer_congr (c : Catalog) (r : Rule) (category : CategoryId) {q : Conditions}
    {pairs : List Pair} (hpairs : pairs.map Pair.optionId = q.pairs.map Pair.optionId) :
    (c.answer r category { q with pairs }).attributes = (c.answer r category q).attributes := by
  have hselected : Conditions.selectedOptions { q with pairs } = q.selectedOptions := by
    rw [Conditions.selectedOptions, Conditions.selectedOptions, hpairs]
  show c.alwaysPart r q ++ c.unlockedPart r { q with pairs } =
    c.alwaysPart r q ++ c.unlockedPart r q
  rw [unlockedPart, unlockedPart, hselected]

end Parts

/-- Behind the pages of what is always visible, an answer has one entry for every attribute
with a group under a selected trigger, in the order in which these come up, and shows the
group that counts. -/
theorem Compiled.shows_groups {c : Catalog} (h : c.Compiled) {category : CategoryId}
    {q : Conditions} (hq : q.categoryIds = [category]) {v : Visible} (hv : c.find q = .ok v) :
    exists r, c.rules[category]? = some r ∧ r.Grouped ∧
      (exists entries,
        v.attributes =
            c.firstPages q.filters (effectivePageSize q.pageSize).toNat r.alwaysVisibleIds ++
              entries ∧
          c.ShowsGroups r (r.selectedTriggers q) entries) ∧
      forall pairs, pairs.map Pair.optionId = q.pairs.map Pair.optionId ->
        exists w, c.find { q with pairs } = .ok w ∧ w.attributes = v.attributes := by
  rcases h.closed.eq_of_find hv with ⟨hids, _hempty⟩ | ⟨named, r, hids, hr, rfl⟩
  · rw [hq] at hids
    cases hids
  · rw [hq] at hids
    cases hids
    have hgrouped := h.grouped hr
    refine ⟨r, hr, hgrouped, ?_, ?_⟩
    · refine ⟨c.unlockedPart r q, ?_, ?_⟩
      · rw [<- alwaysPart_eq_firstPages]
        rfl
      · exact h.closed.showsGroups_unlockedPart (h.closed.rule category r hr) hgrouped q
    · intro pairs hpairs
      refine ⟨c.answer r category { q with pairs }, h.closed.find_eq hr hq, ?_⟩
      exact attributes_answer_congr c r category hpairs

/-- The catalog of a shop whose boots come in size 42 alone, and its shoes in size 43 as well. -/
def boots : Catalog :=
  (((∅ : Builder).withCategories ∅).performAll
    [.fields .attributes ["kind", "", "f", "f", "f", "Kind", "1", "", "", "f", "", ""],
      .fields .attributes ["size", "", "f", "f", "f", "Size", "2", "", "", "f", "", ""],
      .fields .options
        ["00000000-0000-0000-0000-000000000001", "kind", "Shoes", "f", "1", "", "", "", ""],
      .fields .options
        ["00000000-0000-0000-0000-000000000002", "kind", "Boots", "f", "2", "", "", "", ""],
      .fields .options ["forty-two", "size", "42", "f", "1", "", "", "", ""],
      .fields .options ["forty-three", "size", "43", "f", "2", "", "", "", ""],
      .fields .assignments ["first", "10", "kind", "f"],
      .fields .assignments ["second", "10", "size", "f"],
      .fields .dynamicOptions
        ["third", "10", "forty-two",
          "\x7b00000000-0000-0000-0000-000000000001,00000000-0000-0000-0000-000000000002\x7d", "f"],
      .fields .dynamicOptions
        ["fourth", "10", "forty-three", "\x7b00000000-0000-0000-0000-000000000001\x7d",
          "f"]]).finish.1

theorem rules_boots :
    exists r, boots.rules[(10 : CategoryId)]? = some r ∧
      r.triggers[(3 : Id)]? = some [{ attributeId := 2, optionIds := [5, 6] }] ∧
      r.triggers[(4 : Id)]? = some [{ attributeId := 2, optionIds := [5] }] := by
  have hfacts : (boots.rules[(10 : CategoryId)]?.map fun r =>
      (r.triggers[(3 : Id)]?, r.triggers[(4 : Id)]?)) =
      some (some [{ attributeId := 2, optionIds := [5, 6] }],
        some [{ attributeId := 2, optionIds := [5] }]) := by
    rfl
  rcases Option.map_eq_some_iff.mp hfacts with ⟨r, hr, heq⟩
  rcases Prod.mk.inj heq with ⟨hthree, hfour⟩
  exact ⟨r, hr, hthree, hfour⟩

/-- With shoes and boots selected, the sizes are those of the boots. -/
theorem shows_groups_boots :
    exists v, boots.find { categoryIds := [10], pairs := [⟨1, 3⟩, ⟨1, 4⟩] } = .ok v ∧
      exists a, a ∈ v.attributes ∧ a.id = 2 ∧ a.options.map VisibleOption.id = [5] := by
  have hcompiled : boots.Compiled := Compiled.finish ∅ _
  have hanswer : (boots.find { categoryIds := [10], pairs := [⟨1, 3⟩, ⟨1, 4⟩] }).map
      Visible.pages = .ok 1 := by
    rfl
  rcases exists_of_map_eq_ok hanswer with ⟨v, hv, _hpages⟩
  rcases hcompiled.shows_groups rfl hv with
    ⟨r, hr, _hgrouped, ⟨entries, hattributes, hshows⟩, _hpairs⟩
  have hfacts : (boots.rules[(10 : CategoryId)]?.map fun r =>
      (r.attributesUnder [3, 4],
        r.selectedTriggers { categoryIds := [10], pairs := [⟨1, 3⟩, ⟨1, 4⟩] },
        r.triggers[(3 : Id)]?, r.triggers[(4 : Id)]?)) =
      some ([2], [3, 4], some [{ attributeId := 2, optionIds := [5, 6] }],
        some [{ attributeId := 2, optionIds := [5] }]) := by
    rfl
  rw [hr] at hfacts
  rcases Prod.mk.inj (Option.some.inj hfacts) with ⟨hunder, hrest⟩
  rcases Prod.mk.inj hrest with ⟨htriggers, hrest⟩
  rcases Prod.mk.inj hrest with ⟨hthree, hfour⟩
  rw [htriggers] at hshows
  have hids := hshows.ids_eq
  rw [hunder] at hids
  rcases List.map_eq_singleton_iff.mp hids with ⟨a, rfl, hid⟩
  rcases hshows.group a (by simp) with ⟨g, hprefers, hattribute, hoptions⟩
  rcases hprefers with ⟨before, t, after, hsplit, hgroup, hleast, _hfirst⟩
  have hlength : g.optionIds.length ≤ 1 :=
    hleast 4 { attributeId := 2, optionIds := [5] } (by simp) ⟨_, hfour, by simp⟩
      (by rw [hattribute, hid])
  refine ⟨v, hv, a, by rw [hattributes]; simp, hid, ?_⟩
  rw [hoptions]
  have ht : t ∈ [3, 4] := by
    rw [hsplit]
    simp
  rcases hgroup with ⟨groups, hgroups, hg⟩
  rcases List.mem_cons.mp ht with rfl | ht
  · rw [hthree] at hgroups
    cases hgroups
    rw [List.mem_singleton.mp hg] at hlength
    exact absurd hlength (by decide)
  · rw [List.mem_singleton.mp ht, hfour] at hgroups
    cases hgroups
    rw [List.mem_singleton.mp hg]

end Catalog
end FacetRules
