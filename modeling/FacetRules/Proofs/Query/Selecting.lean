import FacetRules.Proofs.Query.Requery

/-!
# Selecting one more option

Selecting one more option takes nothing out of view.  The pages of what is always visible stay
as they are.  What was brought into view before stays, in the same order; new attributes come
behind it, and a list of options gives way to the one under the new option if that is shorter.
-/

namespace FacetRules

namespace Conditions

/-- The conditions with one more pair, which is selected last. -/
def select (q : Conditions) (p : Pair) : Conditions :=
  { q with pairs := q.pairs ++ [p] }

theorem selectedOptions_select (q : Conditions) (p : Pair) :
    (q.select p).selectedOptions =
      if p.optionId ∈ q.selectedOptions then q.selectedOptions
      else q.selectedOptions ++ [p.optionId] := by
  rw [selectedOptions, selectedOptions, select, List.map_append, List.map_singleton]
  by_cases h : p.optionId ∈ q.pairs.map Pair.optionId
  · rw [if_pos (List.mem_eraseDups.mpr h), eraseDups_append_of_subset (by simpa using h)]
  · rw [if_neg (fun hmem => h (List.mem_eraseDups.mp hmem)),
      eraseDups_append_of_disjoint (by simpa using h)]
    simp [List.eraseDups_cons]

end Conditions

namespace Catalog

/-!
# Recording more groups

A group that is recorded keeps its place.  It changes only if a smaller group of its attribute
comes up.
-/

theorem nodup_attributeIds_recordGroup (g : Group) {us : List Group}
    (hus : (us.map Group.attributeId).Nodup) :
    ((recordGroup g us).map Group.attributeId).Nodup := by
  rw [attributeIds_recordGroup]
  split
  · exact hus
  · rename_i hnew
    exact List.nodup_append'.mpr ⟨hus, List.nodup_singleton _, by simpa using hnew⟩

/-- One more group leaves a recorded one as it is, or takes its place if it is smaller. -/
theorem exists_mem_recordGroup (g : Group) {us : List Group}
    (hus : (us.map Group.attributeId).Nodup) {u : Group} (hu : u ∈ us) :
    exists w, w ∈ recordGroup g us ∧ w.attributeId = u.attributeId ∧
      ((w = u ∧ (g.attributeId = u.attributeId ->
          u.optionIds.length ≤ g.optionIds.length)) ∨
        (w = g ∧ g.optionIds.length < u.optionIds.length)) := by
  induction us with
  | nil =>
      cases hu
  | cons v us ih =>
      rcases List.nodup_cons.mp hus with ⟨hv, hus⟩
      rw [recordGroup]
      rcases List.mem_cons.mp hu with rfl | hu
      · by_cases hhead : u.attributeId = g.attributeId
        · rw [if_pos hhead]
          by_cases hsmaller : g.optionIds.length < u.optionIds.length
          · exact ⟨g, by simp [hsmaller], hhead.symm, Or.inr ⟨rfl, hsmaller⟩⟩
          · exact ⟨u, by simp [hsmaller], rfl,
              Or.inl ⟨rfl, fun _ => Nat.le_of_not_lt hsmaller⟩⟩
        · rw [if_neg hhead]
          exact ⟨u, by simp, rfl, Or.inl ⟨rfl, fun hid => absurd hid.symm hhead⟩⟩
      · by_cases hhead : v.attributeId = g.attributeId
        · -- The group is recorded in front of this one, which belongs to another attribute.
          have hother : g.attributeId ≠ u.attributeId := by
            intro hid
            exact hv (List.mem_map.mpr ⟨u, hu, hid.symm.trans hhead.symm⟩)
          rw [if_pos hhead]
          exact ⟨u, by simp [hu], rfl, Or.inl ⟨rfl, fun hid => absurd hid hother⟩⟩
        · rw [if_neg hhead]
          rcases ih hus hu with ⟨w, hw, hid, hcase⟩
          exact ⟨w, by simp [hw], hid, hcase⟩

/-- So do more groups, one after the other. -/
theorem exists_mem_foldl_recordGroup (gs : List Group) {us : List Group}
    (hus : (us.map Group.attributeId).Nodup) {u : Group} (hu : u ∈ us) :
    exists w, w ∈ gs.foldl (fun us g => recordGroup g us) us ∧ w.attributeId = u.attributeId ∧
      ((w = u ∧ forall g, g ∈ gs -> g.attributeId = u.attributeId ->
          u.optionIds.length ≤ g.optionIds.length) ∨
        (w ∈ gs ∧ w.optionIds.length < u.optionIds.length)) := by
  induction gs generalizing us u with
  | nil =>
      exact ⟨u, hu, rfl, Or.inl ⟨rfl, fun g hg => nomatch hg⟩⟩
  | cons g gs ih =>
      rcases exists_mem_recordGroup g hus hu with ⟨x, hx, hxid, hstep⟩
      rcases ih (nodup_attributeIds_recordGroup g hus) hx with ⟨w, hw, hwid, hrest⟩
      refine ⟨w, hw, hwid.trans hxid, ?_⟩
      rcases hstep with ⟨rfl, hle⟩ | ⟨rfl, hlt⟩
      · rcases hrest with ⟨rfl, hall⟩ | ⟨hmem, hsmaller⟩
        · refine Or.inl ⟨rfl, ?_⟩
          intro h hh hid
          rcases List.mem_cons.mp hh with rfl | hh
          · exact hle hid
          · exact hall h hh hid
        · exact Or.inr ⟨by simp [hmem], hsmaller⟩
      · rcases hrest with ⟨rfl, _hall⟩ | ⟨hmem, hsmaller⟩
        · exact Or.inr ⟨by simp, hlt⟩
        · exact Or.inr ⟨by simp [hmem], Nat.lt_trans hsmaller hlt⟩

theorem recordAll_append (gs hs : List Group) :
    recordAll (gs ++ hs) = hs.foldl (fun us g => recordGroup g us) (recordAll gs) :=
  List.foldl_append

/-!
# The groups under one more option
-/

section Select

variable {r : Rule} {q : Conditions} {p : Pair}

/-- Every group under the new option is recorded, if not now then before. -/
theorem mem_groupsUnder_select {g : Group} :
    g ∈ groupsUnder r (q.select p).selectedOptions <->
      g ∈ groupsUnder r q.selectedOptions ∨ r.HasGroup p.optionId g := by
  have hmem : forall t, t ∈ (q.select p).selectedOptions <->
      t ∈ q.selectedOptions ∨ t = p.optionId := by
    intro t
    rw [Conditions.selectedOptions_select]
    split
    · rename_i hselected
      exact ⟨Or.inl, fun h => h.elim id fun heq => heq ▸ hselected⟩
    · rw [List.mem_append, List.mem_singleton]
  simp only [mem_groupsUnder_iff, hmem, or_and_right, exists_or, exists_eq_left]

/-- Nothing but groups under the new option is recorded behind what was recorded before. -/
theorem exists_groupsUnder_select (r : Rule) (q : Conditions) (p : Pair) :
    exists more, groupsUnder r (q.select p).selectedOptions =
        groupsUnder r q.selectedOptions ++ more ∧
      forall g, g ∈ more -> r.HasGroup p.optionId g := by
  rw [Conditions.selectedOptions_select]
  split
  · exact ⟨[], by simp, fun g hg => nomatch hg⟩
  · refine ⟨groupsUnder r [p.optionId], by simp [groupsUnder], ?_⟩
    intro g hg
    rcases mem_groupsUnder_iff.mp hg with ⟨t, ht, hgroup⟩
    rw [List.mem_singleton.mp ht] at hgroup
    exact hgroup

/-- The attributes of new groups come behind those that were in view. -/
theorem exists_attributeIds_select (r : Rule) (q : Conditions) (p : Pair) :
    exists added,
      (unlockedGroups r (q.select p).selectedOptions).map Group.attributeId =
        (unlockedGroups r q.selectedOptions).map Group.attributeId ++ added ∧
      added.Nodup ∧
      forall id, id ∈ added <->
        (exists g, r.HasGroup p.optionId g ∧ g.attributeId = id) ∧
          id ∉ (unlockedGroups r q.selectedOptions).map Group.attributeId := by
  rcases exists_groupsUnder_select r q p with ⟨more, hmore, hunder⟩
  have hids : (unlockedGroups r (q.select p).selectedOptions).map Group.attributeId =
      (unlockedGroups r q.selectedOptions).map Group.attributeId ++
        ((more.map Group.attributeId).removeAll
          ((groupsUnder r q.selectedOptions).map Group.attributeId)).eraseDups := by
    rw [attributeIds_unlockedGroups, attributeIds_unlockedGroups, hmore, List.map_append,
      List.eraseDups_append]
  refine ⟨_, hids, nodup_eraseDups _, ?_⟩
  intro id
  have hremoved : id ∈ (more.map Group.attributeId).removeAll
        ((groupsUnder r q.selectedOptions).map Group.attributeId) <->
      id ∈ more.map Group.attributeId ∧
        id ∉ (groupsUnder r q.selectedOptions).map Group.attributeId := by
    simp [List.removeAll]
  rw [attributeIds_unlockedGroups, List.mem_eraseDups, List.mem_eraseDups, hremoved]
  apply and_congr_left
  intro hnew
  constructor
  · intro hid
    rcases List.mem_map.mp hid with ⟨g, hg, hgid⟩
    exact ⟨g, hunder g hg, hgid⟩
  · intro hexists
    rcases hexists with ⟨g, hgroup, hgid⟩
    have hg : g ∈ groupsUnder r q.selectedOptions ++ more := by
      rw [<- hmore]
      exact mem_groupsUnder_select.mpr (Or.inr hgroup)
    rcases List.mem_append.mp hg with hg | hg
    · exact absurd (List.mem_map.mpr ⟨g, hg, hgid⟩) hnew
    · exact List.mem_map.mpr ⟨g, hg, hgid⟩

/-- A group in view stays, or gives way to a smaller one under the new option. -/
theorem exists_mem_unlockedGroups_select {u : Group}
    (hu : u ∈ unlockedGroups r q.selectedOptions) :
    exists w, w ∈ unlockedGroups r (q.select p).selectedOptions ∧
      w.attributeId = u.attributeId ∧
      ((w = u ∧ forall g, r.HasGroup p.optionId g -> g.attributeId = u.attributeId ->
          u.optionIds.length ≤ g.optionIds.length) ∨
        (r.HasGroup p.optionId w ∧ w.optionIds.length < u.optionIds.length)) := by
  rcases exists_groupsUnder_select r q p with ⟨more, hmore, hunder⟩
  rw [unlockedGroups_eq] at hu ⊢
  rcases exists_mem_foldl_recordGroup more (nodup_attributeIds_recordAll _) hu with
    ⟨w, hw, hid, hcase⟩
  rw [<- recordAll_append, <- hmore] at hw
  refine ⟨w, hw, hid, ?_⟩
  rcases hcase with ⟨hsame, hall⟩ | ⟨hmem, hsmaller⟩
  · refine Or.inl ⟨hsame, ?_⟩
    intro g hgroup hgid
    have hg : g ∈ groupsUnder r q.selectedOptions ++ more := by
      rw [<- hmore]
      exact mem_groupsUnder_select.mpr (Or.inr hgroup)
    rcases List.mem_append.mp hg with hg | hg
    -- A group that was recorded before has lost against this one already.
    · rcases exists_split_of_mem_recordAll hu with ⟨_front, _back, _hsplit, hleast, _hfirst⟩
      exact hleast g hg hgid
    · exact hall g hg hgid
  · exact Or.inr ⟨hunder w hmem, hsmaller⟩

end Select

/-!
# Entries
-/

/-- What an option that is selected last does to the entries that were brought into view. -/
structure Widens (r : Rule) (option : Id) (v : Visible) (us ws : List VisibleAttribute) :
    Prop where
  /-- New entries come last, one for every attribute with a group under the option that the
  answer did not offer. -/
  ids_eq : exists added, ws.map VisibleAttribute.id = us.map VisibleAttribute.id ++ added ∧
    added.Nodup ∧
    forall id, id ∈ added <->
      (exists g, r.HasGroup option g ∧ g.attributeId = id) ∧ ¬ v.Offers id
  /-- An entry stays, or shows the options of a smaller group under the option. -/
  kept : forall u, u ∈ us -> exists w, w ∈ ws ∧ w.id = u.id ∧
    ((w = u ∧ forall g, r.HasGroup option g -> g.attributeId = u.id ->
        u.options.length ≤ g.optionIds.length) ∨
      exists g, r.HasGroup option g ∧ g.attributeId = u.id ∧
        g.optionIds.length < u.options.length ∧ w.options.map VisibleOption.id = g.optionIds)

section Entries

variable {c : Catalog} {r : Rule}

theorem Closed.widens (h : c.Closed) (hr : c.ClosedRule r) (hd : c.DividedRule r)
    (category : CategoryId) (q : Conditions) (p : Pair) :
    Widens r p.optionId (c.answer r category q) (c.unlockedPart r q)
      (c.unlockedPart r (q.select p)) where
  ids_eq := by
    rw [h.ids_unlockedPart_groups hr, h.ids_unlockedPart_groups hr]
    rcases exists_attributeIds_select r q p with ⟨added, hids, hnodup, hadded⟩
    refine ⟨added, hids, hnodup, ?_⟩
    intro id
    rw [hadded]
    apply and_congr_right
    intro hexists
    rcases hexists with ⟨g, ⟨groups, hgroups, hg⟩, hgid⟩
    -- An attribute with a group is not always visible, so it is offered only as an unlocked one.
    have hgated : id ∈ r.gatedAttributes :=
      Rule.mem_gatedAttributes.mpr ⟨p.optionId, groups, g, hgroups, hg, hgid⟩
    rw [h.offers_answer_iff hr, <- h.mem_ids_unlockedPart hr, h.ids_unlockedPart_groups hr]
    apply not_congr
    constructor
    · exact Or.inr
    · intro hor
      exact hor.resolve_left fun halways =>
        (h.not_gated_of_mem_ids_alwaysPart hd halways).2 hgated
  kept := by
    intro u hu
    rcases h.exists_group_of_entry hr hu with ⟨g, hg, hentry, huid, hoptions⟩
    have hlength : u.options.length = g.optionIds.length := by
      rw [<- hoptions, List.length_map]
    rcases exists_mem_unlockedGroups_select (p := p) hg with ⟨k, hk, hkid, hcase⟩
    rcases mem_unlockedGroups hk with ⟨t, groups, _ht, hgroup⟩
    rcases h.exists_entry hr ⟨groups, hgroup⟩ with ⟨w, hw, hwid, hwoptions⟩
    refine ⟨w, List.mem_filterMap.mpr ⟨k, hk, hw⟩, by rw [hwid, hkid, huid], ?_⟩
    rw [hlength, huid]
    rcases hcase with ⟨rfl, hleast⟩ | ⟨hunder, hsmaller⟩
    · rw [hentry] at hw
      exact Or.inl ⟨(Option.some.inj hw).symm, hleast⟩
    · exact Or.inr ⟨k, hunder, hkid, hsmaller, hwoptions⟩

/-- An option that is selected already, or is no trigger, selects no trigger anew. -/
theorem selectedTriggers_select_of_idle {q : Conditions} {p : Pair}
    (h : p.optionId ∈ q.selectedOptions ∨ p.optionId ∉ r.triggers) :
    r.selectedTriggers (q.select p) = r.selectedTriggers q := by
  rw [Rule.selectedTriggers, Rule.selectedTriggers, Conditions.selectedOptions_select]
  split
  · rfl
  · rename_i hnew
    have hidle : r.triggers.contains p.optionId = false :=
      eq_false_of_ne_true (h.resolve_left hnew)
    rw [List.filter_append, List.filter_cons_of_neg (ne_true_of_eq_false hidle),
      List.filter_nil, List.append_nil]

end Entries

/-- With one more option selected, a query that was answered is answered again.  What is always
visible and the number of pages stay; no attribute goes out of view; those that come into view
have a group under the new option; and a list of options changes only to a shorter one.  Nothing
changes if the option was selected before or is no trigger, and there is more to see if it has a
group for an attribute that was not offered. -/
theorem Compiled.find_select {c : Catalog} (h : c.Compiled) {category : CategoryId}
    {q : Conditions} (hq : q.categoryIds = [category]) {v : Visible} (hv : c.find q = .ok v)
    (p : Pair) :
    exists r w, c.rules[category]? = some r ∧ c.find (q.select p) = .ok w ∧
      w.pages = v.pages ∧ w.pageSize = v.pageSize ∧
      (exists us ws,
        v.attributes =
            c.firstPages q.filters (effectivePageSize q.pageSize).toNat r.alwaysVisibleIds ++ us ∧
          w.attributes =
            c.firstPages q.filters (effectivePageSize q.pageSize).toNat r.alwaysVisibleIds ++ ws ∧
          Widens r p.optionId v us ws) ∧
      (p.optionId ∈ q.selectedOptions ∨ p.optionId ∉ r.triggers ->
        w.attributes = v.attributes) ∧
      ((exists g, r.HasGroup p.optionId g ∧ ¬ v.Offers g.attributeId) ->
        v.attributes.length < w.attributes.length) := by
  rcases h.closed.eq_of_find hv with ⟨hids, _hempty⟩ | ⟨named, r, hids, hr, rfl⟩
  · rw [hq] at hids
    cases hids
  · rw [hq] at hids
    cases hids
    have hrule := h.closed.rule category r hr
    have hwidens := h.closed.widens hrule (h.divided.rule category r hr) category q p
    refine ⟨r, c.answer r category (q.select p), hr, h.closed.find_eq hr hq, rfl, rfl, ?_, ?_, ?_⟩
    · refine ⟨c.unlockedPart r q, c.unlockedPart r (q.select p), ?_, ?_, hwidens⟩
      · rw [<- alwaysPart_eq_firstPages]
        rfl
      · exact congrArg (· ++ c.unlockedPart r (q.select p))
          (alwaysPart_eq_firstPages c r (q.select p))
    · intro hidle
      exact attributes_answer_of_triggers rfl rfl (selectedTriggers_select_of_idle hidle)
    · intro hexists
      rcases hexists with ⟨g, hgroup, hhidden⟩
      rcases hwidens.ids_eq with ⟨added, hadded, _hnodup, hmem⟩
      have hpos : 0 < added.length :=
        List.length_pos_of_mem ((hmem g.attributeId).mpr ⟨⟨g, hgroup, rfl⟩, hhidden⟩)
      have hlength := congrArg List.length hadded
      rw [List.length_append, List.length_map, List.length_map] at hlength
      show (c.alwaysPart r q ++ c.unlockedPart r q).length <
        (c.alwaysPart r q ++ c.unlockedPart r (q.select p)).length
      rw [List.length_append, List.length_append, hlength]
      omega

/-- Selecting shoes brings the sizes into view. -/
theorem find_select_boots :
    exists v w, boots.find { categoryIds := [10] } = .ok v ∧
      boots.find { categoryIds := [10], pairs := [⟨1, 3⟩] } = .ok w ∧
      v.attributes.length < w.attributes.length := by
  have hcompiled : boots.Compiled := Compiled.finish ∅ _
  have hnothing : (boots.find { categoryIds := [10] }).map
      (fun v => v.attributes.map VisibleAttribute.id) = .ok [1] := by
    rfl
  rcases exists_of_map_eq_ok hnothing with ⟨v, hv, hids⟩
  rcases rules_boots with ⟨r, hr, hthree, _hfour⟩
  rcases hcompiled.find_select rfl hv ⟨1, 3⟩ with
    ⟨r', w, hr', hw, _hpages, _hsize, _hparts, _hidle, hmore⟩
  rw [hr] at hr'
  cases hr'
  refine ⟨v, w, hv, hw, hmore ?_⟩
  refine ⟨{ attributeId := 2, optionIds := [5, 6] }, ⟨_, hthree, by simp⟩, ?_⟩
  rw [Visible.offers_iff, hids]
  decide

end Catalog
end FacetRules
