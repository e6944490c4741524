import FacetRules.Proofs.Rule.Grouping

/-!
# The history of a rule

A rule that starts without triggers holds what its history has put behind triggers, and
nothing else.  A trigger is there if it came up, with a group for every attribute that came
up with it, and the group lists what came up with both.  What is put behind one trigger
does not touch the groups of another one, so steps that belong to different triggers can be
taken in any order.
-/

namespace FacetRules

namespace Gating

/-- A history in which two neighbouring steps for different triggers change places looks
the same from every trigger. -/
theorem under_swap {g h : Gating} (hne : g.trigger ≠ h.trigger) (before after : List Gating)
    (t : Id) :
    under t (before ++ g :: h :: after) = under t (before ++ h :: g :: after) := by
  have hpair : under t [g, h] = under t [h, g] := by
    -- At most one of the two belongs to the trigger.
    by_cases hg : g.trigger = t
    · have hh : h.trigger ≠ t := fun heq => hne (hg.trans heq.symm)
      simp [under, hg, hh]
    · simp [under, hg, List.filter_cons]
  have hsplit : forall pair : List Gating,
      under t (before ++ (pair ++ after)) = under t before ++ (under t pair ++ under t after) := by
    intro pair
    simp [under]
  calc
    under t (before ++ g :: h :: after) =
        under t before ++ (under t [g, h] ++ under t after) := hsplit [g, h]
    _ = under t before ++ (under t [h, g] ++ under t after) := by rw [hpair]
    _ = under t (before ++ h :: g :: after) := (hsplit [h, g]).symm

end Gating

namespace Rule

/-!
# Order of the steps
-/

/-- Only the order of the steps that belong to one trigger counts. -/
theorem gateAll_congr (r : Rule) {gs hs : List Gating}
    (h : forall t, Gating.under t gs = Gating.under t hs) : r.gateAll gs = r.gateAll hs := by
  have htriggers : (r.gateAll gs).triggers = (r.gateAll hs).triggers := by
    apply Std.ExtTreeMap.ext_getElem?
    intro t
    rw [getElem?_triggers_gateAll, getElem?_triggers_gateAll, h t]
  rw [gateAll_eq r gs, gateAll_eq r hs, htriggers]

theorem gate_comm (r : Rule) {g h : Gating} (hne : g.trigger ≠ h.trigger) :
    (r.gate g.trigger g.attributeId g.optionId).gate h.trigger h.attributeId h.optionId =
      (r.gate h.trigger h.attributeId h.optionId).gate g.trigger g.attributeId g.optionId :=
  gateAll_congr r (Gating.under_swap hne [] [])

/-!
# What the rule holds
-/

theorem mem_gatedAttributes {r : Rule} {a : Id} :
    a ∈ r.gatedAttributes <->
      exists (t : Id) (groups : List Group) (g : Group),
        r.triggers[t]? = some groups ∧ g ∈ groups ∧ g.attributeId = a := by
  rw [gatedAttributes, Std.ExtTreeSet.mem_ofList, List.contains_iff_mem, List.mem_flatMap]
  constructor
  · intro hexists
    rcases hexists with ⟨⟨t, groups⟩, hentry, ha⟩
    rcases List.mem_map.mp ha with ⟨g, hg, hattribute⟩
    exact ⟨t, groups, g, IdMap.mem_toList.mp hentry, hg, hattribute⟩
  · intro hexists
    rcases hexists with ⟨t, groups, g, hgroups, hg, hattribute⟩
    exists (t, groups)
    constructor
    · exact IdMap.mem_toList.mpr hgroups
    · exact List.mem_map.mpr ⟨g, hg, hattribute⟩

/-- The rule holds behind its triggers what the history has put there. -/
structure GroupedBy (r : Rule) (gs : List Gating) : Prop where
  mem_triggers_iff : forall t, t ∈ r.triggers <-> exists g, g ∈ gs ∧ g.trigger = t
  /-- Under a trigger stand the attributes that came up with it, in the order in which they
  first came up. -/
  attributeIds_eq : forall (t : Id) (groups : List Group), r.triggers[t]? = some groups ->
    groups.map Group.attributeId = ((Gating.under t gs).map Gating.attributeId).eraseDups
  /-- Under a trigger an attribute has one group. -/
  nodup : forall (t : Id) (groups : List Group), r.triggers[t]? = some groups ->
    (groups.map Group.attributeId).Nodup
  /-- A group lists what came up with the trigger and the attribute, one for every time. -/
  optionIds_eq : forall (t : Id) (groups : List Group) (g : Group),
    r.triggers[t]? = some groups -> g ∈ groups ->
      g.optionIds = Gating.optionsOf g.attributeId (Gating.under t gs)
  optionIds_ne_nil : forall (t : Id) (groups : List Group) (g : Group),
    r.triggers[t]? = some groups -> g ∈ groups -> g.optionIds ≠ []
  mem_gatedAttributes_iff : forall a, a ∈ r.gatedAttributes <->
    exists g, g ∈ gs ∧ g.attributeId = a

section Groups

variable {r : Rule} {gs : List Gating}
  (hr : forall t : Id, r.triggers[t]? =
    if Gating.under t gs = [] then none else some (Gating.groups (Gating.under t gs)))

include hr

theorem triggers_eq_some {t : Id} {groups : List Group} (ht : r.triggers[t]? = some groups) :
    Gating.under t gs ≠ [] ∧ groups = Gating.groups (Gating.under t gs) := by
  rw [hr] at ht
  split at ht
  · cases ht
  · rename_i hne
    cases ht
    exact ⟨hne, rfl⟩

/-- What came up is in the group of its attribute, under its trigger. -/
theorem exists_groups_of_mem {g : Gating} (hg : g ∈ gs) :
    exists groups, r.triggers[g.trigger]? = some groups ∧
      { attributeId := g.attributeId
        optionIds := Gating.optionsOf g.attributeId (Gating.under g.trigger gs) } ∈ groups := by
  have hunder : g ∈ Gating.under g.trigger gs := Gating.mem_under.mpr ⟨hg, rfl⟩
  refine ⟨Gating.groups (Gating.under g.trigger gs), ?_, ?_⟩
  · rw [hr, if_neg (List.ne_nil_of_mem hunder)]
  · apply List.mem_map.mpr
    exists g.attributeId
    constructor
    · exact List.mem_eraseDups.mpr (List.mem_map.mpr ⟨g, hunder, rfl⟩)
    · rfl

theorem groupedBy_of_getElem?_triggers : r.GroupedBy gs where
  mem_triggers_iff := by
    intro t
    rw [IdMap.mem_iff_exists]
    constructor
    · intro hexists
      rcases hexists with ⟨groups, hgroups⟩
      rcases List.exists_mem_of_ne_nil _ (triggers_eq_some hr hgroups).1 with ⟨g, hg⟩
      exact ⟨g, Gating.mem_under.mp hg⟩
    · intro hexists
      rcases hexists with ⟨g, hg, rfl⟩
      rcases exists_groups_of_mem hr hg with ⟨groups, hgroups, _hgroup⟩
      exact ⟨groups, hgroups⟩
  attributeIds_eq := by
    intro t groups hgroups
    rw [(triggers_eq_some hr hgroups).2, Gating.groups, List.map_map]
    exact List.map_id _
  nodup := by
    intro t groups hgroups
    rw [(triggers_eq_some hr hgroups).2]
    exact Gating.nodup_attributeId_groups _
  optionIds_eq := by
    intro t groups g hgroups hg
    rw [(triggers_eq_some hr hgroups).2] at hg
    exact (Gating.mem_groups.mp hg).2
  optionIds_ne_nil := by
    intro t groups g hgroups hg
    rw [(triggers_eq_some hr hgroups).2] at hg
    exact (Gating.mem_groups.mp hg).1
  mem_gatedAttributes_iff := by
    intro a
    rw [mem_gatedAttributes]
    constructor
    · intro hexists
      rcases hexists with ⟨t, groups, group, hgroups, hgroup, rfl⟩
      rw [(triggers_eq_some hr hgroups).2] at hgroup
      rcases List.mem_map.mp hgroup with ⟨a, ha, rfl⟩
      rcases List.mem_map.mp (List.mem_eraseDups.mp ha) with ⟨g, hg, hattribute⟩
      exact ⟨g, (Gating.mem_under.mp hg).1, hattribute⟩
    · intro hexists
      rcases hexists with ⟨g, hg, rfl⟩
      rcases exists_groups_of_mem hr hg with ⟨groups, hgroups, hgroup⟩
      exact ⟨g.trigger, groups, _, hgroups, hgroup, rfl⟩

end Groups

/-- Whatever is put behind triggers of a new rule: the rule is grouped by its history and
holds nothing else, and the steps for different triggers can be interleaved in any way. -/
theorem gateAll_groupedBy (category : CategoryId) (gs : List Gating) :
    let new : Rule := { categoryId := category }
    (new.gateAll gs).GroupedBy gs ∧
      new.gateAll gs = { new with triggers := (new.gateAll gs).triggers } ∧
      (forall hs, (forall t, Gating.under t hs = Gating.under t gs) ->
        new.gateAll hs = new.gateAll gs) ∧
      forall (r : Rule) (g h : Gating), g.trigger ≠ h.trigger ->
        (r.gate g.trigger g.attributeId g.optionId).gate h.trigger h.attributeId h.optionId =
          (r.gate h.trigger h.attributeId h.optionId).gate g.trigger g.attributeId
            g.optionId := by
  intro new
  have hlookup := getElem?_triggers_gateAll_of_empty (r := new) rfl gs
  refine ⟨groupedBy_of_getElem?_triggers hlookup, gateAll_eq new gs, ?_, ?_⟩
  · intro hs hsame
    exact gateAll_congr new hsame
  · intro r g h hne
    exact gate_comm r hne

/-- What comes into view with shoes, the option 100: two sizes, and between them a color. -/
def shoes : List Gating :=
  [{ trigger := 100, attributeId := 10, optionId := 11 },
    { trigger := 100, attributeId := 20, optionId := 21 },
    { trigger := 100, attributeId := 10, optionId := 12 }]

/-- The first size comes up with shoes once more. -/
def firstAgain : Gating where
  trigger := 100
  attributeId := 10
  optionId := 11

/-- Another size comes into view with boots, the option 200. -/
def boots : Gating where
  trigger := 200
  attributeId := 10
  optionId := 13

/-- The sizes of the shoes stand together, the first one twice, and the boots may come before
it or after it. -/
theorem gateAll_groupedBy_shoes :
    (exists groups,
      (({ categoryId := 1 } : Rule).gateAll (shoes ++ [boots, firstAgain])).triggers[(100 : Id)]? =
          some groups ∧
        groups.map Group.attributeId = [10, 20] ∧
        forall g, g ∈ groups -> g.attributeId = 10 -> g.optionIds = [11, 12, 11]) ∧
      ({ categoryId := 1 } : Rule).gateAll (shoes ++ [firstAgain, boots]) =
        ({ categoryId := 1 } : Rule).gateAll (shoes ++ [boots, firstAgain]) ∧
      (({ categoryId := 1 } : Rule).gate 100 10 11).gate 200 10 13 =
        (({ categoryId := 1 } : Rule).gate 200 10 13).gate 100 10 11 := by
  rcases gateAll_groupedBy 1 (shoes ++ [boots, firstAgain]) with
    ⟨hgrouped, _hrest, hinterleaved, hcomm⟩
  have hne : firstAgain.trigger ≠ boots.trigger := by decide
  refine ⟨?_, hinterleaved _ (Gating.under_swap hne shoes []), hcomm _ firstAgain boots hne⟩
  have htrigger := (hgrouped.mem_triggers_iff 100).mpr ⟨_, List.mem_cons_self, rfl⟩
  rcases IdMap.mem_iff_exists.mp htrigger with ⟨groups, hgroups⟩
  refine ⟨groups, hgroups, hgrouped.attributeIds_eq 100 groups hgroups, ?_⟩
  intro g hg hattribute
  have hoptions := hgrouped.optionIds_eq 100 groups g hgroups hg
  rw [hattribute] at hoptions
  exact hoptions

end Rule
end FacetRules
