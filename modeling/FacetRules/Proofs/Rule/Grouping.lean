import Mathlib.Data.List.Induction
import FacetRules.Proofs.Lists
import FacetRules.Proofs.Maps
import FacetRules.Rule

/-!
# How a rule groups its options

A rule is filled by putting options behind triggers, one after the other.  What comes
of it can be said without the order of the steps in between: under a trigger there is
one group for every attribute that came up with it, in the order in which the
attributes first came up, and the group lists the options that came up with the
trigger and the attribute, one for every time.
-/

namespace FacetRules

/-- An option that is put behind a trigger. -/
structure Gating where
  trigger : Id
  attributeId : Id
  optionId : Id
  deriving DecidableEq, Repr

namespace Gating

/-- The options that came up with an attribute. -/
def optionsOf (attributeId : Id) (gs : List Gating) : List Id :=
  (gs.filter (·.attributeId == attributeId)).map Gating.optionId

/-- The groups of options that came up, in the order of their attributes. -/
def groups (gs : List Gating) : List Group :=
  (gs.map Gating.attributeId).eraseDups.map fun a =>
    { attributeId := a, optionIds := optionsOf a gs }

/-- What came up with a trigger. -/
def under (trigger : Id) (gs : List Gating) : List Gating :=
  gs.filter (·.trigger == trigger)

theorem optionsOf_append (attributeId : Id) (gs hs : List Gating) :
    optionsOf attributeId (gs ++ hs) = optionsOf attributeId gs ++ optionsOf attributeId hs := by
  simp [optionsOf]

theorem optionsOf_eq_nil_iff {attributeId : Id} {gs : List Gating} :
    optionsOf attributeId gs = [] <-> attributeId ∉ gs.map Gating.attributeId := by
  simp [optionsOf, List.filter_eq_nil_iff]

theorem mem_optionsOf {attributeId optionId : Id} {gs : List Gating} :
    optionId ∈ optionsOf attributeId gs <->
      exists g, g ∈ gs ∧ g.attributeId = attributeId ∧ g.optionId = optionId := by
  simp [optionsOf, and_assoc]

theorem mem_under {trigger : Id} {g : Gating} {gs : List Gating} :
    g ∈ under trigger gs <-> g ∈ gs ∧ g.trigger = trigger := by
  simp [under]

/-- A group is there exactly when its attribute came up, and lists what came up. -/
theorem mem_groups {g : Group} {gs : List Gating} :
    g ∈ groups gs <-> g.optionIds ≠ [] ∧ g.optionIds = optionsOf g.attributeId gs := by
  constructor
  · intro hg
    rcases List.mem_map.mp hg with ⟨a, ha, rfl⟩
    constructor
    · intro hnil
      exact optionsOf_eq_nil_iff.mp hnil (List.mem_eraseDups.mp ha)
    · rfl
  · intro hboth
    rcases hboth with ⟨hne, heq⟩
    apply List.mem_map.mpr
    exists g.attributeId
    constructor
    · apply List.mem_eraseDups.mpr
      apply Classical.byContradiction
      intro hnot
      exact hne (heq.trans (optionsOf_eq_nil_iff.mpr hnot))
    · rw [<- heq]

theorem nodup_attributeId_groups (gs : List Gating) :
    ((groups gs).map Group.attributeId).Nodup := by
  have hids : (groups gs).map Group.attributeId = (gs.map Gating.attributeId).eraseDups := by
    simp [groups, Function.comp_def]
  rw [hids]
  exact nodup_eraseDups _

end Gating

namespace Group

theorem add_map (f : Id -> List Id) (attributeId optionId : Id) {ids : List Id}
    (hids : ids.Nodup) :
    add attributeId optionId (ids.map fun a => { attributeId := a, optionIds := f a }) =
      if attributeId ∈ ids then
        ids.map fun a =>
          { attributeId := a
            optionIds := if a = attributeId then f a ++ [optionId] else f a }
      else
        (ids.map fun a => { attributeId := a, optionIds := f a }) ++
          [{ attributeId, optionIds := [optionId] }] := by
  induction ids with
  | nil =>
      simp [add]
  | cons a ids ih =>
      rcases List.nodup_cons.mp hids with ⟨ha, hids⟩
      by_cases hhead : a = attributeId
      · subst hhead
        have htail : ids.map (fun b : Id =>
              ({ attributeId := b
                 optionIds := if b = a then f b ++ [optionId] else f b } : Group)) =
            ids.map fun b => { attributeId := b, optionIds := f b } := by
          apply List.map_congr_left
          intro b hb
          have hne : b ≠ a := fun heq => ha (heq ▸ hb)
          simp [hne]
        simp [add, htail]
      · have hmem : attributeId ∈ a :: ids <-> attributeId ∈ ids := by
          simp [Ne.symm hhead]
        simp only [List.map_cons, add, if_neg hhead, ih hids, hmem]
        split
        · simp
        · simp

end Group

namespace Gating

theorem foldl_add (gs : List Gating) :
    gs.foldl (fun groups g => Group.add g.attributeId g.optionId groups) [] = groups gs := by
  induction gs using List.reverseRecOn with
  | nil =>
      rfl
  | append_singleton gs g ih =>
      rw [List.foldl_append, ih, List.foldl_cons, List.foldl_nil, groups,
        Group.add_map _ _ _ (nodup_eraseDups _), groups, List.map_append]
      by_cases hmem : g.attributeId ∈ gs.map Gating.attributeId
      · rw [if_pos (List.mem_eraseDups.mpr hmem),
          eraseDups_append_of_subset (by simpa using hmem)]
        apply List.map_congr_left
        intro a _ha
        by_cases heq : a = g.attributeId
        · simp [heq, optionsOf]
        · simp [heq, Ne.symm heq, optionsOf]
      · rw [if_neg (fun h => hmem (List.mem_eraseDups.mp h)),
          eraseDups_append_of_disjoint (by simpa using hmem), List.map_append]
        congr 1
        · apply List.map_congr_left
          intro a ha
          have hne : g.attributeId ≠ a := by
            intro heq
            exact hmem (heq ▸ List.mem_eraseDups.mp ha)
          simp [optionsOf, hne]
        · have hnil := optionsOf_eq_nil_iff.mpr hmem
          rw [List.map_cons, List.map_nil, List.eraseDups_cons, List.filter_nil,
            List.eraseDups_nil, List.map_cons, List.map_nil, optionsOf_append, hnil]
          simp [optionsOf]

end Gating

namespace Rule

/-- Puts options behind triggers, one after the other. -/
def gateAll (r : Rule) (gs : List Gating) : Rule :=
  gs.foldl (fun r g => r.gate g.trigger g.attributeId g.optionId) r

@[simp]
theorem gateAll_nil (r : Rule) : r.gateAll [] = r :=
  rfl

theorem gateAll_append (r : Rule) (gs hs : List Gating) :
    r.gateAll (gs ++ hs) = (r.gateAll gs).gateAll hs :=
  List.foldl_append

theorem gateAll_eq (r : Rule) (gs : List Gating) :
    r.gateAll gs = { r with triggers := (r.gateAll gs).triggers } := by
  induction gs generalizing r with
  | nil =>
      rfl
  | cons g gs ih =>
      exact ih (r.gate g.trigger g.attributeId g.optionId)

theorem getElem?_triggers_gate (r : Rule) (trigger attributeId optionId t : Id) :
    (r.gate trigger attributeId optionId).triggers[t]? =
      if trigger = t then
        some (Group.add attributeId optionId (r.triggers[t]?.getD []))
      else
        r.triggers[t]? := by
  simp only [gate]
  rw [IdMap.getElem?_insert, Std.ExtTreeMap.getD_eq_getD_getElem?]
  by_cases h : trigger = t
  · simp [h]
  · simp [h]

theorem getElem?_triggers_gateAll (r : Rule) (gs : List Gating) (t : Id) :
    (r.gateAll gs).triggers[t]? =
      if Gating.under t gs = [] then
        r.triggers[t]?
      else
        some ((Gating.under t gs).foldl
          (fun groups g => Group.add g.attributeId g.optionId groups)
          (r.triggers[t]?.getD [])) := by
  induction gs generalizing r with
  | nil =>
      rfl
  | cons g gs ih =>
      show ((r.gate g.trigger g.attributeId g.optionId).gateAll gs).triggers[t]? = _
      rw [ih, getElem?_triggers_gate]
      by_cases hg : g.trigger = t
      · have hunder : Gating.under t (g :: gs) = g :: Gating.under t gs := by
          simp [Gating.under, hg]
        rw [hunder, if_pos hg, if_neg (List.cons_ne_nil _ _)]
        by_cases hnil : Gating.under t gs = []
        · simp [hnil]
        · simp [hnil]
      · have hunder : Gating.under t (g :: gs) = Gating.under t gs := by
          simp [Gating.under, hg]
        rw [hunder, if_neg hg]

/-- The groups under a trigger, in a rule that had no triggers before. -/
theorem getElem?_triggers_gateAll_of_empty {r : Rule} (hr : r.triggers = ∅)
    (gs : List Gating) (t : Id) :
    (r.gateAll gs).triggers[t]? =
      if Gating.under t gs = [] then none
      else some (Gating.groups (Gating.under t gs)) := by
  have hnone : r.triggers[t]? = none := by
    rw [hr]
    exact Std.ExtTreeMap.getElem?_empty
  rw [getElem?_triggers_gateAll, hnone]
  split
  · rfl
  · rw [Option.getD_none, Gating.foldl_add]

end Rule
end FacetRules
