import Mathlib.Data.List.Induction
import FacetRules.Proofs.Lists
import FacetRules.Query.Visible

/-!
# Groups brought into view

The selected options are gone through in the order of their selection, and the groups under
each of them are recorded one after the other.  What is recorded has one group for every
attribute that came up, in the order in which the attributes first came up.
-/

namespace FacetRules

/-- A selected option has a group for the attribute. -/
def Rule.Unlocks (r : Rule) (selected : List Id) (attributeId : Id) : Prop :=
  exists (t : Id) (groups : List Group) (g : Group),
    t ∈ selected ∧ r.triggers[t]? = some groups ∧ g ∈ groups ∧ g.attributeId = attributeId

namespace Catalog

/-- The groups under selected options, in the order in which they are recorded. -/
def groupsUnder (r : Rule) (selected : List Id) : List Group :=
  selected.flatMap fun id => r.triggers.getD id []

def recordAll (gs : List Group) : List Group :=
  gs.foldl (fun us g => recordGroup g us) []

theorem unlockedGroups_eq (r : Rule) (selected : List Id) :
    unlockedGroups r selected = recordAll (groupsUnder r selected) := by
  rw [unlockedGroups, recordAll, groupsUnder, List.foldl_flatMap]

theorem recordAll_append_singleton (gs : List Group) (g : Group) :
    recordAll (gs ++ [g]) = recordGroup g (recordAll gs) := by
  rw [recordAll, List.foldl_append]
  rfl

theorem mem_groupsUnder {r : Rule} {selected : List Id} {g : Group} :
    g ∈ groupsUnder r selected <->
      exists (t : Id) (groups : List Group),
        t ∈ selected ∧ r.triggers[t]? = some groups ∧ g ∈ groups := by
  rw [groupsUnder, List.mem_flatMap]
  constructor
  · intro hexists
    rcases hexists with ⟨t, ht, hg⟩
    rw [Std.ExtTreeMap.getD_eq_getD_getElem?] at hg
    cases hgroups : r.triggers[t]? with
    | none =>
        rw [hgroups] at hg
        cases hg
    | some groups =>
        rw [hgroups] at hg
        exact ⟨t, groups, ht, hgroups, hg⟩
  · intro hexists
    rcases hexists with ⟨t, groups, ht, hgroups, hg⟩
    refine ⟨t, ht, ?_⟩
    rw [Std.ExtTreeMap.getD_eq_getD_getElem?, hgroups]
    exact hg

theorem mem_attributeIds_groupsUnder {r : Rule} {selected : List Id} {id : Id} :
    id ∈ (groupsUnder r selected).map Group.attributeId <-> r.Unlocks selected id := by
  rw [List.mem_map]
  constructor
  · intro hexists
    rcases hexists with ⟨g, hg, hid⟩
    rcases mem_groupsUnder.mp hg with ⟨t, groups, ht, hgroups, hmem⟩
    exact ⟨t, groups, g, ht, hgroups, hmem, hid⟩
  · intro hexists
    rcases hexists with ⟨t, groups, g, ht, hgroups, hmem, hid⟩
    exact ⟨g, mem_groupsUnder.mpr ⟨t, groups, ht, hgroups, hmem⟩, hid⟩

/-!
# One group
-/

theorem mem_recordGroup {g h : Group} {hs : List Group} (hg : g ∈ recordGroup h hs) :
    g = h ∨ g ∈ hs := by
  induction hs with
  | nil =>
      exact Or.inl (List.mem_singleton.mp hg)
  | cons k hs ih =>
      rw [recordGroup] at hg
      split at hg
      · rcases List.mem_cons.mp hg with hg | hg
        · split at hg
          · exact Or.inl hg
          · exact Or.inr (by simp [hg])
        · exact Or.inr (by simp [hg])
      · rcases List.mem_cons.mp hg with hg | hg
        · exact Or.inr (by simp [hg])
        · rcases ih hg with hg | hg
          · exact Or.inl hg
          · exact Or.inr (by simp [hg])

/-- A smaller group takes the place of the one that it replaces, so only the groups of new
attributes make the list longer. -/
theorem attributeIds_recordGroup (g : Group) (us : List Group) :
    (recordGroup g us).map Group.attributeId =
      if g.attributeId ∈ us.map Group.attributeId then us.map Group.attributeId
      else us.map Group.attributeId ++ [g.attributeId] := by
  induction us with
  | nil =>
      rfl
  | cons u us ih =>
      rw [recordGroup]
      by_cases hhead : u.attributeId = g.attributeId
      · have hsame : (if g.optionIds.length < u.optionIds.length then g else u).attributeId =
            u.attributeId := by
          split
          · exact hhead.symm
          · rfl
        rw [if_pos hhead, List.map_cons, List.map_cons, hsame, if_pos (by simp [hhead])]
      · have hmem : g.attributeId ∈ u.attributeId :: us.map Group.attributeId <->
            g.attributeId ∈ us.map Group.attributeId := by
          rw [List.mem_cons, or_iff_right (Ne.symm hhead)]
        rw [if_neg hhead, List.map_cons, List.map_cons, ih]
        simp only [hmem]
        split
        · rfl
        · rfl

/-!
# All groups
-/

theorem mem_recordAll {gs : List Group} {g : Group} (hg : g ∈ recordAll gs) : g ∈ gs := by
  induction gs using List.reverseRecOn with
  | nil =>
      cases hg
  | append_singleton gs h ih =>
      rw [recordAll_append_singleton] at hg
      rcases mem_recordGroup hg with rfl | hg
      · simp
      · exact List.mem_append_left [h] (ih hg)

theorem attributeIds_recordAll (gs : List Group) :
    (recordAll gs).map Group.attributeId = (gs.map Group.attributeId).eraseDups := by
  induction gs using List.reverseRecOn with
  | nil =>
      rfl
  | append_singleton gs g ih =>
      rw [recordAll_append_singleton, attributeIds_recordGroup, ih, List.map_append]
      by_cases hmem : g.attributeId ∈ gs.map Group.attributeId
      · rw [if_pos (List.mem_eraseDups.mpr hmem), eraseDups_append_of_subset (by simpa using hmem)]
      · rw [if_neg (fun h => hmem (List.mem_eraseDups.mp h)),
          eraseDups_append_of_disjoint (by simpa using hmem)]
        simp [List.eraseDups_cons]

/-- What comes into view stands under a selected trigger. -/
theorem mem_unlockedGroups {r : Rule} {selected : List Id} {g : Group}
    (hg : g ∈ unlockedGroups r selected) :
    exists (t : Id) (groups : List Group),
      t ∈ selected ∧ r.triggers[t]? = some groups ∧ g ∈ groups := by
  rw [unlockedGroups_eq] at hg
  exact mem_groupsUnder.mp (mem_recordAll hg)

theorem attributeIds_unlockedGroups (r : Rule) (selected : List Id) :
    (unlockedGroups r selected).map Group.attributeId =
      ((groupsUnder r selected).map Group.attributeId).eraseDups := by
  rw [unlockedGroups_eq, attributeIds_recordAll]

end Catalog
end FacetRules
