import FacetRules.Proofs.Dump.Lines
import Mathlib.Data.List.Count

/-!
# Reading a section

A section is read back by how far in its lines stand: under a line belong those that follow it and
stand further in.  What is read back is what the lines were made of, and for a rule how often it
stores each option behind a trigger.
-/

namespace FacetRules

/-!
# What stands under a line
-/

namespace DumpLine

/-- How far in a line stands, in levels. -/
def depth : DumpLine -> Nat
  | heading .. => 0
  | shown _ => 1
  | trigger _ _ => 1
  | listed _ => 2
  | omitted _ => 2
  | gated _ => 2
  | unlocked _ => 3

/-- The first of the lines, as long as they stand further in. -/
def below (level : Nat) (lines : List DumpLine) : List DumpLine :=
  lines.takeWhile fun line => level < line.depth

theorem below_nil (level : Nat) : below level [] = [] :=
  rfl

/-- The lines of one kind, each with what stands under it. -/
def blocks {α : Type} (kind? : DumpLine -> Option α) :
    List DumpLine -> List (α × List DumpLine)
  | [] => []
  | line :: lines =>
      match kind? line with
      | some x => (x, below line.depth lines) :: blocks kind? lines
      | none => blocks kind? lines

def shown? : DumpLine -> Option Attribute
  | shown a => some a
  | _ => none

def listed? : DumpLine -> Option AttributeOption
  | listed o => some o
  | _ => none

def omitted? : DumpLine -> Option Nat
  | omitted count => some count
  | _ => none

def trigger? : DumpLine -> Option AttributeOption
  | trigger _ o => some o
  | _ => none

def gated? : DumpLine -> Option Attribute
  | gated a => some a
  | _ => none

def unlocked? : DumpLine -> Option AttributeOption
  | unlocked o => some o
  | _ => none

def skipped (lines : List DumpLine) : Nat :=
  total (lines.filterMap omitted?)

/-- The triggers, attributes and options of which a section says that the first brings the last
into view. -/
def entries (lines : List DumpLine) : List (Id × Id × Id) :=
  (blocks trigger? lines).flatMap fun t =>
    (blocks gated? t.2).flatMap fun g =>
      (g.2.filterMap unlocked?).map fun o => (t.1.id, g.1.id, o.id)

def Stored (c : Catalog) : DumpLine -> Prop
  | heading category name visible assigned triggers =>
      exists r, c.rules[category]? = some r ∧ name = c.categories.fullName category ∧
        visible = r.alwaysVisibleIds.length ∧ assigned = r.attributeIds.length ∧
          triggers = r.triggers.size
  | shown a => c.attributes[a.id]? = some a
  | listed o => c.options[o.id]? = some o
  | omitted _ => True
  | trigger a o => c.options[o.id]? = some o ∧ o.attributeId = a.id ∧ c.attributes[a.id]? = some a
  | gated a => c.attributes[a.id]? = some a
  | unlocked o => c.options[o.id]? = some o

theorem blocks_append_of_none {α : Type} {kind? : DumpLine -> Option α}
    {front : List DumpLine} (hfront : forall line, line ∈ front -> kind? line = none)
    (lines : List DumpLine) : blocks kind? (front ++ lines) = blocks kind? lines := by
  induction front with
  | nil =>
      rfl
  | cons line front ih =>
      rw [List.cons_append, blocks, hfront line (by simp)]
      exact ih fun other hother => hfront other (by simp [hother])

theorem blocks_eq_nil {α : Type} {kind? : DumpLine -> Option α} {lines : List DumpLine}
    (h : forall line, line ∈ lines -> kind? line = none) : blocks kind? lines = [] := by
  have happend := blocks_append_of_none h []
  rw [List.append_nil] at happend
  exact happend

/-- Lines of one kind stand equally far in, and what is put under them stands further in and is of
other kinds. -/
structure Indents {α β : Type} (kind? : DumpLine -> Option α) (level : Nat)
    (first : β -> DumpLine) (name : β -> α) (body : β -> List DumpLine) : Prop where
  kind : forall x, kind? (first x) = some (name x)
  depth : forall x, (first x).depth = level
  body : forall x line, line ∈ body x -> level < line.depth ∧ kind? line = none

section Blocks

variable {α β : Type} {kind? : DumpLine -> Option α} {first : β -> DumpLine} {name : β -> α}
  {body : β -> List DumpLine} {level : Nat} {rest : List DumpLine}

theorem Indents.below_flatMap (h : Indents kind? level first name body)
    (hrest : below level rest = []) (xs : List β) :
    below level (xs.flatMap (fun x => first x :: body x) ++ rest) = [] := by
  cases xs with
  | nil =>
      exact hrest
  | cons x xs =>
      rw [List.flatMap_cons, List.cons_append, List.cons_append, below, List.takeWhile_cons,
        if_neg (by simp [h.depth x])]

/-- Lines of one kind are read back with what was put under each. -/
theorem Indents.blocks_flatMap (h : Indents kind? level first name body)
    (hrest : below level rest = []) (xs : List β) :
    blocks kind? (xs.flatMap (fun x => first x :: body x) ++ rest) =
      xs.map (fun x => (name x, body x)) ++ blocks kind? rest := by
  induction xs with
  | nil =>
      rfl
  | cons x xs ih =>
      have hunder : below level
          (body x ++ (xs.flatMap (fun x => first x :: body x) ++ rest)) = body x := by
        have hstop := h.below_flatMap hrest xs
        rw [below] at hstop
        rw [below, List.takeWhile_append_of_pos, hstop, List.append_nil]
        intro line hline
        exact decide_eq_true (h.body x line hline).1
      rw [List.flatMap_cons, List.cons_append, List.cons_append, List.append_assoc, blocks,
        h.kind x]
      simp only
      rw [h.depth x, hunder, blocks_append_of_none fun line hline => (h.body x line hline).2, ih]
      rfl

theorem Indents.blocks_flatMap_self (h : Indents kind? level first name body) (xs : List β) :
    blocks kind? (xs.flatMap fun x => first x :: body x) = xs.map fun x => (name x, body x) := by
  have hblocks := h.blocks_flatMap (below_nil level) xs
  rw [List.append_nil, blocks, List.append_nil] at hblocks
  exact hblocks

end Blocks

theorem indents_shown (c : Catalog) (maxLines : Nat) :
    Indents shown? 1 .shown id (c.listing maxLines) where
  kind := fun _ => rfl
  depth := fun _ => rfl
  body := by
    intro a line hline
    rcases Catalog.mem_listing hline with ⟨o, _ho, rfl⟩ | ⟨count, rfl⟩
    · exact ⟨Nat.one_lt_two, rfl⟩
    · exact ⟨Nat.one_lt_two, rfl⟩

theorem indents_gated :
    Indents gated? 2 (fun g => .gated g.owner) StoredGroup.owner
      (fun g => g.options.map .unlocked) where
  kind := fun _ => rfl
  depth := fun _ => rfl
  body := by
    intro g line hline
    rcases List.mem_map.mp hline with ⟨o, _ho, rfl⟩
    exact ⟨Nat.lt_succ_self 2, rfl⟩

theorem indents_trigger :
    Indents trigger? 1 (fun t => .trigger t.owner t.option) StoredTrigger.option
      (fun t => t.groups.flatMap StoredGroup.lines) where
  kind := fun _ => rfl
  depth := fun _ => rfl
  body := by
    intro t line hline
    rcases List.mem_flatMap.mp hline with ⟨g, _hg, hline⟩
    rcases StoredGroup.mem_lines.mp hline with rfl | ⟨o, _ho, rfl⟩
    · exact ⟨Nat.one_lt_two, rfl⟩
    · exact ⟨Nat.lt_add_of_pos_right Nat.zero_lt_two, rfl⟩

end DumpLine

/-!
# What the lines of a section say
-/

namespace Catalog

open DumpLine

section Lines

variable {c : Catalog} {r : Rule} {maxLines : Nat}

theorem blocks_shown_sectionLines :
    blocks shown? (c.sectionLines maxLines r) =
      (c.attributesAt r.alwaysVisibleIds).map fun a => (a, c.listing maxLines a) := by
  have htriggers : forall line, line ∈ c.triggerLines r -> shown? line = none := by
    intro line hline
    rcases List.mem_flatMap.mp hline with ⟨t, _ht, hline⟩
    rcases StoredTrigger.mem_lines.mp hline with rfl | ⟨g, _hg, hline⟩
    · rfl
    · rcases StoredGroup.mem_lines.mp hline with rfl | ⟨o, _ho, rfl⟩
      · rfl
      · rfl
  have hrest : below 1 (c.triggerLines r) = [] := by
    have hstop := indents_trigger.below_flatMap (below_nil 1) (c.triggersAt r)
    rw [List.append_nil] at hstop
    exact hstop
  rw [sectionLines, List.cons_append, blocks]
  show blocks shown? (c.visibleLines maxLines r ++ c.triggerLines r) = _
  rw [visibleLines, (indents_shown c maxLines).blocks_flatMap hrest, blocks_eq_nil htriggers,
    List.append_nil]
  rfl

theorem blocks_trigger_sectionLines :
    blocks trigger? (c.sectionLines maxLines r) =
      (c.triggersAt r).map fun t => (t.option, t.groups.flatMap StoredGroup.lines) := by
  have hfront : forall line, line ∈ c.headingOf r :: c.visibleLines maxLines r ->
      trigger? line = none := by
    intro line hline
    rcases List.mem_cons.mp hline with rfl | hline
    · rfl
    · rcases List.mem_flatMap.mp hline with ⟨a, _ha, hline⟩
      rcases List.mem_cons.mp hline with rfl | hline
      · rfl
      · rcases mem_listing hline with ⟨o, _ho, rfl⟩ | ⟨count, rfl⟩
        · rfl
        · rfl
  rw [sectionLines, blocks_append_of_none hfront]
  exact indents_trigger.blocks_flatMap_self (c.triggersAt r)

theorem blocks_gated_groups (groups : List StoredGroup) :
    blocks gated? (groups.flatMap StoredGroup.lines) =
      groups.map fun g => (g.owner, g.options.map .unlocked) :=
  indents_gated.blocks_flatMap_self groups

theorem entries_sectionLines :
    entries (c.sectionLines maxLines r) =
      (c.triggersAt r).flatMap fun t => t.groups.flatMap fun g =>
        g.options.map fun o => (t.option.id, g.owner.id, o.id) := by
  have hunlocked : forall options : List AttributeOption,
      (options.map unlocked).filterMap DumpLine.unlocked? = options := by
    intro options
    rw [List.filterMap_map]
    exact List.filterMap_some
  rw [entries, blocks_trigger_sectionLines, List.flatMap_map]
  simp only [blocks_gated_groups, List.flatMap_map, hunlocked]

end Lines

end Catalog

/-!
# What a rule stores
-/

namespace Rule

/-- The attributes and options of the groups of a trigger. -/
def entriesUnder (t : Id) (groups : List Group) : List (Id × Id × Id) :=
  groups.flatMap fun g => g.optionIds.map fun o => (t, g.attributeId, o)

/-- The triggers in ascending order, with the attributes and options of their groups. -/
def entries (r : Rule) : List (Id × Id × Id) :=
  r.triggers.toList.flatMap fun entry => entriesUnder entry.1 entry.2

/-- How often an option is stored in the groups of an attribute under a trigger. -/
def timesStored (r : Rule) (t a o : Id) : Nat :=
  (((r.triggers.getD t []).filter fun g => g.attributeId = a).flatMap Group.optionIds).count o

theorem fst_of_mem_entriesUnder {t : Id} {groups : List Group} {entry : Id × Id × Id}
    (h : entry ∈ entriesUnder t groups) : entry.1 = t := by
  rcases List.mem_flatMap.mp h with ⟨g, _hg, hentry⟩
  rcases List.mem_map.mp hentry with ⟨o, _ho, rfl⟩
  rfl

theorem count_entriesUnder (t a o : Id) (groups : List Group) :
    (entriesUnder t groups).count (t, a, o) =
      ((groups.filter fun g => g.attributeId = a).flatMap Group.optionIds).count o := by
  induction groups with
  | nil =>
      rfl
  | cons g groups ih =>
      rw [entriesUnder, List.flatMap_cons, List.count_append, <- entriesUnder, ih]
      by_cases hattribute : g.attributeId = a
      · have hinjective : Function.Injective fun o : Id => (t, g.attributeId, o) := by
          intro o p heq
          exact congrArg (fun entry => entry.2.2) heq
        rw [List.filter_cons_of_pos (by simp [hattribute]), List.flatMap_cons, List.count_append,
          <- hattribute, List.count_map_of_injective _ _ hinjective]
      · have hnone : (t, a, o) ∉ g.optionIds.map fun o => (t, g.attributeId, o) := by
          intro hmem
          rcases List.mem_map.mp hmem with ⟨p, _hp, heq⟩
          exact hattribute (congrArg (fun entry => entry.2.1) heq)
        rw [List.filter_cons_of_neg (by simp [hattribute]), List.count_eq_zero.mpr hnone,
          Nat.zero_add]

theorem count_entries (r : Rule) (t a o : Id) :
    r.entries.count (t, a, o) = r.timesStored t a o := by
  have hother : forall entries : List (Id × List Group),
      (forall entry, entry ∈ entries -> entry.1 ≠ t) ->
        (entries.flatMap fun entry => entriesUnder entry.1 entry.2).count (t, a, o) = 0 := by
    intro entries hne
    apply List.count_eq_zero.mpr
    intro hmem
    rcases List.mem_flatMap.mp hmem with ⟨entry, hentry, hunder⟩
    exact hne entry hentry (fst_of_mem_entriesUnder hunder).symm
  cases hgroups : r.triggers[t]? with
  | none =>
      rw [timesStored, Std.ExtTreeMap.getD_eq_getD_getElem?, hgroups]
      apply hother
      intro entry hentry heq
      rw [<- heq, IdMap.mem_toList.mp hentry] at hgroups
      cases hgroups
  | some groups =>
      -- The trigger is listed once, so all that is stored under it stands in one place.
      rcases List.append_of_mem (IdMap.mem_toList.mpr hgroups) with ⟨before, after, htoList⟩
      have hnodup : (r.triggers.toList.map Prod.fst).Nodup := by
        rw [Std.ExtTreeMap.map_fst_toList_eq_keys]
        exact Std.ExtTreeMap.nodup_keys
      rw [htoList, List.map_append, List.map_cons] at hnodup
      have hbefore : forall entry, entry ∈ before -> entry.1 ≠ t := by
        intro entry hentry heq
        exact (List.nodup_append.mp hnodup).2.2 _ (List.mem_map_of_mem hentry) t (by simp) heq
      have hafter : forall entry, entry ∈ after -> entry.1 ≠ t := by
        intro entry hentry heq
        exact (List.nodup_cons.mp (List.nodup_append.mp hnodup).2.1).1
          (List.mem_map.mpr ⟨entry, hentry, heq⟩)
      rw [entries, htoList, List.flatMap_append, List.flatMap_cons, List.count_append,
        List.count_append, hother before hbefore, hother after hafter, count_entriesUnder,
        timesStored, Std.ExtTreeMap.getD_eq_getD_getElem?, hgroups, Nat.zero_add, Nat.add_zero]
      rfl

end Rule

end FacetRules
