import Mathlib.Data.List.Nodup
import FacetRules.Proofs.Catalog.Partition
import FacetRules.Proofs.Compile.Rules
import FacetRules.Proofs.Expansion.Passes
import FacetRules.Proofs.Query.Answer

/-!
# Attributes on offer

Which attributes an answer offers, and how often.  An attribute that no trigger gates has an
entry for every assignment to the category, as long as there is something on its page.  An
attribute with a group under a selected trigger has one entry, whether or not it is assigned
to the category.  No attribute is offered in both ways.
-/

namespace FacetRules

namespace Visible

def Offers (v : Visible) (id : Id) : Prop :=
  exists a, a ∈ v.attributes ∧ a.id = id

theorem offers_iff {v : Visible} {id : Id} :
    v.Offers id <-> id ∈ v.attributes.map VisibleAttribute.id :=
  List.mem_map.symm

theorem get?_of_eq {v : Visible}
    (h : forall a b, a ∈ v.attributes -> b ∈ v.attributes -> a.id = b.id -> a = b)
    {a : VisibleAttribute} (ha : a ∈ v.attributes) : v.get? a.id = some a := by
  cases hfind : v.get? a.id with
  | none =>
      have hne := List.find?_eq_none.mp hfind a ha
      simp at hne
  | some b =>
      have hid : b.id = a.id := by
        simpa using List.find?_some hfind
      rw [h b a (List.mem_of_find?_eq_some hfind) ha hid]

end Visible

namespace Catalog

/-- There is something on the page of the attribute. -/
def isListed (c : Catalog) (q : Conditions) (id : Id) : Bool :=
  c.attributes[id]?.any fun a =>
    (c.paged? (effectivePageSize q.pageSize).toNat q.activeFilter a).isSome

section Parts

variable {c : Catalog} {r : Rule}

theorem Closed.ids_alwaysPart (h : c.Closed) (r : Rule) (q : Conditions) :
    (c.alwaysPart r q).map VisibleAttribute.id = r.alwaysVisibleIds.filter (c.isListed q) := by
  rw [alwaysPart, attributesAt]
  induction r.alwaysVisibleIds with
  | nil =>
      rfl
  | cons id ids ih =>
      cases ha : c.attributes[id]? with
      | none =>
          have hlisted : c.isListed q id = false := by
            rw [isListed, ha]
            rfl
          rw [List.filterMap_cons_none ha, ih,
            List.filter_cons_of_neg (ne_true_of_eq_false hlisted)]
      | some a =>
          rw [List.filterMap_cons_some ha]
          cases hv : c.paged? (effectivePageSize q.pageSize).toNat q.activeFilter a with
          | none =>
              have hlisted : c.isListed q id = false := by
                rw [isListed, ha, Option.any_some, hv]
                rfl
              rw [List.filterMap_cons_none hv, ih,
                List.filter_cons_of_neg (ne_true_of_eq_false hlisted)]
          | some v =>
              have hlisted : c.isListed q id = true := by
                rw [isListed, ha, Option.any_some, hv]
                rfl
              have hid : v.id = id := by
                rw [(paged?_eq_some hv).2]
                exact h.attribute_id id a ha
              rw [List.filterMap_cons_some hv, List.map_cons, ih, hid,
                List.filter_cons_of_pos hlisted]

theorem Closed.ids_unlockedPart (h : c.Closed) (hr : c.ClosedRule r) (q : Conditions) :
    (c.unlockedPart r q).map VisibleAttribute.id =
      ((groupsUnder r q.selectedOptions).map Group.attributeId).eraseDups := by
  rw [unlockedPart, map_filterMap_of_some (k := Group.attributeId), attributeIds_unlockedGroups]
  intro g hg
  rcases mem_unlockedGroups hg with ⟨t, groups, _ht, hgroups, hmem⟩
  rcases exists_attribute (hr.group t groups g hgroups hmem) with ⟨a, ha⟩
  refine ⟨{ id := a.id, title := a.title, options := (c.optionsAt g.optionIds).map offer }, ?_,
    h.attribute_id g.attributeId a ha⟩
  rw [unlocked?, ha]
  rfl

theorem Closed.nodup_ids_unlockedPart (h : c.Closed) (hr : c.ClosedRule r) (q : Conditions) :
    ((c.unlockedPart r q).map VisibleAttribute.id).Nodup := by
  rw [h.ids_unlockedPart hr]
  exact nodup_eraseDups _

theorem Closed.mem_ids_unlockedPart (h : c.Closed) (hr : c.ClosedRule r) {q : Conditions}
    {id : Id} :
    id ∈ (c.unlockedPart r q).map VisibleAttribute.id <-> r.Unlocks q.selectedOptions id := by
  rw [h.ids_unlockedPart hr, List.mem_eraseDups, mem_attributeIds_groupsUnder]

theorem Closed.offers_answer_iff (h : c.Closed) (hr : c.ClosedRule r) (category : CategoryId)
    (q : Conditions) (id : Id) :
    (c.answer r category q).Offers id <->
      id ∈ (c.alwaysPart r q).map VisibleAttribute.id ∨ r.Unlocks q.selectedOptions id := by
  rw [Visible.offers_iff, <- h.mem_ids_unlockedPart hr, <- List.mem_append, <- List.map_append]
  rfl

theorem mem_gatedAttributes_of_unlocks {selected : List Id} {id : Id}
    (h : r.Unlocks selected id) : id ∈ r.gatedAttributes := by
  rcases h with ⟨t, groups, g, _ht, hgroups, hg, hid⟩
  exact Rule.mem_gatedAttributes.mpr ⟨t, groups, g, hgroups, hg, hid⟩

theorem Closed.not_gated_of_mem_ids_alwaysPart (h : c.Closed) (hd : c.DividedRule r)
    {q : Conditions} {id : Id} (hid : id ∈ (c.alwaysPart r q).map VisibleAttribute.id) :
    id ∈ r.attributeIds ∧ id ∉ r.gatedAttributes := by
  rw [h.ids_alwaysPart] at hid
  exact hd.mem_visible.mp (List.mem_filter.mp hid).1

theorem Closed.disjoint_parts (h : c.Closed) (hr : c.ClosedRule r) (hd : c.DividedRule r)
    (q : Conditions) :
    ((c.alwaysPart r q).map VisibleAttribute.id).Disjoint
      ((c.unlockedPart r q).map VisibleAttribute.id) := by
  intro id halways hunlocked
  exact (h.not_gated_of_mem_ids_alwaysPart hd halways).2
    (mem_gatedAttributes_of_unlocks ((h.mem_ids_unlockedPart hr).mp hunlocked))

/-- The entries of an answer fall into those of what is always visible and those that were
brought into view. -/
structure Divides (r : Rule) (v : Visible) (always unlocked : List VisibleAttribute) : Prop where
  attributes_eq : v.attributes = always ++ unlocked
  visible : forall a, a ∈ always -> a.id ∈ r.alwaysVisibleIds
  not_visible : forall a, a ∈ unlocked -> a.id ∉ r.alwaysVisibleIds

theorem Closed.divides_answer (h : c.Closed) (hr : c.ClosedRule r) (hd : c.DividedRule r)
    (category : CategoryId) (q : Conditions) :
    Divides r (c.answer r category q) (c.alwaysPart r q) (c.unlockedPart r q) where
  attributes_eq := rfl
  visible := by
    intro a ha
    have hid := List.mem_map_of_mem (f := VisibleAttribute.id) ha
    exact hd.mem_visible.mpr (h.not_gated_of_mem_ids_alwaysPart hd hid)
  not_visible := by
    intro a ha hvisible
    have hunlocks := (h.mem_ids_unlockedPart hr).mp (List.mem_map_of_mem ha)
    exact (hd.mem_visible.mp hvisible).2 (mem_gatedAttributes_of_unlocks hunlocks)

end Parts

/-!
# The parts of a category

Sorting moves the attributes of a rule and leaves them in their parts.
-/

/-- In every rule of a catalog that can be compiled, however often it was put into display
order, an attribute of the category is either always visible or behind a trigger, and no
answer offers an attribute in both ways. -/
theorem Compiled.attributes_divided {c : Catalog} (h : c.Compiled) {category : CategoryId}
    {r : Rule} (hr : c.rules[category]? = some r) :
    r.alwaysVisibleIds = r.attributeIds.filter (fun id => !r.gatedAttributes.contains id) ∧
      (forall id, id ∈ r.attributeIds ->
        (id ∈ r.alwaysVisibleIds <->
          ¬ exists (t : Id) (groups : List Group) (g : Group),
            r.triggers[t]? = some groups ∧ g ∈ groups ∧ g.attributeId = id)) ∧
      forall q : Conditions, q.categoryIds = [category] ->
        exists v, c.find q = .ok v ∧ v.attributes = c.alwaysPart r q ++ c.unlockedPart r q ∧
          ((c.alwaysPart r q).map VisibleAttribute.id).Disjoint
            ((c.unlockedPart r q).map VisibleAttribute.id) := by
  have hrule := h.closed.rule category r hr
  have hdivided := h.divided.rule category r hr
  refine ⟨hdivided.visible_eq, ?_, ?_⟩
  · intro id hid
    rw [hdivided.mem_visible, <- Rule.mem_gatedAttributes]
    exact and_iff_right hid
  · intro q hq
    exact ⟨c.answer r category q, h.closed.find_eq hr hq, rfl,
      h.closed.disjoint_parts hrule hdivided q⟩

theorem attributes_divided_shoeShop :
    let c := (((∅ : Builder).withCategories ∅).performAll Builder.shoeShop).finish.1.presort
    exists r v, c.rules[(10 : CategoryId)]? = some r ∧ r.attributeIds = [1, 2] ∧
      r.alwaysVisibleIds = r.attributeIds.filter (fun id => !r.gatedAttributes.contains id) ∧
      (1 : Id) ∈ r.alwaysVisibleIds ∧ (2 : Id) ∉ r.alwaysVisibleIds ∧
      c.find { categoryIds := [10], pairs := [{ attributeId := 1, optionId := 3 }] } = .ok v := by
  intro c
  have hcompiled : c.Compiled := Compiled.presort (Compiled.finish ∅ Builder.shoeShop)
  have hfacts : (c.rules[(10 : CategoryId)]?.map fun r =>
      (r.attributeIds, r.gatedAttributes.toList)) = some ([1, 2], [2]) := by
    rfl
  rcases Option.map_eq_some_iff.mp hfacts with ⟨r, hr, heq⟩
  rcases Prod.mk.inj heq with ⟨hassigned, hgated⟩
  rcases hcompiled.attributes_divided hr with ⟨hvisible, hdivided, hfind⟩
  have hmem : forall id : Id, id ∈ r.gatedAttributes <-> id ∈ [2] := by
    intro id
    rw [<- Std.ExtTreeSet.mem_toList, hgated]
  rcases hfind { categoryIds := [10], pairs := [{ attributeId := 1, optionId := 3 }] } rfl with
    ⟨v, hv, _hattributes, _hdisjoint⟩
  refine ⟨r, v, hr, hassigned, hvisible, ?_, ?_, hv⟩
  · rw [hdivided 1 (by rw [hassigned]; decide), <- Rule.mem_gatedAttributes, hmem]
    decide
  · rw [hdivided 2 (by rw [hassigned]; decide), <- Rule.mem_gatedAttributes, hmem]
    decide

/-!
# Attributes of other categories

A group is put behind a trigger without asking whether the category has its attribute.
-/

theorem Closed.offers_unassigned_iff {c : Catalog} (h : c.Closed) {r : Rule}
    (hr : c.ClosedRule r) (hd : c.DividedRule r) (category : CategoryId) (q : Conditions)
    {id : Id} (hid : id ∉ r.attributeIds) :
    (c.answer r category q).Offers id <-> r.Unlocks q.selectedOptions id := by
  rw [h.offers_answer_iff hr]
  apply or_iff_right
  intro halways
  exact hid (h.not_gated_of_mem_ids_alwaysPart hd halways).1

/-- An attribute that the category does not have is offered exactly when a selected option
has a group for it.  So a category offers its own attributes alone exactly when its rule has
groups for no others. -/
theorem Compiled.offers_assigned_only_iff {c : Catalog} (h : c.Compiled)
    {category : CategoryId} {r : Rule} (hr : c.rules[category]? = some r) :
    (forall (q : Conditions) (id : Id), q.categoryIds = [category] -> id ∉ r.attributeIds ->
      exists v, c.find q = .ok v ∧ (v.Offers id <-> r.Unlocks q.selectedOptions id)) ∧
      ((forall (q : Conditions) (v : Visible) (id : Id), q.categoryIds = [category] ->
          c.find q = .ok v -> v.Offers id -> id ∈ r.attributeIds) <->
        forall id, id ∈ r.gatedAttributes -> id ∈ r.attributeIds) := by
  have hrule := h.closed.rule category r hr
  have hdivided := h.divided.rule category r hr
  constructor
  · intro q id hq hid
    exact ⟨c.answer r category q, h.closed.find_eq hr hq,
      h.closed.offers_unassigned_iff hrule hdivided category q hid⟩
  · constructor
    · intro hall id hgated
      rcases Rule.mem_gatedAttributes.mp hgated with ⟨t, groups, g, hgroups, hg, hid⟩
      -- Selecting the trigger is enough; the attribute of the pair plays no part.
      let q : Conditions :=
        { categoryIds := [category], pairs := [{ attributeId := 0, optionId := t }] }
      have hselected : t ∈ q.selectedOptions := by
        simp [q, Conditions.selectedOptions]
      apply hall q (c.answer r category q) id rfl (h.closed.find_eq hr rfl)
      rw [h.closed.offers_answer_iff hrule]
      exact Or.inr ⟨t, groups, g, hselected, hgroups, hg, hid⟩
    · intro hgated q v id hq hv hoffers
      rw [h.closed.find_eq hr hq] at hv
      cases hv
      apply Classical.byContradiction
      intro hid
      rw [h.closed.offers_unassigned_iff hrule hdivided category q hid] at hoffers
      exact hid (hgated id (mem_gatedAttributes_of_unlocks hoffers))

/-- The catalog of a shop that has disabled the assignment of sizes to category 10. -/
def withoutSizes : Catalog :=
  (((∅ : Builder).withCategories ∅).performAll
    [.fields .attributes ["kind", "", "f", "f", "f", "Kind", "1", "", "", "f", "", ""],
      .fields .attributes ["size", "", "f", "f", "f", "Size", "2", "", "", "f", "", ""],
      .fields .options
        ["00000000-0000-0000-0000-000000000001", "kind", "Shoes", "f", "1", "", "", "", ""],
      .fields .options ["forty-two", "size", "42", "f", "1", "", "", "", ""],
      .fields .assignments ["first", "10", "kind", "f"],
      .fields .assignments ["second", "10", "size", "t"],
      .fields .dynamicOptions
        ["third", "10", "forty-two", "\x7b00000000-0000-0000-0000-000000000001\x7d", "f"]]).finish.1

theorem compiled_withoutSizes : withoutSizes.Compiled :=
  Compiled.finish ∅ _

theorem rules_withoutSizes :
    exists r, withoutSizes.rules[(10 : CategoryId)]? = some r ∧ r.attributeIds = [1] ∧
      r.triggers[(3 : Id)]? = some [{ attributeId := 2, optionIds := [4] }] := by
  have hfacts : (withoutSizes.rules[(10 : CategoryId)]?.map fun r =>
      (r.attributeIds, r.triggers[(3 : Id)]?)) =
        some ([1], some [{ attributeId := 2, optionIds := [4] }]) := by
    rfl
  rcases Option.map_eq_some_iff.mp hfacts with ⟨r, hr, heq⟩
  rcases Prod.mk.inj heq with ⟨hassigned, htriggers⟩
  exact ⟨r, hr, hassigned, htriggers⟩

/-- Selecting shoes brings sizes into view. -/
theorem offers_withoutSizes :
    exists r v, withoutSizes.rules[(10 : CategoryId)]? = some r ∧ (2 : Id) ∉ r.attributeIds ∧
      withoutSizes.find
        { categoryIds := [10], pairs := [{ attributeId := 1, optionId := 3 }] } = .ok v ∧
      v.Offers 2 := by
  rcases rules_withoutSizes with ⟨r, hr, hassigned, htriggers⟩
  have hid : (2 : Id) ∉ r.attributeIds := by
    rw [hassigned]
    decide
  rcases (compiled_withoutSizes.offers_assigned_only_iff hr).1
      { categoryIds := [10], pairs := [{ attributeId := 1, optionId := 3 }] } 2 rfl hid with
    ⟨v, hv, hiff⟩
  refine ⟨r, v, hr, hid, hv, hiff.mpr ?_⟩
  exact ⟨3, _, { attributeId := 2, optionIds := [4] }, by decide, htriggers, by simp, rfl⟩

theorem not_offers_assigned_only :
    ¬ forall (c : Catalog) (category : CategoryId) (r : Rule) (q : Conditions) (v : Visible)
        (id : Id), c.Compiled -> c.rules[category]? = some r -> q.categoryIds = [category] ->
      c.find q = .ok v -> v.Offers id -> id ∈ r.attributeIds := by
  intro hall
  rcases rules_withoutSizes with ⟨r, hr, hassigned, _htriggers⟩
  have hanswer : (withoutSizes.find
      { categoryIds := [10], pairs := [{ attributeId := 1, optionId := 3 }] }).map
        (fun v => v.attributes.map VisibleAttribute.id) = .ok [1, 2] := by
    rfl
  rcases exists_of_map_eq_ok hanswer with ⟨v, hv, hids⟩
  have hoffers : v.Offers 2 := by
    rw [Visible.offers_iff, hids]
    decide
  have hmem := hall withoutSizes 10 r _ v 2 compiled_withoutSizes hr rfl hv hoffers
  rw [hassigned] at hmem
  exact absurd hmem (by decide)

/-!
# Attributes offered twice

An attribute that is assigned to a category twice is visible twice.  The entries are alike,
so looking it up is safe.
-/

section Entries

variable {c : Catalog} {r : Rule}

theorem Closed.eq_of_id_eq (h : c.Closed) (hr : c.ClosedRule r) (hd : c.DividedRule r)
    {q : Conditions} {u v : VisibleAttribute}
    (hu : u ∈ c.alwaysPart r q ++ c.unlockedPart r q)
    (hv : v ∈ c.alwaysPart r q ++ c.unlockedPart r q) (hid : u.id = v.id) : u = v := by
  have hdisjoint := h.disjoint_parts hr hd q
  rcases List.mem_append.mp hu with hu | hu
  · rcases List.mem_append.mp hv with hv | hv
    -- Both entries show the page of the attribute that is stored under their number.
    · rcases mem_alwaysPart.mp hu with ⟨i, a, _hi, ha, hua⟩
      rcases mem_alwaysPart.mp hv with ⟨j, b, _hj, hb, hvb⟩
      have hi : u.id = i := by
        rw [(paged?_eq_some hua).2]
        exact h.attribute_id i a ha
      have hj : v.id = j := by
        rw [(paged?_eq_some hvb).2]
        exact h.attribute_id j b hb
      rw [<- hi, hid, hj, hb] at ha
      cases ha
      rw [hua] at hvb
      exact Option.some.inj hvb
    · exact absurd (List.mem_map.mpr ⟨v, hv, hid.symm⟩)
        (hdisjoint (List.mem_map.mpr ⟨u, hu, rfl⟩))
  · rcases List.mem_append.mp hv with hv | hv
    · exact absurd (List.mem_map.mpr ⟨u, hu, hid⟩)
        (hdisjoint (List.mem_map.mpr ⟨v, hv, rfl⟩))
    · exact List.inj_on_of_nodup_map (h.nodup_ids_unlockedPart hr q) hu hv hid

theorem Closed.count_ids_alwaysPart (h : c.Closed) (hd : c.DividedRule r) {q : Conditions}
    {id : Id} (hid : id ∈ (c.alwaysPart r q).map VisibleAttribute.id) :
    ((c.alwaysPart r q).map VisibleAttribute.id).count id = r.attributeIds.count id := by
  have hgated : id ∉ r.gatedAttributes := (h.not_gated_of_mem_ids_alwaysPart hd hid).2
  have hkept : (!r.gatedAttributes.contains id) = true := by
    rw [Bool.not_eq_true']
    exact eq_false_of_ne_true hgated
  rw [h.ids_alwaysPart] at hid ⊢
  rw [List.count_filter (List.mem_filter.mp hid).2, hd.visible_eq,
    List.count_filter (p := fun a => !r.gatedAttributes.contains a) hkept]

theorem Closed.nodup_answer_iff (h : c.Closed) (hr : c.ClosedRule r) (hd : c.DividedRule r)
    (category : CategoryId) (q : Conditions) :
    ((c.answer r category q).attributes.map VisibleAttribute.id).Nodup <->
      forall id, (c.answer r category q).Offers id -> id ∉ r.gatedAttributes ->
        r.attributeIds.count id = 1 := by
  have hparts : (c.answer r category q).attributes.map VisibleAttribute.id =
      (c.alwaysPart r q).map VisibleAttribute.id ++
        (c.unlockedPart r q).map VisibleAttribute.id :=
    List.map_append
  rw [hparts, List.nodup_append', List.nodup_iff_count_eq_one]
  constructor
  · intro hnodup id hoffers hgated
    rcases (h.offers_answer_iff hr category q id).mp hoffers with halways | hunlocks
    · rw [<- h.count_ids_alwaysPart hd halways]
      exact hnodup.1 id halways
    · exact absurd (mem_gatedAttributes_of_unlocks hunlocks) hgated
  · intro honce
    refine ⟨?_, h.nodup_ids_unlockedPart hr q, h.disjoint_parts hr hd q⟩
    intro id halways
    rw [h.count_ids_alwaysPart hd halways]
    apply honce id
    · exact (h.offers_answer_iff hr category q id).mpr (Or.inl halways)
    · exact (h.not_gated_of_mem_ids_alwaysPart hd halways).2

end Entries

/-- An answer offers no attribute twice exactly when it offers none that is assigned to the
category twice and behind no trigger.  Looking an attribute up gives its entry in any case. -/
theorem Compiled.nodup_offered_iff {c : Catalog} (h : c.Compiled) {q : Conditions}
    {v : Visible} (hv : c.find q = .ok v) :
    ((v.attributes.map VisibleAttribute.id).Nodup <->
      forall (category : CategoryId) (r : Rule) (id : Id), q.categoryIds = [category] ->
        c.rules[category]? = some r -> v.Offers id -> id ∉ r.gatedAttributes ->
        r.attributeIds.count id = 1) ∧
      forall a, a ∈ v.attributes -> v.get? a.id = some a := by
  rcases h.closed.eq_of_find hv with ⟨hids, rfl⟩ | ⟨category, r, hids, hr, rfl⟩
  · constructor
    · constructor
      · intro _hnodup category r id hq
        rw [hids] at hq
        cases hq
      · intro _honce
        exact List.nodup_nil
    · intro a ha
      cases ha
  · have hrule := h.closed.rule category r hr
    have hdivided := h.divided.rule category r hr
    constructor
    · rw [h.closed.nodup_answer_iff hrule hdivided]
      constructor
      · intro honce named s id hq hs
        rw [hids] at hq
        cases hq
        rw [hr] at hs
        cases hs
        exact honce id
      · intro honce id
        exact honce category r id hids hr
    · intro a ha
      apply Visible.get?_of_eq _ ha
      intro u w hu hw
      exact h.closed.eq_of_id_eq hrule hdivided hu hw

/-- The tables of a shop that has assigned kinds to category 10 twice. -/
def kindsTwiceRecords : List (Table × List String) :=
  [(.attributes, ["kind", "", "f", "f", "f", "Kind", "1", "", "", "f", "", ""]),
    (.options, ["shoes", "kind", "Shoes", "f", "1", "", "", "", ""]),
    (.assignments, ["first", "10", "kind", "f"]),
    (.assignments, ["second", "10", "kind", "f"])]

def kindsTwice : Catalog :=
  (((∅ : Builder).withCategories ∅).performAll (Builder.recordCalls kindsTwiceRecords)).finish.1

theorem compiled_kindsTwice : kindsTwice.Compiled :=
  Compiled.finish ∅ _

theorem find_kindsTwice :
    exists v, kindsTwice.find (.ofCategory 10) = .ok v ∧
      v.attributes.map VisibleAttribute.id = [1, 1] :=
  exists_of_map_eq_ok rfl

theorem nodup_offered_kindsTwice :
    exists v, kindsTwice.find (.ofCategory 10) = .ok v ∧
      ¬ (v.attributes.map VisibleAttribute.id).Nodup ∧
      forall a, a ∈ v.attributes -> v.get? a.id = some a := by
  rcases find_kindsTwice with ⟨v, hv, hids⟩
  rcases compiled_kindsTwice.nodup_offered_iff hv with ⟨hiff, hget⟩
  have hfacts : (kindsTwice.rules[(10 : CategoryId)]?.map fun r =>
      (r.attributeIds, r.gatedAttributes.contains 1)) = some ([1, 1], false) := by
    rfl
  rcases Option.map_eq_some_iff.mp hfacts with ⟨r, hr, heq⟩
  rcases Prod.mk.inj heq with ⟨hassigned, hgated⟩
  refine ⟨v, hv, ?_, hget⟩
  intro hnodup
  have hoffers : v.Offers 1 := by
    rw [Visible.offers_iff, hids]
    decide
  have honce := hiff.mp hnodup 10 r 1 rfl hr hoffers (ne_true_of_eq_false hgated)
  rw [hassigned] at honce
  exact absurd honce (by decide)

theorem not_nodup_offered :
    ¬ forall (tree : CategoryTree) (records : List (Table × List String)) (q : Conditions)
        (v : Visible),
      (((∅ : Builder).withCategories tree).performAll
        (Builder.recordCalls records)).finish.1.find q = .ok v ->
          (v.attributes.map VisibleAttribute.id).Nodup := by
  intro hall
  rcases find_kindsTwice with ⟨v, hv, hids⟩
  have hnodup := hall ∅ kindsTwiceRecords (.ofCategory 10) v hv
  rw [hids] at hnodup
  exact absurd hnodup (by decide)

end Catalog
end FacetRules
