import FacetRules.Proofs.Catalog.Partition
import FacetRules.Proofs.Compile.Rules
import FacetRules.Proofs.Query.Answer

/-!
# Options without a precondition

An option that a category lists without a precondition is offered with its attribute as
long as no trigger gates the attribute.  Once a trigger does, the attribute is no longer
always visible, and the option is offered only where a selected trigger has a group
with it: without such a selection it is hidden.
-/

namespace FacetRules

namespace Visible

/-- The answer lists the option under the attribute. -/
def Lists (v : Visible) (attributeId optionId : Id) : Prop :=
  exists a, a ∈ v.attributes ∧ a.id = attributeId ∧ exists o, o ∈ a.options ∧ o.id = optionId

end Visible

namespace Catalog

/-!
# Pages that show everything
-/

/-- Where no filter acts and the page is long enough, all options are on it. -/
theorem pageOf_eq_all {c : Catalog} {pageSize : Nat} {filter : Option TitleFilter}
    {a : Attribute} (hfilter : forall f, filter = some f -> f.attributeId ≠ a.id)
    (hlength : a.optionIds.length ≤ pageSize) :
    c.pageOf pageSize filter a = (c.optionsAt a.optionIds).map offer := by
  have hkeeps : forall title, keepsFor filter a.id title = true := by
    intro title
    cases hactive : filter with
    | none =>
        rfl
    | some f =>
        have hne : (f.attributeId != a.id) = true := bne_iff_ne.mpr (hfilter f hactive)
        rw [keepsFor, hne, Bool.true_or]
  have hcount : (c.optionsAt a.optionIds).length ≤ pageSize :=
    Nat.le_trans (List.length_filterMap_le _ _) hlength
  have hall : (c.optionsAt a.optionIds).filter (fun o => keepsFor filter a.id o.title) =
      c.optionsAt a.optionIds := by
    apply List.filter_eq_self.mpr
    intro o _ho
    exact hkeeps o.title
  rw [pageOf, hall, List.take_of_length_le hcount]

/-!
# Options on offer
-/

section Offer

variable {c : Catalog} {r : Rule} {q : Conditions} {o : AttributeOption} {id : Id}
  {a : Attribute}

/-- An attribute that is always visible is offered with all its options, where these fit
on a page and no filter is on. -/
theorem Closed.lists_alwaysPart (h : c.Closed) (hr : c.DividedRule r)
    (ho : c.options[id]? = some o) (ha : c.attributes[o.attributeId]? = some a)
    (hlisted : id ∈ a.optionIds) (hassigned : o.attributeId ∈ r.attributeIds)
    (hfilter : forall f, q.activeFilter = some f -> f.attributeId ≠ o.attributeId)
    (hlength : a.optionIds.length ≤ (effectivePageSize q.pageSize).toNat) :
    (exists v, v ∈ c.alwaysPart r q ∧ v.id = o.attributeId ∧
        exists shown, shown ∈ v.options ∧ shown.id = id) <->
      o.attributeId ∉ r.gatedAttributes := by
  have hid : a.id = o.attributeId := h.attribute_id o.attributeId a ha
  constructor
  · intro hexists
    rcases hexists with ⟨v, hv, hattribute, _hshown⟩
    rcases mem_alwaysPart.mp hv with ⟨number, b, hvisible, hb, hpaged⟩
    rw [(paged?_eq_some hpaged).2] at hattribute
    have hnumber : number = o.attributeId := (h.attribute_id number b hb).symm.trans hattribute
    rw [hnumber] at hvisible
    exact (hr.mem_visible.mp hvisible).2
  · intro hgated
    have hvisible := hr.mem_visible.mpr ⟨hassigned, hgated⟩
    have hpage : c.pageOf (effectivePageSize q.pageSize).toNat q.activeFilter a =
        (c.optionsAt a.optionIds).map offer := by
      apply pageOf_eq_all
      · intro f hf
        rw [hid]
        exact hfilter f hf
      · exact hlength
    have hoffer : offer o ∈ (c.optionsAt a.optionIds).map offer :=
      List.mem_map.mpr ⟨o, mem_optionsAt.mpr ⟨id, hlisted, ho⟩, rfl⟩
    refine ⟨{ id := a.id, title := a.title, options := (c.optionsAt a.optionIds).map offer },
      ?_, hid, offer o, hoffer, h.option_id id o ho⟩
    apply mem_alwaysPart.mpr
    refine ⟨o.attributeId, a, hvisible, ha, ?_⟩
    rw [paged?, hpage, if_neg]
    intro hempty
    rw [List.isEmpty_iff.mp hempty] at hoffer
    cases hoffer

theorem Closed.lists_unlockedPart (h : c.Closed) (hr : c.ClosedRule r)
    (ho : c.options[id]? = some o) :
    (exists v, v ∈ c.unlockedPart r q ∧ v.id = o.attributeId ∧
        exists shown, shown ∈ v.options ∧ shown.id = id) <->
      exists g, g ∈ unlockedGroups r q.selectedOptions ∧ g.attributeId = o.attributeId ∧
        id ∈ g.optionIds := by
  constructor
  · intro hexists
    rcases hexists with ⟨v, hv, hattribute, shown, hshown, rfl⟩
    rcases mem_unlockedPart.mp hv with ⟨g, b, hg, hb, rfl⟩
    rcases List.mem_map.mp hshown with ⟨stored, hstored, rfl⟩
    refine ⟨g, hg, ?_, h.mem_optionsAt_id hstored⟩
    exact (h.attribute_id g.attributeId b hb).symm.trans hattribute
  · intro hexists
    rcases hexists with ⟨g, hg, hattribute, hid⟩
    rcases mem_unlockedGroups hg with ⟨t, groups, _ht, hgroups, hmem⟩
    rcases exists_attribute (hr.group t groups g hgroups hmem) with ⟨b, hb⟩
    refine ⟨_, mem_unlockedPart.mpr ⟨g, b, hg, hb, rfl⟩, ?_, offer o, ?_, h.option_id id o ho⟩
    · exact (h.attribute_id g.attributeId b hb).trans hattribute
    · exact List.mem_map.mpr ⟨o, mem_optionsAt.mpr ⟨id, hid, ho⟩, rfl⟩

end Offer

/-- Where an option without a precondition is offered: with its attribute as long as no
trigger gates it, and otherwise only in a group that a selected option brings into view. -/
theorem Compiled.lists_ungated_iff {c : Catalog} (h : c.Compiled) {category : CategoryId}
    {r : Rule} (hr : c.rules[category]? = some r) {id : Id} (hid : id ∈ r.ungatedOptions)
    {q : Conditions} (hq : q.categoryIds = [category]) :
    exists (o : AttributeOption) (a : Attribute) (v : Visible),
      c.options[id]? = some o ∧ c.attributes[o.attributeId]? = some a ∧ c.find q = .ok v ∧
        ((forall f, q.activeFilter = some f -> f.attributeId ≠ o.attributeId) ->
          a.optionIds.length ≤ (effectivePageSize q.pageSize).toNat ->
          (v.Lists o.attributeId id <->
            o.attributeId ∉ r.gatedAttributes ∨
              exists g, g ∈ unlockedGroups r q.selectedOptions ∧
                g.attributeId = o.attributeId ∧ id ∈ g.optionIds)) := by
  have hclosed := h.closed
  have hrule := hclosed.rule category r hr
  have hdivided := h.divided.rule category r hr
  rcases hdivided.ungated id hid with ⟨o, ho, hassigned⟩
  rcases exists_attribute (hrule.assigned o.attributeId hassigned) with ⟨a, ha⟩
  have hlisted : id ∈ a.optionIds := h.divided.listed id o a ho ha
  refine ⟨o, a, c.answer r category q, ho, ha, ?_, ?_⟩
  · rw [find, hq]
    exact hclosed.findIn_eq hr q
  · intro hfilter hlength
    rw [<- hclosed.lists_alwaysPart hdivided ho ha hlisted hassigned hfilter hlength,
      <- hclosed.lists_unlockedPart hrule ho]
    constructor
    · intro hexists
      rcases hexists with ⟨v, hv, hattribute, hshown⟩
      rcases List.mem_append.mp hv with hv | hv
      · exact Or.inl ⟨v, hv, hattribute, hshown⟩
      · exact Or.inr ⟨v, hv, hattribute, hshown⟩
    · intro hcase
      rcases hcase with ⟨v, hv, hattribute, hshown⟩ | ⟨v, hv, hattribute, hshown⟩
      · exact ⟨v, List.mem_append.mpr (Or.inl hv), hattribute, hshown⟩
      · exact ⟨v, List.mem_append.mpr (Or.inr hv), hattribute, hshown⟩

def shoes : Catalog :=
  (((∅ : Builder).withCategories ∅).performAll Builder.shoeShop).finish.1

theorem rules_shoes :
    exists r, shoes.rules[(10 : CategoryId)]? = some r ∧ (4 : Id) ∈ r.ungatedOptions ∧
      (2 : Id) ∈ r.gatedAttributes ∧
      unlockedGroups r [3] = [{ attributeId := 2, optionIds := [5] }] := by
  have hfacts : (shoes.rules[(10 : CategoryId)]?.map fun r =>
      (r.ungatedOptions.contains 4, r.gatedAttributes.contains 2, unlockedGroups r [3])) =
        some (true, true, [{ attributeId := 2, optionIds := [5] }]) := by
    rfl
  rcases Option.map_eq_some_iff.mp hfacts with ⟨r, hr, heq⟩
  rcases Prod.mk.inj heq with ⟨hungated, hrest⟩
  rcases Prod.mk.inj hrest with ⟨hgated, hunlocked⟩
  exact ⟨r, hr, hungated, hgated, hunlocked⟩

/-- Selecting shoes hides size 42, which has no precondition. -/
theorem lists_ungated_shoes :
    exists v, shoes.find { categoryIds := [10], pairs := [{ attributeId := 1, optionId := 3 }] } =
        .ok v ∧
      ¬ v.Lists 2 4 := by
  rcases rules_shoes with ⟨r, hr, hungated, hgated, hunlocked⟩
  have hcompiled : shoes.Compiled := Compiled.finish ∅ Builder.shoeShop
  rcases hcompiled.lists_ungated_iff hr hungated
      (q := { categoryIds := [10], pairs := [{ attributeId := 1, optionId := 3 }] }) rfl with
    ⟨o, a, v, ho, ha, hv, hiff⟩
  have howner : o.attributeId = 2 := by
    have hstored : (shoes.options[(4 : Id)]?.map AttributeOption.attributeId) = some 2 := by
      rfl
    rw [ho] at hstored
    exact Option.some.inj hstored
  have hlength : a.optionIds.length = 2 := by
    have hstored : (shoes.attributes[(2 : Id)]?.map fun a => a.optionIds.length) = some 2 := by
      rfl
    rw [howner] at ha
    rw [ha] at hstored
    exact Option.some.inj hstored
  have hselected : Conditions.selectedOptions
      { categoryIds := [10], pairs := [{ attributeId := 1, optionId := 3 }] } = [3] := by
    rfl
  rw [howner, hselected, hunlocked, hlength] at hiff
  refine ⟨v, hv, ?_⟩
  intro hlists
  rcases (hiff (fun f hf => by cases hf) (by decide)).mp hlists with
    hvisible | ⟨g, hg, _hattribute, hmem⟩
  · exact hvisible hgated
  · rw [List.mem_singleton.mp hg] at hmem
    exact absurd hmem (by decide)

/-- Without a selection, size 42 is hidden as well. -/
theorem not_lists_ungated :
    ¬ forall (c : Catalog) (category : CategoryId) (r : Rule) (id : Id) (o : AttributeOption)
        (a : Attribute) (q : Conditions),
      c.Compiled -> c.rules[category]? = some r -> id ∈ r.ungatedOptions ->
        c.options[id]? = some o -> c.attributes[o.attributeId]? = some a ->
        q.categoryIds = [category] ->
        (forall f, q.activeFilter = some f -> f.attributeId ≠ o.attributeId) ->
        a.optionIds.length ≤ (effectivePageSize q.pageSize).toNat ->
        exists v, c.find q = .ok v ∧ v.Lists o.attributeId id := by
  intro hall
  rcases rules_shoes with ⟨r, hr, hungated, _hgated, _hunlocked⟩
  have hstored : (shoes.options[(4 : Id)]?.map AttributeOption.attributeId) = some 2 := by
    rfl
  have hoptions : (shoes.attributes[(2 : Id)]?.map fun a => a.optionIds.length) = some 2 := by
    rfl
  rcases Option.map_eq_some_iff.mp hstored with ⟨o, ho, howner⟩
  rcases Option.map_eq_some_iff.mp hoptions with ⟨a, ha, hlength⟩
  have hfits : a.optionIds.length ≤ (effectivePageSize 0).toNat := by
    rw [hlength]
    decide
  rcases hall shoes 10 r 4 o a (.ofCategory 10) (Compiled.finish ∅ Builder.shoeShop) hr hungated ho
      (by rw [howner]; exact ha) rfl (fun f hf => by cases hf) hfits with
    ⟨v, hv, shown, hshown, hid, _hoption⟩
  have hanswer : (shoes.find (.ofCategory 10)).map (fun v => v.attributes.map (·.id)) =
      .ok [1] := by
    rfl
  rw [hv] at hanswer
  have hids : v.attributes.map (·.id) = [1] := Except.ok.inj hanswer
  have hmem : shown.id ∈ v.attributes.map (·.id) := List.mem_map.mpr ⟨shown, hshown, rfl⟩
  rw [hids, hid, howner] at hmem
  exact absurd hmem (by decide)

end Catalog
end FacetRules
