import FacetRules.Proofs.Catalog.DisplayOrder
import FacetRules.Proofs.Query.SelectionOrder

/-!
# Before and after sorting

Putting a catalog into display order moves attributes within the rules and options within the
attributes, and changes nothing else.  A query is then answered with the same pages, and the same
comes into view.  What is always visible comes in another order; a page that cuts off options may
show others than before, but as many of them, so that the same attributes have something on
their pages.  Where the pages hold all options, they show the same ones.
-/

namespace FacetRules

namespace StableSort

/-- The elements of the source, once each, arranged by their keys. -/
structure Sorts {α : Type} (key : α -> Int64) (source xs : List α) : Prop
    extends Arranges key source xs where
  perm : xs.Perm source

theorem sorts_sort {α : Type} (key : α -> Int64) (xs : List α) : Sorts key xs (sort key xs) where
  toArranges := arranges_sort key xs
  perm := sort_perm key xs

theorem length_sort {α : Type} (key : α -> Int64) (xs : List α) :
    (sort key xs).length = xs.length :=
  (sort_perm key xs).length_eq

end StableSort

/-- What an entry shows, but for the choice of its options. -/
def VisibleAttribute.outline (v : VisibleAttribute) : Id × String × Nat :=
  (v.id, v.title, v.options.length)

namespace Catalog

/-!
# What is sorted
-/

/-- The attributes of the rule are sorted, and everything else in it is as before. -/
structure SortsRule (c : Catalog) (r s : Rule) : Prop where
  attributeIds : StableSort.Sorts c.attributeOrder r.attributeIds s.attributeIds
  alwaysVisibleIds : StableSort.Sorts c.attributeOrder r.alwaysVisibleIds s.alwaysVisibleIds
  rest_eq : { s with attributeIds := r.attributeIds, alwaysVisibleIds := r.alwaysVisibleIds } = r

/-- The options of the attribute are sorted, and everything else in it is as before. -/
structure SortsAttribute (c : Catalog) (a b : Attribute) : Prop where
  optionIds : StableSort.Sorts c.optionOrder a.optionIds b.optionIds
  rest_eq : { b with optionIds := a.optionIds } = a

/-- The rules and the attributes of the catalog are sorted, and everything else in it is as
before. -/
structure SortsCatalog (c d : Catalog) : Prop where
  registry_eq : d.registry = c.registry
  options_eq : d.options = c.options
  categories_eq : d.categories = c.categories
  stats_eq : d.stats = c.stats
  rules : forall category : CategoryId,
    Option.Rel c.SortsRule c.rules[category]? d.rules[category]?
  attributes : forall id : Id, Option.Rel c.SortsAttribute c.attributes[id]? d.attributes[id]?

theorem sortsRule_sortRule (c : Catalog) (r : Rule) : c.SortsRule r (c.sortRule r) where
  attributeIds := StableSort.sorts_sort c.attributeOrder r.attributeIds
  alwaysVisibleIds := StableSort.sorts_sort c.attributeOrder r.alwaysVisibleIds
  rest_eq := rfl

theorem sortsAttribute_sortAttribute (c : Catalog) (a : Attribute) :
    c.SortsAttribute a (c.sortAttribute a) where
  optionIds := StableSort.sorts_sort c.optionOrder a.optionIds
  rest_eq := rfl

theorem stats_presort (c : Catalog) : c.presort.stats = c.stats := by
  have hattributes : c.presort.attributes.toList =
      c.attributes.toList.map fun entry => (entry.1, c.sortAttribute entry.2) := by
    rw [presort, Std.ExtTreeMap.toList_map]
  have hrules : c.presort.ruleList.map ruleRefs = c.ruleList.map ruleRefs := by
    rw [ruleList, ruleList, presort, Std.ExtTreeMap.toList_map, List.map_map, List.map_map,
      List.map_map]
    apply List.map_congr_left
    intro entry _hentry
    show 1 + (StableSort.sort c.attributeOrder entry.2.attributeIds).length +
      (StableSort.sort c.attributeOrder entry.2.alwaysVisibleIds).length + _ = _
    rw [StableSort.length_sort, StableSort.length_sort]
    rfl
  have hattributesSize : c.presort.attributes.size = c.attributes.size :=
    Std.ExtTreeMap.size_map
  have hrulesSize : c.presort.rules.size = c.rules.size :=
    Std.ExtTreeMap.size_map
  rw [stats, stats, hattributes, hrules, hattributesSize, hrulesSize, List.map_map]
  simp only [Function.comp_def, sortAttribute, StableSort.length_sort]
  rfl

theorem sortsCatalog_presort (c : Catalog) : c.SortsCatalog c.presort where
  registry_eq := rfl
  options_eq := rfl
  categories_eq := rfl
  stats_eq := c.stats_presort
  rules := by
    intro category
    rw [getElem?_rules_presort]
    cases c.rules[category]? with
    | none => exact Option.Rel.none
    | some r => exact Option.Rel.some (c.sortsRule_sortRule r)
  attributes := by
    intro id
    rw [getElem?_attributes_presort]
    cases c.attributes[id]? with
    | none => exact Option.Rel.none
    | some a => exact Option.Rel.some (c.sortsAttribute_sortAttribute a)

/-!
# Pages of sorted attributes
-/

/-- The options of every attribute fit on one page. -/
def Fits (c : Catalog) (pageSize : UInt64) : Prop :=
  forall (id : Id) (a : Attribute), c.attributes[id]? = some a ->
    a.optionIds.length ≤ pageSize.toNat

section Pages

variable {c : Catalog} {pageSize : Nat} {filter : Option TitleFilter} {a : Attribute}

theorem attributesAt_presort (c : Catalog) (ids : List Id) :
    c.presort.attributesAt ids = (c.attributesAt ids).map c.sortAttribute := by
  simp only [attributesAt, getElem?_attributes_presort, List.map_filterMap]

theorem admitted_sortAttribute_perm (c : Catalog) (filter : Option TitleFilter) (a : Attribute) :
    ((c.presort.optionsAt (c.sortAttribute a).optionIds).filter
        fun o => keepsFor filter (c.sortAttribute a).id o.title).Perm
      ((c.optionsAt a.optionIds).filter fun o => keepsFor filter a.id o.title) :=
  ((StableSort.sort_perm c.optionOrder a.optionIds).filterMap _).filter _

theorem length_pageOf_sortAttribute :
    (c.presort.pageOf pageSize filter (c.sortAttribute a)).length =
      (c.pageOf pageSize filter a).length := by
  rw [pageOf, pageOf, List.length_map, List.length_map, List.length_take, List.length_take,
    (c.admitted_sortAttribute_perm filter a).length_eq]

/-- A page that holds all options shows the same ones as before. -/
theorem pageOf_sortAttribute_perm (hlength : a.optionIds.length ≤ pageSize) :
    (c.presort.pageOf pageSize filter (c.sortAttribute a)).Perm (c.pageOf pageSize filter a) := by
  have hperm := c.admitted_sortAttribute_perm filter a
  have hcount : ((c.optionsAt a.optionIds).filter
      fun o => keepsFor filter a.id o.title).length ≤ pageSize :=
    Nat.le_trans (List.length_filter_le _ _)
      (Nat.le_trans (List.length_filterMap_le _ _) hlength)
  rw [pageOf, pageOf, List.take_of_length_le hcount,
    List.take_of_length_le (hperm.length_eq ▸ hcount)]
  exact hperm.map offer

theorem pagesOf_sortAttribute (c : Catalog) (pageSize : Nat) (as : List Attribute) :
    pagesOf pageSize (as.map c.sortAttribute) = pagesOf pageSize as := by
  induction as with
  | nil =>
      rfl
  | cons a as ih =>
      show max (pagesFor pageSize (StableSort.sort c.optionOrder a.optionIds).length)
        (pagesOf pageSize (as.map c.sortAttribute)) = _
      rw [StableSort.length_sort, ih]
      rfl

theorem pagesOf_perm (hsize : 0 < pageSize) {as bs : List Attribute} (h : as.Perm bs) :
    pagesOf pageSize as = pagesOf pageSize bs := by
  apply eq_of_forall_ge_iff
  intro n
  simp only [pagesOf_le_iff hsize, h.mem_iff]

end Pages

/-!
# Entries of sorted attributes
-/

section Entries

variable {c : Catalog} {r : Rule} {q : Conditions}

theorem outline_paged?_sortAttribute (c : Catalog) (pageSize : Nat)
    (filter : Option TitleFilter) (a : Attribute) :
    (c.presort.paged? pageSize filter (c.sortAttribute a)).map VisibleAttribute.outline =
      (c.paged? pageSize filter a).map VisibleAttribute.outline := by
  have hlength : (c.presort.pageOf pageSize filter (c.sortAttribute a)).length =
      (c.pageOf pageSize filter a).length :=
    length_pageOf_sortAttribute
  have hempty : (c.presort.pageOf pageSize filter (c.sortAttribute a)).isEmpty =
      (c.pageOf pageSize filter a).isEmpty := by
    rw [Bool.eq_iff_iff, List.isEmpty_iff_length_eq_zero, List.isEmpty_iff_length_eq_zero,
      hlength]
  unfold paged?
  rw [hempty]
  split
  · rfl
  · simp only [Option.map_some, VisibleAttribute.outline, hlength]
    rfl

/-- The same attributes have something on their pages, and as much as before. -/
theorem outline_alwaysPart_presort (c : Catalog) (r : Rule) (q : Conditions) :
    ((c.presort.alwaysPart (c.sortRule r) q).map VisibleAttribute.outline).Perm
      ((c.alwaysPart r q).map VisibleAttribute.outline) := by
  rw [alwaysPart, alwaysPart, List.map_filterMap, List.map_filterMap, attributesAt_presort,
    List.filterMap_map]
  simp only [Function.comp_def, outline_paged?_sortAttribute]
  exact ((StableSort.sort_perm c.attributeOrder r.alwaysVisibleIds).filterMap _).filterMap _

theorem unlockedPart_presort (c : Catalog) (r : Rule) (q : Conditions) :
    c.presort.unlockedPart (c.sortRule r) q = c.unlockedPart r q := by
  rw [unlockedPart, unlockedPart]
  congr 1
  funext g
  rw [unlocked?, unlocked?, getElem?_attributes_presort, Option.map_map]
  rfl

/-- An entry for a page that holds all options is as before but for their order. -/
theorem Closed.options_perm_of_id_eq (h : c.Closed)
    (hfits : c.Fits (effectivePageSize q.pageSize))
    {v w : VisibleAttribute} (hv : v ∈ c.alwaysPart r q)
    (hw : w ∈ c.presort.alwaysPart (c.sortRule r) q) (hid : w.id = v.id) :
    w.options.Perm v.options := by
  rcases mem_alwaysPart.mp hv with ⟨i, a, _hi, ha, hva⟩
  rcases mem_alwaysPart.mp hw with ⟨j, b, _hj, hb, hwb⟩
  rw [getElem?_attributes_presort] at hb
  rcases Option.map_eq_some_iff.mp hb with ⟨stored, hstored, rfl⟩
  rw [(paged?_eq_some hva).2, (paged?_eq_some hwb).2] at hid ⊢
  have hij : j = i :=
    (h.attribute_id j stored hstored).symm.trans (hid.trans (h.attribute_id i a ha))
  rw [hij, ha] at hstored
  cases hstored
  exact pageOf_sortAttribute_perm (hfits i a ha)

end Entries

/-!
# Answers
-/

theorem isOffered_of_entries {us ws : List VisibleAttribute}
    (h : forall u, u ∈ us -> exists w, w ∈ ws ∧ w.id = u.id ∧ w.options.Perm u.options) {p : Pair}
    (hp : isOffered us p = true) : isOffered ws p = true := by
  simp only [isOffered, Bool.and_eq_true, List.any_eq_true, beq_iff_eq] at hp ⊢
  rcases hp with ⟨⟨u, hu, huid⟩, u', hu', o, ho, hoid⟩
  rcases h u hu with ⟨w, hw, hwid, _hperm⟩
  rcases h u' hu' with ⟨w', hw', _hwid, hperm⟩
  exact ⟨⟨w, hw, hwid.trans huid⟩, w', hw', o, hperm.mem_iff.mpr ho, hoid⟩

/-- The answers of a catalog before and after it was put into display order. -/
structure SortedAlike (c : Catalog) (r : Rule) (q : Conditions) (v w : Visible) : Prop where
  pages_eq : w.pages = v.pages
  pageSize_eq : w.pageSize = v.pageSize
  parts : exists always always' unlocked,
    Divides r v always unlocked ∧ Divides r w always' unlocked ∧
      (always'.map VisibleAttribute.outline).Perm (always.map VisibleAttribute.outline) ∧
      (c.Fits (effectivePageSize q.pageSize) -> forall a a', a ∈ always -> a' ∈ always' ->
        a'.id = a.id -> a'.options.Perm a.options)
  corrected_eq : c.Fits (effectivePageSize q.pageSize) -> w.corrected = v.corrected

section Answers

variable {c : Catalog} {r : Rule}

theorem isOffered_presort (h : c.Closed) {q : Conditions}
    (hfits : c.Fits (effectivePageSize q.pageSize)) :
    isOffered (c.presort.alwaysPart (c.sortRule r) q ++ c.unlockedPart r q) =
      isOffered (c.alwaysPart r q ++ c.unlockedPart r q) := by
  have houtlines := c.outline_alwaysPart_presort r q
  funext p
  rw [Bool.eq_iff_iff]
  constructor
  · apply isOffered_of_entries
    intro w hw
    rcases List.mem_append.mp hw with hw | hw
    · rcases List.mem_map.mp (houtlines.mem_iff.mp (List.mem_map_of_mem hw)) with
        ⟨v, hv, houtline⟩
      have hid : w.id = v.id := (Prod.mk.inj houtline).1.symm
      exact ⟨v, List.mem_append_left _ hv, hid.symm,
        (h.options_perm_of_id_eq hfits hv hw hid).symm⟩
    · exact ⟨w, List.mem_append_right _ hw, rfl, List.Perm.refl _⟩
  · apply isOffered_of_entries
    intro v hv
    rcases List.mem_append.mp hv with hv | hv
    · rcases List.mem_map.mp (houtlines.mem_iff.mpr (List.mem_map_of_mem hv)) with
        ⟨w, hw, houtline⟩
      have hid : w.id = v.id := (Prod.mk.inj houtline).1
      exact ⟨w, List.mem_append_left _ hw, hid, h.options_perm_of_id_eq hfits hv hw hid⟩
    · exact ⟨v, List.mem_append_right _ hv, rfl, List.Perm.refl _⟩

theorem Closed.sortedAlike (h : c.Closed) (hr : c.ClosedRule r) (hd : c.DividedRule r)
    (category : CategoryId) (q : Conditions) :
    c.SortedAlike r q (c.answer r category q)
      (c.presort.answer (c.sortRule r) category q) where
  pages_eq := by
    show pagesOf _ (c.presort.attributesAt (StableSort.sort _ r.alwaysVisibleIds)) = _
    rw [attributesAt_presort, pagesOf_sortAttribute]
    exact pagesOf_perm (effectivePageSize_pos q.pageSize)
      ((StableSort.sort_perm c.attributeOrder r.alwaysVisibleIds).filterMap _)
  pageSize_eq := rfl
  parts := by
    have hvisible : forall id, id ∈ (c.sortRule r).alwaysVisibleIds <-> id ∈ r.alwaysVisibleIds :=
      fun id => (StableSort.sort_perm c.attributeOrder r.alwaysVisibleIds).mem_iff
    have hsorted := h.presort.divides_answer hr.presort hd.presort category q
    rw [unlockedPart_presort] at hsorted
    refine ⟨c.alwaysPart r q, c.presort.alwaysPart (c.sortRule r) q, c.unlockedPart r q,
      h.divides_answer hr hd category q, ?_, c.outline_alwaysPart_presort r q, ?_⟩
    · constructor
      · exact hsorted.attributes_eq
      · intro a ha
        exact (hvisible a.id).mp (hsorted.visible a ha)
      · intro a ha hmem
        exact hsorted.not_visible a ha ((hvisible a.id).mpr hmem)
    · intro hfits a a' ha ha' hid
      exact h.options_perm_of_id_eq hfits ha ha' hid
  corrected_eq := by
    intro hfits
    rw [answer, answer, unlockedPart_presort, isOffered_presort h hfits]

end Answers

/-- Sorting a catalog twice is sorting it once, and sorting moves attributes and options and
changes nothing else.  Afterwards a query fails with the same error, or is answered with the same
pages and the same coming into view, and with equally many options of the same attributes that
are always visible; where all options fit on a page, with the same options. -/
theorem Compiled.presort_reorders {c : Catalog} (h : c.Compiled) :
    c.presort.presort = c.presort ∧ c.SortsCatalog c.presort ∧
      forall q : Conditions,
        (exists e, c.find q = .error e ∧ c.presort.find q = .error e) ∨
        (q.categoryIds = [] ∧ c.find q = .ok {} ∧ c.presort.find q = .ok {}) ∨
        exists category r v w, q.categoryIds = [category] ∧ c.rules[category]? = some r ∧
          c.find q = .ok v ∧ c.presort.find q = .ok w ∧ c.SortedAlike r q v w := by
  refine ⟨c.presort_presort, c.sortsCatalog_presort, ?_⟩
  intro q
  cases hv : c.find q with
  | error e =>
      have hrules : forall category : CategoryId, c.rules[category]? = none <->
          c.presort.rules[category]? = none := by
        intro category
        rw [getElem?_rules_presort, Option.map_eq_none_iff]
      refine Or.inl ⟨e, rfl, (h.presort.closed.find_eq_error_iff q e).mpr ?_⟩
      simpa only [hrules] using (h.closed.find_eq_error_iff q e).mp hv
  | ok v =>
      rcases h.closed.eq_of_find hv with ⟨hids, rfl⟩ | ⟨category, r, hids, hr, rfl⟩
      · exact Or.inr (Or.inl ⟨hids, rfl, find_of_nil hids⟩)
      · have hsorted : c.presort.rules[category]? = some (c.sortRule r) := by
          rw [getElem?_rules_presort, hr]
          rfl
        refine Or.inr (Or.inr ⟨category, r, _, _, hids, hr, rfl,
          h.presort.closed.find_eq hsorted hids, ?_⟩)
        exact h.closed.sortedAlike (h.closed.rule category r hr)
          (h.divided.rule category r hr) category q

/-- The catalog of a shop whose tables are not in display order. -/
def shades : Catalog :=
  (((∅ : Builder).withCategories ∅).performAll
    [.fields .attributes ["color", "", "f", "f", "f", "Color", "2", "", "", "f", "", ""],
      .fields .attributes ["kind", "", "f", "f", "f", "Kind", "1", "", "", "f", "", ""],
      .fields .options ["red", "color", "Red", "f", "2", "", "", "", ""],
      .fields .options ["blue", "color", "Blue", "f", "1", "", "", "", ""],
      .fields .options ["rose", "color", "Rose", "f", "1", "", "", "", ""],
      .fields .options ["boots", "kind", "Boots", "f", "1", "", "", "", ""],
      .fields .assignments ["first", "10", "color", "f"],
      .fields .assignments ["second", "10", "kind", "f"]]).finish.1

/-- With room for one option, sorting puts blue in the place of red; with room for all, the same
pairs are given back. -/
theorem presort_reorders_shades :
    (exists v w, shades.find { categoryIds := [10], pageSize := 1 } = .ok v ∧
      shades.presort.find { categoryIds := [10], pageSize := 1 } = .ok w ∧
      v.attributes.map (fun a => a.options.map VisibleOption.id) = [[3], [6]] ∧
      w.attributes.map (fun a => a.options.map VisibleOption.id) = [[6], [4]] ∧
      w.pages = v.pages) ∧
    exists v w, shades.find { categoryIds := [10], pairs := [⟨1, 5⟩, ⟨1, 7⟩] } = .ok v ∧
      shades.presort.find { categoryIds := [10], pairs := [⟨1, 5⟩, ⟨1, 7⟩] } = .ok w ∧
      v.corrected.pairs = [⟨1, 5⟩] ∧ w.corrected = v.corrected := by
  have hcompiled : shades.Compiled := Compiled.finish ∅ _
  rcases hcompiled.presort_reorders with ⟨_htwice, _hsorts, hqueries⟩
  constructor
  · have hbefore : (shades.find { categoryIds := [10], pageSize := 1 }).map (fun v =>
        v.attributes.map fun a => a.options.map VisibleOption.id) = .ok [[3], [6]] := by
      rfl
    have hafter : (shades.presort.find { categoryIds := [10], pageSize := 1 }).map (fun w =>
        w.attributes.map fun a => a.options.map VisibleOption.id) = .ok [[6], [4]] := by
      rfl
    rcases exists_of_map_eq_ok hbefore with ⟨v, hv, hvoptions⟩
    rcases exists_of_map_eq_ok hafter with ⟨w, hw, hwoptions⟩
    rcases hqueries { categoryIds := [10], pageSize := 1 } with
      ⟨e, he, _he⟩ | ⟨hnone, _hv, _hw⟩ | ⟨category, r, v', w', _hids, _hr, hv', hw', halike⟩
    · rw [hv] at he
      cases he
    · cases hnone
    · rw [hv] at hv'
      rw [hw] at hw'
      cases hv'
      cases hw'
      exact ⟨v, w, hv, hw, hvoptions, hwoptions, halike.pages_eq⟩
  · have hkept : (shades.find { categoryIds := [10], pairs := [⟨1, 5⟩, ⟨1, 7⟩] }).map (fun v =>
        v.corrected.pairs) = .ok [⟨1, 5⟩] := by
      rfl
    have hcounts : (shades.attributes.toList.all fun entry =>
        entry.2.optionIds.length ≤ 100) = true := by
      rfl
    have hfits : shades.Fits (effectivePageSize 0) := by
      intro id a ha
      exact of_decide_eq_true (List.all_eq_true.mp hcounts (id, a) (IdMap.mem_toList.mpr ha))
    rcases exists_of_map_eq_ok hkept with ⟨v, hv, hpairs⟩
    rcases hqueries { categoryIds := [10], pairs := [⟨1, 5⟩, ⟨1, 7⟩] } with
      ⟨e, he, _he⟩ | ⟨hnone, _hv, _hw⟩ | ⟨category, r, v', w', _hids, _hr, hv', hw', halike⟩
    · rw [hv] at he
      cases he
    · cases hnone
    · rw [hv] at hv'
      cases hv'
      exact ⟨v, w', hv, hw', hpairs, halike.corrected_eq hfits⟩

end Catalog
end FacetRules
