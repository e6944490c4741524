import Mathlib.Algebra.Order.Floor.Div
import FacetRules.Proofs.Query.Offered

/-!
# Pages of options

What an answer shows of the attributes that no trigger gates can be said without the loops of
the query: from the options of each attribute those are taken that the filter admits, as many
of them as fit on a page, and an attribute with an empty page is left out.  The number of
pages is counted without the filter.  None of this depends on what is selected.
-/

namespace FacetRules

namespace TitleFilter

/-- Only the first filter counts.  It asks something of its own attribute alone, and asks
nothing when it has no text. -/
def Admits (filters : List TitleFilter) (attributeId : Id) (title : String) : Prop :=
  forall f, filters.head? = some f -> f.start ≠ "" -> f.attributeId = attributeId ->
    f.start.toList <+: title.toList

instance (filters : List TitleFilter) (attributeId : Id) (title : String) :
    Decidable (Admits filters attributeId title) :=
  match filters with
  | [] => isTrue fun _f hf => nomatch hf
  | f :: _ =>
      decidable_of_iff
        (f.start ≠ "" -> f.attributeId = attributeId -> f.start.toList <+: title.toList)
        ⟨fun h _g hg => Option.some.inj hg ▸ h, fun h => h f rfl⟩

end TitleFilter

/-!
# Page sizes
-/

theorem toNat_effectivePageSize (requested : UInt64) :
    (effectivePageSize requested).toNat =
      if requested.toNat = 0 then 100 else min requested.toNat 1000 := by
  have hzero : requested = 0 <-> requested.toNat = 0 := UInt64.toNat_inj.symm
  unfold effectivePageSize
  simp only [hzero]
  split
  · rfl
  · show (if requested ≤ maxPageSize then requested else maxPageSize).toNat = _
    have hmax : maxPageSize.toNat = 1000 := rfl
    split
    · rename_i hle
      rw [UInt64.le_iff_toNat_le, hmax] at hle
      exact (Nat.min_eq_left hle).symm
    · rename_i hle
      rw [UInt64.le_iff_toNat_le, hmax] at hle
      rw [hmax, Nat.min_eq_right (Nat.le_of_not_le hle)]

theorem effectivePageSize_pos (requested : UInt64) : 0 < (effectivePageSize requested).toNat := by
  rw [toNat_effectivePageSize]
  split
  · decide
  · rename_i hne
    exact Nat.lt_min.mpr ⟨Nat.pos_of_ne_zero hne, by decide⟩

namespace Catalog

theorem pagesFor_le_iff {pageSize : Nat} (hsize : 0 < pageSize) (count n : Nat) :
    pagesFor pageSize count ≤ n <-> count ≤ n * pageSize := by
  rw [pagesFor, <- Nat.ceilDiv_eq_add_pred_div, ceilDiv_le_iff_le_mul hsize, Nat.mul_comm]

theorem pagesOf_le_iff {pageSize : Nat} (hsize : 0 < pageSize) (as : List Attribute) (n : Nat) :
    pagesOf pageSize as ≤ n <->
      1 ≤ n ∧ forall a, a ∈ as -> a.optionIds.length ≤ n * pageSize := by
  induction as with
  | nil =>
      simp [pagesOf]
  | cons a as ih =>
      have hcons : pagesOf pageSize (a :: as) =
          max (pagesFor pageSize a.optionIds.length) (pagesOf pageSize as) :=
        rfl
      rw [hcons, Nat.max_le, ih, pagesFor_le_iff hsize, List.forall_mem_cons, and_left_comm]

/-- The pages of an answer are as few as hold the options of each attribute. -/
theorem isLeast_pagesOf {pageSize : Nat} (hsize : 0 < pageSize) (as : List Attribute) :
    IsLeast {n | 1 ≤ n ∧ forall a, a ∈ as -> a.optionIds.length ≤ n * pageSize}
      (pagesOf pageSize as) := by
  constructor
  · exact (pagesOf_le_iff hsize as _).mp (Nat.le_refl _)
  · intro n hn
    exact (pagesOf_le_iff hsize as n).mpr hn

/-!
# What is on a page
-/

open TitleFilter (Admits)

/-- The first options of an attribute that the filter admits. -/
def firstPage (c : Catalog) (filters : List TitleFilter) (pageSize : Nat) (a : Attribute) :
    List VisibleOption :=
  (((c.optionsAt a.optionIds).filter fun o => Admits filters a.id o.title).take pageSize).map
    fun o => { id := o.id, title := o.title }

/-- The attributes that have something on their pages. -/
def firstPages (c : Catalog) (filters : List TitleFilter) (pageSize : Nat) (ids : List Id) :
    List VisibleAttribute :=
  ((c.attributesAt ids).map fun a =>
    { id := a.id, title := a.title, options := c.firstPage filters pageSize a }).filter fun v =>
      v.options ≠ []

theorem keepsFor_activeFilter (q : Conditions) (attributeId : Id) (title : String) :
    keepsFor q.activeFilter attributeId title = decide (Admits q.filters attributeId title) := by
  rw [Bool.eq_iff_iff, decide_eq_true_iff, Conditions.activeFilter]
  cases hfilters : q.filters with
  | nil =>
      exact iff_of_true rfl fun _f hf => nomatch hf
  | cons f fs =>
      have hadmits : Admits (f :: fs) attributeId title <->
          (f.start ≠ "" -> f.attributeId = attributeId -> f.start.toList <+: title.toList) :=
        ⟨fun h => h f rfl, fun h _g hg => Option.some.inj hg ▸ h⟩
      rw [hadmits, List.head?_cons]
      by_cases hstart : f.start = ""
      · have hnone : (some f).filter (fun f => f.start != "") = none := by
          simp [hstart]
        rw [hnone]
        exact iff_of_true rfl fun hne => absurd hstart hne
      · have hsome : (some f).filter (fun f => f.start != "") = some f := by
          simp [hstart]
        rw [hsome]
        simp [keepsFor, TitleFilter.keeps, hstart, Decidable.imp_iff_not_or]

theorem pageOf_eq_firstPage (c : Catalog) (q : Conditions) (pageSize : Nat) (a : Attribute) :
    c.pageOf pageSize q.activeFilter a = c.firstPage q.filters pageSize a := by
  simp only [pageOf, firstPage, keepsFor_activeFilter]
  rfl

theorem alwaysPart_eq_firstPages (c : Catalog) (r : Rule) (q : Conditions) :
    c.alwaysPart r q =
      c.firstPages q.filters (effectivePageSize q.pageSize).toNat r.alwaysVisibleIds := by
  rw [alwaysPart, firstPages]
  induction c.attributesAt r.alwaysVisibleIds with
  | nil =>
      rfl
  | cons a as ih =>
      rw [List.filterMap_cons, List.map_cons, List.filter_cons, ih, paged?, pageOf_eq_firstPage]
      cases hpage : c.firstPage q.filters (effectivePageSize q.pageSize).toNat a with
      | nil =>
          rfl
      | cons o os =>
          rfl

theorem length_of_mem_firstPages {c : Catalog} {filters : List TitleFilter} {pageSize : Nat}
    {ids : List Id} {v : VisibleAttribute} (hv : v ∈ c.firstPages filters pageSize ids) :
    1 ≤ v.options.length ∧ v.options.length ≤ pageSize := by
  rcases List.mem_filter.mp hv with ⟨hmem, hne⟩
  constructor
  · exact List.length_pos_of_ne_nil (of_decide_eq_true hne)
  · rcases List.mem_map.mp hmem with ⟨a, _ha, rfl⟩
    rw [firstPage, List.length_map]
    exact List.length_take_le _ _

/-!
# Answers
-/

/-- The answer begins with the pages of what is always visible, and counts the pages. -/
structure Paged (c : Catalog) (r : Rule) (filters : List TitleFilter) (pageSize : UInt64)
    (v : Visible) : Prop where
  pageSize_eq : v.pageSize = pageSize
  attributes_eq : exists rest,
    v.attributes = c.firstPages filters pageSize.toNat r.alwaysVisibleIds ++ rest ∧
      forall a, a ∈ rest -> a.id ∉ r.alwaysVisibleIds
  length_options : forall a, a ∈ c.firstPages filters pageSize.toNat r.alwaysVisibleIds ->
    1 ≤ a.options.length ∧ a.options.length ≤ pageSize.toNat
  /-- The options are counted without the filter. -/
  pages_least : IsLeast
    {n | 1 ≤ n ∧ forall a, a ∈ c.attributesAt r.alwaysVisibleIds ->
      a.optionIds.length ≤ n * pageSize.toNat} v.pages
  /-- No number was passed over for want of an attribute or an option. -/
  attributes_found : (c.attributesAt r.alwaysVisibleIds).map Attribute.id = r.alwaysVisibleIds
  options_found : forall a, a ∈ c.attributesAt r.alwaysVisibleIds ->
    (c.optionsAt a.optionIds).map AttributeOption.id = a.optionIds

theorem Closed.paged_answer {c : Catalog} (h : c.Closed) {r : Rule} (hr : c.ClosedRule r)
    (hd : c.DividedRule r) (category : CategoryId) (q : Conditions) :
    c.Paged r q.filters (effectivePageSize q.pageSize) (c.answer r category q) where
  pageSize_eq := rfl
  attributes_eq := by
    refine ⟨c.unlockedPart r q, ?_, ?_⟩
    · rw [<- alwaysPart_eq_firstPages]
      rfl
    · intro a ha hvisible
      have hunlocks := (h.mem_ids_unlockedPart hr).mp (List.mem_map.mpr ⟨a, ha, rfl⟩)
      exact (hd.mem_visible.mp hvisible).2 (mem_gatedAttributes_of_unlocks hunlocks)
  length_options := by
    intro a ha
    exact length_of_mem_firstPages ha
  pages_least := isLeast_pagesOf (effectivePageSize_pos q.pageSize) _
  attributes_found := h.map_id_attributesAt hr.visible
  options_found := by
    intro a ha
    rcases List.mem_filterMap.mp ha with ⟨id, _hid, hstored⟩
    apply h.map_id_optionsAt
    intro o ho
    exact (h.linked id a o hstored ho).mem_options

/-- Every query for a category with a rule is answered page by page, whatever is selected,
and the size that pages are divided by is never 0. -/
theorem Compiled.paged_find {c : Catalog} (h : c.Compiled) {category : CategoryId} {r : Rule}
    (hr : c.rules[category]? = some r) {q : Conditions} (hq : q.categoryIds = [category]) :
    0 < (effectivePageSize q.pageSize).toNat ∧
      forall pairs, exists v, c.find { q with pairs } = .ok v ∧
        c.Paged r q.filters (effectivePageSize q.pageSize) v := by
  refine ⟨effectivePageSize_pos q.pageSize, ?_⟩
  intro pairs
  have hrule := h.closed.rule category r hr
  have hdivided := h.divided.rule category r hr
  exact ⟨c.answer r category { q with pairs }, h.closed.find_eq hr hq,
    h.closed.paged_answer hrule hdivided category { q with pairs }⟩

/-- The catalog of a shop that sells things in three colors. -/
def colors : Catalog :=
  (((∅ : Builder).withCategories ∅).performAll
    [.fields .attributes ["color", "", "f", "f", "f", "Color", "1", "", "", "f", "", ""],
      .fields .options ["red", "color", "Red", "f", "1", "", "", "", ""],
      .fields .options ["blue", "color", "Blue", "f", "2", "", "", "", ""],
      .fields .options ["rose", "color", "Rose", "f", "3", "", "", "", ""],
      .fields .assignments ["first", "10", "color", "f"]]).finish.1

/-- One of the two colors with an R fits on the page, and all three are counted. -/
theorem paged_find_colors :
    exists v, colors.find
        { categoryIds := [10], pairs := [{ attributeId := 1, optionId := 3 }], pageSize := 1,
          filters := [{ attributeId := 1, start := "R" }] } = .ok v ∧
      v.pages = 3 ∧
      exists rest, v.attributes =
        [{ id := 1, title := "Color", options := [{ id := 2, title := "Red" }] }] ++ rest := by
  have hcompiled : colors.Compiled := Compiled.finish ∅ _
  have hfacts : (colors.rules[(10 : CategoryId)]?.map Rule.alwaysVisibleIds) = some [1] := by
    rfl
  rcases Option.map_eq_some_iff.mp hfacts with ⟨r, hr, hvisible⟩
  let q : Conditions :=
    { categoryIds := [10], pageSize := 1, filters := [{ attributeId := 1, start := "R" }] }
  rcases (hcompiled.paged_find hr (q := q) rfl).2 [{ attributeId := 1, optionId := 3 }] with
    ⟨v, hv, hpaged⟩
  have hpages : colors.firstPages q.filters (effectivePageSize 1).toNat [1] =
      [{ id := 1, title := "Color", options := [{ id := 2, title := "Red" }] }] := by
    rfl
  have hlengths : (colors.attributesAt [1]).map (fun a => a.optionIds.length) = [3] := by
    rfl
  refine ⟨v, hv, ?_, ?_⟩
  · rcases List.map_eq_singleton_iff.mp hlengths with ⟨a, ha, hlength⟩
    have hsize : (effectivePageSize q.pageSize).toNat = 1 := by
      rfl
    have hleast := hpaged.pages_least
    rw [hvisible, ha, hsize] at hleast
    have hle : v.pages ≤ 3 := hleast.2 ⟨by decide, by simp [hlength]⟩
    have hge : a.optionIds.length ≤ v.pages * 1 := hleast.1.2 a (by simp)
    omega
  · rcases hpaged.attributes_eq with ⟨rest, hrest, _hothers⟩
    rw [hvisible] at hrest
    exact ⟨rest, hrest.trans (congrArg (· ++ rest) hpages)⟩

end Catalog
end FacetRules
