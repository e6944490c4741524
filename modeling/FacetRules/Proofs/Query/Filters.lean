import FacetRules.Proofs.Query.SelectionOrder

/-!
# Two filters

A query is asked twice, under different filters.  Pages are counted without a filter and groups
are shown without one, so both answers have as many pages and bring the same into view.  The
first filter acts on the page of its own attribute, and all other pages are the same.  Under a
filter a page shows what of the unfiltered page the filter admits, and fills up from the options
behind it.
-/

namespace FacetRules

namespace TitleFilter

/-- The first filter asks nothing of the attribute: it names another one, or has no text. -/
def Spares (filters : List TitleFilter) (attributeId : Id) : Prop :=
  forall f, filters.head? = some f -> f.start ≠ "" -> f.attributeId ≠ attributeId

instance (filters : List TitleFilter) (attributeId : Id) :
    Decidable (Spares filters attributeId) :=
  match filters with
  | [] => isTrue fun _f hf => nomatch hf
  | f :: _ =>
      decidable_of_iff (f.start ≠ "" -> f.attributeId ≠ attributeId)
        ⟨fun h _g hg => Option.some.inj hg ▸ h, fun h => h f rfl⟩

theorem Spares.admits {filters : List TitleFilter} {attributeId : Id}
    (h : Spares filters attributeId) (title : String) : Admits filters attributeId title := by
  intro f hf hstart hid
  exact absurd hid (h f hf hstart)

theorem admits_iff_starts {filters : List TitleFilter} {f : TitleFilter}
    (hf : filters.head? = some f) (title : String) :
    Admits filters f.attributeId title <-> f.start.toList <+: title.toList := by
  constructor
  · intro h
    by_cases hstart : f.start = ""
    · rw [hstart]
      exact List.nil_prefix
    · exact h f hf hstart rfl
  · intro h g hg _hstart _hid
    rw [hf] at hg
    rw [<- Option.some.inj hg]
    exact h

end TitleFilter

open TitleFilter (Admits Spares)

/-- What is admitted of the first elements comes first of all that is admitted. -/
theorem filter_take_starts {α : Type} (p : α -> Bool) (n : Nat) (xs : List α) :
    (xs.take n).filter p <+: (xs.filter p).take n := by
  have hfirst : xs.take n <+: xs := List.take_prefix n xs
  rw [List.prefix_take_iff]
  constructor
  · exact hfirst.filter p
  · exact Nat.le_trans (List.length_filter_le _ _) (List.length_take_le _ _)

namespace Catalog

/-!
# Pages under a filter
-/

section Pages

variable {c : Catalog} {filters filters' : List TitleFilter} {pageSize : Nat} {ids : List Id}

theorem mem_firstPages {v : VisibleAttribute} :
    v ∈ c.firstPages filters pageSize ids <->
      exists a, a ∈ c.attributesAt ids ∧ c.firstPage filters pageSize a ≠ [] ∧
        v = { id := a.id, title := a.title, options := c.firstPage filters pageSize a } := by
  rw [firstPages, List.mem_filter, List.mem_map, decide_eq_true_iff]
  constructor
  · intro hboth
    rcases hboth with ⟨⟨a, ha, rfl⟩, hne⟩
    exact ⟨a, ha, hne, rfl⟩
  · intro hexists
    rcases hexists with ⟨a, ha, hne, rfl⟩
    exact ⟨⟨a, ha, rfl⟩, hne⟩

theorem firstPage_congr {a : Attribute}
    (h : forall title, Admits filters a.id title <-> Admits filters' a.id title) :
    c.firstPage filters pageSize a = c.firstPage filters' pageSize a := by
  simp only [firstPage, h]

/-- Entries whose pages are the same under both filters are the same, and in the same order. -/
theorem filter_firstPages_congr (chosen : Id -> Bool)
    (h : forall a, a ∈ c.attributesAt ids -> chosen a.id = true ->
      c.firstPage filters pageSize a = c.firstPage filters' pageSize a) :
    (c.firstPages filters pageSize ids).filter (fun v => chosen v.id) =
      (c.firstPages filters' pageSize ids).filter fun v => chosen v.id := by
  have hchoose : forall fs : List TitleFilter,
      (c.firstPages fs pageSize ids).filter (fun v => chosen v.id) =
        ((((c.attributesAt ids).filter fun a => chosen a.id).map fun a =>
          { id := a.id, title := a.title, options := c.firstPage fs pageSize a }).filter
            fun v : VisibleAttribute => v.options ≠ []) := by
    intro fs
    rw [firstPages, List.filter_comm, List.filter_map]
    rfl
  rw [hchoose, hchoose]
  congr 1
  apply List.map_congr_left
  intro a ha
  rcases List.mem_filter.mp ha with ⟨hmem, hchosen⟩
  rw [h a hmem hchosen]

theorem firstPages_congr
    (h : forall a, a ∈ c.attributesAt ids ->
      c.firstPage filters pageSize a = c.firstPage filters' pageSize a) :
    c.firstPages filters pageSize ids = c.firstPages filters' pageSize ids := by
  have hsame := filter_firstPages_congr (fun _id => true) fun a ha _hchosen => h a ha
  rwa [List.filter_true, List.filter_true] at hsame

theorem mem_firstPage {a : Attribute} {o : VisibleOption}
    (ho : o ∈ c.firstPage filters pageSize a) :
    exists stored, stored ∈ c.optionsAt a.optionIds ∧ stored.id = o.id ∧
      stored.title = o.title ∧ Admits filters a.id o.title := by
  rcases List.mem_map.mp ho with ⟨stored, hstored, rfl⟩
  rcases List.mem_filter.mp (List.mem_of_mem_take hstored) with ⟨hmem, hadmits⟩
  exact ⟨stored, hmem, rfl, rfl, of_decide_eq_true hadmits⟩

/-- What is on the unfiltered page and admitted by the filter is on the filtered page. -/
theorem mem_firstPage_of_spares {a : Attribute} (hspares : Spares filters a.id)
    {o : VisibleOption} (ho : o ∈ c.firstPage filters pageSize a)
    (hadmits : Admits filters' a.id o.title) : o ∈ c.firstPage filters' pageSize a := by
  have hall : ((c.optionsAt a.optionIds).filter fun o => Admits filters a.id o.title) =
      c.optionsAt a.optionIds :=
    List.filter_eq_self.mpr fun o _ho => decide_eq_true (hspares.admits o.title)
  rw [firstPage, hall] at ho
  rcases List.mem_map.mp ho with ⟨stored, hstored, rfl⟩
  apply List.mem_map.mpr
  refine ⟨stored, ?_, rfl⟩
  apply (filter_take_starts (fun o : AttributeOption => Admits filters' a.id o.title)
    pageSize _).subset
  exact List.mem_filter.mpr ⟨hstored, decide_eq_true hadmits⟩

theorem Closed.eq_of_mem_attributesAt (h : c.Closed) {a b : Attribute}
    (ha : a ∈ c.attributesAt ids) (hb : b ∈ c.attributesAt ids) (hid : a.id = b.id) : a = b := by
  rcases List.mem_filterMap.mp ha with ⟨i, _hi, hstored⟩
  rcases List.mem_filterMap.mp hb with ⟨j, _hj, hstored'⟩
  rw [h.attribute_id i a hstored, h.attribute_id j b hstored'] at hid
  rw [hid, hstored'] at hstored
  exact (Option.some.inj hstored).symm

end Pages

/-!
# Entries under a filter
-/

/-- The filter acts on the entries of its attribute: they list options of this attribute that the
filter admits, and all such options that the entries under other filters list, if these ask
nothing of the attribute. -/
structure Narrows (c : Catalog) (f : TitleFilter) (filters : List TitleFilter)
    (unfiltered filtered : List VisibleAttribute) : Prop where
  admitted : forall w, w ∈ filtered -> w.id = f.attributeId -> forall o, o ∈ w.options ->
    f.start.toList <+: o.title.toList ∧
      exists stored, c.options[o.id]? = some stored ∧ stored.attributeId = w.id ∧
        stored.title = o.title
  contained : Spares filters f.attributeId -> forall v, v ∈ unfiltered -> v.id = f.attributeId ->
    forall o, o ∈ v.options -> f.start.toList <+: o.title.toList ->
      (exists w, w ∈ filtered ∧ w.id = v.id) ∧
        forall w, w ∈ filtered -> w.id = v.id -> o ∈ w.options

theorem Closed.narrows {c : Catalog} (h : c.Closed) {filters filters' : List TitleFilter}
    {f : TitleFilter} (hf : filters'.head? = some f) (pageSize : Nat) (ids : List Id) :
    c.Narrows f filters (c.firstPages filters pageSize ids)
      (c.firstPages filters' pageSize ids) where
  admitted := by
    intro w hw hid o ho
    rcases mem_firstPages.mp hw with ⟨a, ha, _hne, rfl⟩
    rcases List.mem_filterMap.mp ha with ⟨number, _hnumber, hattribute⟩
    rcases mem_firstPage ho with ⟨stored, hstored, hoid, htitle, hadmits⟩
    have hattributeId : a.id = f.attributeId := hid
    constructor
    · rw [hattributeId] at hadmits
      exact (TitleFilter.admits_iff_starts hf o.title).mp hadmits
    · rcases mem_optionsAt.mp hstored with ⟨number', hlisted, hoption⟩
      rcases h.linked number a number' hattribute hlisted with ⟨owned, howned, howner⟩
      rw [hoption] at howned
      cases howned
      refine ⟨stored, ?_, ?_, htitle⟩
      · rw [<- hoid, h.option_id number' stored hoption]
        exact hoption
      · rw [howner]
        exact (h.attribute_id number a hattribute).symm
  contained := by
    intro hspares v hv hid o ho hstarts
    rcases mem_firstPages.mp hv with ⟨a, ha, _hne, rfl⟩
    have hattributeId : a.id = f.attributeId := hid
    have hadmits : Admits filters' a.id o.title := by
      rw [hattributeId]
      exact (TitleFilter.admits_iff_starts hf o.title).mpr hstarts
    have hpage : o ∈ c.firstPage filters' pageSize a := by
      rw [<- hattributeId] at hspares
      exact mem_firstPage_of_spares hspares ho hadmits
    constructor
    · refine ⟨_, mem_firstPages.mpr ⟨a, ha, List.ne_nil_of_mem hpage, rfl⟩, rfl⟩
    · intro w hw hwid
      rcases mem_firstPages.mp hw with ⟨b, hb, _hne, rfl⟩
      rw [h.eq_of_mem_attributesAt hb ha hwid]
      exact hpage

/-!
# Answers
-/

/-- The answers to one query under two lists of filters. -/
structure FilteredAlike (c : Catalog) (r : Rule) (filters filters' : List TitleFilter)
    (v w : Visible) : Prop where
  pages_eq : w.pages = v.pages
  pageSize_eq : w.pageSize = v.pageSize
  parts : exists always always' unlocked,
    Divides r v always unlocked ∧ Divides r w always' unlocked ∧
      (always.filter fun a => Spares filters a.id ∧ Spares filters' a.id) =
        (always'.filter fun a => Spares filters a.id ∧ Spares filters' a.id) ∧
      forall f, filters'.head? = some f -> c.Narrows f filters always always'
  /-- Filters that agree on what comes first, or ask nothing of what is always visible, give the
  same answer. -/
  eq_of_idle : filters.head? = filters'.head? ∨
      (forall id, id ∈ r.alwaysVisibleIds -> Spares filters id ∧ Spares filters' id) ->
    w = { v with corrected := { v.corrected with filters := filters' } }

section Answers

variable {c : Catalog} {r : Rule}

theorem Closed.firstPage_of_idle (h : c.Closed) {filters filters' : List TitleFilter}
    {ids : List Id}
    (hidle : filters.head? = filters'.head? ∨
      (forall id, id ∈ ids -> Spares filters id ∧ Spares filters' id))
    (pageSize : Nat) {a : Attribute} (ha : a ∈ c.attributesAt ids) :
    c.firstPage filters pageSize a = c.firstPage filters' pageSize a := by
  apply firstPage_congr
  intro title
  rcases hidle with hhead | hspared
  · rw [Admits, Admits, hhead]
  · rcases List.mem_filterMap.mp ha with ⟨id, hid, hstored⟩
    rw [h.attribute_id id a hstored]
    rcases hspared id hid with ⟨hspares, hspares'⟩
    exact iff_of_true (hspares.admits title) (hspares'.admits title)

theorem Closed.filteredAlike (h : c.Closed) (hr : c.ClosedRule r) (hd : c.DividedRule r)
    (category : CategoryId) (q : Conditions) (filters : List TitleFilter) :
    c.FilteredAlike r q.filters filters (c.answer r category q)
      (c.answer r category { q with filters }) where
  pages_eq := rfl
  pageSize_eq := rfl
  parts := by
    refine ⟨c.alwaysPart r q, c.alwaysPart r { q with filters }, c.unlockedPart r q,
      h.divides_answer hr hd category q, h.divides_answer hr hd category { q with filters },
      ?_, ?_⟩
    · rw [alwaysPart_eq_firstPages, alwaysPart_eq_firstPages]
      apply filter_firstPages_congr fun id => Spares q.filters id ∧ Spares filters id
      intro a _ha hspared
      rcases of_decide_eq_true hspared with ⟨hspares, hspares'⟩
      apply firstPage_congr
      intro title
      exact iff_of_true (hspares.admits title) (hspares'.admits title)
    · intro f hf
      rw [alwaysPart_eq_firstPages, alwaysPart_eq_firstPages]
      exact h.narrows hf _ _
  eq_of_idle := by
    intro hidle
    have halways : c.alwaysPart r { q with filters } = c.alwaysPart r q := by
      rw [alwaysPart_eq_firstPages, alwaysPart_eq_firstPages]
      exact firstPages_congr fun a ha => (h.firstPage_of_idle hidle _ ha).symm
    rw [answer, halways]
    rfl

end Answers

/-- A query for a category fails alike under all filters, or is answered alike but for the pages
of the attributes that a first filter names. -/
theorem Compiled.find_filtered {c : Catalog} (h : c.Compiled) {category : CategoryId}
    {q : Conditions} (hq : q.categoryIds = [category]) (filters : List TitleFilter) :
    (c.rules[category]? = none ∧ c.find q = .error (.unknownCategoryRule category) ∧
        c.find { q with filters } = .error (.unknownCategoryRule category)) ∨
      exists r v w, c.rules[category]? = some r ∧ c.find q = .ok v ∧
        c.find { q with filters } = .ok w ∧ c.FilteredAlike r q.filters filters v w := by
  cases hr : c.rules[category]? with
  | none =>
      left
      refine ⟨rfl, ?_, ?_⟩
      · exact (h.closed.find_eq_error_iff q _).mpr (Or.inr ⟨category, hq, hr, rfl⟩)
      · exact (h.closed.find_eq_error_iff { q with filters } _).mpr
          (Or.inr ⟨category, hq, hr, rfl⟩)
  | some r =>
      right
      exact ⟨r, _, _, rfl, h.closed.find_eq hr hq, h.closed.find_eq hr hq,
        h.closed.filteredAlike (h.closed.rule category r hr) (h.divided.rule category r hr)
          category q filters⟩

/-- Of the colors with an R, rose stands behind the unfiltered page.  A filter for an attribute
that the category does not have changes nothing. -/
theorem find_filtered_colors :
    exists v w, colors.find { categoryIds := [10], pageSize := 2 } = .ok v ∧
      colors.find { categoryIds := [10], pageSize := 2, filters := [⟨1, "R"⟩] } = .ok w ∧
      v.attributes.map (fun a => a.options.map VisibleOption.id) = [[2, 3]] ∧
      w.attributes.map (fun a => a.options.map VisibleOption.id) = [[2, 4]] ∧
      w.pages = v.pages ∧
      colors.find { categoryIds := [10], pageSize := 2, filters := [⟨9, "R"⟩] } =
        .ok { v with corrected := { v.corrected with filters := [⟨9, "R"⟩] } } := by
  have hcompiled : colors.Compiled := Compiled.finish ∅ _
  let q : Conditions := { categoryIds := [10], pageSize := 2 }
  have hvisible : colors.rules[(10 : CategoryId)]?.map Rule.alwaysVisibleIds = some [1] := by
    rfl
  have hunfiltered : (colors.find q).map (fun v =>
      v.attributes.map fun a => a.options.map VisibleOption.id) = .ok [[2, 3]] := by
    rfl
  have hfiltered : (colors.find { q with filters := [⟨1, "R"⟩] }).map (fun v =>
      v.attributes.map fun a => a.options.map VisibleOption.id) = .ok [[2, 4]] := by
    rfl
  rcases exists_of_map_eq_ok hunfiltered with ⟨v, hv, hoptions⟩
  rcases exists_of_map_eq_ok hfiltered with ⟨w, hw, hkept⟩
  rcases hcompiled.find_filtered (q := q) rfl [⟨1, "R"⟩] with
    ⟨_hnone, hfails, _hfails⟩ | ⟨r, v₁, w₁, hr, hv₁, hw₁, halike⟩
  · rw [hv] at hfails
    cases hfails
  rcases hcompiled.find_filtered (q := q) rfl [⟨9, "R"⟩] with
    ⟨_hnone, hfails, _hfails⟩ | ⟨r₂, v₂, w₂, hr₂, hv₂, hw₂, hidle⟩
  · rw [hv] at hfails
    cases hfails
  rw [hv] at hv₁ hv₂
  rw [hw] at hw₁
  rw [hr] at hr₂
  cases hv₁
  cases hv₂
  cases hw₁
  cases hr₂
  rw [hr] at hvisible
  have hspares : forall id, id ∈ r.alwaysVisibleIds ->
      Spares q.filters id ∧ Spares [⟨9, "R"⟩] id := by
    intro id hid
    rw [Option.some.inj hvisible, List.mem_singleton] at hid
    rw [hid]
    decide
  refine ⟨v, w, hv, hw, hoptions, hkept, halike.pages_eq, ?_⟩
  rw [<- hidle.eq_of_idle (Or.inr hspares)]
  exact hw₂

end Catalog
end FacetRules
