import FacetRules.Proofs.Query.Answer
import FacetRules.Proofs.Renumbering.Rules

/-!
# Catalogs and answers under other numbers

A catalog that says under other numbers what another one says answers translated queries
with translated answers.  Display order does not come from the numbers, so this holds
before and after sorting.
-/

namespace FacetRules

namespace Pair

def renumber (f : Id -> Id) (p : Pair) : Pair where
  attributeId := f p.attributeId
  optionId := f p.optionId

end Pair

namespace TitleFilter

def renumber (f : Id -> Id) (t : TitleFilter) : TitleFilter :=
  { t with attributeId := f t.attributeId }

end TitleFilter

namespace Conditions

/-- The same conditions, put to a catalog with other numbers. -/
def renumber (f : Id -> Id) (q : Conditions) : Conditions :=
  { q with
    pairs := q.pairs.map (Pair.renumber f)
    filters := q.filters.map (TitleFilter.renumber f) }

theorem activeFilter_renumber (f : Id -> Id) (q : Conditions) :
    (q.renumber f).activeFilter = q.activeFilter.map (TitleFilter.renumber f) := by
  rw [activeFilter, activeFilter, renumber]
  simp only
  rw [List.head?_map]
  cases q.filters.head? with
  | none =>
      rfl
  | some t =>
      rw [Option.map_some, Option.filter_some, Option.filter_some]
      show (if (t.start != "") = true then _ else _) = _
      split
      · rfl
      · rfl

theorem selectedOptions_renumber {f : Id -> Id} (hf : Function.Injective f) (q : Conditions) :
    (q.renumber f).selectedOptions = q.selectedOptions.map f := by
  have hoptions : (q.pairs.map (Pair.renumber f)).map Pair.optionId =
      (q.pairs.map Pair.optionId).map f := by
    rw [List.map_map, List.map_map]
    rfl
  rw [selectedOptions, selectedOptions, <- eraseDups_map fun _i _j heq => hf heq, <- hoptions]
  rfl

end Conditions

namespace VisibleOption

def renumber (f : Id -> Id) (o : VisibleOption) : VisibleOption :=
  { o with id := f o.id }

end VisibleOption

namespace VisibleAttribute

def renumber (f : Id -> Id) (a : VisibleAttribute) : VisibleAttribute :=
  { a with
    id := f a.id
    options := a.options.map (VisibleOption.renumber f) }

end VisibleAttribute

namespace Visible

/-- The same answer, given by a catalog with other numbers. -/
def renumber (f : Id -> Id) (v : Visible) : Visible :=
  { v with
    attributes := v.attributes.map (VisibleAttribute.renumber f)
    corrected := v.corrected.renumber f }

end Visible

namespace Catalog

/-- The second catalog stores the attributes and options of the first one under other
numbers. -/
structure Renumbers (f : Id -> Id) (c d : Catalog) : Prop where
  attribute_eq : forall id, d.attributes[f id]? = c.attributes[id]?.map (Attribute.renumber f)
  option_eq : forall id, d.options[f id]? = c.options[id]?.map (AttributeOption.renumber f)

/-- The catalogs differ in nothing but their numbers: these stand for the same keys, and
every category has the same rule under them. -/
structure IsRenumbering (f : Id -> Id) (c d : Catalog) : Prop extends c.Renumbers f d where
  uuidOf_eq : forall id, d.registry.uuidOf (f id) = c.registry.uuidOf id
  rule : forall category : CategoryId,
    Option.Rel (Rule.Renumbers f) c.rules[category]? d.rules[category]?
  categories_eq : d.categories = c.categories

section Renumbers

variable {f : Id -> Id} {c d : Catalog} {r s : Rule}

theorem rule_cases {r? s? : Option Rule} (h : Option.Rel (Rule.Renumbers f) r? s?) :
    (r? = none ∧ s? = none) ∨
      exists r s, r? = some r ∧ s? = some s ∧ r.Renumbers f s := by
  cases h with
  | none =>
      exact Or.inl ⟨rfl, rfl⟩
  | some hrule =>
      exact Or.inr ⟨_, _, rfl, rfl, hrule⟩

/-!
# Display order
-/

theorem Renumbers.attributeOrder_eq (h : c.Renumbers f d) (id : Id) :
    d.attributeOrder (f id) = c.attributeOrder id := by
  rw [attributeOrder, attributeOrder, h.attribute_eq]
  cases c.attributes[id]? with
  | none => rfl
  | some a => rfl

theorem Renumbers.optionOrder_eq (h : c.Renumbers f d) (id : Id) :
    d.optionOrder (f id) = c.optionOrder id := by
  rw [optionOrder, optionOrder, h.option_eq]
  cases c.options[id]? with
  | none => rfl
  | some o => rfl

theorem Renumbers.presort (h : c.Renumbers f d) : c.presort.Renumbers f d.presort where
  attribute_eq := by
    intro id
    rw [getElem?_attributes_presort, getElem?_attributes_presort, h.attribute_eq,
      Option.map_map, Option.map_map]
    congr 1
    funext a
    have hsort := StableSort.sort_map (f := f) h.optionOrder_eq a.optionIds
    simp only [Function.comp_apply, sortAttribute, Attribute.renumber, hsort]
  option_eq := h.option_eq

theorem Renumbers.sortRule (h : c.Renumbers f d) (hrule : r.Renumbers f s) :
    (c.sortRule r).Renumbers f (d.sortRule s) where
  categoryId_eq := hrule.categoryId_eq
  attributeIds_eq := by
    show StableSort.sort d.attributeOrder s.attributeIds = _
    rw [hrule.attributeIds_eq]
    exact StableSort.sort_map h.attributeOrder_eq r.attributeIds
  alwaysVisibleIds_eq := by
    show StableSort.sort d.attributeOrder s.alwaysVisibleIds = _
    rw [hrule.alwaysVisibleIds_eq]
    exact StableSort.sort_map h.attributeOrder_eq r.alwaysVisibleIds
  mem_ungatedOptions_iff := hrule.mem_ungatedOptions_iff
  triggers_eq := hrule.triggers_eq

theorem Renumbers.rule_presort (h : c.Renumbers f d) {category : CategoryId}
    (hrule : Option.Rel (Rule.Renumbers f) c.rules[category]? d.rules[category]?) :
    Option.Rel (Rule.Renumbers f) c.presort.rules[category]? d.presort.rules[category]? := by
  rw [getElem?_rules_presort, getElem?_rules_presort]
  rcases rule_cases hrule with ⟨hr, hs⟩ | ⟨r, s, hr, hs, hrenumbers⟩
  · rw [hr, hs]
    exact Option.Rel.none
  · rw [hr, hs]
    exact Option.Rel.some (h.sortRule hrenumbers)

theorem IsRenumbering.presort (h : c.IsRenumbering f d) :
    c.presort.IsRenumbering f d.presort where
  toRenumbers := h.toRenumbers.presort
  uuidOf_eq := h.uuidOf_eq
  rule := fun category => h.toRenumbers.rule_presort (h.rule category)
  categories_eq := h.categories_eq

/-!
# Pages
-/

theorem Renumbers.attributesAt_map (h : c.Renumbers f d) (ids : List Id) :
    d.attributesAt (ids.map f) = (c.attributesAt ids).map (Attribute.renumber f) := by
  rw [attributesAt, attributesAt, List.filterMap_map, List.map_filterMap]
  congr 1
  funext id
  exact h.attribute_eq id

theorem Renumbers.optionsAt_map (h : c.Renumbers f d) (ids : List Id) :
    d.optionsAt (ids.map f) = (c.optionsAt ids).map (AttributeOption.renumber f) := by
  rw [optionsAt, optionsAt, List.filterMap_map, List.map_filterMap]
  congr 1
  funext id
  exact h.option_eq id

theorem map_offer_renumber (os : List AttributeOption) :
    (os.map (AttributeOption.renumber f)).map offer =
      (os.map offer).map (VisibleOption.renumber f) := by
  rw [List.map_map, List.map_map]
  rfl

theorem keepsFor_renumber (hf : Function.Injective f) (filter : Option TitleFilter)
    (attributeId : Id) (title : String) :
    keepsFor (filter.map (TitleFilter.renumber f)) (f attributeId) title =
      keepsFor filter attributeId title := by
  cases filter with
  | none =>
      rfl
  | some t =>
      have hattribute : (f t.attributeId != f attributeId) = (t.attributeId != attributeId) := by
        rw [Bool.eq_iff_iff, bne_iff_ne, bne_iff_ne]
        exact hf.ne_iff
      show ((f t.attributeId != f attributeId) || _) = _
      rw [hattribute]
      rfl

theorem Renumbers.pageOf_eq (h : c.Renumbers f d) (hf : Function.Injective f)
    (pageSize : Nat) (filter : Option TitleFilter) (a : Attribute) :
    d.pageOf pageSize (filter.map (TitleFilter.renumber f)) (a.renumber f) =
      (c.pageOf pageSize filter a).map (VisibleOption.renumber f) := by
  have hkeeps : (fun o : AttributeOption => keepsFor (filter.map (TitleFilter.renumber f))
      (a.renumber f).id o.title) ∘ AttributeOption.renumber f =
        fun o => keepsFor filter a.id o.title := by
    funext o
    exact keepsFor_renumber hf filter a.id o.title
  have hoptions : d.optionsAt (a.renumber f).optionIds =
      (c.optionsAt a.optionIds).map (AttributeOption.renumber f) := h.optionsAt_map a.optionIds
  rw [pageOf, pageOf, hoptions, List.filter_map, hkeeps, <- List.map_take, map_offer_renumber]

theorem Renumbers.paged?_eq (h : c.Renumbers f d) (hf : Function.Injective f)
    (pageSize : Nat) (filter : Option TitleFilter) (a : Attribute) :
    d.paged? pageSize (filter.map (TitleFilter.renumber f)) (a.renumber f) =
      (c.paged? pageSize filter a).map (VisibleAttribute.renumber f) := by
  rw [paged?, paged?, h.pageOf_eq hf, List.isEmpty_map]
  split
  · rfl
  · rfl

theorem pagesOf_renumber (pageSize : Nat) (as : List Attribute) :
    pagesOf pageSize (as.map (Attribute.renumber f)) = pagesOf pageSize as := by
  have hlength : forall a : Attribute, (a.renumber f).optionIds.length = a.optionIds.length := by
    intro a
    exact List.length_map f
  rw [pagesOf, pagesOf, List.foldr_map]
  simp only [hlength]

theorem Renumbers.alwaysPart_eq (h : c.Renumbers f d) (hf : Function.Injective f)
    (hrule : r.Renumbers f s) (q : Conditions) :
    d.alwaysPart s (q.renumber f) = (c.alwaysPart r q).map (VisibleAttribute.renumber f) := by
  rw [alwaysPart, alwaysPart, hrule.alwaysVisibleIds_eq, h.attributesAt_map,
    q.activeFilter_renumber, List.filterMap_map, List.map_filterMap]
  congr 1
  funext a
  exact h.paged?_eq hf _ _ a

/-!
# Groups

Which of two groups counts is decided by their lengths and by the order of the selection.
-/

theorem recordGroup_renumber (hf : Function.Injective f) (g : Group) (us : List Group) :
    recordGroup (g.renumber f) (us.map (Group.renumber f)) =
      (recordGroup g us).map (Group.renumber f) := by
  have hlength : forall g : Group, (g.renumber f).optionIds.length = g.optionIds.length := by
    intro g
    exact List.length_map f
  induction us with
  | nil =>
      rfl
  | cons u us ih =>
      have hsame : (u.renumber f).attributeId = (g.renumber f).attributeId <->
          u.attributeId = g.attributeId := hf.eq_iff
      rw [List.map_cons, recordGroup, recordGroup, hlength, hlength, ih]
      by_cases hattribute : u.attributeId = g.attributeId
      · rw [if_pos hattribute, if_pos (hsame.mpr hattribute), List.map_cons]
        split
        · rfl
        · rfl
      · rw [if_neg hattribute, if_neg (mt hsame.mp hattribute), List.map_cons]

theorem recordAll_renumber (hf : Function.Injective f) (gs : List Group) :
    recordAll (gs.map (Group.renumber f)) = (recordAll gs).map (Group.renumber f) := by
  -- What is recorded last depends on all that came before, so the last group is taken off.
  induction gs using List.reverseRecOn with
  | nil =>
      rfl
  | append_singleton gs g ih =>
      rw [List.map_append, List.map_singleton, recordAll_append_singleton, ih,
        recordGroup_renumber hf, recordAll_append_singleton]

theorem groupsUnder_renumber (hrule : r.Renumbers f s) (selected : List Id) :
    groupsUnder s (selected.map f) = (groupsUnder r selected).map (Group.renumber f) := by
  rw [groupsUnder, groupsUnder, List.flatMap_map, List.map_flatMap]
  congr 1
  funext id
  rw [Std.ExtTreeMap.getD_eq_getD_getElem?, Std.ExtTreeMap.getD_eq_getD_getElem?,
    hrule.triggers_eq]
  cases r.triggers[id]? with
  | none => rfl
  | some groups => rfl

theorem Renumbers.unlocked?_eq (h : c.Renumbers f d) (g : Group) :
    d.unlocked? (g.renumber f) = (c.unlocked? g).map (VisibleAttribute.renumber f) := by
  have hattribute : d.attributes[(g.renumber f).attributeId]? = _ := h.attribute_eq g.attributeId
  have hoptions : d.optionsAt (g.renumber f).optionIds = _ := h.optionsAt_map g.optionIds
  rw [unlocked?, unlocked?, hattribute, hoptions, map_offer_renumber, Option.map_map,
    Option.map_map]
  rfl

theorem Renumbers.unlockedPart_eq (h : c.Renumbers f d) (hf : Function.Injective f)
    (hrule : r.Renumbers f s) (q : Conditions) :
    d.unlockedPart s (q.renumber f) =
      (c.unlockedPart r q).map (VisibleAttribute.renumber f) := by
  rw [unlockedPart, unlockedPart, unlockedGroups_eq, unlockedGroups_eq,
    q.selectedOptions_renumber hf, groupsUnder_renumber hrule, recordAll_renumber hf,
    List.filterMap_map, List.map_filterMap]
  congr 1
  funext g
  exact h.unlocked?_eq g

/-!
# Answers
-/

theorem isOffered_renumber (hf : Function.Injective f) (vs : List VisibleAttribute)
    (p : Pair) :
    isOffered (vs.map (VisibleAttribute.renumber f)) (p.renumber f) = isOffered vs p := by
  have hbeq : forall i j : Id, (f i == f j) = (i == j) := by
    intro i j
    rw [Bool.eq_iff_iff, beq_iff_eq, beq_iff_eq]
    exact hf.eq_iff
  simp [isOffered, Pair.renumber, VisibleAttribute.renumber, VisibleOption.renumber, hbeq,
    List.any_map, Function.comp_def]

/-- Under corresponding rules, translated conditions have the translated answer. -/
theorem Renumbers.answer_eq (h : c.Renumbers f d) (hf : Function.Injective f)
    (hrule : r.Renumbers f s) (category : CategoryId) (q : Conditions) :
    d.answer s category (q.renumber f) = (c.answer r category q).renumber f := by
  have hpages : pagesOf (effectivePageSize q.pageSize).toNat
      (d.attributesAt s.alwaysVisibleIds) =
        pagesOf (effectivePageSize q.pageSize).toNat (c.attributesAt r.alwaysVisibleIds) := by
    rw [hrule.alwaysVisibleIds_eq, h.attributesAt_map, pagesOf_renumber]
  have hattributes : d.alwaysPart s (q.renumber f) ++ d.unlockedPart s (q.renumber f) =
      (c.alwaysPart r q ++ c.unlockedPart r q).map (VisibleAttribute.renumber f) := by
    rw [h.alwaysPart_eq hf hrule, h.unlockedPart_eq hf hrule, List.map_append]
  have hkept : isOffered ((c.alwaysPart r q ++ c.unlockedPart r q).map
      (VisibleAttribute.renumber f)) ∘ Pair.renumber f =
        isOffered (c.alwaysPart r q ++ c.unlockedPart r q) := by
    funext p
    exact isOffered_renumber hf _ p
  have hpairs : (q.renumber f).pairs.filter (isOffered
      ((c.alwaysPart r q ++ c.unlockedPart r q).map (VisibleAttribute.renumber f))) =
        (q.pairs.filter (isOffered (c.alwaysPart r q ++ c.unlockedPart r q))).map
          (Pair.renumber f) := by
    show (q.pairs.map (Pair.renumber f)).filter _ = _
    rw [List.filter_map, hkept]
  rw [answer, hattributes, hpairs]
  exact (Visible.mk.injEq ..).mpr ⟨hpages, rfl, rfl, rfl⟩

theorem Renumbers.findIn_eq (h : c.Renumbers f d) (hf : Function.Injective f) (hc : c.Closed)
    (hd : d.Closed) {category : CategoryId}
    (hrule : Option.Rel (Rule.Renumbers f) c.rules[category]? d.rules[category]?)
    (q : Conditions) :
    d.findIn category (q.renumber f) = (c.findIn category q).map (Visible.renumber f) := by
  rcases rule_cases hrule with ⟨hr, hs⟩ | ⟨r, s, hr, hs, hrenumbers⟩
  · rw [findIn_of_none hr, findIn_of_none hs]
    rfl
  · rw [hc.findIn_eq hr, hd.findIn_eq hs, h.answer_eq hf hrenumbers]
    rfl

/-- Translated queries have translated answers, and the same failures. -/
theorem IsRenumbering.find_eq (h : c.IsRenumbering f d) (hf : Function.Injective f)
    (hc : c.Closed) (hd : d.Closed) (q : Conditions) :
    d.find (q.renumber f) = (c.find q).map (Visible.renumber f) := by
  have hids : (q.renumber f).categoryIds = q.categoryIds := rfl
  rw [find, find, hids]
  cases q.categoryIds with
  | nil =>
      rfl
  | cons category rest =>
      cases rest with
      | nil => exact h.toRenumbers.findIn_eq hf hc hd (h.rule category) q
      | cons other rest => rfl

end Renumbers

end Catalog
end FacetRules
