import FacetRules.Proofs.Catalog.Closed
import FacetRules.Proofs.Except
import FacetRules.Proofs.Query.Unlocked

/-!
# What a closed catalog answers

In a closed catalog no look-up of a query fails, so the answer can be written down: the
attributes that are always visible, each with a page of its options, and after them the
groups that the selected options bring into view.
-/

namespace FacetRules

/-- Where every element is found, what is found can be read off the elements. -/
theorem map_filterMap_of_some {α β γ : Type} {f : α -> Option β} {g : β -> γ} {k : α -> γ}
    {xs : List α} (h : forall x, x ∈ xs -> exists y, f x = some y ∧ g y = k x) :
    (xs.filterMap f).map g = xs.map k := by
  induction xs with
  | nil =>
      rfl
  | cons x xs ih =>
      rcases h x (by simp) with ⟨y, hf, hg⟩
      have hrest := ih fun z hz => h z (by simp [hz])
      rw [List.filterMap_cons_some hf, List.map_cons, List.map_cons, hrest, hg]

theorem flatMap_filterMap_of_some {α β γ : Type} {f : α -> Option β} {g : β -> List γ}
    {k : α -> List γ} {xs : List α}
    (h : forall x, x ∈ xs -> exists y, f x = some y ∧ g y = k x) :
    (xs.filterMap f).flatMap g = xs.flatMap k := by
  rw [List.flatMap_def, map_filterMap_of_some h, <- List.flatMap_def]

namespace Catalog

def optionsAt (c : Catalog) (ids : List Id) : List AttributeOption :=
  ids.filterMap fun id => c.options[id]?

def attributesAt (c : Catalog) (ids : List Id) : List Attribute :=
  ids.filterMap fun id => c.attributes[id]?

def pageOf (c : Catalog) (pageSize : Nat) (filter : Option TitleFilter) (a : Attribute) :
    List VisibleOption :=
  (((c.optionsAt a.optionIds).filter fun o => keepsFor filter a.id o.title).take
    pageSize).map offer

/-- An attribute with its page, if there is anything on it. -/
def paged? (c : Catalog) (pageSize : Nat) (filter : Option TitleFilter) (a : Attribute) :
    Option VisibleAttribute :=
  if (c.pageOf pageSize filter a).isEmpty then none
  else some { id := a.id, title := a.title, options := c.pageOf pageSize filter a }

/-- How many pages the longest list of options needs. -/
def pagesOf (pageSize : Nat) (as : List Attribute) : Nat :=
  as.foldr (fun a pages => max (pagesFor pageSize a.optionIds.length) pages) 1

/-- A group with the titles of its attribute and options. -/
def unlocked? (c : Catalog) (g : Group) : Option VisibleAttribute :=
  c.attributes[g.attributeId]?.map fun a =>
    { id := a.id, title := a.title, options := (c.optionsAt g.optionIds).map offer }

/-- The attributes of an answer that are always visible. -/
def alwaysPart (c : Catalog) (r : Rule) (q : Conditions) : List VisibleAttribute :=
  (c.attributesAt r.alwaysVisibleIds).filterMap
    (c.paged? (effectivePageSize q.pageSize).toNat q.activeFilter)

/-- The attributes of an answer that selected options bring into view. -/
def unlockedPart (c : Catalog) (r : Rule) (q : Conditions) : List VisibleAttribute :=
  (unlockedGroups r q.selectedOptions).filterMap c.unlocked?

def answer (c : Catalog) (r : Rule) (category : CategoryId) (q : Conditions) : Visible where
  pages := pagesOf (effectivePageSize q.pageSize).toNat (c.attributesAt r.alwaysVisibleIds)
  pageSize := effectivePageSize q.pageSize
  attributes := c.alwaysPart r q ++ c.unlockedPart r q
  corrected :=
    { categoryIds := [category]
      pairs := q.pairs.filter (isOffered (c.alwaysPart r q ++ c.unlockedPart r q))
      pageSize := effectivePageSize q.pageSize
      offset := q.offset
      filters := q.filters }

/-!
# Look-ups
-/

section LookUp

variable {c : Catalog}

theorem attributeOf_of_some {id : Id} {a : Attribute} (ha : c.attributes[id]? = some a) :
    c.attributeOf id = .ok a := by
  rw [attributeOf, ha]

theorem optionOf_of_some {id : Id} {o : AttributeOption} (ho : c.options[id]? = some o) :
    c.optionOf id = .ok o := by
  rw [optionOf, ho]

theorem ruleOf_of_some {category : CategoryId} {r : Rule}
    (hr : c.rules[category]? = some r) : c.ruleOf category = .ok r := by
  rw [ruleOf, hr]

theorem ruleOf_of_none {category : CategoryId} (hr : c.rules[category]? = none) :
    c.ruleOf category = .error (.unknownCategoryRule category) := by
  rw [ruleOf, hr]

theorem exists_attribute {id : Id} (h : id ∈ c.attributes) :
    exists a, c.attributes[id]? = some a :=
  IdMap.mem_iff_exists.mp h

theorem exists_option {id : Id} (h : id ∈ c.options) : exists o, c.options[id]? = some o :=
  IdMap.mem_iff_exists.mp h

theorem mapM_optionOf {ids : List Id} (h : forall id, id ∈ ids -> id ∈ c.options) :
    ids.mapM c.optionOf = .ok (c.optionsAt ids) := by
  apply mapM_eq_ok
  intro id hid
  rcases exists_option (h id hid) with ⟨o, ho⟩
  exact ⟨o, optionOf_of_some ho, ho⟩

theorem Owns.mem_options {attributeId id : Id} (h : c.Owns attributeId id) :
    id ∈ c.options := by
  rcases h with ⟨o, ho, _howner⟩
  exact IdMap.mem_iff_exists.mpr ⟨o, ho⟩

end LookUp

/-!
# Pages
-/

theorem listOptions_eq {c : Catalog} {keeps : String -> Bool} {ids : List Id}
    (h : forall id, id ∈ ids -> id ∈ c.options) (room : Nat) :
    c.listOptions keeps room ids =
      .ok ((((c.optionsAt ids).filter fun o => keeps o.title).take room).map offer) := by
  induction ids generalizing room with
  | nil =>
      cases room with
      | zero => rfl
      | succ room => rfl
  | cons id ids ih =>
      cases room with
      | zero =>
          rfl
      | succ room =>
          rcases exists_option (h id (by simp)) with ⟨o, ho⟩
          have hrest : forall id, id ∈ ids -> id ∈ c.options := by
            intro id hid
            exact h id (by simp [hid])
          have hhead : c.optionsAt (id :: ids) = o :: c.optionsAt ids := by
            rw [optionsAt, List.filterMap_cons_some ho]
            rfl
          rw [listOptions, optionOf_of_some ho, ok_bind, hhead, List.filter_cons]
          cases hkeeps : keeps o.title with
          | true =>
              rw [if_pos rfl, ih hrest, if_pos rfl, List.take_succ_cons, List.map_cons]
              rfl
          | false =>
              rw [if_neg (by decide), ih hrest, if_neg (by decide)]

theorem listAttributes_eq {c : Catalog} (h : c.Closed) (pageSize : Nat)
    (filter : Option TitleFilter) {ids : List Id}
    (hids : forall id, id ∈ ids -> id ∈ c.attributes) :
    c.listAttributes pageSize filter ids =
      .ok (pagesOf pageSize (c.attributesAt ids),
        (c.attributesAt ids).filterMap (c.paged? pageSize filter)) := by
  induction ids with
  | nil =>
      rfl
  | cons id ids ih =>
      rcases exists_attribute (hids id (by simp)) with ⟨a, ha⟩
      have hrest := ih fun id hid => hids id (by simp [hid])
      have hoptions : forall o, o ∈ a.optionIds -> o ∈ c.options := by
        intro o ho
        exact (h.linked id a o ha ho).mem_options
      have hhead : c.attributesAt (id :: ids) = a :: c.attributesAt ids := by
        rw [attributesAt, List.filterMap_cons_some ha]
        rfl
      rw [listAttributes, attributeOf_of_some ha, ok_bind, listOptions_eq hoptions, ok_bind,
        hrest, ok_bind, hhead, List.filterMap_cons, paged?, pageOf]
      simp only
      split
      · rfl
      · rfl

/-!
# Groups
-/

theorem offerGroup_eq {c : Catalog} {g : Group} {a : Attribute}
    (ha : c.attributes[g.attributeId]? = some a)
    (hg : forall id, id ∈ g.optionIds -> id ∈ c.options) :
    c.offerGroup g =
      .ok { id := a.id, title := a.title, options := (c.optionsAt g.optionIds).map offer } := by
  rw [offerGroup, attributeOf_of_some ha, mapM_optionOf hg]
  rfl

theorem mapM_offerGroup {c : Catalog} {r : Rule} (hr : c.ClosedRule r) (selected : List Id) :
    (unlockedGroups r selected).mapM c.offerGroup =
      .ok ((unlockedGroups r selected).filterMap c.unlocked?) := by
  apply mapM_eq_ok
  intro g hg
  rcases mem_unlockedGroups hg with ⟨t, groups, _ht, hgroups, hg⟩
  rcases exists_attribute (hr.group t groups g hgroups hg) with ⟨a, ha⟩
  have hoptions : forall id, id ∈ g.optionIds -> id ∈ c.options := by
    intro id hid
    exact (hr.grouped t groups g id hgroups hg hid).mem_options
  refine ⟨_, offerGroup_eq ha hoptions, ?_⟩
  rw [unlocked?, ha]
  rfl

/-!
# Answers
-/

theorem Closed.findIn_eq {c : Catalog} (h : c.Closed) {category : CategoryId} {r : Rule}
    (hr : c.rules[category]? = some r) (q : Conditions) :
    c.findIn category q = .ok (c.answer r category q) := by
  have hrule := h.rule category r hr
  rw [findIn, ruleOf_of_some hr, ok_bind, listAttributes_eq h _ _ hrule.visible, ok_bind,
    mapM_offerGroup hrule]
  rfl

theorem Closed.find_eq {c : Catalog} (h : c.Closed) {category : CategoryId} {r : Rule}
    (hr : c.rules[category]? = some r) {q : Conditions} (hq : q.categoryIds = [category]) :
    c.find q = .ok (c.answer r category q) := by
  rw [find, hq]
  exact h.findIn_eq hr q

theorem findIn_of_none {c : Catalog} {category : CategoryId}
    (hr : c.rules[category]? = none) (q : Conditions) :
    c.findIn category q = .error (.unknownCategoryRule category) := by
  rw [findIn, ruleOf_of_none hr]
  rfl

theorem Closed.eq_of_find {c : Catalog} (h : c.Closed) {q : Conditions} {v : Visible}
    (hv : c.find q = .ok v) :
    (q.categoryIds = [] ∧ v = {}) ∨
      exists (category : CategoryId) (r : Rule), q.categoryIds = [category] ∧
        c.rules[category]? = some r ∧ v = c.answer r category q := by
  unfold find at hv
  split at hv
  · rename_i hids
    cases hv
    exact Or.inl ⟨hids, rfl⟩
  · rename_i category hids
    cases hr : c.rules[category]? with
    | none =>
        rw [findIn_of_none hr] at hv
        cases hv
    | some r =>
        rw [h.findIn_eq hr] at hv
        cases hv
        exact Or.inr ⟨category, r, hids, hr, rfl⟩
  · cases hv

/-!
# The parts of an answer
-/

section Parts

variable {c : Catalog}

theorem mem_optionsAt {ids : List Id} {o : AttributeOption} :
    o ∈ c.optionsAt ids <-> exists id, id ∈ ids ∧ c.options[id]? = some o :=
  List.mem_filterMap

theorem Closed.mem_optionsAt_id (h : c.Closed) {ids : List Id} {o : AttributeOption}
    (ho : o ∈ c.optionsAt ids) : o.id ∈ ids := by
  rcases mem_optionsAt.mp ho with ⟨id, hid, hstored⟩
  rw [h.option_id id o hstored]
  exact hid

theorem Closed.map_id_attributesAt (h : c.Closed) {ids : List Id}
    (hids : forall id, id ∈ ids -> id ∈ c.attributes) :
    (c.attributesAt ids).map Attribute.id = ids := by
  rw [attributesAt, map_filterMap_of_some (k := id), List.map_id]
  intro id hid
  rcases exists_attribute (hids id hid) with ⟨a, ha⟩
  exact ⟨a, ha, h.attribute_id id a ha⟩

theorem Closed.map_id_optionsAt (h : c.Closed) {ids : List Id}
    (hids : forall id, id ∈ ids -> id ∈ c.options) :
    (c.optionsAt ids).map AttributeOption.id = ids := by
  rw [optionsAt, map_filterMap_of_some (k := id), List.map_id]
  intro id hid
  rcases exists_option (hids id hid) with ⟨o, ho⟩
  exact ⟨o, ho, h.option_id id o ho⟩

theorem paged?_eq_some {pageSize : Nat} {filter : Option TitleFilter} {a : Attribute}
    {v : VisibleAttribute} (h : c.paged? pageSize filter a = some v) :
    c.pageOf pageSize filter a ≠ [] ∧
      v = { id := a.id, title := a.title, options := c.pageOf pageSize filter a } := by
  unfold paged? at h
  split at h
  · cases h
  · rename_i hpage
    cases h
    exact ⟨fun hnil => hpage (List.isEmpty_iff.mpr hnil), rfl⟩

theorem mem_alwaysPart {r : Rule} {q : Conditions} {v : VisibleAttribute} :
    v ∈ c.alwaysPart r q <->
      exists (id : Id) (a : Attribute), id ∈ r.alwaysVisibleIds ∧ c.attributes[id]? = some a ∧
        c.paged? (effectivePageSize q.pageSize).toNat q.activeFilter a = some v := by
  rw [alwaysPart, List.mem_filterMap]
  constructor
  · intro hexists
    rcases hexists with ⟨a, ha, hv⟩
    rcases List.mem_filterMap.mp ha with ⟨id, hid, hstored⟩
    exact ⟨id, a, hid, hstored, hv⟩
  · intro hexists
    rcases hexists with ⟨id, a, hid, hstored, hv⟩
    exact ⟨a, List.mem_filterMap.mpr ⟨id, hid, hstored⟩, hv⟩

theorem mem_unlockedPart {r : Rule} {q : Conditions} {v : VisibleAttribute} :
    v ∈ c.unlockedPart r q <->
      exists (g : Group) (a : Attribute), g ∈ unlockedGroups r q.selectedOptions ∧
        c.attributes[g.attributeId]? = some a ∧
        v = { id := a.id, title := a.title, options := (c.optionsAt g.optionIds).map offer } := by
  rw [unlockedPart, List.mem_filterMap]
  constructor
  · intro hexists
    rcases hexists with ⟨g, hg, hv⟩
    rcases Option.map_eq_some_iff.mp hv with ⟨a, ha, rfl⟩
    exact ⟨g, a, hg, ha, rfl⟩
  · intro hexists
    rcases hexists with ⟨g, a, hg, ha, rfl⟩
    exact ⟨g, hg, by rw [unlocked?, ha]; rfl⟩

end Parts

end Catalog
end FacetRules
