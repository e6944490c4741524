import FacetRules.Proofs.Expansion.Rules

/-!
# Expanded catalogs

Adding the same records under the suffix of every pass gives a catalog that consists of as
many copies of the single one as there are passes.  The copies do not meet: their keys and
numbers differ, and no trigger of one copy brings an option of another into view.
-/

namespace FacetRules

namespace Rule

/-- The rule mentions the copies of what a single rule mentions, pass after pass. -/
structure IsExpansion (size n : Nat) (single r : Rule) : Prop where
  categoryId_eq : r.categoryId = single.categoryId
  attributeIds_eq : r.attributeIds = copies n (copyId size) single.attributeIds
  alwaysVisibleIds_eq : r.alwaysVisibleIds = copies n (copyId size) single.alwaysVisibleIds
  mem_ungatedOptions_iff : forall id, id ∈ r.ungatedOptions <->
    exists p i, p < n ∧ i ∈ single.ungatedOptions ∧ copyId size p i = id
  triggers_iff : forall (t : Id) (groups : List Group), r.triggers[t]? = some groups <->
    exists (p : Nat) (i : Id) (singles : List Group),
      p < n ∧ single.triggers[i]? = some singles ∧ copyId size p i = t ∧
        singles.map (Group.copy size p) = groups
  /-- A trigger of one pass has no option of another pass behind it. -/
  pass_eq : forall (p q : Nat) (t o : Id) (groups : List Group) (g : Group),
    p < n -> q < n -> InRange size t -> InRange size o ->
      r.triggers[copyId size p t]? = some groups -> g ∈ groups ->
        copyId size q o ∈ g.optionIds -> p = q

end Rule

namespace Catalog

/-- The catalog consists of the copies of a single one. -/
structure IsExpansion (n : Nat) (single c : Catalog) : Prop where
  size_eq : c.registry.size = n * single.registry.size
  uuidOf_eq : forall (p : Nat) (id : Id), p < n -> InRange single.registry.size id ->
    c.registry.uuidOf (copyId single.registry.size p id) =
      (single.registry.uuidOf id).map fun key => key ++ Import.expandSuffix p
  copies_disjoint : forall (p q : Nat) (i j : Id), p < n -> q < n ->
    InRange single.registry.size i -> InRange single.registry.size j ->
      copyId single.registry.size p i = copyId single.registry.size q j -> p = q ∧ i = j
  attributes_iff : forall (id : Id) (a : Attribute), c.attributes[id]? = some a <->
    exists (p : Nat) (i : Id) (x : Attribute), p < n ∧ single.attributes[i]? = some x ∧
      copyId single.registry.size p i = id ∧ x.copy single.registry.size p = a
  options_iff : forall (id : Id) (o : AttributeOption), c.options[id]? = some o <->
    exists (p : Nat) (i : Id) (x : AttributeOption), p < n ∧ single.options[i]? = some x ∧
      copyId single.registry.size p i = id ∧ x.copy single.registry.size p = o
  rules_iff : forall (category : CategoryId),
    (exists r, c.rules[category]? = some r) <-> exists r, single.rules[category]? = some r
  rule : forall (category : CategoryId) (x r : Rule), single.rules[category]? = some x ->
    c.rules[category]? = some r -> x.IsExpansion single.registry.size n r

end Catalog

namespace Builder

section Expansion

variable {b c : Builder} {n : Nat}

theorem Expands.inRange_grouped (h : b.Expands n c) {category : CategoryId} {t : Id}
    {groups : List Group} {g : Group} {id : Id}
    (ht : (b.compiledRule category).triggers[t]? = some groups) (hg : g ∈ groups)
    (hid : id ∈ g.optionIds) : InRange b.registry.size id := by
  rcases exists_gating_of_group ht hg hid with ⟨gating, hgating, _hattribute, rfl⟩
  exact (h.inRange_gating hgating).2.2

theorem Expands.compiledRule (h : b.Expands n c) (category : CategoryId) :
    (b.compiledRule category).IsExpansion b.registry.size n (c.compiledRule category) where
  categoryId_eq := by
    rw [categoryId_compiledRule, categoryId_compiledRule]
  attributeIds_eq := by
    rw [attributeIds_compiledRule, attributeIds_compiledRule]
    exact h.assignedTo_eq category
  alwaysVisibleIds_eq := h.alwaysVisibleIds_eq
  mem_ungatedOptions_iff := by
    intro id
    exact h.mem_ungatedOptions_iff
  triggers_iff := by
    intro t groups
    constructor
    · intro ht
      rcases h.trigger_number ht with ⟨p, i, hp, hi, rfl⟩
      rw [h.getElem?_triggers hp hi] at ht
      rcases Option.map_eq_some_iff.mp ht with ⟨singles, hsingles, hgroups⟩
      exact ⟨p, i, singles, hp, hsingles, rfl, hgroups⟩
    · intro hsingle
      rcases hsingle with ⟨p, i, singles, hp, hsingles, rfl, rfl⟩
      rw [h.getElem?_triggers hp (h.inRange_trigger hsingles), hsingles]
      rfl
  pass_eq := by
    intro p q t o groups g hp hq ht ho hgroups hg hmem
    rw [h.getElem?_triggers hp ht] at hgroups
    rcases Option.map_eq_some_iff.mp hgroups with ⟨singles, hsingles, rfl⟩
    rcases List.mem_map.mp hg with ⟨x, hx, rfl⟩
    rcases List.mem_map.mp hmem with ⟨i, hi, heq⟩
    have hrange := h.inRange_grouped hsingles hx hi
    exact ((copyId_eq_iff h.bound hp hq hrange ho).mp heq).1

theorem Expands.finish (h : b.Expands n c) : Catalog.IsExpansion n b.finish.1 c.finish.1 where
  size_eq := h.registry.size_eq
  uuidOf_eq := by
    intro p id hp hid
    exact h.registry.uuidOf_eq h.bound hp hid
  copies_disjoint := by
    intro p q i j hp hq hi hj heq
    exact (copyId_eq_iff h.bound hp hq hi hj).mp heq
  attributes_iff := by
    intro id a
    rw [attributes_finish, attributes_finish]
    constructor
    · intro ha
      rcases h.attributes_loaded_number ha with ⟨p, i, hp, hi, rfl⟩
      rw [h.attributes_loaded hp hi] at ha
      rcases Option.map_eq_some_iff.mp ha with ⟨x, hx, hcopy⟩
      exact ⟨p, i, x, hp, hx, rfl, hcopy⟩
    · intro hsingle
      rcases hsingle with ⟨p, i, x, hp, hx, rfl, rfl⟩
      have hloaded : i ∈ b.loaded.attributes := IdMap.mem_iff_exists.mpr ⟨x, hx⟩
      show c.loaded.attributes[copyId b.registry.size p i]? = _
      rw [h.attributes_loaded hp (h.inRange_loaded hloaded), hx]
      rfl
  options_iff := by
    intro id o
    rw [options_finish, options_finish]
    constructor
    · intro ho
      rcases h.option_number id o ho with ⟨p, i, hp, hi, rfl⟩
      rw [h.options_loaded hp hi] at ho
      rcases Option.map_eq_some_iff.mp ho with ⟨x, hx, hcopy⟩
      exact ⟨p, i, x, hp, hx, rfl, hcopy⟩
    · intro hsingle
      rcases hsingle with ⟨p, i, x, hp, hx, rfl, rfl⟩
      show c.loaded.options[copyId b.registry.size p i]? = _
      rw [h.options_loaded hp (h.option_range i x hx).1, hx]
      rfl
  rules_iff := by
    intro category
    have hempty : c.assignedTo category = [] <-> b.assignedTo category = [] := by
      rw [h.assignedTo_eq]
      exact copies_eq_nil_iff h.positive
    rw [getElem?_rules_finish, getElem?_rules_finish]
    by_cases hnil : b.assignedTo category = []
    · rw [if_pos hnil, if_pos (hempty.mpr hnil)]
    · rw [if_neg hnil, if_neg (mt hempty.mp hnil)]
      simp
  rule := by
    intro category x r hx hr
    rw [(rules_finish_eq_some hx).2, (rules_finish_eq_some hr).2]
    exact h.compiledRule category

end Expansion

/-!
# Passes
-/

section Passes

variable (tree : CategoryTree) (records : List (Table × List String)) {n : Nat}

theorem expands_passes (hn : 1 ≤ n)
    (hsize : n * (((∅ : Builder).withCategories tree).performAll
      (recordCalls records)).registry.size < UInt32.size) :
    (((∅ : Builder).withCategories tree).performAll (recordCalls records)).Expands n
      (((∅ : Builder).withCategories tree).performAll (passes n records)) := by
  have hb := holds_performAll tree (recordCalls records)
  have hc := holds_performAll tree (passes n records)
  rw [readings_passes] at hc
  have hr := registry_passes tree n records
  have hone : (((∅ : Builder).withCategories tree).performAll
      (recordCalls records)).registry.size < UInt32.size := by
    have hle := Nat.mul_le_mul_right (((∅ : Builder).withCategories tree).performAll
      (recordCalls records)).registry.size hn
    omega
  have hxs : forall x, x ∈ readings none (recordCalls records) -> x.suffix = none :=
    fun x hx => suffix_of_mem_readings hx
  exact
    { toCopiedTo := hb.copiedTo hc hr hsize hone hxs
      toRanged := hb.ranged hone hxs
      toKeyed := hb.keyed
      positive := hn
      bound := hsize }

/-- An import in passes gives the copies of a single import, and counts everything once in
every pass. -/
theorem finish_passes (hn : 1 ≤ n)
    (hsize : n * (((∅ : Builder).withCategories tree).performAll
      (recordCalls records)).registry.size < UInt32.size) :
    let single := ((∅ : Builder).withCategories tree).performAll (recordCalls records)
    let expanded := ((∅ : Builder).withCategories tree).performAll (passes n records)
    Catalog.IsExpansion n single.finish.1 expanded.finish.1 ∧
      expanded.options.toList =
        copies n (AttributeOption.copy single.registry.size) single.options.toList ∧
      (forall table, expanded.finish.2.rows table = n * single.finish.2.rows table) ∧
      (forall reason, expanded.finish.2.skips reason = n * single.finish.2.skips reason) := by
  intro single expanded
  have h : single.Expands n expanded := expands_passes tree records hn hsize
  refine ⟨h.finish, h.listed, ?_, ?_⟩
  · intro table
    have hempty : ((∅ : Builder).withCategories tree).report.rows table = 0 :=
      Tally.count_empty table
    rw [report_finish, report_finish, Report.rows_skipAll, Report.rows_skipAll,
      rows_performAll, rows_performAll, filterMap_passes n records fun _suffix => rfl,
      count_copies, hempty, Nat.zero_add, Nat.zero_add]
  · intro reason
    have hempty : ((∅ : Builder).withCategories tree).report.skips reason = 0 :=
      Tally.count_empty reason
    rw [report_finish, report_finish, Report.skips_skipAll, Report.skips_skipAll,
      skips_performAll, skips_performAll, filterMap_passes n records fun _suffix => rfl,
      count_copies, h.compileSkips_eq, hempty, Nat.zero_add, Nat.zero_add, Nat.mul_add]

end Passes

/-- In two passes the category gets two attributes of each pass, and the shoes of a pass
bring the size of that pass into view, and no other. -/
theorem finish_passes_two :
    exists r,
      (((∅ : Builder).withCategories ∅).performAll
          (passes 2 shoeTables)).finish.1.rules[(10 : CategoryId)]? = some r ∧
        r.attributeIds = [1, 2, 6, 7] ∧ (9 : Id) ∈ r.ungatedOptions ∧
        r.triggers[(3 : Id)]? = some [{ attributeId := 2, optionIds := [5] }] ∧
        r.triggers[(8 : Id)]? = some [{ attributeId := 7, optionIds := [10] }] ∧
        (((∅ : Builder).withCategories ∅).performAll
          (passes 2 shoeTables)).finish.2.rows .options = 6 := by
  have h := finish_passes ∅ shoeTables (n := 2) (by decide) (by decide +kernel)
  have hread : (((∅ : Builder).withCategories ∅).performAll
      (recordCalls shoeTables)).finish.1.rules[(10 : CategoryId)]?.map
        (fun x => (x.attributeIds, x.ungatedOptions.contains 4, x.triggers[(3 : Id)]?)) =
      some ([1, 2], true, some [{ attributeId := 2, optionIds := [5] }]) := by
    rfl
  have hrows : (((∅ : Builder).withCategories ∅).performAll
      (recordCalls shoeTables)).finish.2.rows .options = 3 := by
    rfl
  rcases Option.map_eq_some_iff.mp hread with ⟨x, hx, hparts⟩
  have hids : x.attributeIds = [1, 2] := congrArg Prod.fst hparts
  have hgroups : x.triggers[(3 : Id)]? = some [{ attributeId := 2, optionIds := [5] }] :=
    congrArg (fun parts => parts.2.2) hparts
  have hungated : (4 : Id) ∈ x.ungatedOptions := congrArg (fun parts => parts.2.1) hparts
  rcases (h.1.rules_iff 10).mpr ⟨x, hx⟩ with ⟨r, hr⟩
  have hrule := h.1.rule 10 x r hx hr
  refine ⟨r, hr, ?_, ?_, ?_, ?_, ?_⟩
  · rw [hrule.attributeIds_eq, hids]
    rfl
  · exact (hrule.mem_ungatedOptions_iff 9).mpr ⟨1, 4, by decide, hungated, rfl⟩
  · exact (hrule.triggers_iff 3 _).mpr ⟨0, 3, _, by decide, hgroups, rfl, rfl⟩
  · exact (hrule.triggers_iff 8 _).mpr ⟨1, 3, _, by decide, hgroups, rfl, rfl⟩
  · rw [h.2.2.1 .options, hrows]

end Builder
end FacetRules
