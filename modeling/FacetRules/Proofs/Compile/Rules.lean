import FacetRules.Proofs.Builder.History
import FacetRules.Proofs.Builder.Stored
import FacetRules.Proofs.Compile.Finish

/-!
# What the rules say

The rule of a category can be read off the rows, without the steps of the compiler: its
attributes off the assignments, the options listed without a precondition and the groups
off the dynamic options, and all of them off what is stored.
-/

namespace FacetRules

def Precondition.uuids : Precondition -> List String
  | always => []
  | triggers uuids _ => uuids

namespace Catalog

/-- The attributes that enabled assignments give to a category. -/
def assignedIds (c : Catalog) (assignments : List Assignment) (category : CategoryId) :
    List Id :=
  (assignments.filter fun row =>
    row.categoryId == category && !row.isDisabled && c.attributes.contains row.attributeId).map
      Assignment.attributeId

/-- The number is that of an option of a loaded attribute, and not that of an attribute. -/
def isTrigger (c : Catalog) (id : Id) : Bool :=
  !c.attributes.contains id &&
    c.options[id]?.any fun o => c.attributes.contains o.attributeId

/-- The option is stored and belongs to the attribute, which is loaded. -/
def lists (c : Catalog) (attributeId id : Id) : Bool :=
  c.attributes.contains attributeId && c.options[id]?.any (·.attributeId == attributeId)

/-- The options of an attribute that enabled rows of a category put behind a trigger: row
by row, and in a row once for every key that names the trigger. -/
def optionsBehind (c : Catalog) (rows : List DynamicOption) (category : CategoryId)
    (trigger attributeId : Id) : List Id :=
  (rows.filter fun row => row.categoryId == category && !row.isDisabled).flatMap fun row =>
    ((Precondition.read row.precondition).uuids.filter fun uuid =>
      c.registry.lookupSuffixed uuid row.suffix == some trigger && c.isTrigger trigger &&
        c.lists attributeId row.optionId).map fun _ => row.optionId

/-- The rule says what the rows of its category say. -/
structure Describes (c : Catalog) (assignments : List Assignment) (rows : List DynamicOption)
    (category : CategoryId) (r : Rule) : Prop where
  categoryId_eq : r.categoryId = category
  attributeIds_eq : r.attributeIds = c.assignedIds assignments category
  /-- An enabled row lists the option without a precondition, and the category has its
  attribute. -/
  mem_ungatedOptions_iff : forall id, id ∈ r.ungatedOptions <->
    exists (row : DynamicOption) (o : AttributeOption),
      row ∈ rows ∧ row.categoryId = category ∧ row.isDisabled = false ∧ row.optionId = id ∧
        Precondition.read row.precondition = .always ∧ c.options[id]? = some o ∧
        o.attributeId ∈ r.attributeIds
  mem_groups_iff : forall (trigger : Id) (g : Group),
    (exists groups, r.triggers[trigger]? = some groups ∧ g ∈ groups) <->
      g.optionIds ≠ [] ∧ g.optionIds = c.optionsBehind rows category trigger g.attributeId
  /-- Under a trigger an attribute has one group. -/
  nodup_groups : forall (trigger : Id) (groups : List Group),
    r.triggers[trigger]? = some groups -> (groups.map Group.attributeId).Nodup

/-- The catalog says what these rows say. -/
structure Reflects (c : Catalog) (xs : List Reading) : Prop where
  /-- Every key of every row has its number, so no row is lost when they are read with the
  numbers of the catalog. -/
  numbered : forall x, x ∈ xs -> x.Numbered c.registry
  mem_attributes_iff : forall id, id ∈ c.attributes <->
    exists a, a ∈ Builder.attributesOf c.registry xs ∧ a.id = id
  getElem?_options : forall id,
    c.options[id]? = (Builder.optionsOf c.registry xs).findRev? (·.id == id)
  exists_rule_iff : forall category, (exists r, c.rules[category]? = some r) <->
    exists row, row ∈ Builder.assignmentsOf c.registry xs ∧ row.categoryId = category ∧
      row.isDisabled = false ∧ row.attributeId ∈ c.attributes
  describes : forall category r, c.rules[category]? = some r ->
    c.Describes (Builder.assignmentsOf c.registry xs) (Builder.dynamicOptionsOf c.registry xs)
      category r

end Catalog

namespace Builder

/-!
# One row
-/

section Row

variable {b : Builder}

theorem isTrigger_finish {id : Id} :
    b.finish.1.isTrigger id = true <->
      id ∉ b.loaded.attributes ∧ exists o : AttributeOption,
        b.loaded.options[id]? = some o ∧ o.attributeId ∈ b.loaded.attributes := by
  rw [Catalog.isTrigger, Bool.and_eq_true, attributes_finish, options_finish,
    Bool.not_eq_true', Option.any_eq_true]
  constructor
  · intro hall
    rcases hall with ⟨hattribute, o, ho, howner⟩
    exact ⟨ne_true_of_eq_false hattribute, o, ho, howner⟩
  · intro hall
    rcases hall with ⟨hattribute, o, ho, howner⟩
    exact ⟨eq_false_of_ne_true hattribute, o, ho, howner⟩

theorem triggerOf_loaded {suffix : Option String} {uuid : String} {id : Id} :
    b.loaded.triggerOf suffix uuid = .ok id <->
      (b.finish.1.registry.lookupSuffixed uuid suffix == some id &&
        b.finish.1.isTrigger id) = true := by
  rw [Bool.and_eq_true, beq_iff_eq, isTrigger_finish, Loaded.triggerOf_eq_ok_iff]
  rfl

theorem names_eq_false {suffix : Option String} {uuid : String} {t : Id}
    (h : b.loaded.triggerOf suffix uuid ≠ .ok t) :
    (b.finish.1.registry.lookupSuffixed uuid suffix == some t && b.finish.1.isTrigger t) =
      false := by
  apply eq_false_of_ne_true
  intro hnames
  exact h (triggerOf_loaded.mpr hnames)

theorem optionsOf_gatingsBehind (suffix : Option String) (o : AttributeOption)
    (uuids : List String) (t a : Id) :
    Gating.optionsOf a (Gating.under t (b.loaded.gatingsBehind suffix o uuids)) =
      (uuids.filter fun uuid =>
        b.finish.1.registry.lookupSuffixed uuid suffix == some t && b.finish.1.isTrigger t &&
          o.attributeId == a).map fun _ => o.id := by
  induction uuids with
  | nil =>
      rfl
  | cons uuid uuids ih =>
      cases htrigger : b.loaded.triggerOf suffix uuid with
      | error reason =>
          have hother : b.loaded.triggerOf suffix uuid ≠ .ok t := by
            rw [htrigger]
            intro h
            cases h
          rw [Loaded.gatingsBehind_cons_of_error htrigger, ih, List.filter_cons,
            names_eq_false hother]
          rfl
      | ok found =>
          rw [Loaded.gatingsBehind_cons_of_ok htrigger, List.filter_cons]
          by_cases ht : found = t
          · subst ht
            rw [triggerOf_loaded.mp htrigger, Bool.true_and]
            by_cases ha : o.attributeId = a
            · subst ha
              rw [if_pos (beq_self_eq_true o.attributeId), List.map_cons, <- ih]
              simp [Gating.optionsOf, Gating.under]
            · rw [if_neg (ne_true_of_eq_false (beq_eq_false_iff_ne.mpr ha)), <- ih]
              simp [Gating.optionsOf, Gating.under, ha]
          · have hother : b.loaded.triggerOf suffix uuid ≠ .ok t := by
              rw [htrigger]
              intro h
              cases h
              exact ht rfl
            rw [names_eq_false hother, Bool.false_and, if_neg (by decide), <- ih]
            simp [Gating.optionsOf, Gating.under, ht]

/-- An option is listed for its own attribute alone, and only when that one is loaded. -/
theorem lists_finish_of_some {id : Id} {o : AttributeOption}
    (ho : b.loaded.options[id]? = some o) (a : Id) :
    b.finish.1.lists a id = (b.loaded.attributes.contains o.attributeId && o.attributeId == a) := by
  rw [Catalog.lists, options_finish, ho, attributes_finish, Option.any_some]
  by_cases ha : o.attributeId = a
  · rw [ha]
  · rw [beq_eq_false_iff_ne.mpr ha, Bool.and_false, Bool.and_false]

theorem lists_finish_of_none {id : Id} (ho : b.loaded.options[id]? = none) (a : Id) :
    b.finish.1.lists a id = false := by
  rw [Catalog.lists, options_finish, ho, Option.any_none, Bool.and_false]

theorem optionsOf_gatingsBy (h : b.Keyed) (attributeIds : List Id) (row : DynamicOption)
    (t a : Id) :
    Gating.optionsOf a (Gating.under t (b.loaded.gatingsBy (some attributeIds) row)) =
      if row.isDisabled then []
      else ((Precondition.read row.precondition).uuids.filter fun uuid =>
        b.finish.1.registry.lookupSuffixed uuid row.suffix == some t &&
          b.finish.1.isTrigger t && b.finish.1.lists a row.optionId).map fun _ =>
            row.optionId := by
  unfold Loaded.gatingsBy Loaded.listingOf
  cases row.isDisabled with
  | true =>
      rfl
  | false =>
      simp only [Bool.false_eq_true, if_false]
      cases hstored : b.loaded.options[row.optionId]? with
      | none =>
          simp [lists_finish_of_none hstored, Gating.optionsOf, Gating.under]
      | some o =>
          have hid : o.id = row.optionId := h.option_id row.optionId o hstored
          simp only
          cases Precondition.read row.precondition with
          | always =>
              simp only [Precondition.uuids]
              cases attributeIds.contains o.attributeId with
              | true => rfl
              | false => rfl
          | triggers uuids rejected =>
              simp only [Precondition.uuids]
              rw [lists_finish_of_some hstored]
              cases b.loaded.attributes.contains o.attributeId with
              | true =>
                  rw [Bool.true_and, <- hid]
                  exact optionsOf_gatingsBehind row.suffix o uuids t a
              | false =>
                  simp [Gating.optionsOf, Gating.under]

end Row

/-!
# All rows
-/

theorem optionsOf_flatMap {α : Type} (f : α -> List Gating) (xs : List α) (t a : Id) :
    Gating.optionsOf a (Gating.under t (xs.flatMap f)) =
      xs.flatMap fun x => Gating.optionsOf a (Gating.under t (f x)) := by
  simp [Gating.optionsOf, Gating.under, List.filter_flatMap, List.map_flatMap]

section Rule

variable {b : Builder} {category : CategoryId}

theorem optionsOf_gatingsIn (h : b.Keyed) (t a : Id) :
    Gating.optionsOf a (Gating.under t (b.gatingsIn category)) =
      b.finish.1.optionsBehind b.dynamicOptions.toList category t a := by
  rw [gatingsIn, Loaded.gatings, optionsOf_flatMap, Catalog.optionsBehind]
  simp only [optionsOf_gatingsBy h]
  induction b.dynamicOptions.toList with
  | nil =>
      rfl
  | cons row rows ih =>
      rw [List.filter_cons, List.filter_cons]
      cases row.categoryId == category with
      | false =>
          exact ih
      | true =>
          rw [if_pos rfl, List.flatMap_cons, ih]
          cases row.isDisabled with
          | true =>
              rfl
          | false =>
              rw [if_neg (by decide), if_pos (by decide), List.flatMap_cons]

theorem assignedTo_eq :
    b.assignedTo category = b.finish.1.assignedIds b.assignments.toList category := by
  rw [assignedTo, assigned, Catalog.assignedIds, attributes_finish]
  congr 1
  apply List.filter_congr
  intro row _hrow
  rw [Bool.and_assoc]
  congr 1
  rw [Bool.eq_iff_iff, Option.isNone_iff_eq_none, assignmentSkip?_eq_none, Bool.and_eq_true,
    Bool.not_eq_true', Std.ExtTreeMap.mem_iff_contains]

theorem describes_compiledRule (h : b.Keyed) :
    b.finish.1.Describes b.assignments.toList b.dynamicOptions.toList category
      (b.compiledRule category) where
  categoryId_eq := categoryId_compiledRule
  attributeIds_eq := by
    rw [attributeIds_compiledRule, assignedTo_eq]
  mem_ungatedOptions_iff := by
    intro id
    rw [mem_ungatedOptions_compiledRule, shownIn, Loaded.mem_shown, attributeIds_compiledRule]
    constructor
    · intro hexists
      rcases hexists with ⟨row, o, hrow, hcategory, hlisting, rfl⟩
      rcases Loaded.listingOf_eq_always_iff.mp hlisting with
        ⟨henabled, hstored, hread, hmem⟩
      have hid : o.id = row.optionId := h.option_id row.optionId o hstored
      refine ⟨row, o, hrow, hcategory, henabled, hid.symm, hread, ?_, hmem⟩
      rw [hid]
      exact hstored
    · intro hexists
      rcases hexists with ⟨row, o, hrow, hcategory, henabled, rfl, hread, hstored, hmem⟩
      refine ⟨row, o, hrow, hcategory, ?_, h.option_id row.optionId o hstored⟩
      exact Loaded.listingOf_eq_always_iff.mpr ⟨henabled, hstored, hread, hmem⟩
  mem_groups_iff := by
    intro t g
    rw [getElem?_triggers_compiledRule, <- optionsOf_gatingsIn h, <- Gating.mem_groups]
    constructor
    · intro hexists
      rcases hexists with ⟨groups, hgroups, hg⟩
      split at hgroups
      · cases hgroups
      · cases hgroups
        exact hg
    · intro hg
      have hne : Gating.under t (b.gatingsIn category) ≠ [] := by
        intro hnil
        rw [hnil] at hg
        cases hg
      exact ⟨_, if_neg hne, hg⟩
  nodup_groups := (groupedBy_compiledRule b category).nodup

end Rule

/-!
# Histories
-/

theorem mem_attributes_finish {b : Builder} {xs : List Reading} (h : b.Holds xs) (id : Id) :
    id ∈ b.finish.1.attributes <->
      exists a, a ∈ attributesOf b.registry xs ∧ a.id = id := by
  rw [attributes_finish, Std.ExtTreeMap.mem_iff_contains, contains_attributes_loaded,
    IdMap.contains_eq_isSome, h.getElem?_attributes, List.findRev?_eq_find?_reverse,
    List.find?_isSome]
  simp

theorem Holds.reflects_finish {b : Builder} {xs : List Reading} (h : b.Holds xs) :
    b.finish.1.Reflects xs where
  numbered := h.numbered
  mem_attributes_iff := mem_attributes_finish h
  getElem?_options := h.get?_options
  exists_rule_iff := by
    intro category
    have hassignments : b.assignments.toList = assignmentsOf b.finish.1.registry xs :=
      h.assignments_eq
    rw [<- hassignments]
    exact exists_rule_finish_iff b category
  describes := by
    intro category r hr
    have hassignments : b.assignments.toList = assignmentsOf b.finish.1.registry xs :=
      h.assignments_eq
    have hdynamic : b.dynamicOptions.toList = dynamicOptionsOf b.finish.1.registry xs :=
      h.dynamicOptions_eq
    rw [(rules_finish_eq_some hr).2, <- hassignments, <- hdynamic]
    exact describes_compiledRule h.keyed

/-- For every history of calls: the keys are numbered in the order of their first mention,
what the builder has put aside are the rows of the history with these numbers, and the
catalog says what the rows say. -/
theorem finish_correct (tree : CategoryTree) (calls : List Call) :
    let b := ((∅ : Builder).withCategories tree).performAll calls
    let c := b.finish.1
    let rows := readings none calls
    c.registry.keys.toList = (mentions none calls).eraseDups ∧
      b.assignments.toList = assignmentsOf c.registry rows ∧
      b.dynamicOptions.toList = dynamicOptionsOf c.registry rows ∧
      c.Reflects rows := by
  intro b c rows
  have hholds : b.Holds rows := holds_performAll tree calls
  exact ⟨keys_performAll_withCategories tree calls, hholds.assignments_eq,
    hholds.dynamicOptions_eq, hholds.reflects_finish⟩

/-- The tables of a shop that sells something in size 42, and shoes in size 43 as well. -/
def shoeShop : List Call :=
  [.fields .attributes ["kind", "", "f", "f", "f", "Kind", "1", "", "", "f", "", ""],
    .fields .attributes ["size", "", "f", "f", "f", "Size", "2", "", "", "f", "", ""],
    .fields .options
      ["00000000-0000-0000-0000-000000000001", "kind", "Shoes", "f", "1", "", "", "", ""],
    .fields .options ["forty-two", "size", "42", "f", "1", "", "", "", ""],
    .fields .options ["forty-three", "size", "43", "f", "2", "", "", "", ""],
    .fields .assignments ["first", "10", "kind", "f"],
    .fields .assignments ["second", "10", "size", "f"],
    .fields .dynamicOptions ["third", "10", "forty-two", "", "f"],
    .fields .dynamicOptions
      ["fourth", "10", "forty-three", "\x7b00000000-0000-0000-0000-000000000001\x7d", "f"]]

/-- Selecting shoes brings size 43 into view. -/
theorem finish_shoeShop :
    exists r groups,
      (((∅ : Builder).withCategories ∅).performAll shoeShop).finish.1.rules[(10 : CategoryId)]? =
          some r ∧
        r.triggers[(3 : Id)]? = some groups ∧ { attributeId := 2, optionIds := [5] } ∈ groups := by
  have h := (finish_correct ∅ shoeShop).2.2.2
  have hassigned : { categoryId := 10, attributeId := 1, isDisabled := false } ∈
      assignmentsOf (((∅ : Builder).withCategories ∅).performAll shoeShop).finish.1.registry
        (readings none shoeShop) := by
    decide +kernel
  have hloaded : (1 : Id) ∈
      (((∅ : Builder).withCategories ∅).performAll shoeShop).finish.1.attributes := by
    rfl
  have hrule := (h.exists_rule_iff 10).mpr ⟨_, hassigned, rfl, rfl, hloaded⟩
  rcases hrule with ⟨r, hr⟩
  have hbehind : [5] = Catalog.optionsBehind
      (((∅ : Builder).withCategories ∅).performAll shoeShop).finish.1
      (dynamicOptionsOf
        (((∅ : Builder).withCategories ∅).performAll shoeShop).finish.1.registry
        (readings none shoeShop)) 10 3 2 := by
    rfl
  have hgroup := ((h.describes 10 r hr).mem_groups_iff 3 { attributeId := 2, optionIds := [5] }).mpr
    ⟨List.cons_ne_nil 5 [], hbehind⟩
  rcases hgroup with ⟨groups, hgroups, hg⟩
  exact ⟨r, groups, hr, hgroups, hg⟩

end Builder
end FacetRules
