import FacetRules.Proofs.Compile.Assignments
import FacetRules.Proofs.Compile.DynamicOptions
import FacetRules.Proofs.Compile.Links
import FacetRules.Proofs.OptionTable

/-!
# What finishing a builder gives

The steps of a compilation put together: for every number what the catalog has under
it, for every category its rule, and the list of all that was left out.
-/

namespace FacetRules
namespace Builder

def loaded (b : Builder) : Loaded where
  registry := b.registry
  attributes := (linkOptions b.attributes b.options b.report).1
  options := b.options.entries

def assignedTo (b : Builder) (category : CategoryId) : List Id :=
  assigned b.loaded.attributes b.assignments.toList category

def attributeIdsOf? (b : Builder) (category : CategoryId) : Option (List Id) :=
  if b.assignedTo category = [] then none else some (b.assignedTo category)

def shownIn (b : Builder) (category : CategoryId) : List Id :=
  b.loaded.shown (b.assignedTo category) b.dynamicOptions.toList category

def gatingsIn (b : Builder) (category : CategoryId) : List Gating :=
  b.loaded.gatings (b.assignedTo category) b.dynamicOptions.toList category

/-- The rule of a category that has one. -/
def compiledRule (b : Builder) (category : CategoryId) : Rule :=
  Rule.classify
    (Rule.fill { categoryId := category, attributeIds := b.assignedTo category }
      (b.shownIn category) (b.gatingsIn category))

def compileSkips (b : Builder) : List SkipReason :=
  linkSkips b.attributes b.options.toList ++
    (b.assignments.toList.filterMap (assignmentSkip? b.loaded.attributes) ++
      b.dynamicOptions.toList.flatMap fun row =>
        b.loaded.skipsBy (b.attributeIdsOf? row.categoryId) row)

/-!
# What is loaded
-/

theorem getElem?_attributes_loaded (b : Builder) (id : Id) :
    b.loaded.attributes[id]? =
      b.attributes[id]?.map fun a => a.addOptions (linkedTo id b.options.toList) :=
  getElem?_foldl_linkOption b.attributes b.report b.options.toList id

theorem contains_attributes_loaded (b : Builder) (id : Id) :
    b.loaded.attributes.contains id = b.attributes.contains id := by
  rw [IdMap.contains_eq_isSome, IdMap.contains_eq_isSome, getElem?_attributes_loaded,
    Option.isSome_map]

/-!
# The catalog
-/

theorem attributes_finish (b : Builder) : b.finish.1.attributes = b.loaded.attributes :=
  rfl

theorem options_finish (b : Builder) : b.finish.1.options = b.loaded.options :=
  rfl

theorem rules_assigned (b : Builder) (report : Report) (category : CategoryId) :
    (b.assignments.toList.foldl (applyAssignment b.loaded.attributes) { report }).rules[category]? =
      if b.assignedTo category = [] then none
      else some { categoryId := category, attributeIds := b.assignedTo category } := by
  have hempty : (∅ : IdMap Rule)[category]? = none := Std.ExtTreeMap.getElem?_empty
  rw [rules_foldl_applyAssignment]
  simp only [hempty, assignedTo]
  rfl

theorem getElem?_rules_finish (b : Builder) (category : CategoryId) :
    b.finish.1.rules[category]? =
      if b.assignedTo category = [] then none else some (b.compiledRule category) := by
  change (Std.ExtTreeMap.map (fun _ r => r.classify)
    (b.dynamicOptions.toList.foldl (applyDynamicOption b.loaded)
      (b.assignments.toList.foldl (applyAssignment b.loaded.attributes)
        { report := (linkOptions b.attributes b.options b.report).2 })).rules)[category]? = _
  rw [Std.ExtTreeMap.getElem?_map, rules_foldl_applyDynamicOption, rules_assigned]
  by_cases h : b.assignedTo category = []
  · rw [if_pos h, if_pos h]
    rfl
  · rw [if_neg h, if_neg h]
    rfl

section Rules

variable {b : Builder} {category : CategoryId} {r : Rule}

theorem rules_finish_eq_some (h : b.finish.1.rules[category]? = some r) :
    b.assignedTo category ≠ [] ∧ r = b.compiledRule category := by
  rw [getElem?_rules_finish] at h
  split at h
  · cases h
  · rename_i hne
    cases h
    exact ⟨hne, rfl⟩

theorem categoryId_compiledRule : (b.compiledRule category).categoryId = category := by
  rw [compiledRule, Rule.classify, Rule.categoryId_fill]

theorem attributeIds_compiledRule :
    (b.compiledRule category).attributeIds = b.assignedTo category := by
  rw [compiledRule, Rule.classify, Rule.attributeIds_fill]

theorem alwaysVisibleIds_compiledRule :
    (b.compiledRule category).alwaysVisibleIds =
      (b.assignedTo category).filter fun a =>
        !((b.gatingsIn category).map Gating.attributeId).contains a :=
  Rule.alwaysVisibleIds_classify_fill rfl rfl _ _

theorem mem_ungatedOptions_compiledRule {id : Id} :
    id ∈ (b.compiledRule category).ungatedOptions <-> id ∈ b.shownIn category := by
  show id ∈ (Rule.fill _ (b.shownIn category) (b.gatingsIn category)).ungatedOptions <-> _
  rw [Rule.mem_ungatedOptions_fill]
  simp

theorem getElem?_triggers_compiledRule (t : Id) :
    (b.compiledRule category).triggers[t]? =
      if Gating.under t (b.gatingsIn category) = [] then none
      else some (Gating.groups (Gating.under t (b.gatingsIn category))) :=
  Rule.getElem?_triggers_fill rfl _ _ t

theorem exists_rule_finish_iff (b : Builder) (category : CategoryId) :
    (exists r, b.finish.1.rules[category]? = some r) <->
      exists row, row ∈ b.assignments.toList ∧ row.categoryId = category ∧
        row.isDisabled = false ∧ row.attributeId ∈ b.finish.1.attributes := by
  constructor
  · intro hexists
    rcases hexists with ⟨r, hr⟩
    rcases List.exists_mem_of_ne_nil _ (rules_finish_eq_some hr).1 with ⟨id, hid⟩
    rcases mem_assigned.mp hid with ⟨row, hrow, hcategory, henabled, hloaded, _hid⟩
    exact ⟨row, hrow, hcategory, henabled, hloaded⟩
  · intro hexists
    rcases hexists with ⟨row, hrow, hcategory, henabled, hloaded⟩
    have hmem : row.attributeId ∈ b.assignedTo category :=
      mem_assigned.mpr ⟨row, hrow, hcategory, henabled, hloaded, rfl⟩
    rw [getElem?_rules_finish, if_neg (List.ne_nil_of_mem hmem)]
    exact ⟨_, rfl⟩

/-- The rule of a category stands under its number. -/
theorem exists_rule_iff :
    (exists (key : CategoryId) (r : Rule),
        b.finish.1.rules[key]? = some r ∧ r.categoryId = category) <->
      exists row, row ∈ b.assignments.toList ∧ row.categoryId = category ∧
        row.isDisabled = false ∧ row.attributeId ∈ b.finish.1.attributes := by
  have hkey : forall (key : CategoryId) (r : Rule), b.finish.1.rules[key]? = some r ->
      r.categoryId = key := by
    intro key r hr
    rw [(rules_finish_eq_some hr).2, categoryId_compiledRule]
  rw [<- exists_rule_finish_iff]
  constructor
  · intro hexists
    rcases hexists with ⟨key, r, hr, rfl⟩
    rw [hkey key r hr]
    exact ⟨r, hr⟩
  · intro hexists
    rcases hexists with ⟨r, hr⟩
    exact ⟨category, r, hr, hkey category r hr⟩

/-!
# From the groups back to the gatings
-/

variable {t : Id} {groups : List Group}

theorem triggers_compiledRule_eq_some (ht : (b.compiledRule category).triggers[t]? = some groups) :
    Gating.under t (b.gatingsIn category) ≠ [] ∧
      groups = Gating.groups (Gating.under t (b.gatingsIn category)) :=
  Rule.triggers_eq_some getElem?_triggers_compiledRule ht

theorem groupedBy_compiledRule (b : Builder) (category : CategoryId) :
    (b.compiledRule category).GroupedBy (b.gatingsIn category) :=
  Rule.groupedBy_of_getElem?_triggers getElem?_triggers_compiledRule

theorem exists_gating_of_trigger (ht : (b.compiledRule category).triggers[t]? = some groups) :
    exists gating, gating ∈ b.gatingsIn category ∧ gating.trigger = t :=
  ((groupedBy_compiledRule b category).mem_triggers_iff t).mp
    (IdMap.mem_iff_exists.mpr ⟨groups, ht⟩)

theorem optionIds_ne_nil_of_group (ht : (b.compiledRule category).triggers[t]? = some groups)
    {g : Group} (hg : g ∈ groups) : g.optionIds ≠ [] :=
  (groupedBy_compiledRule b category).optionIds_ne_nil t groups g ht hg

theorem exists_gating_of_group (ht : (b.compiledRule category).triggers[t]? = some groups)
    {g : Group} (hg : g ∈ groups) {id : Id} (hid : id ∈ g.optionIds) :
    exists gating, gating ∈ b.gatingsIn category ∧ gating.attributeId = g.attributeId ∧
      gating.optionId = id := by
  rw [(groupedBy_compiledRule b category).optionIds_eq t groups g ht hg] at hid
  rcases Gating.mem_optionsOf.mp hid with ⟨gating, hgating, hattribute, hoption⟩
  exact ⟨gating, (Gating.mem_under.mp hgating).1, hattribute, hoption⟩

end Rules

theorem report_finish (b : Builder) : b.finish.2 = b.report.skipAll b.compileSkips := by
  change (b.dynamicOptions.toList.foldl (applyDynamicOption b.loaded)
      (b.assignments.toList.foldl (applyAssignment b.loaded.attributes)
        { report := (linkOptions b.attributes b.options b.report).2 })).report = _
  have hrules : forall (report : Report) (category : CategoryId),
      (b.assignments.toList.foldl (applyAssignment b.loaded.attributes)
        { report }).rules[category]?.map Rule.attributeIds = b.attributeIdsOf? category := by
    intro report category
    rw [rules_assigned, attributeIdsOf?]
    split
    · rfl
    · rfl
  have hlink : (linkOptions b.attributes b.options b.report).2 =
      b.report.skipAll (linkSkips b.attributes b.options.toList) :=
    snd_foldl_linkOption b.attributes b.report b.options.toList
  rw [report_foldl_applyDynamicOption, report_foldl_applyAssignment]
  simp only [hrules, hlink]
  rw [compileSkips, Report.skipAll_append, Report.skipAll_append]

end Builder
end FacetRules
