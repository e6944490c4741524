import FacetRules.Builder.Finish
import FacetRules.Proofs.Maps
import FacetRules.Proofs.Report

/-!
# The attributes of the categories

An assignment counts when it is enabled and its attribute is loaded.  A category has a
rule as soon as one of its assignments counts, and the rule lists the attributes of
all that count, in the order of the assignments.
-/

namespace FacetRules

namespace Rule

def assignAll (r : Rule) (ids : List Id) : Rule :=
  { r with attributeIds := r.attributeIds ++ ids }

@[simp]
theorem assignAll_nil (r : Rule) : r.assignAll [] = r := by
  simp [assignAll]

theorem assignAll_assign (r : Rule) (id : Id) (ids : List Id) :
    (r.assign id).assignAll ids = r.assignAll (id :: ids) := by
  simp [assignAll, assign]

end Rule

namespace Builder

/-- Why an assignment does not count, if it does not. -/
def assignmentSkip? (attributes : IdMap Attribute) (row : Assignment) : Option SkipReason :=
  if row.isDisabled then some .disabledRow
  else if attributes.contains row.attributeId then none
  else some .unknownAttribute

/-- The attributes of a category, in the order of the assignments that count. -/
def assigned (attributes : IdMap Attribute) (rows : List Assignment)
    (category : CategoryId) : List Id :=
  (rows.filter fun row =>
    row.categoryId == category && (assignmentSkip? attributes row).isNone).map
      Assignment.attributeId

theorem assignmentSkip?_eq_none {attributes : IdMap Attribute} {row : Assignment} :
    assignmentSkip? attributes row = none <->
      row.isDisabled = false ∧ row.attributeId ∈ attributes := by
  unfold assignmentSkip?
  cases row.isDisabled with
  | true =>
      simp
  | false =>
      cases hloaded : attributes.contains row.attributeId with
      | true =>
          simp [Std.ExtTreeMap.mem_iff_contains, hloaded]
      | false =>
          simp [Std.ExtTreeMap.mem_iff_contains, hloaded]

theorem mem_assigned {attributes : IdMap Attribute} {rows : List Assignment}
    {category : CategoryId} {id : Id} :
    id ∈ assigned attributes rows category <->
      exists row, row ∈ rows ∧ row.categoryId = category ∧ row.isDisabled = false ∧
        row.attributeId ∈ attributes ∧ row.attributeId = id := by
  simp [assigned, assignmentSkip?_eq_none, and_assoc]

/-!
# One assignment
-/

section Step

variable {attributes : IdMap Attribute} {row : Assignment}

theorem applyAssignment_of_some {reason : SkipReason}
    (h : assignmentSkip? attributes row = some reason) (c : Compilation) :
    applyAssignment attributes c row = c.skip reason := by
  unfold assignmentSkip? at h
  unfold applyAssignment
  cases hdisabled : row.isDisabled with
  | true =>
      rw [if_pos hdisabled] at h
      cases h
      rfl
  | false =>
      rw [if_neg (ne_true_of_eq_false hdisabled)] at h
      rw [if_neg Bool.false_ne_true]
      cases hloaded : attributes.contains row.attributeId with
      | true =>
          simp [hloaded] at h
      | false =>
          simp only [hloaded] at h ⊢
          cases h
          rfl

theorem applyAssignment_of_none (h : assignmentSkip? attributes row = none)
    (c : Compilation) :
    applyAssignment attributes c row =
      { c with
        rules := c.rules.insert row.categoryId
          ((c.rules.getD row.categoryId { categoryId := row.categoryId }).assign
            row.attributeId) } := by
  rcases assignmentSkip?_eq_none.mp h with ⟨hdisabled, hloaded⟩
  have hcontains : attributes.contains row.attributeId = true :=
    Std.ExtTreeMap.mem_iff_contains.mp hloaded
  simp [applyAssignment, hdisabled, hcontains]

end Step

/-!
# All assignments
-/

theorem rules_foldl_applyAssignment (attributes : IdMap Attribute) (rows : List Assignment)
    (c : Compilation) (category : CategoryId) :
    (rows.foldl (applyAssignment attributes) c).rules[category]? =
      if assigned attributes rows category = [] then
        c.rules[category]?
      else
        some ((c.rules[category]?.getD { categoryId := category }).assignAll
          (assigned attributes rows category)) := by
  induction rows generalizing c with
  | nil =>
      rfl
  | cons row rows ih =>
      rw [List.foldl_cons, ih]
      cases hskip : assignmentSkip? attributes row with
      | some reason =>
          have hrest : assigned attributes (row :: rows) category =
              assigned attributes rows category := by
            simp [assigned, hskip]
          rw [applyAssignment_of_some hskip, hrest]
          rfl
      | none =>
          rw [applyAssignment_of_none hskip]
          simp only [IdMap.getElem?_insert, Std.ExtTreeMap.getD_eq_getD_getElem?]
          by_cases hcategory : row.categoryId = category
          · subst hcategory
            have hrest : assigned attributes (row :: rows) row.categoryId =
                row.attributeId :: assigned attributes rows row.categoryId := by
              simp [assigned, hskip]
            rw [hrest, if_neg (List.cons_ne_nil _ _), if_pos rfl]
            by_cases hnil : assigned attributes rows row.categoryId = []
            · rw [if_pos hnil, hnil]
              rfl
            · rw [if_neg hnil, Option.getD_some, Rule.assignAll_assign]
          · have hrest : assigned attributes (row :: rows) category =
                assigned attributes rows category := by
              simp [assigned, hcategory]
            rw [hrest, if_neg hcategory]

theorem report_foldl_applyAssignment (attributes : IdMap Attribute)
    (rows : List Assignment) (c : Compilation) :
    (rows.foldl (applyAssignment attributes) c).report =
      c.report.skipAll (rows.filterMap (assignmentSkip? attributes)) := by
  induction rows generalizing c with
  | nil =>
      rfl
  | cons row rows ih =>
      rw [List.foldl_cons, ih]
      cases hskip : assignmentSkip? attributes row with
      | some reason =>
          rw [applyAssignment_of_some hskip, List.filterMap_cons_some hskip]
          rfl
      | none =>
          rw [applyAssignment_of_none hskip, List.filterMap_cons_none hskip]

end Builder
end FacetRules
