import FacetRules.Proofs.Rule.Histories

/-!
# Filling a rule

Once the attributes of a category are known, its rule is filled with the options that
are listed without a precondition and with those that are put behind triggers, in any
mixture.  The two kinds do not interfere.  At the end every attribute that no trigger
gates is made visible.
-/

namespace FacetRules
namespace Rule

def showAll (r : Rule) (ids : List Id) : Rule :=
  { r with ungatedOptions := ids.foldl Std.ExtTreeSet.insert r.ungatedOptions }

/-- Lists options without a precondition and puts options behind triggers. -/
def fill (r : Rule) (shown : List Id) (gs : List Gating) : Rule :=
  (r.showAll shown).gateAll gs

@[simp]
theorem showAll_nil (r : Rule) : r.showAll [] = r :=
  rfl

theorem showAll_append (r : Rule) (ids more : List Id) :
    r.showAll (ids ++ more) = (r.showAll ids).showAll more := by
  simp [showAll]

theorem mem_ungatedOptions_showAll {r : Rule} {ids : List Id} {id : Id} :
    id ∈ (r.showAll ids).ungatedOptions <-> id ∈ r.ungatedOptions ∨ id ∈ ids := by
  simp only [showAll]
  generalize r.ungatedOptions = shown
  induction ids generalizing shown with
  | nil =>
      simp
  | cons head ids ih =>
      rw [List.foldl_cons, ih, Std.ExtTreeSet.mem_insert, Std.compare_eq_iff_eq,
        List.mem_cons]
      constructor
      · intro hcase
        rcases hcase with (h | h) | h
        · exact Or.inr (Or.inl h.symm)
        · exact Or.inl h
        · exact Or.inr (Or.inr h)
      · intro hcase
        rcases hcase with h | h | h
        · exact Or.inl (Or.inr h)
        · exact Or.inl (Or.inl h.symm)
        · exact Or.inr h

theorem showAll_gateAll (r : Rule) (gs : List Gating) (ids : List Id) :
    (r.gateAll gs).showAll ids = (r.showAll ids).gateAll gs := by
  induction gs generalizing r with
  | nil =>
      rfl
  | cons g gs ih =>
      exact ih (r.gate g.trigger g.attributeId g.optionId)

@[simp]
theorem fill_nil (r : Rule) : r.fill [] [] = r :=
  rfl

theorem fill_fill (r : Rule) (shown more : List Id) (gs hs : List Gating) :
    (r.fill shown gs).fill more hs = r.fill (shown ++ more) (gs ++ hs) := by
  simp only [fill]
  rw [showAll_gateAll, <- showAll_append, gateAll_append]

theorem showAlways_eq_fill (r : Rule) (id : Id) : r.showAlways id = r.fill [id] [] :=
  rfl

@[simp]
theorem categoryId_fill (r : Rule) (shown : List Id) (gs : List Gating) :
    (r.fill shown gs).categoryId = r.categoryId := by
  rw [fill, gateAll_eq]
  rfl

@[simp]
theorem attributeIds_fill (r : Rule) (shown : List Id) (gs : List Gating) :
    (r.fill shown gs).attributeIds = r.attributeIds := by
  rw [fill, gateAll_eq]
  rfl

@[simp]
theorem alwaysVisibleIds_fill (r : Rule) (shown : List Id) (gs : List Gating) :
    (r.fill shown gs).alwaysVisibleIds = r.alwaysVisibleIds := by
  rw [fill, gateAll_eq]
  rfl

theorem mem_ungatedOptions_fill {r : Rule} {shown : List Id} {gs : List Gating} {id : Id} :
    id ∈ (r.fill shown gs).ungatedOptions <-> id ∈ r.ungatedOptions ∨ id ∈ shown := by
  rw [fill, gateAll_eq]
  exact mem_ungatedOptions_showAll

theorem getElem?_triggers_fill {r : Rule} (hr : r.triggers = ∅) (shown : List Id)
    (gs : List Gating) (t : Id) :
    (r.fill shown gs).triggers[t]? =
      if Gating.under t gs = [] then none
      else some (Gating.groups (Gating.under t gs)) :=
  getElem?_triggers_gateAll_of_empty (r := r.showAll shown) hr gs t

theorem groupedBy_fill {r : Rule} (hr : r.triggers = ∅) (shown : List Id) (gs : List Gating) :
    (r.fill shown gs).GroupedBy gs :=
  groupedBy_of_getElem?_triggers (getElem?_triggers_fill hr shown gs)

theorem alwaysVisibleIds_classify_fill {r : Rule} (hr : r.triggers = ∅)
    (hvisible : r.alwaysVisibleIds = []) (shown : List Id) (gs : List Gating) :
    (r.fill shown gs).classify.alwaysVisibleIds =
      r.attributeIds.filter fun a => !(gs.map Gating.attributeId).contains a := by
  simp only [classify, alwaysVisibleIds_fill, attributeIds_fill, hvisible, List.nil_append]
  apply List.filter_congr
  intro a _ha
  have hiff := (groupedBy_fill hr shown gs).mem_gatedAttributes_iff a
  rw [<- List.mem_map, Std.ExtTreeSet.mem_iff_contains, <- List.contains_iff_mem] at hiff
  rw [Bool.eq_iff_iff.mpr hiff]

end Rule
end FacetRules
