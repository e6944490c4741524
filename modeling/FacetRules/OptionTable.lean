import FacetRules.Entity

/-!
# The option table under construction

Options are kept by number and listed in the order in which their numbers first
came up.  An option that is read again replaces the earlier one and keeps its
place in the list.
-/

namespace FacetRules

/-- Options by number, and the order of their first appearance. -/
structure OptionTable where
  order : Array Id := #[]
  entries : IdMap AttributeOption := ∅
  order_nodup : order.toList.Nodup := by simp
  mem_order : forall id, id ∈ order.toList <-> id ∈ entries := by simp

namespace OptionTable

instance : EmptyCollection OptionTable where
  emptyCollection := {}

instance : Inhabited OptionTable where
  default := ∅

def get? (t : OptionTable) (id : Id) : Option AttributeOption :=
  t.entries[id]?

def toList (t : OptionTable) : List AttributeOption :=
  t.order.toList.filterMap t.get?

def insert (t : OptionTable) (o : AttributeOption) : OptionTable :=
  if h : o.id ∈ t.entries then
    { t with
      entries := t.entries.insert o.id o
      mem_order := by
        intro id
        rw [t.mem_order id, Std.ExtTreeMap.mem_insert]
        constructor
        · exact Or.inr
        · rintro (heq | hmem)
          · rw [<- Std.compare_eq_iff_eq.mp heq]
            exact h
          · exact hmem }
  else
    { order := t.order.push o.id
      entries := t.entries.insert o.id o
      order_nodup := by
        have hnot : o.id ∉ t.order.toList := fun hmem => h ((t.mem_order o.id).mp hmem)
        simp only [Array.toList_push]
        exact List.nodup_append.mpr
          ⟨t.order_nodup, by simp, by
            intro a ha b hb hab
            rw [List.mem_singleton] at hb
            subst hb
            subst hab
            exact hnot ha⟩
      mem_order := by
        intro id
        rw [Array.toList_push, List.mem_append, List.mem_singleton, t.mem_order id,
          Std.ExtTreeMap.mem_insert, Std.compare_eq_iff_eq, or_comm, eq_comm] }

@[simp]
theorem get?_empty (id : Id) : (∅ : OptionTable).get? id = none := by
  change (∅ : IdMap AttributeOption)[id]? = none
  simp

theorem get?_insert (t : OptionTable) (o : AttributeOption) (id : Id) :
    (t.insert o).get? id = if o.id = id then some o else t.get? id := by
  unfold insert get?
  split <;> simp [Std.ExtTreeMap.getElem?_insert]

end OptionTable
end FacetRules
