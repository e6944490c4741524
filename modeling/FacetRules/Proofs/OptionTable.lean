import FacetRules.OptionTable
import FacetRules.Proofs.Lists
import FacetRules.Proofs.Maps

/-!
# The option table as a list of rows

Storing options one after the other: a number is looked up by its last row and keeps
the place of its first one.
-/

namespace FacetRules
namespace OptionTable

/-- Stores options one after the other. -/
def insertAll (t : OptionTable) (os : List AttributeOption) : OptionTable :=
  os.foldl insert t

theorem order_insert (t : OptionTable) (o : AttributeOption) :
    (t.insert o).order.toList = (t.order.toList ++ [o.id]).eraseDups := by
  unfold insert
  split
  · rename_i h
    have hmem : o.id ∈ t.order.toList := (t.mem_order o.id).mpr h
    rw [eraseDups_append_of_subset (by simpa using hmem), eraseDups_of_nodup t.order_nodup]
  · rename_i h
    have hnot : o.id ∉ t.order.toList := fun hmem => h ((t.mem_order o.id).mp hmem)
    rw [eraseDups_append_of_disjoint (by simpa using hnot),
      eraseDups_of_nodup t.order_nodup]
    simp [List.eraseDups_cons]

theorem get?_insertAll (t : OptionTable) (os : List AttributeOption) (id : Id) :
    (t.insertAll os).get? id = (os.findRev? (·.id == id)).or (t.get? id) := by
  induction os generalizing t with
  | nil =>
      simp [insertAll, List.findRev?]
  | cons o os ih =>
      show ((t.insert o).insertAll os).get? id = _
      rw [ih, get?_insert, List.findRev?]
      cases os.findRev? (·.id == id) with
      | some p =>
          rfl
      | none =>
          by_cases h : o.id = id
          · simp [h]
          · simp [h]

theorem order_insertAll (t : OptionTable) (os : List AttributeOption) :
    (t.insertAll os).order.toList =
      (t.order.toList ++ os.map AttributeOption.id).eraseDups := by
  induction os generalizing t with
  | nil =>
      simp [insertAll, eraseDups_of_nodup t.order_nodup]
  | cons o os ih =>
      show ((t.insert o).insertAll os).order.toList = _
      rw [ih, order_insert, eraseDups_eraseDups_append, List.append_assoc]
      rfl

theorem get?_insertAll_empty (os : List AttributeOption) (id : Id) :
    ((∅ : OptionTable).insertAll os).get? id = os.findRev? (·.id == id) := by
  rw [get?_insertAll, get?_empty, Option.or_none]

theorem toList_insertAll_empty (os : List AttributeOption) :
    ((∅ : OptionTable).insertAll os).toList =
      (os.map AttributeOption.id).eraseDups.filterMap fun id =>
        os.findRev? (·.id == id) := by
  have horder := order_insertAll ∅ os
  change _ = ([] ++ os.map AttributeOption.id).eraseDups at horder
  have hget : ((∅ : OptionTable).insertAll os).get? = fun id => os.findRev? (·.id == id) :=
    funext (get?_insertAll_empty os)
  rw [toList, horder, List.nil_append, hget]

theorem mem_toList {t : OptionTable} {o : AttributeOption} :
    o ∈ t.toList <-> exists id, t.get? id = some o := by
  unfold toList
  rw [List.mem_filterMap]
  constructor
  · intro hexists
    rcases hexists with ⟨id, _hid, ho⟩
    exact ⟨id, ho⟩
  · intro hexists
    rcases hexists with ⟨id, ho⟩
    refine ⟨id, ?_, ho⟩
    apply (t.mem_order id).mpr
    exact IdMap.mem_iff_exists.mpr ⟨o, ho⟩

theorem nodup_id_toList {t : OptionTable} (ht : forall id o, t.get? id = some o -> o.id = id) :
    (t.toList.map AttributeOption.id).Nodup := by
  have hids : forall ids : List Id,
      (ids.filterMap t.get?).map AttributeOption.id = ids.filter fun id => (t.get? id).isSome := by
    intro ids
    induction ids with
    | nil =>
        rfl
    | cons id ids ih =>
        cases ho : t.get? id with
        | none =>
            simpa [ho] using ih
        | some o =>
            simpa [ho, ht id o ho] using ih
  rw [toList, hids]
  exact t.order_nodup.filter _

end OptionTable
end FacetRules
