import FacetRules.Id

/-!
# Looking up in maps

Maps are built by storing, changing and folding.  Each of these is known by what it
does to a look-up; where a number is stored several times, the last time counts.
-/

namespace FacetRules
namespace IdMap

variable {α : Type}

theorem getElem?_insert (m : IdMap α) (k : UInt32) (v : α) (j : UInt32) :
    (m.insert k v)[j]? = if k = j then some v else m[j]? := by
  simp [Std.ExtTreeMap.getElem?_insert]

theorem getElem?_modify (m : IdMap α) (k : UInt32) (f : α -> α) (j : UInt32) :
    (m.modify k f)[j]? = if k = j then m[j]?.map f else m[j]? := by
  rw [Std.ExtTreeMap.getElem?_modify]
  by_cases h : k = j
  · subst h
    simp
  · simp [h]

theorem contains_eq_isSome (m : IdMap α) (k : UInt32) : m.contains k = m[k]?.isSome :=
  Std.ExtTreeMap.contains_eq_isSome_getElem?

theorem mem_iff_exists {m : IdMap α} {k : UInt32} : k ∈ m <-> exists v, m[k]? = some v := by
  rw [Std.ExtTreeMap.mem_iff_isSome_getElem?, Option.isSome_iff_exists]

theorem mem_toList {m : IdMap α} {k : UInt32} {v : α} :
    (k, v) ∈ m.toList <-> m[k]? = some v :=
  Std.ExtTreeMap.mem_toList_iff_getElem?_eq_some

theorem pairwise_keys (m : IdMap α) : m.keys.Pairwise fun a b => a < b := by
  have hordered : m.keys.Pairwise fun a b => compare a b = .lt := Std.ExtTreeMap.ordered_keys
  exact hordered.imp compareOfLessAndEq_eq_lt.mp

/-- Storing a list under the numbers of its elements: the last one with a number
counts. -/
theorem getElem?_foldl_insert (number : α -> UInt32) (xs : List α) (m : IdMap α)
    (k : UInt32) :
    (xs.foldl (fun m x => m.insert (number x) x) m)[k]? =
      (xs.findRev? fun x => number x == k).or m[k]? := by
  induction xs generalizing m with
  | nil =>
      simp [List.findRev?]
  | cons x xs ih =>
      rw [List.foldl_cons, ih, getElem?_insert, List.findRev?]
      cases xs.findRev? (fun x => number x == k) with
      | some y =>
          rfl
      | none =>
          by_cases h : number x = k
          · simp [h]
          · simp [h]

end IdMap
end FacetRules
