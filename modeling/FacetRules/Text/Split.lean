/-!
# Splitting at a separator

A text is cut at the first separator in it.  What stands before the cut holds no
separator; what stands after it may.
-/

namespace FacetRules
namespace Text

/-- The parts before and after the first separator, if there is one. -/
def splitFirst (sep : Char) : List Char -> Option (List Char × List Char)
  | [] => none
  | c :: cs =>
      if c = sep then
        some ([], cs)
      else
        (splitFirst sep cs).map fun (front, back) => (c :: front, back)

theorem splitFirst_append {sep : Char} {front : List Char} (h : sep ∉ front)
    (back : List Char) :
    splitFirst sep (front ++ sep :: back) = some (front, back) := by
  induction front with
  | nil => simp [splitFirst]
  | cons c front ih =>
      rw [List.mem_cons, not_or] at h
      simp [splitFirst, Ne.symm h.1, ih h.2]

theorem eq_append_of_splitFirst {sep : Char} {cs front back : List Char}
    (h : splitFirst sep cs = some (front, back)) :
    cs = front ++ sep :: back ∧ sep ∉ front := by
  induction cs generalizing front with
  | nil => simp [splitFirst] at h
  | cons c cs ih =>
      unfold splitFirst at h
      split at h
      · rename_i hc
        simp only [Option.some.injEq, Prod.mk.injEq] at h
        rcases h with ⟨rfl, rfl⟩
        simp [hc]
      · rename_i hc
        rcases Option.map_eq_some_iff.mp h with ⟨⟨f, b⟩, hsplit, heq⟩
        simp only [Prod.mk.injEq] at heq
        rcases heq with ⟨rfl, rfl⟩
        rcases ih hsplit with ⟨rfl, hnot⟩
        exact ⟨rfl, by simp [Ne.symm hc, hnot]⟩

end Text
end FacetRules
