/-!
# Totals

The total of a list of numbers, which is what sizes and counts are added up with.
-/

namespace FacetRules

def total : List Nat -> Nat
  | [] => 0
  | n :: ns => n + total ns

@[simp]
theorem total_nil : total [] = 0 :=
  rfl

@[simp]
theorem total_cons (n : Nat) (ns : List Nat) : total (n :: ns) = n + total ns :=
  rfl

@[simp]
theorem total_append (front back : List Nat) :
    total (front ++ back) = total front + total back := by
  induction front with
  | nil =>
      simp
  | cons n ns ih =>
      simp [ih, Nat.add_assoc]

end FacetRules
