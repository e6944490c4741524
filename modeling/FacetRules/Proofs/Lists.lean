/-!
# Lists without repetitions

The registry and the option table list what they hold in the order of its first
appearance.  Such a list is the list of everything that came up, without its
repetitions; these are the laws by which it is taken apart.
-/

namespace FacetRules

variable {α β : Type} [BEq α] [LawfulBEq α] [BEq β] [LawfulBEq β]

theorem eraseDups_of_nodup {xs : List α} (h : xs.Nodup) : xs.eraseDups = xs := by
  induction xs with
  | nil =>
      rfl
  | cons x xs ih =>
      have hx : x ∉ xs := (List.nodup_cons.mp h).1
      have hkeep : xs.filter (fun y => !y == x) = xs := by
        apply List.filter_eq_self.mpr
        intro y hy
        have hne : y ≠ x := fun heq => hx (heq ▸ hy)
        simp [hne]
      rw [List.eraseDups_cons, hkeep, ih (List.nodup_cons.mp h).2]

theorem nodup_eraseDups (xs : List α) : xs.eraseDups.Nodup := by
  match xs with
  | [] => simp
  | x :: xs =>
      have hlt : (xs.filter (fun y => !y == x)).length < xs.length + 1 :=
        Nat.lt_succ_of_le (List.length_filter_le _ _)
      rw [List.eraseDups_cons]
      apply List.nodup_cons.mpr
      constructor
      · simp
      · exact nodup_eraseDups _
termination_by xs.length

/-- What a list without repetitions holds already is not added to it. -/
theorem eraseDups_append_of_subset {xs ys : List α} (h : forall y, y ∈ ys -> y ∈ xs) :
    (xs ++ ys).eraseDups = xs.eraseDups := by
  have hnone : ys.removeAll xs = [] := by
    apply List.filter_eq_nil_iff.mpr
    intro y hy
    simp [h y hy]
  rw [List.eraseDups_append, hnone, List.eraseDups_nil, List.append_nil]

/-- Lists that share nothing are freed of repetitions one by one. -/
theorem eraseDups_append_of_disjoint {xs ys : List α} (h : forall y, y ∈ ys -> y ∉ xs) :
    (xs ++ ys).eraseDups = xs.eraseDups ++ ys.eraseDups := by
  have hall : ys.removeAll xs = ys := by
    apply List.filter_eq_self.mpr
    intro y hy
    simp [h y hy]
  rw [List.eraseDups_append, hall]

theorem eraseDups_eraseDups_append (xs ys : List α) :
    (xs.eraseDups ++ ys).eraseDups = (xs ++ ys).eraseDups := by
  have hsame : ys.removeAll xs.eraseDups = ys.removeAll xs := by
    apply List.filter_congr
    intro y _hy
    simp
  rw [List.eraseDups_append, List.eraseDups_append, hsame,
    eraseDups_of_nodup (nodup_eraseDups xs)]

theorem eraseDups_filter (p : α -> Bool) (xs : List α) :
    (xs.filter p).eraseDups = xs.eraseDups.filter p := by
  match xs with
  | [] => rfl
  | x :: xs =>
      have hlt : (xs.filter (fun y => !y == x)).length < xs.length + 1 :=
        Nat.lt_succ_of_le (List.length_filter_le _ _)
      have hrest := eraseDups_filter p (xs.filter (fun y => !y == x))
      have hswap : (xs.filter (fun y => !y == x)).filter p =
          (xs.filter p).filter (fun y => !y == x) := by
        simp [List.filter_filter, Bool.and_comm]
      rw [hswap] at hrest
      rw [List.eraseDups_cons]
      by_cases hx : p x = true
      · rw [List.filter_cons_of_pos hx, List.filter_cons_of_pos hx, List.eraseDups_cons, hrest]
      · have hkeep : (xs.filter p).filter (fun y => !y == x) = xs.filter p := by
          apply List.filter_eq_self.mpr
          intro y hy
          have hne : y ≠ x := fun heq => hx (heq ▸ (List.mem_filter.mp hy).2)
          simp [hne]
        rw [List.filter_cons_of_neg hx, List.filter_cons_of_neg hx, <- hrest, hkeep]
termination_by xs.length

theorem eraseDups_map {f : α -> β} (hf : forall x y, f x = f y -> x = y) (xs : List α) :
    (xs.map f).eraseDups = xs.eraseDups.map f := by
  match xs with
  | [] => rfl
  | x :: xs =>
      have hlt : (xs.filter (fun y => !y == x)).length < xs.length + 1 :=
        Nat.lt_succ_of_le (List.length_filter_le _ _)
      have hfilter : (xs.map f).filter (fun y => !y == f x) =
          (xs.filter (fun y => !y == x)).map f := by
        rw [List.filter_map]
        congr 1
        apply List.filter_congr
        intro y _hy
        by_cases hyx : y = x
        · simp [hyx]
        · have hne : (f y == f x) = false :=
            beq_eq_false_iff_ne.mpr fun heq => hyx (hf y x heq)
          have hne' : (y == x) = false := beq_eq_false_iff_ne.mpr hyx
          simp [hne, hne']
      rw [List.map_cons, List.eraseDups_cons, List.eraseDups_cons, hfilter, List.map_cons,
        eraseDups_map hf]
termination_by xs.length

end FacetRules
