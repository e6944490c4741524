import Mathlib.Data.List.Basic
import FacetRules.Proofs.Lists

/-!
# Copies of a list

Loading the same tables in several passes gives, of every list that matters, one copy
for each pass, put one after the other and each marked by its pass.  What is computed from
such a list element by element is a list of copies as well, and where the marks tell the
passes apart, what is looked up in it is found in a single copy.
-/

namespace FacetRules

variable {α β γ δ : Type}

/-- The copies of a list that passes make. -/
def copies (n : Nat) (mark : Nat -> α -> β) (xs : List α) : List β :=
  (List.range n).flatMap fun p => xs.map (mark p)

section Lists

variable {n : Nat} {mark : Nat -> α -> β} {xs : List α}

@[simp]
theorem copies_zero : copies 0 mark xs = [] :=
  rfl

theorem copies_succ : copies (n + 1) mark xs = copies n mark xs ++ xs.map (mark n) := by
  rw [copies, List.range_succ, List.flatMap_append]
  simp [copies]

theorem mem_copies {y : β} :
    y ∈ copies n mark xs <-> exists p x, p < n ∧ x ∈ xs ∧ mark p x = y := by
  simp [copies]

theorem copies_eq_nil_iff (hn : 1 ≤ n) : copies n mark xs = [] <-> xs = [] := by
  constructor
  · intro h
    cases xs with
    | nil =>
        rfl
    | cons x xs =>
        have hmem : mark 0 x ∈ copies n mark (x :: xs) :=
          mem_copies.mpr ⟨0, x, hn, by simp, rfl⟩
        rw [h] at hmem
        cases hmem
  · intro h
    rw [h]
    simp [copies]

theorem length_copies : (copies n mark xs).length = n * xs.length := by
  induction n with
  | zero =>
      simp
  | succ n ih =>
      rw [copies_succ, List.length_append, ih, List.length_map, Nat.succ_mul]

/-- The elements of a copy stand at the same places, counted from its beginning. -/
theorem getElem?_copies {p i : Nat} (hp : p < n) (hi : i < xs.length) :
    (copies n mark xs)[i + p * xs.length]? = xs[i]?.map (mark p) := by
  induction n with
  | zero =>
      cases hp
  | succ n ih =>
      rw [copies_succ]
      by_cases h : p = n
      · subst h
        rw [List.getElem?_append_right (by rw [length_copies]; omega), length_copies,
          Nat.add_sub_cancel, List.getElem?_map]
      · have hlt : p < n := by omega
        have hbound : i + p * xs.length < (copies n mark xs).length := by
          have hle : (p + 1) * xs.length ≤ n * xs.length :=
            Nat.mul_le_mul_right _ hlt
          rw [Nat.succ_mul] at hle
          rw [length_copies]
          omega
        rw [List.getElem?_append_left hbound]
        exact ih hlt

/-!
# Element by element
-/

theorem map_copies (f : β -> γ) :
    (copies n mark xs).map f = copies n (fun p x => f (mark p x)) xs := by
  simp [copies, List.map_flatMap, Function.comp_def]

theorem copies_map (f : γ -> α) (ys : List γ) :
    copies n mark (ys.map f) = copies n (fun p y => mark p (f y)) ys := by
  simp [copies, Function.comp_def]

theorem flatMap_copies {f : β -> List δ} {g : α -> List γ} {mark' : Nat -> γ -> δ}
    (h : forall p x, p < n -> x ∈ xs -> f (mark p x) = (g x).map (mark' p)) :
    (copies n mark xs).flatMap f = copies n mark' (xs.flatMap g) := by
  have hpass : forall p, p < n ->
      (xs.map (mark p)).flatMap f = (xs.flatMap g).map (mark' p) := by
    intro p hp
    have hall : forall ys : List α, (forall x, x ∈ ys -> x ∈ xs) ->
        (ys.map (mark p)).flatMap f = (ys.flatMap g).map (mark' p) := by
      intro ys
      induction ys with
      | nil =>
          intro _h
          rfl
      | cons y ys ih =>
          intro hys
          rw [List.map_cons, List.flatMap_cons, h p y hp (hys y (by simp)),
            ih fun x hx => hys x (by simp [hx]), List.flatMap_cons, List.map_append]
    exact hall xs fun x hx => hx
  clear h
  induction n with
  | zero =>
      rfl
  | succ n ih =>
      have hrest := ih fun p hp => hpass p (Nat.lt_succ_of_lt hp)
      rw [copies_succ, copies_succ, List.flatMap_append, hrest, hpass n (Nat.lt_succ_self n)]

theorem filterMap_copies {f : β -> Option δ} {g : α -> Option γ} {mark' : Nat -> γ -> δ}
    (h : forall p x, p < n -> x ∈ xs -> f (mark p x) = (g x).map (mark' p)) :
    (copies n mark xs).filterMap f = copies n mark' (xs.filterMap g) := by
  rw [List.filterMap_eq_flatMap_toList, List.filterMap_eq_flatMap_toList]
  apply flatMap_copies
  intro p x hp hx
  rw [h p x hp hx, Option.toList_map]

theorem filter_copies {f : β -> Bool} {g : α -> Bool}
    (h : forall p x, p < n -> x ∈ xs -> f (mark p x) = g x) :
    (copies n mark xs).filter f = copies n mark (xs.filter g) := by
  rw [<- List.filterMap_eq_filter, <- List.filterMap_eq_filter]
  apply filterMap_copies
  intro p x hp hx
  cases hg : g x with
  | true =>
      simp [Option.guard, h p x hp hx, hg]
  | false =>
      simp [Option.guard, h p x hp hx, hg]

theorem count_copies [BEq α] [LawfulBEq α] (a : α) :
    (copies n (fun _ x => x) xs).count a = n * xs.count a := by
  induction n with
  | zero =>
      simp
  | succ n ih =>
      rw [copies_succ, List.count_append, ih, List.map_id', Nat.succ_mul]

/-!
# A single copy
-/

/-- What selects elements of one pass alone selects them in its copy. -/
theorem filter_copies_of_pass {f : β -> Bool} {g : α -> Bool} {q : Nat} (hq : q < n)
    (h : forall p x, p < n -> x ∈ xs -> (f (mark p x) = true <-> p = q ∧ g x = true)) :
    (copies n mark xs).filter f = (xs.filter g).map (mark q) := by
  induction n with
  | zero =>
      cases hq
  | succ n ih =>
      rw [copies_succ, List.filter_append]
      by_cases hn : q = n
      · subst hn
        have hrest : (copies q mark xs).filter f = [] := by
          apply List.filter_eq_nil_iff.mpr
          intro y hy hfy
          rcases mem_copies.mp hy with ⟨p, x, hp, hx, rfl⟩
          have hpass := ((h p x (Nat.lt_succ_of_lt hp) hx).mp hfy).1
          omega
        have hlast : (xs.map (mark q)).filter f = (xs.filter g).map (mark q) := by
          rw [List.filter_map]
          congr 1
          apply List.filter_congr
          intro x hx
          rw [Bool.eq_iff_iff, Function.comp_apply, h q x hq hx]
          simp
        rw [hrest, hlast, List.nil_append]
      · have hlt : q < n := by omega
        have hlast : (xs.map (mark n)).filter f = [] := by
          apply List.filter_eq_nil_iff.mpr
          intro y hy hfy
          rcases List.mem_map.mp hy with ⟨x, hx, rfl⟩
          exact hn ((h n x (Nat.lt_succ_self n) hx).mp hfy).1.symm
        rw [hlast, List.append_nil]
        exact ih hlt fun p x hp hx => h p x (Nat.lt_succ_of_lt hp) hx

theorem findRev?_copies_of_pass {f : β -> Bool} {g : α -> Bool} {q : Nat} (hq : q < n)
    (h : forall p x, p < n -> x ∈ xs -> (f (mark p x) = true <-> p = q ∧ g x = true)) :
    (copies n mark xs).findRev? f = (xs.findRev? g).map (mark q) := by
  rw [List.findRev?_eq_find?_reverse, List.findRev?_eq_find?_reverse, <- List.getLast?_filter,
    <- List.getLast?_filter, filter_copies_of_pass hq h, List.getLast?_map]

end Lists

/-!
# Marks that tell the passes apart
-/

section Marks

variable [BEq α] [LawfulBEq α] [BEq β] [LawfulBEq β] {n : Nat} {mark : Nat -> α -> β}
  {xs : List α}

theorem eraseDups_copies (hinj : forall p x y, mark p x = mark p y -> x = y)
    (hpass : forall p q x y, p < n -> q < n -> x ∈ xs -> y ∈ xs -> mark p x = mark q y -> p = q) :
    (copies n mark xs).eraseDups = copies n mark xs.eraseDups := by
  induction n with
  | zero =>
      rfl
  | succ n ih =>
      have hrest := ih fun p q x y hp hq =>
        hpass p q x y (Nat.lt_succ_of_lt hp) (Nat.lt_succ_of_lt hq)
      have hdisjoint : forall y, y ∈ xs.map (mark n) -> y ∉ copies n mark xs := by
        intro y hy hmem
        rcases List.mem_map.mp hy with ⟨x, hx, rfl⟩
        rcases mem_copies.mp hmem with ⟨p, z, hp, hz, heq⟩
        have hsame := hpass p n z x (Nat.lt_succ_of_lt hp) (Nat.lt_succ_self n) hz hx heq
        omega
      rw [copies_succ, copies_succ, eraseDups_append_of_disjoint hdisjoint, hrest,
        eraseDups_map (hinj n)]

theorem idxOf?_copies (hinj : forall p q x y, mark p x = mark q y -> p = q ∧ x = y) {p : Nat}
    (hp : p < n) (x : α) :
    (copies n mark xs).idxOf? (mark p x) = (xs.idxOf? x).map (· + p * xs.length) := by
  have hmap : forall q, (xs.map (mark q)).idxOf? (mark q x) = xs.idxOf? x := by
    intro q
    unfold List.idxOf?
    rw [List.findIdx?_map]
    congr 1
    funext y
    rw [Function.comp_apply, Bool.eq_iff_iff, beq_iff_eq, beq_iff_eq]
    constructor
    · intro heq
      exact (hinj q q y x heq).2
    · intro heq
      rw [heq]
  have hother : forall q, p ≠ q -> (xs.map (mark q)).idxOf? (mark p x) = none := by
    intro q hne
    apply List.idxOf?_eq_none_iff.mpr
    intro hmem
    rcases List.mem_map.mp hmem with ⟨y, _hy, heq⟩
    exact hne (hinj q p y x heq).1.symm
  induction n with
  | zero =>
      cases hp
  | succ n ih =>
      have hsplit : (copies n mark xs ++ xs.map (mark n)).idxOf? (mark p x) =
          ((copies n mark xs).idxOf? (mark p x)).or
            (((xs.map (mark n)).idxOf? (mark p x)).map (· + (copies n mark xs).length)) := by
        unfold List.idxOf?
        rw [List.findIdx?_append]
      rw [copies_succ, hsplit, length_copies]
      by_cases hn : p = n
      · subst hn
        have hnone : (copies p mark xs).idxOf? (mark p x) = none := by
          apply List.idxOf?_eq_none_iff.mpr
          intro hmem
          rcases mem_copies.mp hmem with ⟨q, y, hq, _hy, heq⟩
          have hsame := (hinj q p y x heq).1
          omega
        rw [hnone, hmap, Option.none_or]
      · rw [ih (by omega), hother n hn, Option.map_none, Option.or_none]

end Marks

end FacetRules
