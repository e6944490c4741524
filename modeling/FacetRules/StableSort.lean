/-!
# Stable sorting by a key

Lists of numbers are put into display order by a key that is looked up elsewhere.
Elements with equal keys keep their relative order, so sorting twice is sorting
once, and sorting commutes with leaving elements out.

The keys are signed words, which are linearly ordered.
-/

namespace FacetRules
namespace StableSort

variable {α : Type}

/-- Puts an element in front of the first one whose key is not smaller. -/
def insert (key : α -> Int64) (x : α) : List α -> List α
  | [] => [x]
  | y :: ys => if key x ≤ key y then x :: y :: ys else y :: insert key x ys

/-- Sorts by ascending keys; equal keys keep their order. -/
def sort (key : α -> Int64) : List α -> List α
  | [] => []
  | x :: xs => insert key x (sort key xs)

def Sorted (key : α -> Int64) (xs : List α) : Prop :=
  xs.Pairwise fun x y => key x ≤ key y

theorem insert_perm (key : α -> Int64) (x : α) (ys : List α) :
    (insert key x ys).Perm (x :: ys) := by
  induction ys with
  | nil => exact List.Perm.refl _
  | cons y ys ih =>
      unfold insert
      split
      · exact List.Perm.refl _
      · exact (ih.cons y).trans (List.Perm.swap x y ys)

theorem sort_perm (key : α -> Int64) (xs : List α) : (sort key xs).Perm xs := by
  induction xs with
  | nil => exact List.Perm.refl _
  | cons x xs ih => exact (insert_perm key x _).trans (ih.cons x)

theorem insert_sorted {key : α -> Int64} {ys : List α} (x : α) (h : Sorted key ys) :
    Sorted key (insert key x ys) := by
  induction ys with
  | nil => simp [insert, Sorted]
  | cons y ys ih =>
      have hall : forall z, z ∈ ys -> key y ≤ key z := (List.pairwise_cons.mp h).1
      have htail : Sorted key ys := (List.pairwise_cons.mp h).2
      unfold insert
      split
      · rename_i hle
        refine List.pairwise_cons.mpr ⟨?_, h⟩
        intro z hz
        rcases List.mem_cons.mp hz with rfl | hz
        · exact hle
        · exact Int64.le_trans hle (hall z hz)
      · rename_i hle
        refine List.pairwise_cons.mpr ⟨?_, ih htail⟩
        intro z hz
        rcases List.mem_cons.mp ((insert_perm key x ys).mem_iff.mp hz) with rfl | hz
        · exact (Int64.le_total (key y) (key z)).resolve_right hle
        · exact hall z hz

theorem sort_sorted (key : α -> Int64) (xs : List α) : Sorted key (sort key xs) := by
  induction xs with
  | nil => exact List.Pairwise.nil
  | cons x xs ih => exact insert_sorted x ih

theorem insert_of_forall_le {key : α -> Int64} {x : α} {ys : List α}
    (h : forall y, y ∈ ys -> key x ≤ key y) : insert key x ys = x :: ys := by
  cases ys with
  | nil => rfl
  | cons y ys => simp [insert, h y (by simp)]

theorem sort_of_sorted {key : α -> Int64} {xs : List α} (h : Sorted key xs) :
    sort key xs = xs := by
  induction xs with
  | nil => rfl
  | cons x xs ih =>
      have hx := (List.pairwise_cons.mp h).1
      have hxs := (List.pairwise_cons.mp h).2
      simp only [sort, ih hxs]
      exact insert_of_forall_le hx

theorem sort_sort (key : α -> Int64) (xs : List α) :
    sort key (sort key xs) = sort key xs :=
  sort_of_sorted (sort_sorted key xs)

/-!
## Renaming

Elements that are renamed keep their places, where the new names have the keys of the
old ones.
-/

variable {β : Type}

theorem insert_map {key : α -> Int64} {key' : β -> Int64} {f : α -> β}
    (h : forall x, key' (f x) = key x) (x : α) (ys : List α) :
    insert key' (f x) (ys.map f) = (insert key x ys).map f := by
  induction ys with
  | nil => rfl
  | cons y ys ih =>
      simp only [List.map_cons, insert, h, ih]
      split
      · rfl
      · rfl

theorem sort_map {key : α -> Int64} {key' : β -> Int64} {f : α -> β}
    (h : forall x, key' (f x) = key x) (xs : List α) :
    sort key' (xs.map f) = (sort key xs).map f := by
  induction xs with
  | nil => rfl
  | cons x xs ih => simp only [List.map_cons, sort, ih, insert_map h]

end StableSort
end FacetRules
