import Mathlib.Data.List.Perm.Basic
import FacetRules.Report

/-!
# Reports as counts of events

Rows are counted where they are read, and what is left out where it is found.  Counting a
list of them raises every counter by the number of times its table or reason stands in the
list, whatever the order.
-/

namespace FacetRules

namespace Tally

variable {κ : Type} [Ord κ] [Std.TransOrd κ] [Std.LawfulEqOrd κ] [DecidableEq κ]

theorem getElem?_bump (t : Tally κ) (k l : κ) :
    (t.bump k)[l]? = if k = l then some (t.count l + 1) else t[l]? := by
  rw [bump, Std.ExtTreeMap.getElem?_insert]
  by_cases h : k = l
  · simp [h]
  · simp [h]

theorem bump_bump_comm (t : Tally κ) (k l : κ) : (t.bump k).bump l = (t.bump l).bump k := by
  apply Std.ExtTreeMap.ext_getElem?
  intro j
  simp only [getElem?_bump, count_bump]
  by_cases hk : k = j
  · by_cases hl : l = j
    · simp [hk, hl]
    · simp [hk, hl]
  · simp [hk]

end Tally

namespace Report

def readAll (r : Report) (tables : List Table) : Report :=
  tables.foldl read r

theorem readAll_append (r : Report) (front back : List Table) :
    r.readAll (front ++ back) = (r.readAll front).readAll back :=
  List.foldl_append

theorem readAll_perm {front back : List Table} (h : front.Perm back) (r : Report) :
    r.readAll front = r.readAll back := by
  apply h.foldl_eq'
  intro s _hs t _ht r
  exact congrArg (fun rowsRead => { r with rowsRead }) (r.rowsRead.bump_bump_comm s t)

theorem rows_readAll (r : Report) (tables : List Table) (table : Table) :
    (r.readAll tables).rows table = r.rows table + tables.count table := by
  induction tables generalizing r with
  | nil =>
      rfl
  | cons head tables ih =>
      show ((r.read head).readAll tables).rows table = _
      rw [ih, rows_read, List.count_cons]
      by_cases h : head = table
      · simp only [h, if_true, beq_self_eq_true]
        omega
      · simp [h]

theorem skips_readAll (r : Report) (tables : List Table) (reason : SkipReason) :
    (r.readAll tables).skips reason = r.skips reason := by
  induction tables generalizing r with
  | nil =>
      rfl
  | cons head tables ih =>
      show ((r.read head).readAll tables).skips reason = _
      rw [ih, skips_read]

def skipAll (r : Report) (reasons : List SkipReason) : Report :=
  reasons.foldl skip r

@[simp]
theorem skipAll_nil (r : Report) : r.skipAll [] = r :=
  rfl

@[simp]
theorem skipAll_cons (r : Report) (reason : SkipReason) (reasons : List SkipReason) :
    r.skipAll (reason :: reasons) = (r.skip reason).skipAll reasons :=
  rfl

theorem skipAll_append (r : Report) (front back : List SkipReason) :
    r.skipAll (front ++ back) = (r.skipAll front).skipAll back :=
  List.foldl_append

theorem skipAll_perm {front back : List SkipReason} (h : front.Perm back) (r : Report) :
    r.skipAll front = r.skipAll back := by
  apply h.foldl_eq'
  intro s _hs t _ht r
  exact congrArg (fun skipped => { r with skipped }) (r.skipped.bump_bump_comm s t)

theorem readAll_skip (r : Report) (tables : List Table) (reason : SkipReason) :
    (r.skip reason).readAll tables = (r.readAll tables).skip reason := by
  induction tables generalizing r with
  | nil =>
      rfl
  | cons table tables ih =>
      exact ih (r.read table)

theorem readAll_skipAll (r : Report) (tables : List Table) (reasons : List SkipReason) :
    (r.skipAll reasons).readAll tables = (r.readAll tables).skipAll reasons := by
  induction reasons generalizing r with
  | nil =>
      rfl
  | cons reason reasons ih =>
      rw [skipAll_cons, ih, readAll_skip, skipAll_cons]

theorem skips_skipAll (r : Report) (reasons : List SkipReason) (reason : SkipReason) :
    (r.skipAll reasons).skips reason = r.skips reason + reasons.count reason := by
  induction reasons generalizing r with
  | nil =>
      rfl
  | cons head reasons ih =>
      rw [skipAll_cons, ih, skips_skip, List.count_cons]
      by_cases h : head = reason
      · simp only [h, if_true, beq_self_eq_true]
        omega
      · simp [h]

theorem rows_skipAll (r : Report) (reasons : List SkipReason) (table : Table) :
    (r.skipAll reasons).rows table = r.rows table := by
  induction reasons generalizing r with
  | nil =>
      rfl
  | cons head reasons ih =>
      rw [skipAll_cons, ih, rows_skip]

end Report
end FacetRules
