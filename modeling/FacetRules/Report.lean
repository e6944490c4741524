import FacetRules.Table
import FacetRules.Total

/-!
# Import reports

While tables are loaded and compiled, the rows read are counted per table and
what is left out is counted per reason.  A counter that was never raised is not
listed.
-/

namespace FacetRules

/-- Counters that are listed in the order of their keys. -/
abbrev Tally (κ : Type) [Ord κ] := Std.ExtTreeMap κ Nat

namespace Tally

variable {κ : Type} [Ord κ] [Std.TransOrd κ]

def count (t : Tally κ) (k : κ) : Nat :=
  t.getD k 0

def bump (t : Tally κ) (k : κ) : Tally κ :=
  t.insert k (t.count k + 1)

def total (t : Tally κ) : Nat :=
  FacetRules.total (t.toList.map Prod.snd)

@[simp]
theorem count_empty (k : κ) : count (∅ : Tally κ) k = 0 := by
  simp [count]

theorem count_bump [Std.LawfulEqOrd κ] [DecidableEq κ] (t : Tally κ) (k l : κ) :
    (t.bump k).count l = if k = l then t.count l + 1 else t.count l := by
  by_cases h : k = l
  · subst h
    simp [count, bump]
  · simp [count, bump, Std.ExtTreeMap.getD_insert, h]

end Tally

structure Report where
  rowsRead : Tally Table := ∅
  skipped : Tally SkipReason := ∅

namespace Report

def read (r : Report) (table : Table) : Report :=
  { r with rowsRead := r.rowsRead.bump table }

def skip (r : Report) (reason : SkipReason) : Report :=
  { r with skipped := r.skipped.bump reason }

def rows (r : Report) (table : Table) : Nat :=
  r.rowsRead.count table

def skips (r : Report) (reason : SkipReason) : Nat :=
  r.skipped.count reason

def totalRead (r : Report) : Nat :=
  r.rowsRead.total

def totalSkipped (r : Report) : Nat :=
  r.skipped.total

@[simp]
theorem rows_read (r : Report) (s t : Table) :
    (r.read s).rows t = if s = t then r.rows t + 1 else r.rows t :=
  Tally.count_bump r.rowsRead s t

@[simp]
theorem skips_read (r : Report) (t : Table) (reason : SkipReason) :
    (r.read t).skips reason = r.skips reason :=
  rfl

@[simp]
theorem skips_skip (r : Report) (s t : SkipReason) :
    (r.skip s).skips t = if s = t then r.skips t + 1 else r.skips t :=
  Tally.count_bump r.skipped s t

@[simp]
theorem rows_skip (r : Report) (reason : SkipReason) (t : Table) :
    (r.skip reason).rows t = r.rows t :=
  rfl

end Report
end FacetRules
