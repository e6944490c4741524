import Mathlib.Logic.Function.Iterate
import FacetRules.Proofs.Query.Smallest

/-!
# Asking again

An answer gives the conditions back without the pairs that name nothing visible, and whoever
asks may go on with these.  Asking with them gives the same answer, unless a pair that was
dropped had brought something into view.  In that case the answer can be a smaller one, and
more pairs can be dropped from it.  Every time but the first either drops a pair or changes
nothing, so there is an end to it.
-/

namespace FacetRules
namespace Catalog

def corrected (c : Catalog) (q : Conditions) : Except Error Conditions :=
  (c.find q).map Visible.corrected

/-- The conditions after so many queries, each of which asks with what the one before has given
back. -/
def correctedTimes (c : Catalog) : Nat -> Conditions -> Except Error Conditions
  | 0, q => .ok q
  | n + 1, q => do
      let q <- c.corrected q
      c.correctedTimes n q

/-!
# What is left of a selection
-/

section Selection

variable {r : Rule} {q : Conditions} {keeps : Pair -> Bool}

theorem selectedTriggers_eq (r : Rule) (q : Conditions) :
    r.selectedTriggers q =
      ((q.pairs.map Pair.optionId).filter fun id => r.triggers.contains id).eraseDups := by
  rw [Rule.selectedTriggers, Conditions.selectedOptions, eraseDups_filter]

/-- Dropping pairs whose options are no triggers leaves the selected triggers as they are. -/
theorem selectedTriggers_filter
    (h : forall p, p ∈ q.pairs -> keeps p = false -> p.optionId ∉ r.triggers) :
    r.selectedTriggers { q with pairs := q.pairs.filter keeps } = r.selectedTriggers q := by
  have hsame : ((q.pairs.filter keeps).map Pair.optionId).filter
        (fun id => r.triggers.contains id) =
      (q.pairs.map Pair.optionId).filter fun id => r.triggers.contains id := by
    rw [List.filter_map, List.filter_map, List.filter_filter]
    congr 1
    apply List.filter_congr
    intro p hp
    cases hkeeps : keeps p with
    | true =>
        rw [Bool.and_true]
    | false =>
        rw [Bool.and_false]
        exact (eq_false_of_ne_true (h p hp hkeeps)).symm
  rw [selectedTriggers_eq, selectedTriggers_eq, hsame]

theorem effectivePageSize_effectivePageSize (requested : UInt64) :
    effectivePageSize (effectivePageSize requested) = effectivePageSize requested := by
  have hpos := effectivePageSize_pos requested
  have hsize := toNat_effectivePageSize requested
  apply UInt64.toNat_inj.mp
  rw [toNat_effectivePageSize (effectivePageSize requested),
    if_neg (Nat.ne_of_gt hpos)]
  apply Nat.min_eq_left
  rw [hsize]
  split
  · decide
  · exact Nat.min_le_right _ _

end Selection

/-!
# One query
-/

section Answers

variable {c : Catalog} {r : Rule} {category : CategoryId} {q : Conditions}

/-- The conditions that the answer under a rule gives back. -/
def correction (c : Catalog) (r : Rule) (category : CategoryId) (q : Conditions) : Conditions :=
  (c.answer r category q).corrected

theorem correction_eq (c : Catalog) (r : Rule) (category : CategoryId) (q : Conditions) :
    c.correction r category q =
      { q with
        categoryIds := [category]
        pairs := q.pairs.filter (isOffered (c.answer r category q).attributes)
        pageSize := effectivePageSize q.pageSize } :=
  rfl

/-- The attributes of an answer depend on the page size, the filters and the selected triggers
alone. -/
theorem attributes_answer_of_triggers {q' : Conditions}
    (hsize : effectivePageSize q'.pageSize = effectivePageSize q.pageSize)
    (hfilters : q'.filters = q.filters)
    (htriggers : r.selectedTriggers q' = r.selectedTriggers q) :
    (c.answer r category q').attributes = (c.answer r category q).attributes := by
  show c.alwaysPart r q' ++ c.unlockedPart r q' = c.alwaysPart r q ++ c.unlockedPart r q
  rw [alwaysPart_eq_firstPages, alwaysPart_eq_firstPages, hsize, hfilters, unlockedPart,
    unlockedPart, unlockedGroups_selectedTriggers, htriggers, <- unlockedGroups_selectedTriggers]

/-- Asking with the conditions given back gives the same answer, if no pair with a trigger was
dropped. -/
theorem answer_correction
    (h : forall p, p ∈ q.pairs -> p ∉ (c.correction r category q).pairs ->
      p.optionId ∉ r.triggers) :
    c.answer r category (c.correction r category q) = c.answer r category q := by
  have htriggers : r.selectedTriggers (c.correction r category q) = r.selectedTriggers q := by
    apply selectedTriggers_filter
    intro p hp hkeeps
    apply h p hp
    intro hmem
    rw [correction_eq] at hmem
    exact ne_true_of_eq_false hkeeps (List.mem_filter.mp hmem).2
  have hsize : effectivePageSize (c.correction r category q).pageSize =
      effectivePageSize q.pageSize :=
    effectivePageSize_effectivePageSize q.pageSize
  have hattributes : (c.answer r category (c.correction r category q)).attributes =
      (c.answer r category q).attributes :=
    attributes_answer_of_triggers hsize rfl htriggers
  have hcorrected : (c.answer r category (c.correction r category q)).corrected =
      (c.answer r category q).corrected := by
    show c.correction r category (c.correction r category q) = c.correction r category q
    rw [correction_eq c r category (c.correction r category q), hattributes, hsize,
      correction_eq, List.filter_filter]
    simp only [Bool.and_self]
  have hpages : (c.answer r category (c.correction r category q)).pages =
      (c.answer r category q).pages := by
    show pagesOf (effectivePageSize (c.correction r category q).pageSize).toNat _ =
      pagesOf (effectivePageSize q.pageSize).toNat _
    rw [hsize]
  show Visible.mk _ _ _ _ = Visible.mk _ _ _ _
  exact (Visible.mk.injEq ..).mpr ⟨hpages, hsize, hattributes, hcorrected⟩

/-!
# One query after the other
-/

theorem length_pairs_correction_le :
    (c.correction r category q).pairs.length ≤ q.pairs.length := by
  rw [correction_eq]
  exact List.length_filter_le _ _

/-- Where the page size and the category are settled and no pair is dropped, nothing changes. -/
theorem correction_eq_self (hcategory : q.categoryIds = [category])
    (hsize : effectivePageSize q.pageSize = q.pageSize)
    (hlength : q.pairs.length ≤ (c.correction r category q).pairs.length) :
    c.correction r category q = q := by
  rw [correction_eq] at hlength ⊢
  have hpairs : q.pairs.filter (isOffered (c.answer r category q).attributes) = q.pairs :=
    List.filter_sublist.eq_of_length_le hlength
  rw [hpairs, hsize, <- hcategory]

/-- As many queries as there are pairs lead to conditions that stay as they are. -/
theorem correction_iterate (hcategory : q.categoryIds = [category])
    (hsize : effectivePageSize q.pageSize = q.pageSize) {n : Nat} (hn : q.pairs.length ≤ n) :
    c.correction r category ((c.correction r category)^[n] q) =
      (c.correction r category)^[n] q := by
  induction n generalizing q with
  | zero =>
      apply correction_eq_self hcategory hsize
      exact Nat.le_trans hn (Nat.zero_le _)
  | succ n ih =>
      -- Either everything is settled, or a pair was dropped and fewer are left.
      by_cases hlength : q.pairs.length ≤ (c.correction r category q).pairs.length
      · have hself := correction_eq_self hcategory hsize hlength
        rw [Function.iterate_fixed hself, hself]
      · rw [Function.iterate_succ_apply]
        apply ih rfl (effectivePageSize_effectivePageSize q.pageSize)
        omega

end Answers

section Closed

variable {c : Catalog} {r : Rule} {category : CategoryId}

theorem Closed.corrected_eq (h : c.Closed) (hr : c.rules[category]? = some r) {q : Conditions}
    (hq : q.categoryIds = [category]) : c.corrected q = .ok (c.correction r category q) := by
  rw [corrected, h.find_eq hr hq]
  rfl

theorem Closed.correctedTimes_eq (h : c.Closed) (hr : c.rules[category]? = some r) (n : Nat)
    {q : Conditions} (hq : q.categoryIds = [category]) :
    c.correctedTimes n q = .ok ((c.correction r category)^[n] q) := by
  induction n generalizing q with
  | zero =>
      rfl
  | succ n ih =>
      rw [correctedTimes, h.corrected_eq hr hq, ok_bind, Function.iterate_succ_apply]
      exact ih rfl

end Closed

/-- Asking again with the conditions that an answer gives back gives the same answer, if no pair
with a trigger was dropped.  In any case asking again and again never fails, and from one query
more than there are pairs on, the conditions stay as they are. -/
theorem Compiled.requery {c : Catalog} (h : c.Compiled) {category : CategoryId} {q : Conditions}
    (hq : q.categoryIds = [category]) {v : Visible} (hv : c.find q = .ok v) :
    exists r, c.rules[category]? = some r ∧
      ((forall p, p ∈ q.pairs -> p ∉ v.corrected.pairs -> p.optionId ∉ r.triggers) ->
        c.find v.corrected = .ok v) ∧
      (forall n, exists reached, c.correctedTimes n q = .ok reached) ∧
      exists stable, c.corrected stable = .ok stable ∧
        forall n, q.pairs.length + 1 ≤ n -> c.correctedTimes n q = .ok stable := by
  rcases h.closed.eq_of_find hv with ⟨hids, _hempty⟩ | ⟨named, r, hids, hr, rfl⟩
  · rw [hq] at hids
    cases hids
  · rw [hq] at hids
    cases hids
    refine ⟨r, hr, ?_, ?_, ?_⟩
    · intro hdropped
      show c.find (c.correction r category q) = _
      rw [h.closed.find_eq hr rfl, answer_correction hdropped]
    · intro n
      exact ⟨_, h.closed.correctedTimes_eq hr n hq⟩
    · -- The first query settles the category and the page size; the others drop pairs.
      let first := c.correction r category q
      have hfirst : first.pairs.length ≤ q.pairs.length := length_pairs_correction_le
      have hsize : effectivePageSize first.pageSize = first.pageSize :=
        effectivePageSize_effectivePageSize q.pageSize
      have hfixed := correction_iterate (c := c) (r := r) (q := first) rfl hsize hfirst
      have hcategory : ((c.correction r category)^[q.pairs.length] first).categoryIds =
          [category] := by
        rw [<- hfixed]
        rfl
      refine ⟨(c.correction r category)^[q.pairs.length] first, ?_, ?_⟩
      · rw [h.closed.corrected_eq hr hcategory, hfixed]
      · intro n hn
        rcases Nat.exists_eq_add_of_le hn with ⟨more, rfl⟩
        rw [h.closed.correctedTimes_eq hr _ hq, Nat.add_comm, Function.iterate_add_apply,
          Function.iterate_succ_apply]
        exact congrArg Except.ok (Function.iterate_fixed hfixed more)

/-- A pair without a trigger is dropped at once, and size 42 stays in view.  Where the pair
that has brought both sizes into view is dropped, they go out of view after it, and the size
that was selected is dropped. -/
theorem requery_boots :
    (exists v, boots.find { categoryIds := [10], pairs := [⟨1, 4⟩, ⟨9, 5⟩] } = .ok v ∧
      v.corrected.pairs = [⟨1, 4⟩] ∧ v.numbers = [(1, [3, 4]), (2, [5])] ∧
      boots.find v.corrected = .ok v) ∧
    exists v w stable, boots.find { categoryIds := [10], pairs := [⟨9, 3⟩, ⟨2, 6⟩] } = .ok v ∧
      v.corrected.pairs = [⟨2, 6⟩] ∧ v.numbers = [(1, [3, 4]), (2, [5, 6])] ∧
      boots.correctedTimes 3 { categoryIds := [10], pairs := [⟨9, 3⟩, ⟨2, 6⟩] } = .ok stable ∧
      boots.corrected stable = .ok stable ∧ stable.pairs = [] ∧
      boots.find stable = .ok w ∧ w.numbers = [(1, [3, 4])] := by
  have hcompiled : boots.Compiled := Compiled.finish ∅ _
  constructor
  · have hanswer : (boots.find { categoryIds := [10], pairs := [⟨1, 4⟩, ⟨9, 5⟩] }).map
        (fun v => (v.corrected.pairs, v.numbers)) = .ok ([⟨1, 4⟩], [(1, [3, 4]), (2, [5])]) := by
      rfl
    rcases exists_of_map_eq_ok hanswer with ⟨v, hv, hparts⟩
    rcases Prod.mk.inj hparts with ⟨hpairs, hnumbers⟩
    rcases hcompiled.requery rfl hv with ⟨r, hr, hagain, _hnever, _hstable⟩
    refine ⟨v, hv, hpairs, hnumbers, hagain ?_⟩
    intro p hp hdropped
    have hfive : (boots.rules[(10 : CategoryId)]?.map fun r => r.triggers.contains 5) =
        some false := by
      rfl
    rw [hr] at hfive
    rw [hpairs] at hdropped
    rcases List.mem_cons.mp hp with rfl | hp
    · exact absurd (by simp) hdropped
    · rw [List.mem_singleton.mp hp]
      exact ne_true_of_eq_false (Option.some.inj hfive)
  · have hanswer : (boots.find { categoryIds := [10], pairs := [⟨9, 3⟩, ⟨2, 6⟩] }).map
        (fun v => (v.corrected.pairs, v.numbers)) = .ok ([⟨2, 6⟩], [(1, [3, 4]), (2, [5, 6])]) := by
      rfl
    have hthree : (boots.correctedTimes 3
        { categoryIds := [10], pairs := [⟨9, 3⟩, ⟨2, 6⟩] }).map
          (fun q => (q.pairs, (boots.find q).map Visible.numbers)) =
        .ok ([], .ok [(1, [3, 4])]) := by
      rfl
    rcases exists_of_map_eq_ok hanswer with ⟨v, hv, hparts⟩
    rcases Prod.mk.inj hparts with ⟨hpairs, hnumbers⟩
    rcases hcompiled.requery rfl hv with ⟨r, _hr, _hagain, _hnever, stable, hfixed, htimes⟩
    have hreached := htimes 3 (by decide)
    rw [hreached] at hthree
    rcases Prod.mk.inj (Except.ok.inj hthree) with ⟨hnone, hlast⟩
    rcases exists_of_map_eq_ok hlast with ⟨w, hw, hleft⟩
    exact ⟨v, w, stable, hv, hpairs, hnumbers, hreached, hfixed, hnone, hw, hleft⟩

end Catalog
end FacetRules
