import FacetRules.Proofs.Dump.Lines
import FacetRules.Proofs.Expansion.Passes

/-!
# Queries and dumps that cannot fail

On a closed catalog a query or a dump fails only when it is asked for something that
there is no rule for: for several categories at once, or for a category without a rule.
-/

namespace FacetRules
namespace Catalog

/-!
# Dumps
-/

theorem Closed.closedRule_of_mem_ruleList {c : Catalog} (h : c.Closed) {r : Rule}
    (hr : r ∈ c.ruleList) : c.ClosedRule r := by
  rcases List.mem_map.mp hr with ⟨⟨category, rule⟩, hentry, rfl⟩
  exact h.rule category rule (IdMap.mem_toList.mp hentry)

section Choice

variable {c : Catalog} {options : DumpOptions}

theorem rulesToDump_of_all (hcategory : options.category = none) :
    c.rulesToDump options = .ok c.ruleList := by
  rw [rulesToDump, hcategory]

theorem rulesToDump_of_none {category : CategoryId} (hcategory : options.category = some category)
    (hr : c.rules[category]? = none) :
    c.rulesToDump options = .error (.unknownCategoryRule category) := by
  rw [rulesToDump, hcategory]
  simp only
  rw [ruleOf_of_none hr]
  rfl

theorem rulesToDump_of_some {category : CategoryId} {r : Rule}
    (hcategory : options.category = some category) (hr : c.rules[category]? = some r) :
    c.rulesToDump options = .ok [r] := by
  rw [rulesToDump, hcategory]
  simp only
  rw [ruleOf_of_some hr]
  rfl

end Choice

theorem Closed.dump_eq_error_iff {c : Catalog} (h : c.Closed) (options : DumpOptions)
    (e : Error) :
    c.dump options = .error e <->
      exists category, options.category = some category ∧ c.rules[category]? = none ∧
        e = .unknownCategoryRule category := by
  cases hcategory : options.category with
  | none =>
      rw [h.dump_eq (rulesToDump_of_all hcategory) fun r hr => h.closedRule_of_mem_ruleList hr]
      simp
  | some category =>
      cases hr : c.rules[category]? with
      | none =>
          rw [dump, rulesToDump_of_none hcategory hr]
          constructor
          · intro he
            cases he
            exact ⟨category, rfl, hr, rfl⟩
          · intro hexists
            rcases hexists with ⟨named, hnamed, _hnone, rfl⟩
            cases hnamed
            rfl
      | some r =>
          have hclosed : forall s, s ∈ [r] -> c.ClosedRule s := by
            intro s hs
            rw [List.mem_singleton.mp hs]
            exact h.rule category r hr
          rw [h.dump_eq (rulesToDump_of_some hcategory hr) hclosed]
          constructor
          · intro he
            cases he
          · intro hexists
            rcases hexists with ⟨named, hnamed, hnone, _he⟩
            cases hnamed
            rw [hr] at hnone
            cases hnone

/-!
# Queries
-/

theorem Closed.findIn_eq_error_iff {c : Catalog} (h : c.Closed) (category : CategoryId)
    (q : Conditions) (e : Error) :
    c.findIn category q = .error e <->
      c.rules[category]? = none ∧ e = .unknownCategoryRule category := by
  cases hr : c.rules[category]? with
  | none =>
      rw [findIn_of_none hr]
      constructor
      · intro he
        cases he
        exact ⟨rfl, rfl⟩
      · intro hboth
        rw [hboth.2]
  | some r =>
      rw [h.findIn_eq hr]
      constructor
      · intro he
        cases he
      · intro hboth
        cases hboth.1

theorem Closed.find_eq_error_iff {c : Catalog} (h : c.Closed) (q : Conditions) (e : Error) :
    c.find q = .error e <->
      (2 ≤ q.categoryIds.length ∧ e = .severalCategories) ∨
        exists category, q.categoryIds = [category] ∧ c.rules[category]? = none ∧
          e = .unknownCategoryRule category := by
  unfold find
  split
  · rename_i hids
    simp [hids]
  · rename_i category hids
    rw [h.findIn_eq_error_iff, hids]
    constructor
    · intro hboth
      exact Or.inr ⟨category, rfl, hboth⟩
    · intro hcase
      rcases hcase with ⟨hlength, _he⟩ | ⟨named, hnamed, hboth⟩
      · exact absurd hlength (by simp)
      · cases hnamed
        exact hboth
  · rename_i hnil hsingle
    have hlength : 2 ≤ q.categoryIds.length := by
      match hids : q.categoryIds with
      | [] => exact absurd hids hnil
      | [category] => exact absurd hids (hsingle category)
      | _ :: _ :: _ => simp
    constructor
    · intro he
      cases he
      exact Or.inl ⟨hlength, rfl⟩
    · intro hcase
      rcases hcase with ⟨_hlength, rfl⟩ | ⟨category, hids, _hnone, _he⟩
      · rfl
      · exact absurd hids (hsingle category)

/-- Every catalog that can be compiled is closed, and its queries and dumps fail only for
several categories and for a category without a rule. -/
theorem Compiled.total {c : Catalog} (h : c.Compiled) :
    c.Closed ∧
      (forall (q : Conditions) (e : Error), c.find q = .error e <->
        (2 ≤ q.categoryIds.length ∧ e = .severalCategories) ∨
          exists category, q.categoryIds = [category] ∧ c.rules[category]? = none ∧
            e = .unknownCategoryRule category) ∧
      (forall (options : DumpOptions) (e : Error), c.dump options = .error e <->
        exists category, options.category = some category ∧ c.rules[category]? = none ∧
          e = .unknownCategoryRule category) := by
  refine ⟨h.closed, ?_, ?_⟩
  · intro q e
    exact h.closed.find_eq_error_iff q e
  · intro options e
    exact h.closed.dump_eq_error_iff options e

/-- Shoes bring size 42 into view, and nothing else: red has no attribute.  Category 11 has
none either, so it has no rule, and category 10 can be queried and dumped. -/
theorem find_unloaded_assignment :
    let c := (((∅ : Builder).withCategories ∅).performAll
      (Builder.recordCalls Builder.untidyShop)).finish.1.presort
    (exists r, c.rules[(10 : CategoryId)]? = some r ∧ r.attributeIds = [1, 2] ∧
      r.triggers[(3 : Id)]? = some [{ attributeId := 2, optionIds := [4] }] ∧
      (exists o : AttributeOption, c.options[(3 : Id)]? = some o ∧
        o.attributeId ∈ c.attributes) ∧
      c.Owns 2 4) ∧
      c.Owns 6 5 ∧ (6 : Id) ∉ c.attributes ∧
      c.find (.ofCategory 11) = .error (.unknownCategoryRule 11) ∧
      (forall e, c.find (.ofCategory 10) ≠ .error e) ∧
      forall e, c.dump { category := some 10 } ≠ .error e := by
  intro c
  have hcompiled : c.Compiled := Compiled.presort (Compiled.finish ∅ _)
  rcases hcompiled.total with ⟨hclosed, hfind, hdump⟩
  have hread : c.rules[(10 : CategoryId)]?.map
        (fun r => (r.attributeIds, r.triggers[(3 : Id)]?)) =
      some ([1, 2], some [{ attributeId := 2, optionIds := [4] }]) := by
    decide +kernel
  have hnone : c.rules[(11 : CategoryId)]? = none := by
    apply Option.isNone_iff_eq_none.mp
    decide +kernel
  have hred : c.options[(5 : Id)]?.map AttributeOption.attributeId = some 6 := by
    decide +kernel
  rcases Option.map_eq_some_iff.mp hread with ⟨r, hr, hparts⟩
  have hids : r.attributeIds = [1, 2] := congrArg Prod.fst hparts
  have hgroups : r.triggers[(3 : Id)]? = some [{ attributeId := 2, optionIds := [4] }] :=
    congrArg Prod.snd hparts
  have hrule := hclosed.rule 10 r hr
  have htrigger := hrule.trigger 3 (IdMap.mem_iff_exists.mpr ⟨_, hgroups⟩)
  have howns : c.Owns 2 4 :=
    hrule.grouped 3 _ _ 4 hgroups (List.mem_singleton.mpr rfl) (List.mem_singleton.mpr rfl)
  refine ⟨⟨r, hr, hids, hgroups, htrigger, howns⟩, Option.map_eq_some_iff.mp hred, ?_, ?_, ?_,
    ?_⟩
  · decide +kernel
  · exact (hfind _ _).mpr (Or.inr ⟨11, rfl, hnone, rfl⟩)
  · intro e he
    rcases (hfind _ _).mp he with ⟨hlength, _he⟩ | ⟨category, hcategory, hmissing, _he⟩
    · exact absurd hlength (by decide)
    · cases hcategory
      rw [hr] at hmissing
      cases hmissing
  · intro e he
    rcases (hdump _ _).mp he with ⟨category, hcategory, hmissing, _he⟩
    cases hcategory
    rw [hr] at hmissing
    cases hmissing

end Catalog
end FacetRules
