import FacetRules.Builder.Finish
import FacetRules.Proofs.Report
import FacetRules.Proofs.Rule.Filling

/-!
# The options of the categories

A dynamic option is judged by its own row, by what is loaded and by the attributes of
its category, none of which the other dynamic options change.  So each row can be
judged by itself: it lists an option without a precondition, it puts an option behind
the triggers that its precondition names, or it is left out for a reason.  What all
rows do to the rule of a category is what the rows of this category do to it, one
after the other.
-/

namespace FacetRules
namespace Builder

/-- What a dynamic option does to the rule of its category. -/
inductive Listing
  | always (o : AttributeOption)
  | behind (o : AttributeOption) (uuids rejected : List String)

namespace Loaded

/-- The trigger that a key in a precondition names, or why it names none. -/
def triggerOf (l : Loaded) (suffix : Option String) (uuid : String) : Except SkipReason Id :=
  match l.registry.lookupSuffixed uuid suffix with
  | none => .error .unknownPrecondition
  | some id =>
      if l.attributes.contains id then
        .error .preconditionIsAttribute
      else
        match l.options[id]? with
        | none => .error .unknownPrecondition
        | some o =>
            if l.attributes.contains o.attributeId then .ok id
            else .error .optionWithoutAttribute

/-- What a row does to the rule of its category, whose attributes are given if it has a
rule, or why the row is left out. -/
def listingOf (l : Loaded) (attributeIds? : Option (List Id)) (row : DynamicOption) :
    Except SkipReason Listing :=
  if row.isDisabled then
    .error .disabledRow
  else
    match l.options[row.optionId]? with
    | none => .error .unknownOption
    | some o =>
        match attributeIds? with
        | none => .error .unknownCategoryRule
        | some attributeIds =>
            match Precondition.read row.precondition with
            | .always =>
                if attributeIds.contains o.attributeId then .ok (.always o)
                else .error .attributeNotInCategory
            | .triggers uuids rejected =>
                if l.attributes.contains o.attributeId then .ok (.behind o uuids rejected)
                else .error .optionWithoutAttribute

/-- What comes up when an option is put behind the keys of a precondition. -/
def gatingsBehind (l : Loaded) (suffix : Option String) (o : AttributeOption)
    (uuids : List String) : List Gating :=
  (uuids.filterMap fun uuid => (l.triggerOf suffix uuid).toOption).map fun trigger =>
    { trigger, attributeId := o.attributeId, optionId := o.id }

def keySkips (l : Loaded) (suffix : Option String) (uuids : List String) : List SkipReason :=
  uuids.filterMap fun uuid =>
    match l.triggerOf suffix uuid with
    | .ok _ => none
    | .error reason => some reason

/-- The options that a row lists without a precondition. -/
def shownBy (l : Loaded) (attributeIds? : Option (List Id)) (row : DynamicOption) : List Id :=
  match l.listingOf attributeIds? row with
  | .ok (.always o) => [o.id]
  | _ => []

def gatingsBy (l : Loaded) (attributeIds? : Option (List Id)) (row : DynamicOption) :
    List Gating :=
  match l.listingOf attributeIds? row with
  | .ok (.behind o uuids _) => l.gatingsBehind row.suffix o uuids
  | _ => []

def skipsBy (l : Loaded) (attributeIds? : Option (List Id)) (row : DynamicOption) :
    List SkipReason :=
  match l.listingOf attributeIds? row with
  | .error reason => [reason]
  | .ok (.always _) => []
  | .ok (.behind _ uuids rejected) =>
      (rejected.map fun _ => .malformedPrecondition) ++ l.keySkips row.suffix uuids

end Loaded

/-!
# One key
-/

namespace Loaded

variable {l : Loaded} {suffix : Option String} {uuid : String}

theorem gatingsBehind_cons_of_ok {trigger : Id} (h : l.triggerOf suffix uuid = .ok trigger)
    (o : AttributeOption) (uuids : List String) :
    l.gatingsBehind suffix o (uuid :: uuids) =
      { trigger, attributeId := o.attributeId, optionId := o.id } ::
        l.gatingsBehind suffix o uuids := by
  simp [gatingsBehind, h, Except.toOption]

theorem gatingsBehind_cons_of_error {reason : SkipReason}
    (h : l.triggerOf suffix uuid = .error reason) (o : AttributeOption) (uuids : List String) :
    l.gatingsBehind suffix o (uuid :: uuids) = l.gatingsBehind suffix o uuids := by
  simp [gatingsBehind, h, Except.toOption]

end Loaded

theorem applyTrigger_eq (l : Loaded) (row : DynamicOption) (o : AttributeOption)
    (c : Compilation) (uuid : String) :
    applyTrigger l row o c uuid =
      match l.triggerOf row.suffix uuid with
      | .ok trigger => c.modifyRule row.categoryId fun r => r.gate trigger o.attributeId o.id
      | .error reason => c.skip reason := by
  unfold applyTrigger Loaded.triggerOf
  cases l.registry.lookupSuffixed uuid row.suffix with
  | none =>
      rfl
  | some id =>
      simp only
      cases l.attributes.contains id with
      | true =>
          rfl
      | false =>
          cases l.options[id]? with
          | none =>
              rfl
          | some trigger =>
              simp only
              cases l.attributes.contains trigger.attributeId with
              | true => rfl
              | false => rfl

theorem rules_foldl_applyTrigger (l : Loaded) (row : DynamicOption) (o : AttributeOption)
    (uuids : List String) (c : Compilation) (category : CategoryId) :
    (uuids.foldl (applyTrigger l row o) c).rules[category]? =
      if row.categoryId = category then
        c.rules[category]?.map fun r => r.gateAll (l.gatingsBehind row.suffix o uuids)
      else
        c.rules[category]? := by
  induction uuids generalizing c with
  | nil =>
      simp [Loaded.gatingsBehind]
  | cons uuid uuids ih =>
      rw [List.foldl_cons, ih, applyTrigger_eq]
      cases htrigger : l.triggerOf row.suffix uuid with
      | error reason =>
          rw [Loaded.gatingsBehind_cons_of_error htrigger]
          rfl
      | ok trigger =>
          rw [Loaded.gatingsBehind_cons_of_ok htrigger]
          simp only [Compilation.modifyRule, IdMap.getElem?_modify]
          by_cases h : row.categoryId = category
          · rw [if_pos h, if_pos h, if_pos h, Option.map_map]
            rfl
          · rw [if_neg h, if_neg h, if_neg h]

theorem report_foldl_applyTrigger (l : Loaded) (row : DynamicOption) (o : AttributeOption)
    (uuids : List String) (c : Compilation) :
    (uuids.foldl (applyTrigger l row o) c).report =
      c.report.skipAll (l.keySkips row.suffix uuids) := by
  induction uuids generalizing c with
  | nil =>
      rfl
  | cons uuid uuids ih =>
      rw [List.foldl_cons, ih, applyTrigger_eq]
      cases htrigger : l.triggerOf row.suffix uuid with
      | error reason =>
          simp [Loaded.keySkips, htrigger, Compilation.skip]
      | ok trigger =>
          simp [Loaded.keySkips, htrigger, Compilation.modifyRule]

/-!
# One row
-/

theorem applyDynamicOption_eq (l : Loaded) (c : Compilation) (row : DynamicOption) :
    applyDynamicOption l c row =
      match l.listingOf (c.rules[row.categoryId]?.map Rule.attributeIds) row with
      | .error reason => c.skip reason
      | .ok (.always o) => c.modifyRule row.categoryId fun r => r.showAlways o.id
      | .ok (.behind o uuids rejected) =>
          uuids.foldl (applyTrigger l row o)
            (rejected.foldl (fun c _ => c.skip .malformedPrecondition) c) := by
  unfold applyDynamicOption Loaded.listingOf
  cases row.isDisabled with
  | true =>
      rfl
  | false =>
      cases l.options[row.optionId]? with
      | none =>
          rfl
      | some o =>
          cases c.rules[row.categoryId]? with
          | none =>
              rfl
          | some r =>
              simp only [Option.map_some]
              cases Precondition.read row.precondition with
              | always =>
                  simp only
                  cases r.attributeIds.contains o.attributeId with
                  | true => rfl
                  | false => rfl
              | triggers uuids rejected =>
                  simp only
                  cases l.attributes.contains o.attributeId with
                  | true => rfl
                  | false => rfl

theorem foldl_skip_malformed (c : Compilation) (rejected : List String) :
    rejected.foldl (fun c _ => c.skip .malformedPrecondition) c =
      { c with
        report := c.report.skipAll (rejected.map fun _ => .malformedPrecondition) } := by
  induction rejected generalizing c with
  | nil =>
      rfl
  | cons entry rejected ih =>
      rw [List.foldl_cons, ih]
      rfl

theorem rules_applyDynamicOption (l : Loaded) (c : Compilation) (row : DynamicOption)
    (category : CategoryId) :
    (applyDynamicOption l c row).rules[category]? =
      if row.categoryId = category then
        c.rules[category]?.map fun r =>
          r.fill (l.shownBy (some r.attributeIds) row) (l.gatingsBy (some r.attributeIds) row)
      else
        c.rules[category]? := by
  rw [applyDynamicOption_eq]
  by_cases h : row.categoryId = category
  · subst h
    rw [if_pos rfl]
    cases hrule : c.rules[row.categoryId]? with
    | none =>
        cases hlisting : l.listingOf none row with
        | error reason =>
            simp only [Option.map_none, hlisting]
            exact hrule
        | ok listing =>
            unfold Loaded.listingOf at hlisting
            split at hlisting
            · cases hlisting
            · split at hlisting
              · cases hlisting
              · cases hlisting
    | some r =>
        simp only [Option.map_some]
        cases hlisting : l.listingOf (some r.attributeIds) row with
        | error reason =>
            simpa [Loaded.shownBy, Loaded.gatingsBy, hlisting, Compilation.skip] using hrule
        | ok listing =>
            cases listing with
            | always o =>
                simp [Loaded.shownBy, Loaded.gatingsBy, hlisting, Compilation.modifyRule,
                  hrule, Rule.showAlways_eq_fill]
            | behind o uuids rejected =>
                simp only [foldl_skip_malformed]
                rw [rules_foldl_applyTrigger, if_pos rfl, hrule]
                simp [Loaded.shownBy, Loaded.gatingsBy, hlisting, Rule.fill]
  · rw [if_neg h]
    cases l.listingOf (c.rules[row.categoryId]?.map Rule.attributeIds) row with
    | error reason =>
        rfl
    | ok listing =>
        cases listing with
        | always o =>
            simp [Compilation.modifyRule, IdMap.getElem?_modify, h]
        | behind o uuids rejected =>
            simp only [foldl_skip_malformed]
            rw [rules_foldl_applyTrigger, if_neg h]

theorem report_applyDynamicOption (l : Loaded) (c : Compilation) (row : DynamicOption) :
    (applyDynamicOption l c row).report =
      c.report.skipAll
        (l.skipsBy (c.rules[row.categoryId]?.map Rule.attributeIds) row) := by
  rw [applyDynamicOption_eq, Loaded.skipsBy]
  cases l.listingOf (c.rules[row.categoryId]?.map Rule.attributeIds) row with
  | error reason =>
      rfl
  | ok listing =>
      cases listing with
      | always o =>
          rfl
      | behind o uuids rejected =>
          simp only [foldl_skip_malformed]
          rw [report_foldl_applyTrigger, Report.skipAll_append]

/-!
# What passes the checks
-/

namespace Loaded

/-- A key names a trigger when it is the key of an option of a loaded attribute, and not
the key of an attribute. -/
theorem triggerOf_eq_ok_iff {l : Loaded} {suffix : Option String} {uuid : String} {id : Id} :
    l.triggerOf suffix uuid = .ok id <->
      l.registry.lookupSuffixed uuid suffix = some id ∧ id ∉ l.attributes ∧
        exists o : AttributeOption, l.options[id]? = some o ∧
          o.attributeId ∈ l.attributes := by
  constructor
  · intro h
    unfold triggerOf at h
    cases hlookup : l.registry.lookupSuffixed uuid suffix with
    | none =>
        simp only [hlookup] at h
        cases h
    | some found =>
        simp only [hlookup] at h
        cases hattribute : l.attributes.contains found with
        | true =>
            rw [if_pos hattribute] at h
            cases h
        | false =>
            rw [if_neg (ne_true_of_eq_false hattribute)] at h
            cases ho : l.options[found]? with
            | none =>
                simp only [ho] at h
                cases h
            | some o =>
                simp only [ho] at h
                cases howner : l.attributes.contains o.attributeId with
                | true =>
                    rw [if_pos howner] at h
                    cases h
                    exact ⟨rfl, ne_true_of_eq_false hattribute, o, ho, howner⟩
                | false =>
                    rw [if_neg (ne_true_of_eq_false howner)] at h
                    cases h
  · intro hall
    rcases hall with ⟨hlookup, hattribute, o, ho, howner⟩
    have hcontains : l.attributes.contains id = false := eq_false_of_ne_true hattribute
    have hloaded : l.attributes.contains o.attributeId = true := howner
    simp only [triggerOf, hlookup, hcontains, ho, hloaded]
    rfl

/-- A row says something when it is enabled and its option is stored: without a
precondition, for a category that has the attribute of the option; with one, where this
attribute is loaded. -/
theorem listingOf_eq_ok {l : Loaded} {attributeIds : List Id} {row : DynamicOption}
    {listing : Listing} (h : l.listingOf (some attributeIds) row = .ok listing) :
    row.isDisabled = false ∧ exists o : AttributeOption, l.options[row.optionId]? = some o ∧
      ((Precondition.read row.precondition = .always ∧ o.attributeId ∈ attributeIds ∧
          listing = .always o) ∨
        exists uuids rejected, Precondition.read row.precondition = .triggers uuids rejected ∧
          o.attributeId ∈ l.attributes ∧ listing = .behind o uuids rejected) := by
  unfold listingOf at h
  cases henabled : row.isDisabled with
  | true =>
      rw [if_pos henabled] at h
      cases h
  | false =>
      rw [if_neg (ne_true_of_eq_false henabled)] at h
      cases hstored : l.options[row.optionId]? with
      | none =>
          simp only [hstored] at h
          cases h
      | some o =>
          simp only [hstored] at h
          refine ⟨rfl, o, rfl, ?_⟩
          cases hread : Precondition.read row.precondition with
          | always =>
              simp only [hread] at h
              cases hmem : attributeIds.contains o.attributeId with
              | true =>
                  rw [if_pos hmem] at h
                  cases h
                  exact Or.inl ⟨rfl, List.contains_iff_mem.mp hmem, rfl⟩
              | false =>
                  rw [if_neg (ne_true_of_eq_false hmem)] at h
                  cases h
          | triggers uuids rejected =>
              simp only [hread] at h
              cases howner : l.attributes.contains o.attributeId with
              | true =>
                  rw [if_pos howner] at h
                  cases h
                  exact Or.inr ⟨uuids, rejected, rfl, howner, rfl⟩
              | false =>
                  rw [if_neg (ne_true_of_eq_false howner)] at h
                  cases h

theorem listingOf_eq_always_iff {l : Loaded} {attributeIds : List Id} {row : DynamicOption}
    {o : AttributeOption} :
    l.listingOf (some attributeIds) row = .ok (.always o) <->
      row.isDisabled = false ∧ l.options[row.optionId]? = some o ∧
        Precondition.read row.precondition = .always ∧ o.attributeId ∈ attributeIds := by
  constructor
  · intro h
    rcases listingOf_eq_ok h with ⟨henabled, found, hstored, hcase⟩
    rcases hcase with ⟨hread, hmem, heq⟩ | ⟨uuids, rejected, _hread, _howner, heq⟩
    · cases heq
      exact ⟨henabled, hstored, hread, hmem⟩
    · cases heq
  · intro hall
    rcases hall with ⟨henabled, hstored, hread, hmem⟩
    have hcontains : attributeIds.contains o.attributeId = true := List.contains_iff_mem.mpr hmem
    simp only [listingOf, henabled, hstored, hread, hcontains]
    rfl

theorem listingOf_eq_behind_iff {l : Loaded} {attributeIds : List Id} {row : DynamicOption}
    {o : AttributeOption} {uuids rejected : List String} :
    l.listingOf (some attributeIds) row = .ok (.behind o uuids rejected) <->
      row.isDisabled = false ∧ l.options[row.optionId]? = some o ∧
        Precondition.read row.precondition = .triggers uuids rejected ∧
        o.attributeId ∈ l.attributes := by
  constructor
  · intro h
    rcases listingOf_eq_ok h with ⟨henabled, found, hstored, hcase⟩
    rcases hcase with ⟨_hread, _hmem, heq⟩ | ⟨listed, damaged, hread, howner, heq⟩
    · cases heq
    · cases heq
      exact ⟨henabled, hstored, hread, howner⟩
  · intro hall
    rcases hall with ⟨henabled, hstored, hread, howner⟩
    have hloaded : l.attributes.contains o.attributeId = true := howner
    simp only [listingOf, henabled, hstored, hread, hloaded]
    rfl

end Loaded

/-!
# All rows
-/

namespace Loaded

/-- The options that the rows of a category list without a precondition. -/
def shown (l : Loaded) (attributeIds : List Id) (rows : List DynamicOption)
    (category : CategoryId) : List Id :=
  (rows.filter (·.categoryId == category)).flatMap (l.shownBy (some attributeIds))

/-- What the rows of a category put behind triggers. -/
def gatings (l : Loaded) (attributeIds : List Id) (rows : List DynamicOption)
    (category : CategoryId) : List Gating :=
  (rows.filter (·.categoryId == category)).flatMap (l.gatingsBy (some attributeIds))

theorem mem_gatings {l : Loaded} {attributeIds : List Id} {rows : List DynamicOption}
    {category : CategoryId} {g : Gating} :
    g ∈ l.gatings attributeIds rows category <->
      exists row o uuids rejected uuid, row ∈ rows ∧ row.categoryId = category ∧
        l.listingOf (some attributeIds) row = .ok (.behind o uuids rejected) ∧
        uuid ∈ uuids ∧ l.triggerOf row.suffix uuid = .ok g.trigger ∧
        g.attributeId = o.attributeId ∧ g.optionId = o.id := by
  constructor
  · intro hg
    rcases List.mem_flatMap.mp hg with ⟨row, hrow, hby⟩
    rcases List.mem_filter.mp hrow with ⟨hrow, hcategory⟩
    unfold gatingsBy at hby
    split at hby
    · rename_i o uuids rejected hlisting
      rcases List.mem_map.mp hby with ⟨trigger, htrigger, rfl⟩
      rcases List.mem_filterMap.mp htrigger with ⟨uuid, huuid, hof⟩
      refine ⟨row, o, uuids, rejected, uuid, hrow, beq_iff_eq.mp hcategory, hlisting, huuid,
        ?_, rfl, rfl⟩
      cases hresult : l.triggerOf row.suffix uuid with
      | error reason =>
          rw [hresult] at hof
          cases hof
      | ok found =>
          rw [hresult] at hof
          cases hof
          rfl
    · cases hby
  · intro hexists
    rcases hexists with
      ⟨row, o, uuids, rejected, uuid, hrow, hcategory, hlisting, huuid, htrigger, ha, ho⟩
    apply List.mem_flatMap.mpr
    refine ⟨row, List.mem_filter.mpr ⟨hrow, beq_iff_eq.mpr hcategory⟩, ?_⟩
    simp only [gatingsBy, hlisting]
    apply List.mem_map.mpr
    refine ⟨g.trigger, List.mem_filterMap.mpr ⟨uuid, huuid, ?_⟩, ?_⟩
    · rw [htrigger]
      rfl
    · rw [<- ha, <- ho]

theorem mem_shown {l : Loaded} {attributeIds : List Id} {rows : List DynamicOption}
    {category : CategoryId} {id : Id} :
    id ∈ l.shown attributeIds rows category <->
      exists row o, row ∈ rows ∧ row.categoryId = category ∧
        l.listingOf (some attributeIds) row = .ok (.always o) ∧ o.id = id := by
  constructor
  · intro hid
    rcases List.mem_flatMap.mp hid with ⟨row, hrow, hby⟩
    rcases List.mem_filter.mp hrow with ⟨hrow, hcategory⟩
    unfold shownBy at hby
    split at hby
    · rename_i o hlisting
      exact ⟨row, o, hrow, beq_iff_eq.mp hcategory, hlisting, (List.mem_singleton.mp hby).symm⟩
    · cases hby
  · intro hexists
    rcases hexists with ⟨row, o, hrow, hcategory, hlisting, rfl⟩
    apply List.mem_flatMap.mpr
    refine ⟨row, List.mem_filter.mpr ⟨hrow, beq_iff_eq.mpr hcategory⟩, ?_⟩
    simp [shownBy, hlisting]

end Loaded

theorem rules_foldl_applyDynamicOption (l : Loaded) (rows : List DynamicOption)
    (c : Compilation) (category : CategoryId) :
    (rows.foldl (applyDynamicOption l) c).rules[category]? =
      c.rules[category]?.map fun r =>
        r.fill (l.shown r.attributeIds rows category)
          (l.gatings r.attributeIds rows category) := by
  induction rows generalizing c with
  | nil =>
      simp [Loaded.shown, Loaded.gatings]
  | cons row rows ih =>
      rw [List.foldl_cons, ih, rules_applyDynamicOption]
      by_cases h : row.categoryId = category
      · rw [if_pos h, Option.map_map]
        congr 1
        funext r
        simp only [Function.comp_apply, Rule.attributeIds_fill, Rule.fill_fill]
        simp [Loaded.shown, Loaded.gatings, h]
      · rw [if_neg h]
        simp [Loaded.shown, Loaded.gatings, h]

theorem report_foldl_applyDynamicOption (l : Loaded) (rows : List DynamicOption)
    (c : Compilation) :
    (rows.foldl (applyDynamicOption l) c).report =
      c.report.skipAll (rows.flatMap fun row =>
        l.skipsBy (c.rules[row.categoryId]?.map Rule.attributeIds) row) := by
  induction rows generalizing c with
  | nil =>
      rfl
  | cons row rows ih =>
      have hsame : forall category : CategoryId,
          (applyDynamicOption l c row).rules[category]?.map Rule.attributeIds =
            c.rules[category]?.map Rule.attributeIds := by
        intro category
        rw [rules_applyDynamicOption]
        split
        · rw [Option.map_map]
          congr 1
          funext r
          exact Rule.attributeIds_fill r _ _
        · rfl
      rw [List.foldl_cons, ih, report_applyDynamicOption, <- Report.skipAll_append,
        List.flatMap_cons]
      simp only [hsame]

end Builder
end FacetRules
