import Mathlib.Data.List.Nodup
import FacetRules.Proofs.Accounts.Events
import FacetRules.Proofs.Row.Grammar

/-!
# The books of an import

Whatever was read can be found again: an option under its attribute, an assignment in the
rule of its category, a key of a precondition in a group, or in the report as left out.
Nothing is lost on the way and nothing is counted twice.
-/

namespace FacetRules

namespace OptionTable

/-- The options in table order are those stored, each of them once. -/
theorem toList_perm {t : OptionTable} (ht : forall id o, t.get? id = some o -> o.id = id) :
    t.toList.Perm (t.entries.toList.map Prod.snd) := by
  have hids : (t.entries.toList.map Prod.snd).map AttributeOption.id =
      t.entries.toList.map Prod.fst := by
    rw [List.map_map]
    apply List.map_congr_left
    intro e he
    exact ht e.1 e.2 (IdMap.mem_toList.mp he)
  have hnodup : (t.entries.toList.map Prod.snd).Nodup := by
    apply List.Nodup.of_map AttributeOption.id
    rw [hids]
    exact IdMap.nodup_keys t.entries
  apply (List.perm_ext_iff_of_nodup (List.Nodup.of_map _ (nodup_id_toList ht)) hnodup).mpr
  intro o
  rw [mem_toList, List.mem_map]
  constructor
  · intro hexists
    rcases hexists with ⟨id, ho⟩
    exact ⟨(id, o), IdMap.mem_toList.mpr ho, rfl⟩
  · intro hexists
    rcases hexists with ⟨e, he, rfl⟩
    exact ⟨e.1, IdMap.mem_toList.mp he⟩

end OptionTable

namespace Gating

theorem total_groups (gs : List Gating) :
    total ((groups gs).map fun g => g.optionIds.length) = gs.length := by
  have hgroup : forall a : Id, (optionsOf a gs).length =
      total (gs.map fun g => if g.attributeId = a then 1 else 0) := by
    intro a
    rw [optionsOf, List.length_map, <- List.countP_eq_length_filter, countP_eq_total]
    simp only [beq_iff_eq]
  have hmem : forall g, g ∈ gs -> g.attributeId ∈ (gs.map Gating.attributeId).eraseDups := by
    intro g hg
    exact List.mem_eraseDups.mpr (List.mem_map_of_mem hg)
  rw [groups, List.map_map]
  show total ((gs.map Gating.attributeId).eraseDups.map fun a => (optionsOf a gs).length) = _
  simp only [hgroup]
  rw [total_sorted (nodup_eraseDups _), <- total_map_one gs]
  congr 1
  apply List.map_congr_left
  intro g hg
  exact if_pos (hmem g hg)

end Gating

namespace Rule

/-- How many options the groups of a rule list. -/
def grouped (r : Rule) : Nat :=
  total (r.triggers.toList.map fun e => total (e.2.map fun g => g.optionIds.length))

end Rule

namespace Builder

/-!
# What compiling leaves out
-/

section Skips

variable {b : Builder} {records : List (Table × List String)}

theorem orphans_finish (h : b.Keyed) :
    b.finish.1.orphans = b.options.toList.countP fun o => !b.finish.1.isOwned o := by
  have hperm := OptionTable.toList_perm h.option_id
  rw [hperm.countP_eq, List.countP_map]
  rfl

theorem count_linkSkips (h : b.Keyed) (reason : SkipReason) :
    (linkSkips b.attributes b.options.toList).count reason =
      if SkipReason.optionWithoutAttribute = reason then b.finish.1.orphans else 0 := by
  have howned : forall o : AttributeOption,
      b.attributes.contains o.attributeId = b.finish.1.isOwned o := by
    intro o
    exact (contains_attributes_loaded b o.attributeId).symm
  have hreplicate : linkSkips b.attributes b.options.toList =
      List.replicate b.finish.1.orphans .optionWithoutAttribute := by
    rw [linkSkips, List.map_const', orphans_finish h, List.countP_eq_length_filter]
    simp only [howned]
  rw [hreplicate, List.count_replicate]
  simp only [beq_iff_eq]

theorem compileSkips_recorded (h : b.Holds (readings none (recordCalls records))) :
    b.compileSkips = linkSkips b.attributes b.options.toList ++
      ((assignmentRows records).flatMap b.finish.1.assignmentSkips ++
        (dynamicOptionRows records).flatMap b.finish.1.dynamicSkips) := by
  have hassignments : b.assignments.toList.filterMap (assignmentSkip? b.loaded.attributes) =
      (assignmentRows records).flatMap b.finish.1.assignmentSkips := by
    rw [h.assignments_staged, List.filterMap_eq_flatMap_toList, List.flatMap_map]
    apply List.flatMap_congr
    intro row hrow
    exact assignmentSkip?_staged (h.lookup_assignment hrow)
  have hdynamic : (b.dynamicOptions.toList.flatMap fun row =>
        b.loaded.skipsBy (b.attributeIdsOf? row.categoryId) row) =
      (dynamicOptionRows records).flatMap b.finish.1.dynamicSkips := by
    rw [h.dynamicOptions_staged, List.flatMap_map]
    apply List.flatMap_congr
    intro row hrow
    exact (judge_staged (h.lookup_dynamicOption hrow)).1
  rw [compileSkips, hassignments, hdynamic]

end Skips

theorem count_flatMap_when {α : Type} (found reason : SkipReason) (p : α -> Bool)
    (xs : List α) :
    (xs.flatMap fun x => found.when (p x)).count reason =
      if found = reason then xs.countP p else 0 := by
  unfold SkipReason.when
  rw [count_flatMap_of, List.countP_eq_length_filter]
  by_cases h : found = reason
  · subst h
    simp only [List.count_singleton_self, if_true]
    exact total_map_one _
  · simp [h]

theorem count_keySkips (c : Catalog) (uuids : List String) (reason : SkipReason) :
    (uuids.flatMap c.keySkips).count reason =
      (if SkipReason.optionWithoutAttribute = reason then uuids.countP c.namesOrphan else 0) +
        (if SkipReason.preconditionIsAttribute = reason then uuids.countP c.namesAttribute else 0) +
        (if SkipReason.unknownPrecondition = reason then uuids.countP c.namesNothing else 0) := by
  unfold Catalog.keySkips
  rw [count_flatMap_append, count_flatMap_append, count_flatMap_when, count_flatMap_when,
    count_flatMap_when]

theorem count_assignmentSkips (c : Catalog) (rows : List AssignmentRow) (reason : SkipReason) :
    (rows.flatMap c.assignmentSkips).count reason =
      (if SkipReason.disabledRow = reason then rows.countP AssignmentRow.isDisabled else 0) +
        (if SkipReason.unknownAttribute = reason then rows.countP c.namesUnloaded else 0) := by
  unfold Catalog.assignmentSkips
  rw [count_flatMap_append, count_flatMap_when, count_flatMap_when]

theorem count_dynamicSkips (c : Catalog) (rows : List DynamicOptionRow) (reason : SkipReason) :
    (rows.flatMap c.dynamicSkips).count reason =
      (if SkipReason.disabledRow = reason then rows.countP DynamicOptionRow.isDisabled else 0) +
        (if SkipReason.unknownOption = reason then rows.countP c.namesNoOption else 0) +
        (if SkipReason.unknownCategoryRule = reason then rows.countP c.lacksRule else 0) +
        (if SkipReason.attributeNotInCategory = reason then rows.countP c.isOutside else 0) +
        (if SkipReason.optionWithoutAttribute = reason then rows.countP c.lacksAttribute else 0) +
        total ((rows.filter c.isGated).map fun row =>
          if SkipReason.malformedPrecondition = reason then row.rejected.length else 0) +
        total ((rows.filter c.isGated).map fun row =>
          (row.uuids.flatMap c.keySkips).count reason) := by
  unfold Catalog.dynamicSkips
  rw [count_flatMap_append, count_flatMap_append, count_flatMap_append, count_flatMap_append,
    count_flatMap_append, count_flatMap_append, count_flatMap_when, count_flatMap_when,
    count_flatMap_when, count_flatMap_when, count_flatMap_when, count_flatMap_of, count_flatMap_of]
  simp only [List.map_const', List.count_replicate, beq_iff_eq]

theorem countP_isRefused_eq_zero (records : List (Table × List String)) {reason : SkipReason}
    (h : reason ∉ Row.refusals) : records.countP (isRefused reason) = 0 := by
  rw [List.countP_eq_zero]
  intro record _hrecord hrefused
  unfold isRefused at hrefused
  split at hrefused
  · cases hrefused
  · rename_i found hread
    rw [beq_iff_eq.mp hrefused] at hread
    exact h (Row.refuses_read record.1 record.2 reason hread)

theorem events_eq (c : Catalog) (records : List (Table × List String)) (reason : SkipReason) :
    c.events records reason =
      records.countP (isRefused reason) +
        (if SkipReason.optionWithoutAttribute = reason then c.orphans else 0) +
        ((assignmentRows records).flatMap c.assignmentSkips).count reason +
        ((dynamicOptionRows records).flatMap c.dynamicSkips).count reason := by
  rw [count_assignmentSkips, count_dynamicSkips]
  simp only [count_keySkips]
  cases reason with
  | tooFewFields | invalidNumber | missingCategory | missingAttribute | missingOption =>
      simp [Catalog.events]
  | disabledRow =>
      rw [countP_isRefused_eq_zero records (by decide)]
      simp [Catalog.events]
  | optionWithoutAttribute =>
      rw [countP_isRefused_eq_zero records (by decide)]
      simp [Catalog.events, Catalog.gatedRows, Nat.add_assoc]
  | unknownAttribute | unknownOption | unknownCategoryRule | attributeNotInCategory =>
      rw [countP_isRefused_eq_zero records (by decide)]
      simp [Catalog.events]
  | malformedPrecondition | preconditionIsAttribute | unknownPrecondition =>
      rw [countP_isRefused_eq_zero records (by decide)]
      simp [Catalog.events, Catalog.gatedRows]

/-!
# What the catalog has
-/

section Balance

variable {b : Builder} {records : List (Table × List String)}

theorem size_options_finish (h : b.Keyed) :
    b.finish.1.options.size =
      total (b.finish.1.attributes.toList.map fun e => e.2.optionIds.length) +
        b.finish.1.orphans := by
  have hperm := (OptionTable.toList_perm h.option_id).length_eq
  rw [List.length_map, Std.ExtTreeMap.length_toList] at hperm
  have hlinked : forall id a, b.loaded.attributes[id]? = some a -> a.optionIds.length =
      total (b.options.toList.map fun o => if o.attributeId = id then 1 else 0) := by
    intro id a ha
    rw [getElem?_attributes_loaded] at ha
    rcases Option.map_eq_some_iff.mp ha with ⟨stored, hstored, rfl⟩
    simp only [Attribute.addOptions, h.attribute_optionIds id stored hstored, List.nil_append,
      linkedTo, List.length_map]
    rw [<- List.countP_eq_length_filter, countP_eq_total]
    simp only [beq_iff_eq]
  have howned : total (b.finish.1.attributes.toList.map fun e => e.2.optionIds.length) =
      b.options.toList.countP b.finish.1.isOwned := by
    rw [countP_eq_total]
    exact IdMap.total_entries hlinked
  rw [howned, orphans_finish h]
  show b.options.entries.size = _
  rw [<- hperm, List.length_eq_countP_add_countP b.finish.1.isOwned]
  simp

theorem contains_rules_finish {row : Assignment} (hrow : row ∈ b.assignments.toList)
    (hcounts : assignmentSkip? b.loaded.attributes row = none) :
    b.finish.1.rules.contains row.categoryId = true := by
  rcases assignmentSkip?_eq_none.mp hcounts with ⟨henabled, hloaded⟩
  have hmem : row.attributeId ∈ b.assignedTo row.categoryId :=
    mem_assigned.mpr ⟨row, hrow, rfl, henabled, hloaded, rfl⟩
  rw [IdMap.contains_eq_isSome, getElem?_rules_finish, if_neg (List.ne_nil_of_mem hmem)]
  rfl

/-- The rules list one attribute for every assignment that counts. -/
theorem total_attributeIds (b : Builder) :
    total (b.finish.1.rules.toList.map fun e => e.2.attributeIds.length) =
      b.assignments.toList.countP fun row =>
        (assignmentSkip? b.loaded.attributes row).isNone := by
  have hassigned : forall category r, b.finish.1.rules[category]? = some r ->
      r.attributeIds.length = total (b.assignments.toList.map fun row =>
        if row.categoryId = category then
          if (assignmentSkip? b.loaded.attributes row).isNone then 1 else 0
        else 0) := by
    intro category r hr
    rw [(rules_finish_eq_some hr).2, attributeIds_compiledRule, assignedTo, assigned,
      List.length_map, <- List.countP_eq_length_filter, countP_eq_total]
    congr 1
    apply List.map_congr_left
    intro row _hrow
    by_cases h : row.categoryId = category
    · simp [h]
    · simp [h]
  rw [IdMap.total_entries hassigned, countP_eq_total]
  congr 1
  apply List.map_congr_left
  intro row hrow
  cases hskip : assignmentSkip? b.loaded.attributes row with
  | none =>
      rw [if_pos (contains_rules_finish hrow hskip)]
  | some reason =>
      simp

theorem length_assignmentRows (h : b.Holds (readings none (recordCalls records))) :
    (assignmentRows records).length =
      total (b.finish.1.rules.toList.map fun e => e.2.attributeIds.length) +
        (assignmentRows records).countP AssignmentRow.isDisabled +
        (assignmentRows records).countP b.finish.1.namesUnloaded := by
  rw [total_attributeIds, h.assignments_staged, List.countP_map, countP_eq_total,
    countP_eq_total, countP_eq_total, <- total_map_add, <- total_map_add, <- total_map_one]
  congr 1
  apply List.map_congr_left
  intro row hrow
  have hnone : (assignmentSkip? b.loaded.attributes (row.staged b.registry)).isNone =
      (b.finish.1.assignmentSkips row).isEmpty := by
    rw [<- assignmentSkip?_staged (h.lookup_assignment hrow)]
    cases assignmentSkip? b.loaded.attributes (row.staged b.registry) with
    | none => rfl
    | some reason => rfl
  rw [Function.comp_apply, hnone, Catalog.assignmentSkips, Catalog.namesUnloaded]
  cases row.isDisabled with
  | true =>
      rfl
  | false =>
      cases b.finish.1.namesAttribute row.attributeUuid with
      | true => rfl
      | false => rfl

/-!
# The keys of the preconditions
-/

/-- The groups of a rule list one option for every time that one was put behind a trigger. -/
theorem grouped_eq_length (b : Builder) (category : CategoryId) :
    (b.compiledRule category).grouped = (b.gatingsIn category).length := by
  have hunder : forall t groups, (b.compiledRule category).triggers[t]? = some groups ->
      total (groups.map fun g => g.optionIds.length) =
        total ((b.gatingsIn category).map fun g => if g.trigger = t then 1 else 0) := by
    intro t groups hgroups
    rw [(triggers_compiledRule_eq_some hgroups).2, Gating.total_groups, Gating.under,
      <- List.countP_eq_length_filter, countP_eq_total]
    simp only [beq_iff_eq]
  rw [Rule.grouped, IdMap.total_entries hunder, <- total_map_one]
  congr 1
  apply List.map_congr_left
  intro g hg
  have hne : Gating.under g.trigger (b.gatingsIn category) ≠ [] :=
    List.ne_nil_of_mem (Gating.mem_under.mpr ⟨hg, rfl⟩)
  rw [IdMap.contains_eq_isSome, getElem?_triggers_compiledRule, if_neg hne]
  rfl

theorem gatingsBy_none (l : Loaded) (row : DynamicOption) : l.gatingsBy none row = [] := by
  unfold Loaded.gatingsBy Loaded.listingOf
  cases row.isDisabled with
  | true =>
      rfl
  | false =>
      cases l.options[row.optionId]? with
      | none => rfl
      | some o => rfl

theorem total_grouped (b : Builder) :
    total (b.finish.1.rules.toList.map fun e => e.2.grouped) =
      total (b.dynamicOptions.toList.map fun row =>
        (b.loaded.gatingsBy (b.attributeIdsOf? row.categoryId) row).length) := by
  have hgrouped : forall category r, b.finish.1.rules[category]? = some r ->
      r.grouped = total (b.dynamicOptions.toList.map fun row =>
        if row.categoryId = category then
          (b.loaded.gatingsBy (b.attributeIdsOf? row.categoryId) row).length
        else 0) := by
    intro category r hr
    rcases rules_finish_eq_some hr with ⟨hne, rfl⟩
    have hids : b.attributeIdsOf? category = some (b.assignedTo category) := if_neg hne
    rw [grouped_eq_length, gatingsIn, Loaded.gatings, length_flatMap, total_map_filter]
    congr 1
    apply List.map_congr_left
    intro row _hrow
    by_cases h : row.categoryId = category
    · simp [h, hids]
    · simp [h]
  rw [IdMap.total_entries hgrouped]
  congr 1
  apply List.map_congr_left
  intro row _hrow
  split
  · rfl
  · rename_i hnone
    rw [IdMap.contains_eq_isSome, Option.not_isSome_iff_eq_none] at hnone
    rw [attributeIdsOf?_eq, hnone, Option.map_none, gatingsBy_none]
    rfl

theorem total_uuids (h : b.Holds (readings none (recordCalls records))) :
    total ((b.finish.1.gatedRows records).map fun row => row.uuids.length) =
      total (b.finish.1.rules.toList.map fun e => e.2.grouped) +
        total ((b.finish.1.gatedRows records).map fun row =>
          (row.uuids.flatMap b.finish.1.keySkips).length) := by
  rw [total_grouped, h.dynamicOptions_staged, List.map_map, Catalog.gatedRows, total_map_filter,
    total_map_filter, <- total_map_add]
  congr 1
  apply List.map_congr_left
  intro row hrow
  exact (judge_staged (h.lookup_dynamicOption hrow)).2.symm

theorem length_keySkips (c : Catalog) (uuids : List String) :
    (uuids.flatMap c.keySkips).length = uuids.countP c.namesOrphan +
      uuids.countP c.namesAttribute + uuids.countP c.namesNothing := by
  rw [length_flatMap, countP_eq_total, countP_eq_total, countP_eq_total, <- total_map_add,
    <- total_map_add]
  simp only [Catalog.keySkips, SkipReason.when, List.length_append, apply_ite List.length,
    List.length_singleton, List.length_nil]

end Balance

end Builder

/-- The books of an import are balanced.  What they are kept of, the attributes and the
options with everything else, is what the records say. -/
structure Catalog.Accounts (c : Catalog) (report : Report)
    (records : List (Table × List String)) : Prop where
  reflects : c.Reflects ((rowsOf records).map (Reading.mk none))
  rows_eq : forall table, report.rows table = records.countP fun record => record.1 == table
  skips_eq : forall reason, report.skips reason = c.events records reason
  options_eq : c.options.size =
    total (c.attributes.toList.map fun e => e.2.optionIds.length) + c.orphans
  assignments_eq : (assignmentRows records).length =
    total (c.rules.toList.map fun e => e.2.attributeIds.length) +
      (assignmentRows records).countP AssignmentRow.isDisabled +
      (assignmentRows records).countP c.namesUnloaded
  uuids_eq : total ((c.gatedRows records).map fun row => row.uuids.length) =
    total (c.rules.toList.map fun e => e.2.grouped) +
      report.skips .preconditionIsAttribute + report.skips .unknownPrecondition +
      total ((c.gatedRows records).map fun row => row.uuids.countP c.namesOrphan)
  rejected_eq : total ((c.gatedRows records).map fun row => row.rejected.length) =
    report.skips .malformedPrecondition

namespace Builder

section Accounts

variable (tree : CategoryTree) (records : List (Table × List String))

theorem rows_finish (table : Table) :
    (((∅ : Builder).withCategories tree).performAll (recordCalls records)).finish.2.rows table =
      records.countP fun record => record.1 == table := by
  have hempty : ((∅ : Builder).withCategories tree).report.rows table = 0 :=
    Tally.count_empty table
  have htables : (recordCalls records).filterMap Call.table? = records.map Prod.fst := by
    rw [recordCalls, List.filterMap_map, <- List.filterMap_eq_map]
    rfl
  rw [report_finish, Report.rows_skipAll, rows_performAll, hempty, htables, Nat.zero_add,
    List.count_eq_countP, List.countP_map]
  rfl

theorem skips_finish (reason : SkipReason) :
    (((∅ : Builder).withCategories tree).performAll (recordCalls records)).finish.2.skips reason =
      (((∅ : Builder).withCategories tree).performAll (recordCalls records)).finish.1.events
        records reason := by
  have hholds := holds_performAll tree (recordCalls records)
  have hempty : ((∅ : Builder).withCategories tree).report.skips reason = 0 :=
    Tally.count_empty reason
  have hrefused : ((recordCalls records).filterMap Call.skip?).count reason =
      records.countP (isRefused reason) := by
    rw [List.count_filterMap, recordCalls, List.countP_map]
    apply List.countP_congr
    intro record _hrecord
    simp only [Function.comp_apply, Call.skip?, isRefused]
    cases Row.read record.1 record.2 with
    | error found => simp
    | ok row => simp
  rw [report_finish, Report.skips_skipAll, skips_performAll, hempty, hrefused, Nat.zero_add,
    compileSkips_recorded hholds, List.count_append, List.count_append,
    count_linkSkips hholds.keyed, events_eq]
  omega

/-- Whatever records are added to a new builder: the catalog says what their rows say, and
every record is counted under its table; the options are those listed under the attributes
and those without one; the assignments are the entries of the rules, the disabled ones and
those that name an attribute that is not loaded; the keys of the preconditions are the
entries of the groups and those left out; and the counters say how many things were left
out for each reason. -/
theorem finish_accounts :
    (((∅ : Builder).withCategories tree).performAll (recordCalls records)).finish.1.Accounts
      (((∅ : Builder).withCategories tree).performAll (recordCalls records)).finish.2 records where
  reflects := by
    rw [<- readings_recordCalls_none]
    exact (holds_performAll tree (recordCalls records)).reflects_finish
  rows_eq := rows_finish tree records
  skips_eq := skips_finish tree records
  options_eq := size_options_finish (holds_performAll tree (recordCalls records)).keyed
  assignments_eq := length_assignmentRows (holds_performAll tree (recordCalls records))
  uuids_eq := by
    have huuids := total_uuids (holds_performAll tree (recordCalls records))
    rw [skips_finish, skips_finish, huuids]
    simp only [length_keySkips, total_map_add, Catalog.events]
    omega
  rejected_eq := by
    rw [skips_finish]
    rfl

end Accounts

/-- The shop shows two of three options and two of four assignments, and puts one option
behind one of two keys. -/
theorem finish_accounts_untidyShop :
    let catalog := (((∅ : Builder).withCategories ∅).performAll (recordCalls untidyShop)).finish.1
    let report := (((∅ : Builder).withCategories ∅).performAll (recordCalls untidyShop)).finish.2
    (6 : Id) ∉ catalog.attributes ∧
      total (catalog.attributes.toList.map fun e => e.2.optionIds.length) = 2 ∧
      total (catalog.rules.toList.map fun e => e.2.attributeIds.length) = 2 ∧
      total (catalog.rules.toList.map fun e => e.2.grouped) = 1 ∧
      report.rows .options = 3 ∧ report.skips .unknownPrecondition = 1 ∧
      report.skips .malformedPrecondition = 1 := by
  intro catalog report
  have h : catalog.Accounts report untidyShop := finish_accounts ∅ untidyShop
  have hcolor : ¬ exists a, a ∈ attributesOf catalog.registry
      ((rowsOf untidyShop).map (Reading.mk none)) ∧ a.id = 6 := by
    decide +kernel
  have hassigned : (assignmentRows untidyShop).length = 4 ∧
      (assignmentRows untidyShop).countP AssignmentRow.isDisabled = 1 ∧
      (assignmentRows untidyShop).countP catalog.namesUnloaded = 1 := by
    decide +kernel
  have hstored : catalog.options.size = 3 ∧ catalog.orphans = 1 := by
    decide +kernel
  have hgated : total ((catalog.gatedRows untidyShop).map fun row => row.uuids.length) = 2 ∧
      total ((catalog.gatedRows untidyShop).map fun row => row.rejected.length) = 1 ∧
      total ((catalog.gatedRows untidyShop).map fun row =>
        row.uuids.countP catalog.namesOrphan) = 0 ∧
      report.skips .preconditionIsAttribute = 0 ∧ report.skips .unknownPrecondition = 1 := by
    decide +kernel
  have hoptions := h.options_eq
  have hassignments := h.assignments_eq
  have huuids := h.uuids_eq
  refine ⟨fun hmem => hcolor ((h.reflects.mem_attributes_iff 6).mp hmem), ?_, ?_, ?_, ?_,
    hgated.2.2.2.2, ?_⟩
  · omega
  · omega
  · omega
  · rw [h.rows_eq]
    decide
  · rw [<- h.rejected_eq]
    exact hgated.2.1

end Builder
end FacetRules
