import FacetRules.Proofs.Builder.History
import FacetRules.Proofs.Import.Records

/-!
# Rows that are refused

A row is refused when one of its keys is empty, and a refused row should leave no trace.  It
leaves none in what is stored, put aside and counted.  The registry is another matter: an option
has two keys, and its own key is numbered before that of its attribute is looked at.  Where the
second is the empty one, the first keeps the number that it was given, and every key that is new
from then on gets a later number than it would have had.
-/

namespace FacetRules

namespace Row

/-- The key of a refused row that is numbered all the same. -/
def strayKey? : Row -> Option String
  | ofOption row => if row.uuid ≠ "" ∧ row.attributeUuid = "" then some row.uuid else none
  | _ => none

theorem isKeyed_eq_false_iff {row : Row} : row.isKeyed = false <-> "" ∈ row.keys := by
  simp [isKeyed, List.all_eq_false]

theorem numbered_of_mem_keys {row : Row} (h : "" ∈ row.keys) :
    row.numbered = row.strayKey?.toList := by
  cases row with
  | ofAttribute row =>
      have huuid : row.uuid = "" := (List.mem_singleton.mp h).symm
      rw [numbered, keys, huuid]
      rfl
  | ofOption row =>
      by_cases huuid : row.uuid = ""
      · rw [numbered, keys, strayKey?, huuid, if_neg fun hkeys => hkeys.1 rfl]
        rfl
      · have howner : row.attributeUuid = "" := by
          rcases List.mem_cons.mp h with hown | howner
          · exact absurd hown.symm huuid
          · exact (List.mem_singleton.mp howner).symm
        have hkept : (row.uuid != "") = true := bne_iff_ne.mpr huuid
        rw [numbered, keys, strayKey?, howner, if_pos ⟨huuid, rfl⟩, List.takeWhile_cons,
          if_pos hkept]
        rfl
  | ofAssignment row =>
      have huuid : row.attributeUuid = "" := (List.mem_singleton.mp h).symm
      rw [numbered, keys, huuid]
      rfl
  | ofDynamicOption row =>
      have huuid : row.optionUuid = "" := (List.mem_singleton.mp h).symm
      rw [numbered, keys, huuid]
      rfl

theorem strayKey?_ne_empty {row : Row} {uuid : String} (h : row.strayKey? = some uuid) :
    uuid ≠ "" := by
  cases row with
  | ofOption row =>
      rw [strayKey?, Option.ite_none_right_eq_some] at h
      rw [<- Option.some.inj h.2]
      exact h.1.1
  | ofAttribute row => cases h
  | ofAssignment row => cases h
  | ofDynamicOption row => cases h

end Row

namespace Builder

/-- What a refused row leaves of a builder: everything but the registry, which has one more key if
the row has a stray key that is new. -/
structure Leaves (b c : Builder) (stray : Option String) : Prop where
  attributes : c.attributes = b.attributes
  options : c.options = b.options
  categories : c.categories = b.categories
  assignments : c.assignments = b.assignments
  dynamicOptions : c.dynamicOptions = b.dynamicOptions
  report : c.report = b.report
  suffix : c.registry.suffix = b.registry.suffix
  keys : c.registry.keys.toList =
    (b.registry.keys.toList ++
      (stray.map fun uuid => Registry.keyOf uuid b.registry.suffix).toList).eraseDups

/-- Whether a call adds a row that is refused. -/
def Call.isRefused : Call -> Bool
  | .row added => !added.isKeyed
  | _ => false

/-!
# One call
-/

theorem addRow_of_mem_keys (b : Builder) {row : Row} (h : "" ∈ row.keys) :
    b.addRow row =
      (.error .emptyUuid, { b with registry := b.registry.resolveAll row.strayKey?.toList }) := by
  rcases addRow_of_not_isKeyed b (Row.isKeyed_eq_false_iff.mpr h) with ⟨r, _hr, _hsuffix, heq⟩
  have hregistry := registry_addRow b row
  rw [heq, Row.numbered_of_mem_keys h] at hregistry
  rw [heq, <- hregistry]

theorem addRow_eq_error_iff (b : Builder) (row : Row) :
    (exists e, (b.addRow row).1 = .error e) <-> "" ∈ row.keys := by
  constructor
  · intro hexists
    rcases hexists with ⟨e, herror⟩
    rw [<- Row.isKeyed_eq_false_iff]
    cases hkeyed : row.isKeyed with
    | false => rfl
    | true =>
        rcases addRow_of_isKeyed b hkeyed with ⟨r, _hr, _hsuffix, _hnumbered, heq⟩
        rw [heq] at herror
        cases herror
  · intro h
    rw [addRow_of_mem_keys b h]
    exact ⟨_, rfl⟩

theorem perform_eq_error_iff (b : Builder) (call : Call) :
    (exists e, (b.perform call).1 = .error e) <-> call.isRefused = true := by
  cases call with
  | fields table values =>
      show (exists e, (b.addFields table values).1 = .error e) <-> false = true
      rw [b.fst_addFields table values]
      simp
  | row row =>
      show (exists e, (b.addRow row).1 = .error e) <-> (!row.isKeyed) = true
      rw [addRow_eq_error_iff, <- Row.isKeyed_eq_false_iff, Bool.not_eq_true']
  | suffix suffix =>
      simp [perform, Call.isRefused]

theorem leaves_addRow (b : Builder) {row : Row} (h : "" ∈ row.keys) :
    Leaves b (b.addRow row).2 row.strayKey? := by
  rw [addRow_of_mem_keys b h]
  refine ⟨rfl, rfl, rfl, rfl, rfl, rfl, Registry.suffix_resolveAll _ _, ?_⟩
  show (b.registry.resolveAll row.strayKey?.toList).keys.toList = _
  rw [Registry.keys_resolveAll, Option.toList_map]
  intro uuid huuid
  exact Row.strayKey?_ne_empty (Option.mem_toList.mp huuid)

/-- A refused row changes nothing exactly if its stray key, should it have one, has a number. -/
theorem addRow_eq_self_iff (b : Builder) {row : Row} (h : "" ∈ row.keys) :
    (b.addRow row).2 = b <->
      forall uuid, row.strayKey? = some uuid -> exists id, b.registry.lookup uuid = some id := by
  rw [addRow_of_mem_keys b h]
  cases hstray : row.strayKey? with
  | none =>
      constructor
      · intro _heq uuid huuid
        cases huuid
      · intro _hknown
        rfl
  | some stray =>
      have hne := Row.strayKey?_ne_empty hstray
      have hself : (b.registry.resolve stray).2 = b.registry <->
          exists id, b.registry.lookup stray = some id := by
        constructor
        · intro heq
          rcases Registry.resolve_fst hne b.registry with ⟨id, _hid, hlookup⟩
          rw [heq] at hlookup
          exact ⟨id, hlookup⟩
        · intro hexists
          rcases hexists with ⟨id, hid⟩
          rw [Registry.lookup, Registry.lookupSuffixed, if_neg hne] at hid
          rw [Registry.resolve_of_some hne hid]
      constructor
      · intro heq uuid huuid
        cases huuid
        exact hself.mp (congrArg Builder.registry heq)
      · intro hknown
        have hregistry : b.registry.resolveAll (some stray).toList = b.registry :=
          hself.mpr (hknown stray rfl)
        rw [hregistry]

/-!
# Runs
-/

def accepted (calls : List Call) : List Call :=
  calls.filter fun call => !call.isRefused

theorem accepted_cons_of_refused {call : Call} (h : call.isRefused = true) (calls : List Call) :
    accepted (call :: calls) = accepted calls := by
  simp [accepted, h]

theorem accepted_cons_of_accepted {call : Call} (h : call.isRefused = false)
    (calls : List Call) : accepted (call :: calls) = call :: accepted calls := by
  simp [accepted, h]

theorem exists_row_of_isRefused {call : Call} (h : call.isRefused = true) :
    exists row, call = .row row ∧ "" ∈ row.keys := by
  cases call with
  | row row =>
      have hkeyed : row.isKeyed = false := by simpa [Call.isRefused] using h
      exact ⟨row, rfl, Row.isKeyed_eq_false_iff.mp hkeyed⟩
  | fields table values => cases h
  | suffix suffix => cases h

/-- No refused row of the run has a stray key that is new. -/
def LeavesNoKey (b : Builder) (calls : List Call) : Prop :=
  forall front row back, calls = front ++ .row row :: back -> "" ∈ row.keys ->
    forall uuid, row.strayKey? = some uuid ->
      exists id, (b.performAll front).registry.lookup uuid = some id

theorem LeavesNoKey.tail {b : Builder} {call : Call} {calls : List Call}
    (h : b.LeavesNoKey (call :: calls)) : (b.perform call).2.LeavesNoKey calls := by
  intro front row back hsplit
  exact h (call :: front) row back (by rw [hsplit]; rfl)

theorem performAll_accepted {b : Builder} {calls : List Call} (h : b.LeavesNoKey calls) :
    b.performAll (accepted calls) = b.performAll calls := by
  induction calls generalizing b with
  | nil =>
      rfl
  | cons call calls ih =>
      cases hrefused : call.isRefused with
      | false =>
          rw [accepted_cons_of_accepted hrefused, performAll_cons, performAll_cons, ih h.tail]
      | true =>
          rcases exists_row_of_isRefused hrefused with ⟨row, rfl, hempty⟩
          have hself : (b.perform (.row row)).2 = b :=
            (b.addRow_eq_self_iff hempty).mpr (h [] row calls rfl hempty)
          have hrest := h.tail
          rw [hself] at hrest
          rw [accepted_cons_of_refused hrefused, performAll_cons, hself, ih hrest]

/-!
# Runs that leave a key

The rows that a run adds are those of its accepted calls, but a stray key may have moved their
numbers.  Where both runs come to the same keys in the same order, all numbers agree.
-/

section Accepted

variable (calls : List Call)

theorem readings_accepted (current : Option String) :
    readings current (accepted calls) = readings current calls := by
  induction calls generalizing current with
  | nil =>
      rfl
  | cons call calls ih =>
      cases hrefused : call.isRefused with
      | false =>
          rw [accepted_cons_of_accepted hrefused, readings, readings, ih]
      | true =>
          rcases exists_row_of_isRefused hrefused with ⟨row, rfl, hempty⟩
          have hnone : (Call.row row).reading? current = none := by
            simp [Call.reading?, Call.row?, Option.filter, Row.isKeyed_eq_false_iff.mpr hempty]
          rw [accepted_cons_of_refused hrefused, readings, hnone, ih]
          rfl

theorem filterMap_accepted {α : Type} {f : Call -> Option α}
    (hf : forall row, f (.row row) = none) :
    (accepted calls).filterMap f = calls.filterMap f := by
  induction calls with
  | nil =>
      rfl
  | cons call calls ih =>
      cases hrefused : call.isRefused with
      | false =>
          rw [accepted_cons_of_accepted hrefused, filterMap_cons_eq, filterMap_cons_eq, ih]
      | true =>
          rcases exists_row_of_isRefused hrefused with ⟨row, rfl, _hempty⟩
          rw [accepted_cons_of_refused hrefused, List.filterMap_cons_none (hf row), ih]

theorem report_accepted (b : Builder) :
    (b.performAll (accepted calls)).report = (b.performAll calls).report := by
  rw [report_performAll, report_performAll, filterMap_accepted calls fun _row => rfl,
    filterMap_accepted calls fun _row => rfl]

theorem suffix_accepted {b c : Builder} (h : b.registry.suffix = c.registry.suffix) :
    (b.performAll (accepted calls)).registry.suffix = (c.performAll calls).registry.suffix := by
  induction calls generalizing b c with
  | nil =>
      exact h
  | cons call calls ih =>
      have hc := (registry_perform c call).2
      cases hrefused : call.isRefused with
      | false =>
          have hb := (registry_perform b call).2
          rw [accepted_cons_of_accepted hrefused]
          exact ih (by rw [hb, hc, h])
      | true =>
          rcases exists_row_of_isRefused hrefused with ⟨row, rfl, _hempty⟩
          rw [accepted_cons_of_refused hrefused]
          exact ih (by rw [hc, h]; rfl)

end Accepted

end Builder

theorem Registry.eq_of_keys_eq {r s : Registry} (hkeys : r.keys = s.keys)
    (hsuffix : r.suffix = s.suffix) : r = s := by
  have hids : r.ids = s.ids := by
    apply Std.ExtTreeMap.ext_getElem?
    intro key
    rw [r.ids_eq, s.ids_eq, hkeys]
  cases r
  cases s
  cases hkeys
  cases hsuffix
  cases hids
  rfl

namespace Builder

/-- What a builder holds is determined by its rows and the numbers of their keys. -/
theorem Holds.eq_of_registry_eq {b c : Builder} {xs : List Reading} (hb : b.Holds xs)
    (hc : c.Holds xs) (hregistry : b.registry = c.registry)
    (hcategories : b.categories = c.categories) (hreport : b.report = c.report) : b = c := by
  have hattributes : b.attributes = c.attributes := by
    rw [hb.attributes_eq, hc.attributes_eq, hregistry]
  have hoptions : b.options = c.options := by
    rw [hb.options_eq, hc.options_eq, hregistry]
  have hassignments : b.assignments = c.assignments := by
    apply Array.toList_inj.mp
    rw [hb.assignments_eq, hc.assignments_eq, hregistry]
  have hdynamicOptions : b.dynamicOptions = c.dynamicOptions := by
    apply Array.toList_inj.mp
    rw [hb.dynamicOptions_eq, hc.dynamicOptions_eq, hregistry]
  cases b
  cases c
  cases hregistry
  cases hattributes
  cases hoptions
  cases hcategories
  cases hassignments
  cases hdynamicOptions
  cases hreport
  rfl

theorem performAll_accepted_of_keys_eq {tree : CategoryTree} {calls : List Call}
    (h : (((∅ : Builder).withCategories tree).performAll (accepted calls)).registry.keys =
      (((∅ : Builder).withCategories tree).performAll calls).registry.keys) :
    ((∅ : Builder).withCategories tree).performAll (accepted calls) =
      ((∅ : Builder).withCategories tree).performAll calls := by
  have haccepted := holds_performAll tree (accepted calls)
  rw [readings_accepted] at haccepted
  apply haccepted.eq_of_registry_eq (holds_performAll tree calls)
  · exact Registry.eq_of_keys_eq h (suffix_accepted calls rfl)
  · rw [categories_performAll, categories_performAll]
  · exact report_accepted calls _

/-- Adding a row fails exactly if one of its keys is empty, and then everything stays as it is
but the keys, among which the stray key of the row remains.  So the builder is the same as before
exactly if there is no such key or it had a number already.  A run in which no new key is left
comes to the same builder as its accepted calls alone, from any builder.  A run from a new builder
finishes like its accepted calls exactly if both have numbered the same keys in the same order. -/
theorem addRow_unchanged_iff (tree : CategoryTree) (b : Builder) (row : Row) (calls : List Call) :
    ((exists e, (b.addRow row).1 = .error e) <-> "" ∈ row.keys) ∧
      ("" ∈ row.keys ->
        (b.addRow row).1 = .error .emptyUuid ∧ Leaves b (b.addRow row).2 row.strayKey? ∧
          ((b.addRow row).2 = b <->
            forall uuid, row.strayKey? = some uuid ->
              exists id, b.registry.lookup uuid = some id)) ∧
      (forall call : Call, (exists e, (b.perform call).1 = .error e) <-> call.isRefused = true) ∧
      (b.LeavesNoKey calls -> b.performAll (accepted calls) = b.performAll calls) ∧
      (let kept := ((∅ : Builder).withCategories tree).performAll (accepted calls)
      let all := ((∅ : Builder).withCategories tree).performAll calls
      kept.finish = all.finish <-> kept.registry.keys = all.registry.keys) := by
  refine ⟨b.addRow_eq_error_iff row, ?_, b.perform_eq_error_iff, performAll_accepted, ?_⟩
  · intro hempty
    exact ⟨by rw [addRow_of_mem_keys b hempty], leaves_addRow b hempty,
      b.addRow_eq_self_iff hempty⟩
  · intro kept all
    constructor
    · intro hfinish
      exact congrArg (fun result => result.1.registry.keys) hfinish
    · intro hkeys
      have hsame : kept = all := performAll_accepted_of_keys_eq hkeys
      rw [hsame]

def ownerlessRed : Row :=
  .ofOption
    { uuid := "red", attributeUuid := "", title := "Red", isDisabled := false
      displayOrder := 1, color := "", subtitle := "" }

def keylessAttribute : Row :=
  .ofAttribute
    { uuid := "", kind := "", isMultipleAllowed := false, isRequired := false
      isDisabled := false, title := "Color", displayOrder := 1, isSearchable := false
      listingType := "", displayPage := 0 }

def colorRecord : Call :=
  .fields .attributes ["color", "", "f", "f", "f", "Color", "1", "", "", "f", "", ""]

/-- Of two refused rows the one with the stray key changes a new builder. -/
theorem addRow_unchanged_keyless :
    (((∅ : Builder).addRow keylessAttribute).1 = .error .emptyUuid ∧
        ((∅ : Builder).addRow keylessAttribute).2 = ∅) ∧
      (((∅ : Builder).addRow ownerlessRed).1 = .error .emptyUuid ∧
        ((∅ : Builder).addRow ownerlessRed).2 ≠ ∅) ∧
      (∅ : Builder).performAll [colorRecord] =
        (∅ : Builder).performAll [colorRecord, .row keylessAttribute] := by
  have hkeyless : "" ∈ keylessAttribute.keys := by decide
  have hownerless : "" ∈ ownerlessRed.keys := by decide
  have hnoKey : (∅ : Builder).LeavesNoKey [colorRecord, .row keylessAttribute] := by
    intro front row back hsplit hempty uuid hstray
    have hmem : Call.row row ∈ [colorRecord, .row keylessAttribute] := by
      rw [hsplit]
      simp
    have hrow : row = keylessAttribute := by simpa [colorRecord] using hmem
    rw [hrow] at hstray
    cases hstray
  rcases addRow_unchanged_iff ∅ ∅ keylessAttribute [colorRecord, .row keylessAttribute] with
    ⟨_hfails, hrefused, _hcalls, hrun, _hfinish⟩
  rcases hrefused hkeyless with ⟨herror, _hleaves, hself⟩
  rcases (addRow_unchanged_iff ∅ ∅ ownerlessRed []).2.1 hownerless with
    ⟨herror', _hleaves, hself'⟩
  refine ⟨⟨herror, hself.mpr ?_⟩, ⟨herror', fun heq => ?_⟩, hrun hnoKey⟩
  · intro uuid huuid
    cases huuid
  · rcases hself'.mp heq "red" rfl with ⟨id, hid⟩
    rw [show (∅ : Builder).registry.lookup "red" = none by rfl] at hid
    cases hid

/-- The option red without an attribute is refused, but keeps number 1.  In a run that adds the
attribute color after it, color has number 2 and not 1. -/
theorem not_addRow_unchanged :
    ¬ (forall (b : Builder) (row : Row) (e : Error), (b.addRow row).1 = .error e ->
        (b.addRow row).2 = b) ∧
      ¬ forall calls : List Call,
        ((∅ : Builder).performAll (accepted calls)).finish =
          ((∅ : Builder).performAll calls).finish := by
  constructor
  · intro h
    have hsize := congrArg (fun b => b.registry.size) (h ∅ ownerlessRed .emptyUuid rfl)
    exact absurd hsize (by decide)
  · intro h
    have hsize := congrArg (fun result => result.1.registry.size)
      (h [.row ownerlessRed, colorRecord])
    exact absurd hsize (by decide)

end Builder
end FacetRules
