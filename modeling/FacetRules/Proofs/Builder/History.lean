import FacetRules.Proofs.Builder.Readings
import FacetRules.Proofs.Report

/-!
# Keys and counters of a history

The keys of a builder are all keys that its calls have numbered, each under the suffix in
force, in the order of their first appearance.  Its counters are those of the records
that its calls have read and refused.
-/

namespace FacetRules

namespace Registry

def resolveAll (r : Registry) (uuids : List String) : Registry :=
  uuids.foldl (fun r uuid => (r.resolve uuid).2) r

theorem suffix_resolveAll (r : Registry) (uuids : List String) :
    (r.resolveAll uuids).suffix = r.suffix := by
  induction uuids generalizing r with
  | nil =>
      rfl
  | cons uuid uuids ih =>
      show ((r.resolve uuid).2.resolveAll uuids).suffix = _
      rw [ih, suffix_resolve]

theorem keys_resolveAll (r : Registry) {uuids : List String}
    (h : forall uuid, uuid ∈ uuids -> uuid ≠ "") :
    (r.resolveAll uuids).keys.toList =
      (r.keys.toList ++ uuids.map fun uuid => keyOf uuid r.suffix).eraseDups := by
  induction uuids generalizing r with
  | nil =>
      rw [List.map_nil, List.append_nil, eraseDups_of_nodup r.keys_nodup]
      rfl
  | cons uuid uuids ih =>
      show ((r.resolve uuid).2.resolveAll uuids).keys.toList = _
      have hrest : forall uuid, uuid ∈ uuids -> uuid ≠ "" := by
        intro uuid hmem
        exact h uuid (by simp [hmem])
      rw [ih _ hrest, suffix_resolve, keys_resolve (h uuid (by simp)),
        eraseDups_eraseDups_append, List.append_assoc]
      rfl

end Registry

namespace Row

/-- The keys that adding a row gets to number: it stops at the first empty one. -/
def numbered (row : Row) : List String :=
  row.keys.takeWhile (· != "")

theorem ne_empty_of_mem_numbered {row : Row} {uuid : String} (h : uuid ∈ row.numbered) :
    uuid ≠ "" := by
  have hne : (uuid != "") = true := List.all_eq_true.mp List.all_takeWhile uuid h
  exact bne_iff_ne.mp hne

end Row

namespace Builder

namespace Call

def numbered (call : Call) : List String :=
  call.row?.toList.flatMap Row.numbered

def table? : Call -> Option Table
  | .fields table _ => some table
  | _ => none

def skip? : Call -> Option SkipReason
  | .fields table values =>
      match Row.read table values with
      | .ok _ => none
      | .error reason => some reason
  | _ => none

theorem ne_empty_of_mem_numbered {call : Call} {uuid : String} (h : uuid ∈ call.numbered) :
    uuid ≠ "" := by
  rcases List.mem_flatMap.mp h with ⟨row, _hrow, hmem⟩
  exact Row.ne_empty_of_mem_numbered hmem

end Call

/-- The keys that a history numbers, the suffix in force at its beginning given. -/
def mentions : Option String -> List Call -> List String
  | _, [] => []
  | current, call :: calls =>
      call.numbered.map (Registry.keyOf · current) ++ mentions (call.suffixAfter current) calls

/-!
# The category tree
-/

theorem categories_addRow (b : Builder) (row : Row) :
    (b.addRow row).2.categories = b.categories := by
  cases hkeyed : row.isKeyed with
  | true =>
      rcases addRow_of_isKeyed b hkeyed with ⟨r, _hr, _hsuffix, _hx, heq⟩
      rw [heq]
      rfl
  | false =>
      rcases addRow_of_not_isKeyed b hkeyed with ⟨r, _hr, _hsuffix, heq⟩
      rw [heq]

theorem categories_performAll (b : Builder) (calls : List Call) :
    (b.performAll calls).categories = b.categories := by
  induction calls generalizing b with
  | nil =>
      rfl
  | cons call calls ih =>
      rw [performAll_cons, ih]
      cases call with
      | fields table values =>
          simp only [perform, addFields]
          cases Row.read table values with
          | error reason => rfl
          | ok row => exact categories_addRow _ row
      | row row => exact categories_addRow b row
      | suffix suffix => rfl

/-!
# Keys
-/

theorem numbering_of_ok {b : Builder} {uuid : String} {id : Id}
    (h : (b.registry.resolve uuid).1 = .ok id) (next : Id -> Builder -> Outcome) :
    b.numbering uuid next = next id { b with registry := (b.registry.resolve uuid).2 } := by
  simp only [numbering, h]

theorem registry_numbering (b : Builder) (uuid : String) (rest : List String)
    {next : Id -> Builder -> Outcome}
    (hnext : forall id c, (next id c).2.registry =
      c.registry.resolveAll (rest.takeWhile (· != ""))) :
    (b.numbering uuid next).2.registry =
      b.registry.resolveAll ((uuid :: rest).takeWhile (· != "")) := by
  by_cases h : uuid = ""
  · rw [h, numbering_empty, List.takeWhile_cons_of_neg (by decide)]
    rfl
  · rcases Registry.resolve_fst h b.registry with ⟨id, hid, _hlookup⟩
    have hkeep : (uuid :: rest).takeWhile (· != "") = uuid :: rest.takeWhile (· != "") :=
      List.takeWhile_cons_of_pos (bne_iff_ne.mpr h)
    rw [numbering_of_ok hid, hnext, hkeep]
    rfl

theorem registry_addRow (b : Builder) (row : Row) :
    (b.addRow row).2.registry = b.registry.resolveAll row.numbered := by
  cases row with
  | ofAttribute row =>
      exact registry_numbering b row.uuid [] fun _id _c => rfl
  | ofOption row =>
      apply registry_numbering b row.uuid [row.attributeUuid]
      intro id c
      exact registry_numbering c row.attributeUuid [] fun _id _c => rfl
  | ofAssignment row =>
      exact registry_numbering b row.attributeUuid [] fun _id _c => rfl
  | ofDynamicOption row =>
      exact registry_numbering b row.optionUuid [] fun _id _c => rfl

theorem registry_perform (b : Builder) (call : Call) :
    (b.perform call).2.registry.keys = (b.registry.resolveAll call.numbered).keys ∧
      (b.perform call).2.registry.suffix = call.suffixAfter b.registry.suffix := by
  have hrow : forall (c : Builder) (row : Row), c.registry = b.registry ->
      (c.addRow row).2.registry.keys = (b.registry.resolveAll row.numbered).keys ∧
        (c.addRow row).2.registry.suffix = b.registry.suffix := by
    intro c row hc
    rw [registry_addRow, hc, Registry.suffix_resolveAll]
    exact ⟨rfl, rfl⟩
  cases call with
  | fields table values =>
      simp only [perform, addFields, Call.numbered, Call.row?, Call.suffixAfter]
      cases Row.read table values with
      | error reason =>
          exact ⟨rfl, rfl⟩
      | ok row =>
          simpa [Except.toOption] using hrow { b with report := b.report.read table } row rfl
  | row row =>
      simpa [perform, Call.numbered, Call.row?, Call.suffixAfter] using hrow b row rfl
  | suffix suffix =>
      exact ⟨rfl, rfl⟩

theorem keys_performAll (b : Builder) (calls : List Call) :
    (b.performAll calls).registry.keys.toList =
      (b.registry.keys.toList ++ mentions b.registry.suffix calls).eraseDups := by
  induction calls generalizing b with
  | nil =>
      rw [performAll_nil, mentions, List.append_nil, eraseDups_of_nodup b.registry.keys_nodup]
  | cons call calls ih =>
      rcases registry_perform b call with ⟨hkeys, hsuffix⟩
      rw [performAll_cons, ih, hkeys, hsuffix,
        Registry.keys_resolveAll _ fun _uuid h => Call.ne_empty_of_mem_numbered h,
        eraseDups_eraseDups_append, List.append_assoc]
      rfl

theorem keys_performAll_withCategories (tree : CategoryTree) (calls : List Call) :
    (((∅ : Builder).withCategories tree).performAll calls).registry.keys.toList =
      (mentions none calls).eraseDups := by
  rw [keys_performAll]
  rfl

/-!
# Counters
-/

theorem report_addRow (b : Builder) (row : Row) : (b.addRow row).2.report = b.report := by
  cases hkeyed : row.isKeyed with
  | true =>
      rcases addRow_of_isKeyed b hkeyed with ⟨r, _hr, _hsuffix, _hx, heq⟩
      rw [heq]
      rfl
  | false =>
      rcases addRow_of_not_isKeyed b hkeyed with ⟨r, _hr, _hsuffix, heq⟩
      rw [heq]

theorem report_perform (b : Builder) (call : Call) :
    (b.perform call).2.report =
      (b.report.readAll call.table?.toList).skipAll call.skip?.toList := by
  cases call with
  | fields table values =>
      simp only [perform, addFields, Call.table?, Call.skip?]
      cases Row.read table values with
      | error reason =>
          rfl
      | ok row =>
          exact report_addRow { b with report := b.report.read table } row
  | row row =>
      exact report_addRow b row
  | suffix suffix =>
      rfl

theorem filterMap_cons_eq {α β : Type} (f : α -> Option β) (x : α) (xs : List α) :
    (x :: xs).filterMap f = (f x).toList ++ xs.filterMap f := by
  cases hx : f x with
  | none =>
      rw [List.filterMap_cons_none hx]
      rfl
  | some y =>
      rw [List.filterMap_cons_some hx]
      rfl

/-- The report after a history counts the records that were read and those that were
refused. -/
theorem report_performAll (b : Builder) (calls : List Call) :
    (b.performAll calls).report =
      (b.report.readAll (calls.filterMap Call.table?)).skipAll
        (calls.filterMap Call.skip?) := by
  induction calls generalizing b with
  | nil =>
      rfl
  | cons call calls ih =>
      rw [performAll_cons, ih, report_perform, filterMap_cons_eq, filterMap_cons_eq,
        Report.readAll_append, Report.skipAll_append, Report.readAll_skipAll]

theorem rows_performAll (b : Builder) (calls : List Call) (table : Table) :
    (b.performAll calls).report.rows table =
      b.report.rows table + (calls.filterMap Call.table?).count table := by
  rw [report_performAll, Report.rows_skipAll, Report.rows_readAll]

theorem skips_performAll (b : Builder) (calls : List Call) (reason : SkipReason) :
    (b.performAll calls).report.skips reason =
      b.report.skips reason + (calls.filterMap Call.skip?).count reason := by
  rw [report_performAll, Report.skips_skipAll, Report.skips_readAll]

end Builder
end FacetRules
