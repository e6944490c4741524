import FacetRules.Proofs.Expansion.Passes
import FacetRules.Proofs.Registry.Inverse
import FacetRules.Proofs.Renumbering.Answers

/-!
# Interleaved tables

Records of different tables can be added in any mixture, as long as those of each table
come in the same order.  The numbers are then given in another order, and nothing else
changes: the catalogs are renumberings of each other, by the numbers that the registries
give to the same keys.
-/

namespace FacetRules

namespace Row

def table : Row -> Table
  | ofAttribute _ => .attributes
  | ofOption _ => .options
  | ofAssignment _ => .assignments
  | ofDynamicOption _ => .dynamicOptions

theorem table_of_read {table : Table} {fields : List String} {row : Row}
    (h : Row.read table fields = .ok row) : row.table = table := by
  cases table with
  | attributes =>
      rcases exists_of_map_eq_ok h with ⟨read, _hread, rfl⟩
      rfl
  | options =>
      rcases exists_of_map_eq_ok h with ⟨read, _hread, rfl⟩
      rfl
  | assignments =>
      rcases exists_of_map_eq_ok h with ⟨read, _hread, rfl⟩
      rfl
  | dynamicOptions =>
      rcases exists_of_map_eq_ok h with ⟨read, _hread, rfl⟩
      rfl

end Row

namespace Reading

section Tables

variable {r : Registry} {x : Reading}

theorem table_of_attribute? {a : Attribute} (h : x.attribute? r = some a) :
    x.row.table = .attributes := by
  rcases exists_row_of_attribute? h with ⟨row, id, hrow, _hid, _ha⟩
  rw [hrow, Row.table]

theorem table_of_option? {o : AttributeOption} (h : x.option? r = some o) :
    x.row.table = .options := by
  rcases exists_row_of_option? h with ⟨row, id, attributeId, hrow, _hid, _howner, _ho⟩
  rw [hrow, Row.table]

theorem table_of_assignment? {found : Assignment} (h : x.assignment? r = some found) :
    x.row.table = .assignments := by
  rcases exists_row_of_assignment? h with ⟨row, id, hrow, _hid, _hfound⟩
  rw [hrow, Row.table]

theorem table_of_dynamicOption? {found : DynamicOption} (h : x.dynamicOption? r = some found) :
    x.row.table = .dynamicOptions := by
  rcases exists_row_of_dynamicOption? h with ⟨row, id, hrow, _hid, _hfound⟩
  rw [hrow, Row.table]

end Tables

end Reading

/-- Of each table the same records come in the same order. -/
def SameTables (xs ys : List (Table × List String)) : Prop :=
  forall table, xs.filter (·.1 == table) = ys.filter (·.1 == table)

namespace SameTables

variable {xs ys : List (Table × List String)}

theorem perm (h : SameTables xs ys) : xs.Perm ys := by
  apply List.perm_iff_count.mpr
  intro record
  -- A record comes up as often as among the records of its own table.
  have hfilter : forall zs : List (Table × List String),
      (zs.filter (·.1 == record.1)).count record = zs.count record := by
    intro zs
    exact List.count_filter (beq_self_eq_true record.1)
  rw [<- hfilter xs, <- hfilter ys, h record.1]

theorem flatMap_eq {α : Type} {f : Table × List String -> List α} (h : SameTables xs ys)
    (table : Table) (hf : forall record, record.1 ≠ table -> f record = []) :
    xs.flatMap f = ys.flatMap f := by
  have hfilter : forall zs : List (Table × List String),
      zs.flatMap f = (zs.filter (·.1 == table)).flatMap f := by
    intro zs
    induction zs with
    | nil =>
        rfl
    | cons z zs ih =>
        rw [List.flatMap_cons, List.filter_cons, ih]
        by_cases hz : z.1 = table
        · rw [if_pos (beq_iff_eq.mpr hz), List.flatMap_cons]
        · rw [if_neg (mt beq_iff_eq.mp hz), hf z hz]
          rfl
  rw [hfilter xs, hfilter ys, h table]

end SameTables

namespace Builder

section Interleaving

variable {xs ys : List (Table × List String)}

/-!
# What the records say
-/

theorem exists_read_of_mem_reading? {record : Table × List String} {x : Reading}
    (h : x ∈ ((Call.fields record.1 record.2).reading? none).toList) :
    Row.read record.1 record.2 = .ok x.row := by
  rcases Option.map_eq_some_iff.mp (Option.mem_toList.mp h) with ⟨row, hrow, rfl⟩
  have hread := (Option.filter_eq_some_iff.mp hrow).1
  simp only [Call.row?] at hread
  cases hresult : Row.read record.1 record.2 with
  | error reason =>
      rw [hresult] at hread
      cases hread
  | ok read =>
      rw [hresult] at hread
      cases hread
      rfl

/-- What depends on the rows of one table only is the same in both histories. -/
theorem filterMap_readings_eq {α : Type} {f : Reading -> Option α} (h : SameTables xs ys)
    (table : Table) (hf : forall x y, f x = some y -> x.row.table = table) :
    (readings none (recordCalls xs)).filterMap f =
      (readings none (recordCalls ys)).filterMap f := by
  rw [readings_recordCalls_eq, readings_recordCalls_eq, List.filterMap_flatMap,
    List.filterMap_flatMap]
  apply h.flatMap_eq table
  intro record hne
  apply List.filterMap_eq_nil_iff.mpr
  intro x hx
  cases hy : f x with
  | none =>
      rfl
  | some y =>
      have htable := Row.table_of_read (exists_read_of_mem_reading? hx)
      rw [hf x y hy] at htable
      exact absurd htable.symm hne

/-- The same keys come up, though not in the same order. -/
theorem sameKeys_interleaved (h : SameTables xs ys) (tree : CategoryTree) :
    (((∅ : Builder).withCategories tree).performAll (recordCalls xs)).registry.SameKeys
      (((∅ : Builder).withCategories tree).performAll (recordCalls ys)).registry := by
  have hkeys : forall (zs : List (Table × List String)) (key : String),
      key ∈ (((∅ : Builder).withCategories tree).performAll
        (recordCalls zs)).registry.keys <-> key ∈ mentions none (recordCalls zs) := by
    intro zs key
    rw [<- Array.mem_toList_iff, keys_performAll_withCategories, List.mem_eraseDups]
  have hperm : (mentions none (recordCalls xs)).Perm (mentions none (recordCalls ys)) := by
    rw [mentions_recordCalls_eq, mentions_recordCalls_eq]
    exact h.perm.flatMap_right _
  intro key
  rw [hkeys, hkeys]
  exact hperm.mem_iff.symm

theorem report_interleaved (h : SameTables xs ys) (b : Builder) :
    (b.performAll (recordCalls xs)).report = (b.performAll (recordCalls ys)).report := by
  have hcalls : (recordCalls xs).Perm (recordCalls ys) := h.perm.map _
  rw [report_performAll, report_performAll, Report.readAll_perm (hcalls.filterMap _),
    Report.skipAll_perm (hcalls.filterMap _)]

/-- Both histories leave the same things in the builder, under different numbers. -/
theorem renumbersAll_interleaved (h : SameTables xs ys) (tree : CategoryTree)
    (hsize : (((∅ : Builder).withCategories tree).performAll
      (recordCalls xs)).registry.size < UInt32.size) :
    let b := ((∅ : Builder).withCategories tree).performAll (recordCalls xs)
    let c := ((∅ : Builder).withCategories tree).performAll (recordCalls ys)
    b.RenumbersAll (b.registry.translate c.registry) c := by
  intro b c
  have hb : b.Holds (readings none (recordCalls xs)) := holds_performAll tree (recordCalls xs)
  have hc : c.Holds (readings none (recordCalls ys)) := holds_performAll tree (recordCalls ys)
  have hkeys : b.registry.SameKeys c.registry := sameKeys_interleaved h tree
  have hsuffix : forall x, x ∈ readings none (recordCalls xs) -> x.suffix = none :=
    fun x hx => suffix_of_mem_readings hx
  have hread : forall x, x ∈ readings none (recordCalls xs) ->
      x.Renumbers (b.registry.translate c.registry) b.registry c.registry x := by
    intro x _hx
    exact ⟨rfl, fun uuid => hkeys.lookupSuffixed_eq hsize uuid x.suffix⟩
  have hattributes : attributesOf c.registry (readings none (recordCalls xs)) =
      attributesOf c.registry (readings none (recordCalls ys)) :=
    filterMap_readings_eq h .attributes fun _x _a hx => Reading.table_of_attribute? hx
  have hoptions : optionsOf c.registry (readings none (recordCalls xs)) =
      optionsOf c.registry (readings none (recordCalls ys)) :=
    filterMap_readings_eq h .options fun _x _o hx => Reading.table_of_option? hx
  have hassignments : assignmentsOf c.registry (readings none (recordCalls xs)) =
      assignmentsOf c.registry (readings none (recordCalls ys)) :=
    filterMap_readings_eq h .assignments fun _x _row hx => Reading.table_of_assignment? hx
  have hdynamic : dynamicOptionsOf c.registry (readings none (recordCalls xs)) =
      dynamicOptionsOf c.registry (readings none (recordCalls ys)) :=
    filterMap_readings_eq h .dynamicOptions fun _x _row hx => Reading.table_of_dynamicOption? hx
  -- The rows are read with the other numbers in the first order, and then come in the second.
  exact
    { toRenumbers := hb.renumbers hc (hkeys.bijective_translate hsize).injective
        (by rw [<- hattributes, attributesOf_renumber hread])
        (by rw [<- hoptions, optionsOf_renumber hread])
        (fun uuid => hkeys.lookupSuffixed_eq hsize uuid none)
      assignments_eq := by
        rw [hc.assignments_eq, hb.assignments_eq]
        exact hassignments.symm.trans (assignmentsOf_renumber hread)
      dynamicOptions_eq := by
        rw [hc.dynamicOptions_eq, hb.dynamicOptions_eq]
        exact hdynamic.symm.trans (dynamicOptionsOf_renumber hread hsuffix)
      suffix_eq := by
        intro row hrow
        rw [hb.dynamicOptions_eq] at hrow
        exact suffix_of_mem_dynamicOptionsOf hsuffix hrow }

/-- However the tables are interleaved, the finished catalogs differ in their numbers alone,
and so do their answers. -/
theorem finish_interleaved (h : SameTables xs ys) (tree : CategoryTree)
    (hsize : (((∅ : Builder).withCategories tree).performAll
      (recordCalls xs)).registry.size < UInt32.size) :
    let b := ((∅ : Builder).withCategories tree).performAll (recordCalls xs)
    let c := ((∅ : Builder).withCategories tree).performAll (recordCalls ys)
    let f := b.finish.1.registry.translate c.finish.1.registry
    Function.Bijective f ∧
      b.finish.1.registry.SameKeys c.finish.1.registry ∧
      c.finish.2 = b.finish.2 ∧
      c.options.toList = b.options.toList.map (AttributeOption.renumber f) ∧
      b.finish.1.IsRenumbering f c.finish.1 ∧
      b.finish.1.presort.IsRenumbering f c.finish.1.presort ∧
      (forall q, c.finish.1.find (q.renumber f) =
        (b.finish.1.find q).map (Visible.renumber f)) ∧
      forall q, c.finish.1.presort.find (q.renumber f) =
        (b.finish.1.presort.find q).map (Visible.renumber f) := by
  intro b c f
  have hkeys : b.registry.SameKeys c.registry := sameKeys_interleaved h tree
  have hf : Function.Bijective f := hkeys.bijective_translate hsize
  have hall : b.RenumbersAll f c := renumbersAll_interleaved h tree hsize
  have hreport : c.report = b.report := (report_interleaved h _).symm
  have hcatalogs : b.finish.1.IsRenumbering f c.finish.1 :=
    { attribute_eq := hall.attributes_loaded
      option_eq := hall.option_eq
      uuidOf_eq := hkeys.uuidOf_translate hsize
      rule := fun category => (hall.inCategory category).finish
      categories_eq := by
        show c.categories = b.categories
        rw [categories_performAll, categories_performAll] }
  have hb : b.finish.1.Closed := (Catalog.Compiled.finish tree (recordCalls xs)).closed
  have hc : c.finish.1.Closed := (Catalog.Compiled.finish tree (recordCalls ys)).closed
  refine ⟨hf, hkeys, ?_, hall.listed, hcatalogs, hcatalogs.presort, ?_, ?_⟩
  · rw [report_finish, report_finish, hall.compileSkips_eq, hreport]
  · exact hcatalogs.find_eq hf.injective hb hc
  · exact hcatalogs.presort.find_eq hf.injective hb.presort hc.presort

/-- The tables of the shop, with what refers to a row in front of the row. -/
def mixedShoeTables : List (Table × List String) :=
  [(.dynamicOptions, ["third", "10", "forty-two", "", "f"]),
    (.assignments, ["first", "10", "kind", "f"]),
    (.options, ["00000000-0000-0000-0000-000000000001", "kind", "Shoes", "f", "1", "", "", "", ""]),
    (.dynamicOptions,
      ["fourth", "10", "forty-three", "\x7b00000000-0000-0000-0000-000000000001\x7d", "f"]),
    (.options, ["forty-two", "size", "42", "f", "1", "", "", "", ""]),
    (.assignments, ["second", "10", "size", "f"]),
    (.attributes, ["kind", "", "f", "f", "f", "Kind", "1", "", "", "f", "", ""]),
    (.options, ["forty-three", "size", "43", "f", "2", "", "", "", ""]),
    (.attributes, ["size", "", "f", "f", "f", "Size", "2", "", "", "f", "", ""])]

theorem sameTables_mixedShoeTables : SameTables shoeTables mixedShoeTables := by
  intro table
  cases table with
  | attributes => rfl
  | options => rfl
  | assignments => rfl
  | dynamicOptions => rfl

/-- Shoes are selected under the numbers of the mixed tables, and size 43 comes into view
under them. -/
theorem finish_interleaved_shoes :
    SameTables shoeTables mixedShoeTables ∧
      exists v, (((∅ : Builder).withCategories ∅).performAll
          (recordCalls mixedShoeTables)).finish.1.presort.find
            { categoryIds := [10], pairs := [{ attributeId := 2, optionId := 3 }] } = .ok v ∧
        v.attributes =
          [{ id := 2, title := "Kind", options := [{ id := 3, title := "Shoes" }] },
            { id := 5, title := "Size", options := [{ id := 4, title := "43" }] }] := by
  have h := finish_interleaved sameTables_mixedShoeTables ∅ (by decide +kernel)
  have hanswers := h.2.2.2.2.2.2.2
    { categoryIds := [10], pairs := [{ attributeId := 1, optionId := 3 }] }
  have hsingle : ((((∅ : Builder).withCategories ∅).performAll
      (recordCalls shoeTables)).finish.1.presort.find
        { categoryIds := [10], pairs := [{ attributeId := 1, optionId := 3 }] }).map
          Visible.attributes =
      .ok [{ id := 1, title := "Kind", options := [{ id := 3, title := "Shoes" }] },
        { id := 2, title := "Size", options := [{ id := 5, title := "43" }] }] := by
    rfl
  rcases exists_of_map_eq_ok hsingle with ⟨v, hv, hattributes⟩
  rw [hv] at hanswers
  refine ⟨sameTables_mixedShoeTables, _, hanswers, ?_⟩
  show v.attributes.map _ = _
  rw [hattributes]
  rfl

end Interleaving
end Builder
end FacetRules
