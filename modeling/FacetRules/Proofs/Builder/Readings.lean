import FacetRules.Builder.Basic
import FacetRules.Proofs.Registry.Growth

/-!
# What a history of calls has read

A builder is what its history has made of it.  Of every call that added a row, the
row is kept here together with the suffix that was in force; calls that failed, that
added nothing or that changed the suffix leave no row.  Since numbers never change,
the rows can be read with the numbers of the final registry, and this gives back all
that the builder holds: the attributes, the options, and what is put aside.
-/

namespace FacetRules

namespace Row

/-- The keys that adding a row numbers, one after the other. -/
def keys : Row -> List String
  | ofAttribute row => [row.uuid]
  | ofOption row => [row.uuid, row.attributeUuid]
  | ofAssignment row => [row.attributeUuid]
  | ofDynamicOption row => [row.optionUuid]

/-- Whether all keys of a row can be numbered. -/
def isKeyed (row : Row) : Bool :=
  row.keys.all (· != "")

end Row

/-- A row that was added, with the suffix that was in force. -/
structure Reading where
  suffix : Option String
  row : Row

namespace Reading

/-- The number of a key that stands in the row. -/
def number? (r : Registry) (x : Reading) (uuid : String) : Option Id :=
  r.lookupSuffixed uuid x.suffix

def attribute? (r : Registry) (x : Reading) : Option Attribute :=
  match x.row with
  | .ofAttribute row => (x.number? r row.uuid).map fun id => Attribute.ofRow id row
  | _ => none

def option? (r : Registry) (x : Reading) : Option AttributeOption :=
  match x.row with
  | .ofOption row =>
      (x.number? r row.uuid).bind fun id =>
        (x.number? r row.attributeUuid).map fun attributeId =>
          AttributeOption.ofRow id attributeId row
  | _ => none

def assignment? (r : Registry) (x : Reading) : Option Assignment :=
  match x.row with
  | .ofAssignment row =>
      (x.number? r row.attributeUuid).map fun attributeId =>
        { categoryId := row.categoryId, attributeId, isDisabled := row.isDisabled }
  | _ => none

def dynamicOption? (r : Registry) (x : Reading) : Option DynamicOption :=
  match x.row with
  | .ofDynamicOption row =>
      (x.number? r row.optionUuid).map fun optionId =>
        { categoryId := row.categoryId
          optionId
          precondition := row.precondition
          isDisabled := row.isDisabled
          suffix := x.suffix }
  | _ => none

/-!
# Rows of each table

What a reading gives tells the table of its row, and the numbers of its keys.
-/

section Tables

variable {r : Registry} {x : Reading}

theorem exists_row_of_attribute? {a : Attribute} (h : x.attribute? r = some a) :
    exists row id, x.row = .ofAttribute row ∧ x.number? r row.uuid = some id ∧
      a = Attribute.ofRow id row := by
  rcases x with ⟨suffix, row⟩
  cases row with
  | ofAttribute row =>
      rcases Option.map_eq_some_iff.mp h with ⟨id, hid, rfl⟩
      exact ⟨row, id, rfl, hid, rfl⟩
  | ofOption row => cases h
  | ofAssignment row => cases h
  | ofDynamicOption row => cases h

theorem exists_row_of_option? {o : AttributeOption} (h : x.option? r = some o) :
    exists row id attributeId, x.row = .ofOption row ∧ x.number? r row.uuid = some id ∧
      x.number? r row.attributeUuid = some attributeId ∧
      o = AttributeOption.ofRow id attributeId row := by
  rcases x with ⟨suffix, row⟩
  cases row with
  | ofOption row =>
      rcases Option.bind_eq_some_iff.mp h with ⟨id, hid, hrest⟩
      rcases Option.map_eq_some_iff.mp hrest with ⟨attributeId, howner, rfl⟩
      exact ⟨row, id, attributeId, rfl, hid, howner, rfl⟩
  | ofAttribute row => cases h
  | ofAssignment row => cases h
  | ofDynamicOption row => cases h

theorem exists_row_of_assignment? {found : Assignment} (h : x.assignment? r = some found) :
    exists row attributeId, x.row = .ofAssignment row ∧
      x.number? r row.attributeUuid = some attributeId ∧
      found = { categoryId := row.categoryId, attributeId, isDisabled := row.isDisabled } := by
  rcases x with ⟨suffix, row⟩
  cases row with
  | ofAssignment row =>
      rcases Option.map_eq_some_iff.mp h with ⟨attributeId, hid, rfl⟩
      exact ⟨row, attributeId, rfl, hid, rfl⟩
  | ofAttribute row => cases h
  | ofOption row => cases h
  | ofDynamicOption row => cases h

theorem exists_row_of_dynamicOption? {found : DynamicOption}
    (h : x.dynamicOption? r = some found) :
    exists row optionId, x.row = .ofDynamicOption row ∧
      x.number? r row.optionUuid = some optionId ∧
      found = { categoryId := row.categoryId
                optionId
                precondition := row.precondition
                isDisabled := row.isDisabled
                suffix := x.suffix } := by
  rcases x with ⟨suffix, row⟩
  cases row with
  | ofDynamicOption row =>
      rcases Option.map_eq_some_iff.mp h with ⟨optionId, hid, rfl⟩
      exact ⟨row, optionId, rfl, hid, rfl⟩
  | ofAttribute row => cases h
  | ofOption row => cases h
  | ofAssignment row => cases h

end Tables

def Numbered (r : Registry) (x : Reading) : Prop :=
  forall key, key ∈ x.row.keys -> exists id, x.number? r key = some id

/-!
# Reading with a larger registry

A row all of whose keys are numbered says the same in every registry that has grown
out of the one at hand.
-/

section Growth

variable {r s : Registry} {x : Reading}

theorem Numbered.extends (h : x.Numbered r) (hrs : r.Extends s) : x.Numbered s := by
  intro key hkey
  rcases h key hkey with ⟨id, hid⟩
  exists id
  exact hrs.lookupSuffixed hid

theorem Numbered.number?_eq (h : x.Numbered r) (hrs : r.Extends s) {key : String}
    (hkey : key ∈ x.row.keys) : x.number? s key = x.number? r key := by
  rcases h key hkey with ⟨id, hid⟩
  rw [hid]
  exact hrs.lookupSuffixed hid

theorem Numbered.attribute?_eq (h : x.Numbered r) (hrs : r.Extends s) :
    x.attribute? s = x.attribute? r := by
  rcases x with ⟨suffix, row⟩
  cases row with
  | ofAttribute row =>
      simp only [attribute?]
      rw [h.number?_eq hrs (by simp [Row.keys])]
  | ofOption row => rfl
  | ofAssignment row => rfl
  | ofDynamicOption row => rfl

theorem Numbered.option?_eq (h : x.Numbered r) (hrs : r.Extends s) :
    x.option? s = x.option? r := by
  rcases x with ⟨suffix, row⟩
  cases row with
  | ofOption row =>
      simp only [option?]
      rw [h.number?_eq hrs (by simp [Row.keys]), h.number?_eq hrs (by simp [Row.keys])]
  | ofAttribute row => rfl
  | ofAssignment row => rfl
  | ofDynamicOption row => rfl

theorem Numbered.assignment?_eq (h : x.Numbered r) (hrs : r.Extends s) :
    x.assignment? s = x.assignment? r := by
  rcases x with ⟨suffix, row⟩
  cases row with
  | ofAssignment row =>
      simp only [assignment?]
      rw [h.number?_eq hrs (by simp [Row.keys])]
  | ofAttribute row => rfl
  | ofOption row => rfl
  | ofDynamicOption row => rfl

theorem Numbered.dynamicOption?_eq (h : x.Numbered r) (hrs : r.Extends s) :
    x.dynamicOption? s = x.dynamicOption? r := by
  rcases x with ⟨suffix, row⟩
  cases row with
  | ofDynamicOption row =>
      simp only [dynamicOption?]
      rw [h.number?_eq hrs (by simp [Row.keys])]
  | ofAttribute row => rfl
  | ofOption row => rfl
  | ofAssignment row => rfl

end Growth

end Reading

namespace Builder

namespace Call

def row? : Call -> Option Row
  | .fields table values => (Row.read table values).toOption
  | .row added => some added
  | .suffix _ => none

def suffixAfter (current : Option String) : Call -> Option String
  | .suffix s => s.filter (· != "")
  | _ => current

/-- What a call adds under the suffix in force. -/
def reading? (current : Option String) (call : Call) : Option Reading :=
  (call.row?.filter Row.isKeyed).map fun row => { suffix := current, row }

end Call

/-- What a history of calls adds, the suffix in force at its beginning given. -/
def readings : Option String -> List Call -> List Reading
  | _, [] => []
  | current, call :: calls =>
      (call.reading? current).toList ++ readings (call.suffixAfter current) calls

/-!
# What a builder holds
-/

/-- The builder holds these rows and nothing else. -/
structure Holds (b : Builder) (xs : List Reading) : Prop where
  attributes_eq : b.attributes =
    (xs.filterMap (Reading.attribute? b.registry)).foldl (fun m a => m.insert a.id a) ∅
  options_eq : b.options =
    (xs.filterMap (Reading.option? b.registry)).foldl OptionTable.insert ∅
  assignments_eq : b.assignments.toList = xs.filterMap (Reading.assignment? b.registry)
  dynamicOptions_eq :
    b.dynamicOptions.toList = xs.filterMap (Reading.dynamicOption? b.registry)
  numbered : forall x, x ∈ xs -> x.Numbered b.registry

theorem holds_empty (tree : CategoryTree) : ((∅ : Builder).withCategories tree).Holds [] where
  attributes_eq := rfl
  options_eq := rfl
  assignments_eq := rfl
  dynamicOptions_eq := rfl
  numbered := by
    intro x hx
    cases hx

theorem filterMap_eq_of_numbered {α : Type} {xs : List Reading} {r s : Registry}
    {f : Registry -> Reading -> Option α} (hxs : forall x, x ∈ xs -> x.Numbered r)
    (hf : forall x, x.Numbered r -> f s x = f r x) :
    xs.filterMap (f s) = xs.filterMap (f r) := by
  induction xs with
  | nil =>
      rfl
  | cons x xs ih =>
      have hx : f s x = f r x := hf x (hxs x (by simp))
      have hrest := ih fun y hy => hxs y (by simp [hy])
      rw [List.filterMap_cons, List.filterMap_cons, hx, hrest]

theorem Holds.withRegistry {b : Builder} {xs : List Reading} (h : b.Holds xs)
    {s : Registry} (hs : b.registry.Extends s) : Holds { b with registry := s } xs where
  attributes_eq := by
    rw [filterMap_eq_of_numbered h.numbered fun _ hx => hx.attribute?_eq hs]
    exact h.attributes_eq
  options_eq := by
    rw [filterMap_eq_of_numbered h.numbered fun _ hx => hx.option?_eq hs]
    exact h.options_eq
  assignments_eq := by
    rw [filterMap_eq_of_numbered h.numbered fun _ hx => hx.assignment?_eq hs]
    exact h.assignments_eq
  dynamicOptions_eq := by
    rw [filterMap_eq_of_numbered h.numbered fun _ hx => hx.dynamicOption?_eq hs]
    exact h.dynamicOptions_eq
  numbered := by
    intro x hx
    exact (h.numbered x hx).extends hs

/-- A builder with one more row, which its registry must know. -/
def absorb (b : Builder) (x : Reading) : Builder :=
  { b with
    attributes := (x.attribute? b.registry).toList.foldl (fun m a => m.insert a.id a)
      b.attributes
    options := (x.option? b.registry).toList.foldl OptionTable.insert b.options
    assignments := (x.assignment? b.registry).toList.foldl Array.push b.assignments
    dynamicOptions :=
      (x.dynamicOption? b.registry).toList.foldl Array.push b.dynamicOptions }

theorem filterMap_snoc {α : Type} (f : Reading -> Option α) (xs : List Reading)
    (x : Reading) : (xs ++ [x]).filterMap f = xs.filterMap f ++ (f x).toList := by
  cases hx : f x with
  | none =>
      simp [hx]
  | some y =>
      simp [hx]

theorem toList_foldl_push {α : Type} (xs : Array α) (y : Option α) :
    (y.toList.foldl Array.push xs).toList = xs.toList ++ y.toList := by
  cases y with
  | none =>
      simp
  | some y =>
      simp

theorem Holds.absorb {b : Builder} {xs : List Reading} (h : b.Holds xs) {x : Reading}
    (hx : x.Numbered b.registry) : (b.absorb x).Holds (xs ++ [x]) where
  attributes_eq := by
    simp only [Builder.absorb]
    rw [filterMap_snoc, List.foldl_append, <- h.attributes_eq]
  options_eq := by
    simp only [Builder.absorb]
    rw [filterMap_snoc, List.foldl_append, <- h.options_eq]
  assignments_eq := by
    simp only [Builder.absorb]
    rw [filterMap_snoc, toList_foldl_push, <- h.assignments_eq]
  dynamicOptions_eq := by
    simp only [Builder.absorb]
    rw [filterMap_snoc, toList_foldl_push, <- h.dynamicOptions_eq]
  numbered := by
    intro y hy
    rcases List.mem_append.mp hy with hy | hy
    · exact h.numbered y hy
    · rw [List.mem_singleton] at hy
      rw [hy]
      exact hx

/-!
# One call

Numbering an empty key fails and changes nothing; any other key gets its number, and
the registry has grown.  A call therefore either adds its row under the suffix in
force or leaves everything but the registry as it was.
-/

theorem numbering_empty (b : Builder) (next : Id -> Builder -> Outcome) :
    b.numbering "" next = (.error .emptyUuid, b) := by
  simp [numbering, Registry.resolve_empty]

theorem numbering_of_ne {uuid : String} (h : uuid ≠ "") (b : Builder) :
    exists id r, b.registry.Extends r ∧ r.suffix = b.registry.suffix ∧
      r.lookupSuffixed uuid b.registry.suffix = some id ∧
      forall next, b.numbering uuid next = next id { b with registry := r } := by
  rcases Registry.resolve_fst h b.registry with ⟨id, hid, hlookup⟩
  exists id, (b.registry.resolve uuid).2
  refine ⟨Registry.extends_resolve _ _, Registry.suffix_resolve _ _, hlookup, ?_⟩
  intro next
  simp only [numbering, hid]

theorem numbered_of_keys_eq {r : Registry} {x : Reading} {key : String} {id : Id}
    (hkeys : x.row.keys = [key]) (hid : x.number? r key = some id) : x.Numbered r := by
  intro other hother
  rw [hkeys] at hother
  rw [List.mem_singleton.mp hother]
  exact ⟨id, hid⟩

theorem addRow_of_isKeyed (b : Builder) {row : Row} (h : row.isKeyed = true) :
    exists r, b.registry.Extends r ∧ r.suffix = b.registry.suffix ∧
      Reading.Numbered r ⟨b.registry.suffix, row⟩ ∧
      b.addRow row =
        (.ok (), Builder.absorb { b with registry := r } ⟨b.registry.suffix, row⟩) := by
  cases row with
  | ofAttribute row =>
      have huuid : row.uuid ≠ "" := by simpa [Row.isKeyed, Row.keys] using h
      rcases numbering_of_ne huuid b with ⟨id, r, hr, hsuffix, hid, heq⟩
      refine ⟨r, hr, hsuffix, numbered_of_keys_eq rfl hid, ?_⟩
      rw [addRow, addAttribute, heq]
      simp [absorb, Reading.attribute?, Reading.option?, Reading.assignment?,
        Reading.dynamicOption?, Reading.number?, hid, Attribute.ofRow]
  | ofOption row =>
      have hkeys : row.uuid ≠ "" ∧ row.attributeUuid ≠ "" := by
        simpa [Row.isKeyed, Row.keys] using h
      rcases numbering_of_ne hkeys.1 b with ⟨id, r, hr, hsuffix, hid, heq⟩
      rcases numbering_of_ne hkeys.2 { b with registry := r } with
        ⟨owner, s, hs, hsuffix', howner, heq'⟩
      have hid' := hs.lookupSuffixed hid
      simp only [hsuffix] at howner
      refine ⟨s, hr.trans hs, hsuffix'.trans hsuffix, ?_, ?_⟩
      · intro key hkey
        rcases List.mem_cons.mp hkey with hkey | hkey
        · rw [hkey]
          exact ⟨id, hid'⟩
        · rw [List.mem_singleton.mp hkey]
          exact ⟨owner, howner⟩
      · rw [addRow, addOption, heq, heq']
        simp [absorb, Reading.attribute?, Reading.option?, Reading.assignment?,
          Reading.dynamicOption?, Reading.number?, hid', howner]
  | ofAssignment row =>
      have huuid : row.attributeUuid ≠ "" := by simpa [Row.isKeyed, Row.keys] using h
      rcases numbering_of_ne huuid b with ⟨id, r, hr, hsuffix, hid, heq⟩
      refine ⟨r, hr, hsuffix, numbered_of_keys_eq rfl hid, ?_⟩
      rw [addRow, addAssignment, heq]
      simp [absorb, Reading.attribute?, Reading.option?, Reading.assignment?,
        Reading.dynamicOption?, Reading.number?, hid]
  | ofDynamicOption row =>
      have huuid : row.optionUuid ≠ "" := by simpa [Row.isKeyed, Row.keys] using h
      rcases numbering_of_ne huuid b with ⟨id, r, hr, hsuffix, hid, heq⟩
      refine ⟨r, hr, hsuffix, numbered_of_keys_eq rfl hid, ?_⟩
      rw [addRow, addDynamicOption, heq]
      simp [absorb, Reading.attribute?, Reading.option?, Reading.assignment?,
        Reading.dynamicOption?, Reading.number?, hid, hsuffix]

/-- A row with an empty key is refused; only the registry may have grown. -/
theorem addRow_of_not_isKeyed (b : Builder) {row : Row} (h : row.isKeyed = false) :
    exists r, b.registry.Extends r ∧ r.suffix = b.registry.suffix ∧
      b.addRow row = (.error .emptyUuid, { b with registry := r }) := by
  cases row with
  | ofAttribute row =>
      have huuid : row.uuid = "" := by simpa [Row.isKeyed, Row.keys] using h
      refine ⟨b.registry, Registry.Extends.refl _, rfl, ?_⟩
      rw [addRow, addAttribute, huuid, numbering_empty]
  | ofOption row =>
      by_cases huuid : row.uuid = ""
      · refine ⟨b.registry, Registry.Extends.refl _, rfl, ?_⟩
        rw [addRow, addOption, huuid, numbering_empty]
      · have howner : row.attributeUuid = "" := by
          simpa [Row.isKeyed, Row.keys, huuid] using h
        rcases numbering_of_ne huuid b with ⟨id, r, hr, hsuffix, _hid, heq⟩
        refine ⟨r, hr, hsuffix, ?_⟩
        rw [addRow, addOption, heq, howner, numbering_empty]
  | ofAssignment row =>
      have huuid : row.attributeUuid = "" := by simpa [Row.isKeyed, Row.keys] using h
      refine ⟨b.registry, Registry.Extends.refl _, rfl, ?_⟩
      rw [addRow, addAssignment, huuid, numbering_empty]
  | ofDynamicOption row =>
      have huuid : row.optionUuid = "" := by simpa [Row.isKeyed, Row.keys] using h
      refine ⟨b.registry, Registry.Extends.refl _, rfl, ?_⟩
      rw [addRow, addDynamicOption, huuid, numbering_empty]

/-!
# A history
-/

theorem Holds.addRow {b : Builder} {xs : List Reading} (h : b.Holds xs) (row : Row) :
    (b.addRow row).2.Holds
        (xs ++ ((some row).filter Row.isKeyed).toList.map (Reading.mk b.registry.suffix)) ∧
      (b.addRow row).2.registry.suffix = b.registry.suffix := by
  cases hkeyed : row.isKeyed with
  | true =>
      rcases addRow_of_isKeyed b hkeyed with ⟨r, hr, hsuffix, hx, heq⟩
      rw [heq]
      constructor
      · simpa [Option.filter, hkeyed] using (h.withRegistry hr).absorb hx
      · exact hsuffix
  | false =>
      rcases addRow_of_not_isKeyed b hkeyed with ⟨r, hr, hsuffix, heq⟩
      rw [heq]
      constructor
      · simpa [Option.filter, hkeyed] using h.withRegistry hr
      · exact hsuffix

theorem Holds.withReport {b : Builder} {xs : List Reading} (h : b.Holds xs)
    (report : Report) : Holds { b with report } xs :=
  ⟨h.attributes_eq, h.options_eq, h.assignments_eq, h.dynamicOptions_eq, h.numbered⟩

theorem Holds.setSuffix {b : Builder} {xs : List Reading} (h : b.Holds xs)
    (suffix : Option String) : (b.setSuffix suffix).Holds xs :=
  h.withRegistry (s := b.registry.setSuffix suffix) (Registry.Extends.refl b.registry)

theorem Holds.perform {b : Builder} {xs : List Reading} (h : b.Holds xs) (call : Call) :
    (b.perform call).2.Holds (xs ++ (call.reading? b.registry.suffix).toList) ∧
      (b.perform call).2.registry.suffix = call.suffixAfter b.registry.suffix := by
  cases call with
  | fields table values =>
      simp only [Builder.perform, addFields, Call.reading?, Call.row?, Call.suffixAfter]
      cases hread : Row.read table values with
      | error reason =>
          constructor
          · simpa [Except.toOption] using h.withReport ((b.report.read table).skip reason)
          · rfl
      | ok row =>
          have hrow := (h.withReport (b.report.read table)).addRow row
          constructor
          · simpa [Except.toOption, Option.toList_map] using hrow.1
          · exact hrow.2
  | row row =>
      simp only [Builder.perform, Call.reading?, Call.row?, Call.suffixAfter]
      have hrow := h.addRow row
      constructor
      · simpa [Option.toList_map] using hrow.1
      · exact hrow.2
  | suffix suffix =>
      constructor
      · simpa [Builder.perform, Call.reading?, Call.row?] using h.setSuffix suffix
      · rfl

theorem Holds.performAll {b : Builder} {xs : List Reading} (h : b.Holds xs)
    (calls : List Call) :
    (b.performAll calls).Holds (xs ++ readings b.registry.suffix calls) := by
  induction calls generalizing b xs with
  | nil =>
      simpa [readings] using h
  | cons call calls ih =>
      rcases h.perform call with ⟨hstep, hsuffix⟩
      have hrest := ih hstep
      rw [hsuffix, List.append_assoc] at hrest
      exact hrest

/-- A new builder holds, after any history, the rows of this history. -/
theorem holds_performAll (tree : CategoryTree) (calls : List Call) :
    (((∅ : Builder).withCategories tree).performAll calls).Holds (readings none calls) :=
  (holds_empty tree).performAll calls

end Builder
end FacetRules
