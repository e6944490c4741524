import FacetRules.Proofs.Builder.Records
import FacetRules.Proofs.Expansion.Loading
import FacetRules.Proofs.Registry.Inverse
import FacetRules.Proofs.Renumbering.Answers

/-!
# Categories by themselves

What a category shows depends on the attributes, on the options and on its own rows.  The
rows of other categories number keys of their own, so that a catalog that was compiled
without them has other numbers; under the keys it says the same of the category.
-/

namespace FacetRules

namespace Row

/-- Attributes and options concern all categories. -/
def concerns (category : CategoryId) : Row -> Bool
  | ofAttribute _ => true
  | ofOption _ => true
  | ofAssignment row => row.categoryId == category
  | ofDynamicOption row => row.categoryId == category

end Row

/-- The rows of the second records are those of the first ones that concern the category.
Records that cannot be read may be left out or not. -/
def Isolates (category : CategoryId) (xs ys : List (Table × List String)) : Prop :=
  rowsOf ys = (rowsOf xs).filter (Row.concerns category)

/-- Leaving out the records of other categories leaves the rows that concern the category. -/
theorem isolates_filter (category : CategoryId) (xs : List (Table × List String)) :
    Isolates category xs (xs.filter fun record =>
      (Row.read record.1 record.2).toOption.all (Row.concerns category)) := by
  rw [Isolates, rowsOf, rowsOf, List.filterMap_filter, List.filter_filterMap]
  apply List.filterMap_congr
  intro record _hrecord
  cases (Row.read record.1 record.2).toOption with
  | none => simp
  | some row => simp [Option.filter]

/-!
# Catalogs that agree on a category
-/

namespace Catalog

/-- The catalogs store the same under the numbers that they have for the same keys, and the
category has the same rule in both, or in neither. -/
structure AgreesOn (f : Id -> Id) (category : CategoryId) (c d : Catalog) : Prop
    extends c.Renumbers f d where
  translated : forall (id : Id) (key : String),
    c.registry.uuidOf id = some key -> d.registry.uuidOf (f id) = some key
  rule : Option.Rel (Rule.Renumbers f) c.rules[category]? d.rules[category]?

section AgreesOn

variable {f : Id -> Id} {category : CategoryId} {c d : Catalog}

/-- The keys leave no choice for the numbers that have one. -/
theorem AgreesOn.eq_of_key (h : c.AgreesOn f category d) (hd : d.registry.size < UInt32.size)
    {i j : Id} (key : String) (hi : c.registry.uuidOf i = some key)
    (hj : d.registry.uuidOf j = some key) : f i = j :=
  Registry.eq_of_uuidOf_eq_some hd (h.translated i key hi) hj

theorem AgreesOn.presort (h : c.AgreesOn f category d) :
    c.presort.AgreesOn f category d.presort where
  toRenumbers := h.toRenumbers.presort
  translated := h.translated
  rule := h.toRenumbers.rule_presort h.rule

theorem AgreesOn.find_eq (h : c.AgreesOn f category d) (hf : Function.Injective f)
    (hc : c.Closed) (hd : d.Closed) {q : Conditions} (hq : q.categoryIds = [category]) :
    d.find (q.renumber f) = (c.find q).map (Visible.renumber f) := by
  have hids : (q.renumber f).categoryIds = [category] := hq
  rw [find, find, hids, hq]
  exact h.toRenumbers.findIn_eq hf hc hd h.rule q

end AgreesOn

end Catalog

/-!
# What is read without the other categories
-/

namespace Reading

section Concerns

variable {category : CategoryId} {r : Registry} {x : Reading}

theorem concerns_of_attribute? {a : Attribute} (h : x.attribute? r = some a) :
    x.row.concerns category = true := by
  rcases exists_row_of_attribute? h with ⟨row, id, hrow, _hid, _ha⟩
  rw [hrow, Row.concerns]

theorem concerns_of_option? {o : AttributeOption} (h : x.option? r = some o) :
    x.row.concerns category = true := by
  rcases exists_row_of_option? h with ⟨row, id, attributeId, hrow, _hid, _howner, _ho⟩
  rw [hrow, Row.concerns]

theorem concerns_of_assignment? {found : Assignment} (h : x.assignment? r = some found) :
    x.row.concerns category = (found.categoryId == category) := by
  rcases exists_row_of_assignment? h with ⟨row, id, hrow, _hid, rfl⟩
  rw [hrow, Row.concerns]

theorem concerns_of_dynamicOption? {found : DynamicOption}
    (h : x.dynamicOption? r = some found) :
    x.row.concerns category = (found.categoryId == category) := by
  rcases exists_row_of_dynamicOption? h with ⟨row, id, hrow, _hid, rfl⟩
  rw [hrow, Row.concerns]

end Concerns

end Reading

namespace Builder

section Isolation

variable {category : CategoryId} {xs ys : List (Table × List String)}

/-- Leaving out rows leaves out what they give. -/
theorem filterMap_isolated (h : Isolates category xs ys) {α : Type} {g : Reading -> Option α}
    {kept : α -> Bool} (hg : forall x y, g x = some y -> x.row.concerns category = kept y) :
    (readings none (recordCalls ys)).filterMap g =
      ((readings none (recordCalls xs)).filterMap g).filter kept := by
  rw [readings_recordCalls_none, readings_recordCalls_none, h, List.filterMap_map,
    List.filterMap_map, List.filterMap_filter, List.filter_filterMap]
  apply List.filterMap_congr
  intro row _hrow
  show (if row.concerns category then g ⟨none, row⟩ else none) = (g ⟨none, row⟩).filter kept
  cases hy : g ⟨none, row⟩ with
  | none =>
      exact ite_self none
  | some y =>
      rw [hg ⟨none, row⟩ y hy, Option.filter_some]

theorem attributesOf_isolated (h : Isolates category xs ys) (r : Registry) :
    attributesOf r (readings none (recordCalls ys)) =
      attributesOf r (readings none (recordCalls xs)) := by
  have hkept : attributesOf r (readings none (recordCalls ys)) =
      (attributesOf r (readings none (recordCalls xs))).filter fun _a => true :=
    filterMap_isolated h fun _x _a ha => Reading.concerns_of_attribute? ha
  rw [List.filter_true] at hkept
  exact hkept

theorem optionsOf_isolated (h : Isolates category xs ys) (r : Registry) :
    optionsOf r (readings none (recordCalls ys)) =
      optionsOf r (readings none (recordCalls xs)) := by
  have hkept : optionsOf r (readings none (recordCalls ys)) =
      (optionsOf r (readings none (recordCalls xs))).filter fun _o => true :=
    filterMap_isolated h fun _x _o ho => Reading.concerns_of_option? ho
  rw [List.filter_true] at hkept
  exact hkept

theorem assignmentsOf_isolated (h : Isolates category xs ys) (r : Registry) :
    assignmentsOf r (readings none (recordCalls ys)) =
      (assignmentsOf r (readings none (recordCalls xs))).filter (·.categoryId == category) :=
  filterMap_isolated h fun _x _row hrow => Reading.concerns_of_assignment? hrow

theorem dynamicOptionsOf_isolated (h : Isolates category xs ys) (r : Registry) :
    dynamicOptionsOf r (readings none (recordCalls ys)) =
      (dynamicOptionsOf r (readings none (recordCalls xs))).filter
        (·.categoryId == category) :=
  filterMap_isolated h fun _x _row hrow => Reading.concerns_of_dynamicOption? hrow

/-!
# Keys

The builder without the other categories is thought to go on with all records, which
changes its registry alone: it has grown to the keys of the other one.
-/

theorem mentions_recordCalls_none (records : List (Table × List String)) :
    mentions none (recordCalls records) =
      (rowsOf records).flatMap fun row => row.numbered.map (Registry.keyOf · none) := by
  rw [mentions_recordCalls_eq, rowsOf, List.filterMap_eq_flatMap_toList, List.flatMap_assoc]
  apply List.flatMap_congr
  intro record _hrecord
  rw [Call.numbered, List.map_flatMap]
  rfl

theorem mentions_subset (h : Isolates category xs ys) :
    mentions none (recordCalls ys) ⊆ mentions none (recordCalls xs) := by
  rw [mentions_recordCalls_none, mentions_recordCalls_none, h]
  intro key hkey
  rcases List.mem_flatMap.mp hkey with ⟨row, hrow, hnumbered⟩
  exact List.mem_flatMap.mpr ⟨row, (List.mem_filter.mp hrow).1, hnumbered⟩

/-- The registry that has numbered the keys of the second records, and then those of the
first ones. -/
def jointRegistry (tree : CategoryTree) (xs ys : List (Table × List String)) : Registry :=
  (((∅ : Builder).withCategories tree).performAll (recordCalls (ys ++ xs))).registry

theorem keys_jointRegistry (tree : CategoryTree) (xs ys : List (Table × List String)) :
    (jointRegistry tree xs ys).keys.toList =
      (mentions none (recordCalls ys) ++ mentions none (recordCalls xs)).eraseDups := by
  rw [jointRegistry, keys_performAll_withCategories, mentions_recordCalls_eq,
    List.flatMap_append, mentions_recordCalls_eq, mentions_recordCalls_eq]

theorem extends_jointRegistry (tree : CategoryTree) (xs ys : List (Table × List String)) :
    Registry.Extends
      (((∅ : Builder).withCategories tree).performAll (recordCalls ys)).registry
      (jointRegistry tree xs ys) := by
  rw [Registry.Extends, keys_jointRegistry, keys_performAll_withCategories,
    List.eraseDups_append]
  exact List.prefix_append _ _

theorem sameKeys_jointRegistry (h : Isolates category xs ys) (tree : CategoryTree) :
    (jointRegistry tree xs ys).SameKeys
      (((∅ : Builder).withCategories tree).performAll (recordCalls xs)).registry := by
  intro key
  rw [<- Array.mem_toList_iff, <- Array.mem_toList_iff, keys_jointRegistry,
    keys_performAll_withCategories, List.mem_eraseDups, List.mem_eraseDups, List.mem_append,
    or_iff_right_of_imp fun hkey => mentions_subset h hkey]

/-!
# What is held for the category
-/

/-- The number that a key gets later on stands for nothing that is stored. -/
theorem Ranged.stored_eq_none {b : Builder} (hb : b.Ranged) {r : Registry}
    (hgrown : b.registry.Extends r) (hsize : r.size < UInt32.size) {uuid : String} {id : Id}
    (hnone : b.registry.lookupSuffixed uuid none = none)
    (hid : r.lookupSuffixed uuid none = some id) :
    b.attributes[id]? = none ∧ b.options.get? id = none := by
  have hsmaller : b.registry.size < UInt32.size :=
    Nat.lt_of_le_of_lt hgrown.length_le hsize
  have hfresh : ¬ InRange b.registry.size id := by
    intro hrange
    have hne : uuid ≠ "" := by
      intro hempty
      rw [hempty, Registry.lookupSuffixed_empty] at hid
      cases hid
    rw [Registry.lookupSuffixed, if_neg hne] at hnone hid
    cases hkey : b.registry.uuidOf id with
    | none =>
        rcases Registry.uuidOf_eq_none_iff.mp hkey with hzero | hbeyond
        · rw [hzero] at hrange
          exact absurd hrange.1 (by decide)
        · exact absurd hrange.2 (Nat.not_le.mpr hbeyond)
    | some key =>
        have hsame := hgrown.uuidOf hkey
        rw [(Registry.uuidOf_eq_some_iff hsize).mpr hid] at hsame
        rw [Option.some.inj hsame, (Registry.uuidOf_eq_some_iff hsmaller).mp hkey] at hnone
        cases hnone
  constructor
  · cases ha : b.attributes[id]? with
    | none => rfl
    | some a => exact absurd (hb.attribute_range id a ha) hfresh
  · cases ho : b.options.get? id with
    | none => rfl
    | some o => exact absurd (hb.option_range id o ho).1 hfresh

/-- Without the other categories, all that is put aside is for the category. -/
theorem Holds.filter_assignments {b : Builder}
    (hb : b.Holds (readings none (recordCalls ys))) (h : Isolates category xs ys) :
    b.assignments.toList.filter (·.categoryId == category) = b.assignments.toList := by
  have hassignments : b.assignments.toList = assignmentsOf b.registry _ := hb.assignments_eq
  rw [hassignments, assignmentsOf_isolated h, List.filter_filter]
  simp only [Bool.and_self]

theorem Holds.filter_dynamicOptions {b : Builder}
    (hb : b.Holds (readings none (recordCalls ys))) (h : Isolates category xs ys) :
    b.dynamicOptions.toList.filter (·.categoryId == category) = b.dynamicOptions.toList := by
  have hdynamic : b.dynamicOptions.toList = dynamicOptionsOf b.registry _ :=
    hb.dynamicOptions_eq
  rw [hdynamic, dynamicOptionsOf_isolated h, List.filter_filter]
  simp only [Bool.and_self]

/-- The builders hold the same for the category, under the numbers of the keys. -/
theorem Holds.renumbersIn_isolated {b c : Builder} {r : Registry}
    (h : Isolates category xs ys) (hb : b.Holds (readings none (recordCalls ys)))
    (hc : c.Holds (readings none (recordCalls xs))) (hgrown : b.registry.Extends r)
    (hkeys : r.SameKeys c.registry) (hsize : r.size < UInt32.size) :
    b.RenumbersIn (r.translate c.registry) category c := by
  have hsuffix : forall x, x ∈ readings none (recordCalls ys) -> x.suffix = none :=
    fun x hx => suffix_of_mem_readings hx
  have hread : forall x, x ∈ readings none (recordCalls ys) ->
      x.Renumbers (r.translate c.registry) r c.registry x := by
    intro x _hx
    exact ⟨rfl, fun uuid => hkeys.lookupSuffixed_eq hsize uuid x.suffix⟩
  have hranged : b.Ranged :=
    hb.ranged (Nat.lt_of_le_of_lt hgrown.length_le hsize) hsuffix
  -- The rows that `b` has read say the same to a builder that knows the other keys as well.
  have hjoint := hb.withRegistry hgrown
  have hstored := hjoint.renumbers hc (hkeys.bijective_translate hsize).injective
    (by rw [<- attributesOf_isolated h, attributesOf_renumber hread])
    (by rw [<- optionsOf_isolated h, optionsOf_renumber hread])
    (fun uuid => hkeys.lookupSuffixed_eq hsize uuid none)
  exact
    { injective := hstored.injective
      attribute_eq := hstored.attribute_eq
      option_eq := hstored.option_eq
      listed := hstored.listed
      lookup_of_some := by
        intro uuid id hid
        exact hstored.lookup_of_some uuid id (hgrown.lookupSuffixed hid)
      lookup_of_none := by
        intro uuid id hnone hid
        rw [hkeys.lookupSuffixed_eq hsize] at hid
        rcases Option.map_eq_some_iff.mp hid with ⟨joint, hlater, rfl⟩
        rcases hranged.stored_eq_none hgrown hsize hnone hlater with ⟨hattribute, hoption⟩
        rw [hstored.attribute_eq, hstored.option_eq]
        exact ⟨congrArg _ hattribute, congrArg _ hoption⟩
      assignments_eq := by
        have hassignments : c.assignments.toList = assignmentsOf c.registry _ :=
          hc.assignments_eq
        rw [hassignments, <- assignmentsOf_isolated h, assignmentsOf_renumber hread,
          hjoint.filter_assignments h]
        exact congrArg _ hjoint.assignments_eq.symm
      dynamicOptions_eq := by
        have hdynamic : c.dynamicOptions.toList = dynamicOptionsOf c.registry _ :=
          hc.dynamicOptions_eq
        rw [hdynamic, <- dynamicOptionsOf_isolated h,
          dynamicOptionsOf_renumber hread hsuffix, hjoint.filter_dynamicOptions h]
        exact congrArg _ hjoint.dynamicOptions_eq.symm
      suffix_eq := fun row hrow => (hranged.dynamicOption_range row hrow).2 }

/-- A catalog says of a category what it says without the rows of other categories: there is
a translation of all numbers, which goes by the keys, under which the rules of the category
are the same, and under which it answers the same, sorted or not. -/
theorem finish_isolated (h : Isolates category xs ys) (tree : CategoryTree)
    (hsize : (((∅ : Builder).withCategories tree).performAll
      (recordCalls xs)).registry.size < UInt32.size) :
    let alone := (((∅ : Builder).withCategories tree).performAll (recordCalls ys)).finish.1
    let among := (((∅ : Builder).withCategories tree).performAll (recordCalls xs)).finish.1
    exists f : Id -> Id, Function.Bijective f ∧
      alone.AgreesOn f category among ∧
      alone.presort.AgreesOn f category among.presort ∧
      forall q, q.categoryIds = [category] ->
        among.find (q.renumber f) = (alone.find q).map (Visible.renumber f) ∧
          among.presort.find (q.renumber f) =
            (alone.presort.find q).map (Visible.renumber f) := by
  intro alone among
  have hgrown := extends_jointRegistry tree xs ys
  have hkeys := sameKeys_jointRegistry h tree
  have hjoint : (jointRegistry tree xs ys).size < UInt32.size := by
    rw [<- hkeys.size_eq]
    exact hsize
  have hf := hkeys.bijective_translate hjoint
  have hin := Holds.renumbersIn_isolated h (holds_performAll tree (recordCalls ys))
    (holds_performAll tree (recordCalls xs)) hgrown hkeys hjoint
  have hagrees : alone.AgreesOn ((jointRegistry tree xs ys).translate among.registry) category
      among :=
    { attribute_eq := hin.attributes_loaded
      option_eq := hin.option_eq
      translated := by
        intro id key hid
        exact (hkeys.uuidOf_translate hjoint id).trans (hgrown.uuidOf hid)
      rule := hin.finish }
  have halone : alone.Closed := (Catalog.Compiled.finish tree (recordCalls ys)).closed
  have hamong : among.Closed := (Catalog.Compiled.finish tree (recordCalls xs)).closed
  refine ⟨_, hf, hagrees, hagrees.presort, ?_⟩
  intro q hq
  exact ⟨hagrees.find_eq hf.injective halone hamong hq,
    hagrees.presort.find_eq hf.injective halone.presort hamong.presort hq⟩

/-- The tables of a shop with two categories.  Category 20 numbers the key of an attribute
that is not loaded, which is a precondition in category 10 as well. -/
def twoCategories : List (Table × List String) :=
  [(.assignments, ["first", "20", "00000000-0000-0000-0000-000000000002", "f"]),
    (.attributes, ["kind", "", "f", "f", "f", "Kind", "1", "", "", "f", "", ""]),
    (.attributes, ["size", "", "f", "f", "f", "Size", "2", "", "", "f", "", ""]),
    (.options, ["00000000-0000-0000-0000-000000000001", "kind", "Shoes", "f", "1", "", "", "", ""]),
    (.options, ["forty-three", "size", "43", "f", "1", "", "", "", ""]),
    (.assignments, ["second", "10", "kind", "f"]),
    (.assignments, ["third", "10", "size", "f"]),
    (.assignments, ["fourth", "20", "size", "f"]),
    (.dynamicOptions, ["fifth", "10", "forty-three",
      "\x7b00000000-0000-0000-0000-000000000001\x7d", "f"]),
    (.dynamicOptions, ["sixth", "10", "forty-three",
      "\x7b00000000-0000-0000-0000-000000000002\x7d", "f"]),
    (.dynamicOptions, ["seventh", "20", "forty-three", "", "f"])]

/-- The same tables for a shop that has category 10 alone. -/
def oneCategory : List (Table × List String) :=
  twoCategories.filter fun record =>
    (Row.read record.1 record.2).toOption.all (Row.concerns 10)

/-- The numbers are others, and size 43 comes into view for shoes in either shop. -/
theorem finish_isolated_shoes :
    Isolates 10 twoCategories oneCategory ∧
      exists v, (((∅ : Builder).withCategories ∅).performAll
          (recordCalls twoCategories)).finish.1.presort.find
            { categoryIds := [10], pairs := [{ attributeId := 2, optionId := 4 }] } = .ok v ∧
        v.attributes =
          [{ id := 2, title := "Kind", options := [{ id := 4, title := "Shoes" }] },
            { id := 3, title := "Size", options := [{ id := 5, title := "43" }] }] := by
  have hisolates : Isolates 10 twoCategories oneCategory := isolates_filter 10 twoCategories
  have hsize : (((∅ : Builder).withCategories ∅).performAll
      (recordCalls twoCategories)).registry.size < UInt32.size := by
    decide +kernel
  rcases finish_isolated hisolates ∅ hsize with ⟨f, _hf, hagrees, _hsorted, hfind⟩
  have hkeysAlone : (((∅ : Builder).withCategories ∅).performAll
      (recordCalls oneCategory)).finish.1.registry.keys =
        #["kind", "size", "00000000-0000-0000-0000-000000000001", "forty-three"] := by
    decide +kernel
  have hkeysAmong : (((∅ : Builder).withCategories ∅).performAll
      (recordCalls twoCategories)).finish.1.registry.keys =
        #["00000000-0000-0000-0000-000000000002", "kind", "size",
          "00000000-0000-0000-0000-000000000001", "forty-three"] := by
    decide +kernel
  have hnumbered : (((∅ : Builder).withCategories ∅).performAll
      (recordCalls twoCategories)).finish.1.registry.size < UInt32.size := by
    rw [Registry.size, hkeysAmong]
    decide
  have hkind : f 1 = 2 := hagrees.eq_of_key hnumbered "kind"
    (by simp [Registry.uuidOf, hkeysAlone]) (by simp [Registry.uuidOf, hkeysAmong])
  have hlarge : f 2 = 3 := hagrees.eq_of_key hnumbered "size"
    (by simp [Registry.uuidOf, hkeysAlone]) (by simp [Registry.uuidOf, hkeysAmong])
  have hshoes : f 3 = 4 :=
    hagrees.eq_of_key hnumbered "00000000-0000-0000-0000-000000000001"
      (by simp [Registry.uuidOf, hkeysAlone]) (by simp [Registry.uuidOf, hkeysAmong])
  have hforty : f 4 = 5 := hagrees.eq_of_key hnumbered "forty-three"
    (by simp [Registry.uuidOf, hkeysAlone]) (by simp [Registry.uuidOf, hkeysAmong])
  have halone : ((((∅ : Builder).withCategories ∅).performAll
      (recordCalls oneCategory)).finish.1.presort.find
        { categoryIds := [10], pairs := [{ attributeId := 1, optionId := 3 }] }).map
          Visible.attributes =
      .ok [{ id := 1, title := "Kind", options := [{ id := 3, title := "Shoes" }] },
        { id := 2, title := "Size", options := [{ id := 4, title := "43" }] }] := by
    rfl
  rcases exists_of_map_eq_ok halone with ⟨v, hv, hattributes⟩
  have hquery : Conditions.renumber f
      { categoryIds := [10], pairs := [{ attributeId := 1, optionId := 3 }] } =
        { categoryIds := [10], pairs := [{ attributeId := 2, optionId := 4 }] } := by
    simp [Conditions.renumber, Pair.renumber, hkind, hshoes]
  have hanswer := (hfind
    { categoryIds := [10], pairs := [{ attributeId := 1, optionId := 3 }] } rfl).2
  rw [hquery, hv] at hanswer
  refine ⟨hisolates, v.renumber f, hanswer, ?_⟩
  show v.attributes.map _ = _
  rw [hattributes]
  simp [VisibleAttribute.renumber, VisibleOption.renumber, hkind, hlarge, hshoes, hforty]

end Isolation

end Builder
end FacetRules
