import FacetRules.Proofs.Compile.Finish
import FacetRules.Proofs.Row.Grammar

/-!
# Categories numbered 0

A category column is not set when it is empty or the text 0.  The column is asked for that as it
stands, but its number is read without the blanks around it, from a run of digits that may have a
plus sign in front.  The other ways to write 0 pass for a set column, so they make a category of
this number, which is assigned attributes and options and is given a rule like any other.
-/

namespace FacetRules

/-!
# Spellings of zero
-/

namespace Text

theorem eq_zeros_of_ofDigitChars_eq_zero {cs : List Char} (hall : cs.all Char.isDigit = true)
    (h : Nat.ofDigitChars 10 cs 0 = 0) : cs = List.replicate cs.length '0' := by
  induction cs with
  | nil =>
      rfl
  | cons c cs ih =>
      rw [List.all_cons, Bool.and_eq_true] at hall
      -- The first digit weighs a power of 10, so no later digit makes up for it.
      rw [Nat.ofDigitChars_cons, Nat.ofDigitChars_eq_ofDigitChars_zero, Nat.add_eq_zero_iff,
        Nat.mul_zero, Nat.zero_add] at h
      have hpow : 10 ^ cs.length ≠ 0 := Nat.pos_iff_ne_zero.mp (Nat.pow_pos (by decide))
      have hdigit : c.toNat - '0'.toNat = 0 := (Nat.mul_eq_zero.mp h.1).resolve_left hpow
      have hlow := (Char.isDigit_iff_toNat.mp hall.1).1
      have hc : c = '0' :=
        Char.toNat_inj.mp (Nat.le_antisymm (Nat.le_of_sub_eq_zero hdigit) hlow)
      rw [List.length_cons, List.replicate_succ, <- ih hall.2 h.2, hc]

theorem digits_zero_iff {cs : List Char} :
    Digits cs 0 <-> exists n, cs = List.replicate (n + 1) '0' := by
  constructor
  · intro h
    have hzeros := eq_zeros_of_ofDigitChars_eq_zero (List.all_eq_true.mpr h.isDigit_of_mem)
      h.value_eq
    cases cs with
    | nil => exact absurd rfl h.ne_nil
    | cons c cs => exact ⟨cs.length, hzeros⟩
  · intro hexists
    rcases hexists with ⟨n, rfl⟩
    refine ⟨List.cons_ne_nil _ _, ?_, ?_⟩
    · intro c hc
      rw [List.eq_of_mem_replicate hc]
      rfl
    · rw [Nat.ofDigitChars_replicate_zero, Nat.mul_zero]

/-- One or more zeros, with a plus sign in front or none. -/
def IsZeros (cs : List Char) : Prop :=
  exists n, cs = List.replicate (n + 1) '0' ∨ cs = '+' :: List.replicate (n + 1) '0'

theorem unsigned_zero_iff {cs : List Char} : Unsigned cs 0 <-> IsZeros cs := by
  constructor
  · intro h
    cases h with
    | bare digits =>
        rcases digits_zero_iff.mp digits with ⟨n, rfl⟩
        exact ⟨n, .inl rfl⟩
    | plus digits =>
        rcases digits_zero_iff.mp digits with ⟨n, rfl⟩
        exact ⟨n, .inr rfl⟩
  · intro hexists
    rcases hexists with ⟨n, rfl | rfl⟩
    · exact .bare (digits_zero_iff.mpr ⟨n, rfl⟩)
    · exact .plus (digits_zero_iff.mpr ⟨n, rfl⟩)

theorem number_zero_iff {cs : List Char} : Number cs 0 <-> IsZeros (trim cs) :=
  exists_trims_iff.trans unsigned_zero_iff

end Text

/-!
# Columns
-/

namespace Row

/-- The column spells 0, but not in the one way that stands for a column that is not set. -/
def HidesZero (column : String) : Prop :=
  Text.IsZeros (Text.trim column.toList) ∧ column ≠ "0"

theorem category_eq_zero_iff {column : String} : category column = .ok 0 <-> HidesZero column := by
  rw [category_eq_ok_iff, IsCategory, Text.number_zero_iff]
  constructor
  · intro h
    exact ⟨h.2, h.1.2⟩
  · intro h
    refine ⟨⟨?_, h.2⟩, h.1⟩
    intro hempty
    rw [hempty] at h
    rcases h.1 with ⟨n, hbare | hsigned⟩
    · cases hbare
    · cases hsigned

theorem category_eq_missing_iff {column : String} :
    category column = .error .missingCategory <-> ¬ IsSet column := by
  unfold category
  rw [bind_eq_error_iff]
  constructor
  · intro hcases
    rcases hcases with hunset | ⟨value, _hvalue, hread⟩
    · exact (required_eq_error_iff.mp hunset).1
    · split at hread
      · cases hread
      · cases hread
  · intro hunset
    exact .inl (required_eq_error_iff.mpr ⟨hunset, rfl⟩)

section Missing

variable {uuid column disabled : String} {rest : List String}

theorem readAssignment_eq_missing_iff {owner : String} :
    readAssignment (uuid :: column :: owner :: disabled :: rest) = .error .missingCategory <->
      ¬ IsSet column := by
  rw [<- category_eq_missing_iff, readAssignment, bind_eq_error_iff]
  constructor
  · intro hcases
    rcases hcases with hcategory | ⟨_categoryId, _hcategory, hrest⟩
    · exact hcategory
    · rcases bind_eq_error_iff.mp hrest with howner | ⟨_value, _hvalue, hrow⟩
      · cases (required_eq_error_iff.mp howner).2
      · cases hrow
  · exact .inl

theorem readDynamicOption_eq_missing_iff {option precondition : String} :
    readDynamicOption (uuid :: column :: option :: precondition :: disabled :: rest) =
        .error .missingCategory <->
      ¬ IsSet column := by
  rw [<- category_eq_missing_iff, readDynamicOption, bind_eq_error_iff]
  constructor
  · intro hcases
    rcases hcases with hcategory | ⟨_categoryId, _hcategory, hrest⟩
    · exact hcategory
    · rcases bind_eq_error_iff.mp hrest with hoption | ⟨_value, _hvalue, hrow⟩
      · cases (required_eq_error_iff.mp hoption).2
      · cases hrow
  · exact .inl

end Missing

end Row

/-!
# Imports
-/

namespace Builder

section Zero

variable {b : Builder} {records : List (Table × List String)}

theorem Holds.mem_assignments_zero_iff (h : b.Holds (readings none (recordCalls records)))
    {row : Assignment} :
    row ∈ b.assignments.toList ∧ row.categoryId = 0 <->
      exists uuid column owner disabled rest,
        (Table.assignments, uuid :: column :: owner :: disabled :: rest) ∈ records ∧
          Row.HidesZero column ∧ Row.IsSet owner ∧
          row = { categoryId := 0, attributeId := b.registry.numberOf owner
                  isDisabled := Row.flag disabled } := by
  rw [h.mem_assignments_iff]
  constructor
  · intro hall
    rcases hall with
      ⟨⟨uuid, column, owner, disabled, rest, _categoryId, hmem, hcategory, hset, rfl⟩, hzero⟩
    cases hzero
    exact ⟨uuid, column, owner, disabled, rest, hmem, Row.category_eq_zero_iff.mp hcategory, hset,
      rfl⟩
  · intro hexists
    rcases hexists with ⟨uuid, column, owner, disabled, rest, hmem, hhidden, hset, rfl⟩
    exact ⟨⟨uuid, column, owner, disabled, rest, 0, hmem, Row.category_eq_zero_iff.mpr hhidden,
      hset, rfl⟩, rfl⟩

theorem Holds.mem_dynamicOptions_zero_iff (h : b.Holds (readings none (recordCalls records)))
    {row : DynamicOption} :
    row ∈ b.dynamicOptions.toList ∧ row.categoryId = 0 <->
      exists uuid column option precondition disabled rest,
        (Table.dynamicOptions,
            uuid :: column :: option :: precondition :: disabled :: rest) ∈ records ∧
          Row.HidesZero column ∧ Row.IsSet option ∧
          row = { categoryId := 0, optionId := b.registry.numberOf option, precondition
                  isDisabled := Row.flag disabled, suffix := none } := by
  rw [h.mem_dynamicOptions_iff]
  constructor
  · intro hall
    rcases hall with ⟨⟨uuid, column, option, precondition, disabled, rest, _categoryId, hmem,
      hcategory, hset, rfl⟩, hzero⟩
    cases hzero
    exact ⟨uuid, column, option, precondition, disabled, rest, hmem,
      Row.category_eq_zero_iff.mp hcategory, hset, rfl⟩
  · intro hexists
    rcases hexists with
      ⟨uuid, column, option, precondition, disabled, rest, hmem, hhidden, hset, rfl⟩
    exact ⟨⟨uuid, column, option, precondition, disabled, rest, 0, hmem,
      Row.category_eq_zero_iff.mpr hhidden, hset, rfl⟩, rfl⟩

theorem Holds.exists_assignment_zero_iff (h : b.Holds (readings none (recordCalls records))) :
    (exists row, row ∈ b.assignments.toList ∧ row.categoryId = 0) <->
      exists uuid column owner disabled rest,
        (Table.assignments, uuid :: column :: owner :: disabled :: rest) ∈ records ∧
          Row.HidesZero column ∧ Row.IsSet owner := by
  constructor
  · intro hexists
    rcases hexists with ⟨row, hrow⟩
    rcases h.mem_assignments_zero_iff.mp hrow with
      ⟨uuid, column, owner, disabled, rest, hmem, hhidden, hset, _hrow⟩
    exact ⟨uuid, column, owner, disabled, rest, hmem, hhidden, hset⟩
  · intro hexists
    rcases hexists with ⟨uuid, column, owner, disabled, rest, hmem, hhidden, hset⟩
    exact ⟨_, h.mem_assignments_zero_iff.mpr
      ⟨uuid, column, owner, disabled, rest, hmem, hhidden, hset, rfl⟩⟩

theorem Holds.exists_dynamicOption_zero_iff (h : b.Holds (readings none (recordCalls records))) :
    (exists row, row ∈ b.dynamicOptions.toList ∧ row.categoryId = 0) <->
      exists uuid column option precondition disabled rest,
        (Table.dynamicOptions,
            uuid :: column :: option :: precondition :: disabled :: rest) ∈ records ∧
          Row.HidesZero column ∧ Row.IsSet option := by
  constructor
  · intro hexists
    rcases hexists with ⟨row, hrow⟩
    rcases h.mem_dynamicOptions_zero_iff.mp hrow with
      ⟨uuid, column, option, precondition, disabled, rest, hmem, hhidden, hset, _hrow⟩
    exact ⟨uuid, column, option, precondition, disabled, rest, hmem, hhidden, hset⟩
  · intro hexists
    rcases hexists with ⟨uuid, column, option, precondition, disabled, rest, hmem, hhidden, hset⟩
    exact ⟨_, h.mem_dynamicOptions_zero_iff.mpr
      ⟨uuid, column, option, precondition, disabled, rest, hmem, hhidden, hset, rfl⟩⟩

/-- A rule of category 0 needs an enabled assignment to it, of an attribute that is loaded. -/
theorem Holds.exists_rule_zero_iff (h : b.Holds (readings none (recordCalls records))) :
    (exists (key : CategoryId) (r : Rule),
        b.finish.1.rules[key]? = some r ∧ r.categoryId = 0) <->
      exists uuid column owner disabled rest,
        (Table.assignments, uuid :: column :: owner :: disabled :: rest) ∈ records ∧
          Row.HidesZero column ∧ Row.IsSet owner ∧ disabled ≠ "t" ∧
          b.registry.numberOf owner ∈ b.finish.1.attributes := by
  rw [exists_rule_iff]
  constructor
  · intro hexists
    rcases hexists with ⟨row, hrow, hzero, henabled, hloaded⟩
    rcases h.mem_assignments_zero_iff.mp ⟨hrow, hzero⟩ with
      ⟨uuid, column, owner, disabled, rest, hmem, hhidden, hset, rfl⟩
    exact ⟨uuid, column, owner, disabled, rest, hmem, hhidden, hset,
      beq_eq_false_iff_ne.mp henabled, hloaded⟩
  · intro hexists
    rcases hexists with
      ⟨uuid, column, owner, disabled, rest, hmem, hhidden, hset, henabled, hloaded⟩
    rcases h.mem_assignments_zero_iff.mpr
      ⟨uuid, column, owner, disabled, rest, hmem, hhidden, hset, rfl⟩ with ⟨hrow, hzero⟩
    exact ⟨_, hrow, hzero, beq_eq_false_iff_ne.mpr henabled, hloaded⟩

end Zero

/-- A record is refused for want of a category exactly if its category column is empty or the
text 0.  After any records an assignment of category 0 is put aside exactly for a record that
hides this number, and so is a dynamic option.  A rule of category 0 needs an enabled assignment
of this kind, of an attribute that is loaded. -/
theorem category_zero_iff (tree : CategoryTree) (records : List (Table × List String)) :
    let b := ((∅ : Builder).withCategories tree).performAll (recordCalls records)
    (forall uuid column owner disabled rest,
        Row.readAssignment (uuid :: column :: owner :: disabled :: rest) =
            .error .missingCategory <->
          column = "" ∨ column = "0") ∧
      (forall uuid column option precondition disabled rest,
        Row.readDynamicOption (uuid :: column :: option :: precondition :: disabled :: rest) =
            .error .missingCategory <->
          column = "" ∨ column = "0") ∧
      ((exists row, row ∈ b.assignments.toList ∧ row.categoryId = 0) <->
        exists uuid column owner disabled rest,
          (Table.assignments, uuid :: column :: owner :: disabled :: rest) ∈ records ∧
            Row.HidesZero column ∧ Row.IsSet owner) ∧
      ((exists row, row ∈ b.dynamicOptions.toList ∧ row.categoryId = 0) <->
        exists uuid column option precondition disabled rest,
          (Table.dynamicOptions,
              uuid :: column :: option :: precondition :: disabled :: rest) ∈ records ∧
            Row.HidesZero column ∧ Row.IsSet option) ∧
      ((exists (key : CategoryId) (r : Rule),
          b.finish.1.rules[key]? = some r ∧ r.categoryId = 0) <->
        exists uuid column owner disabled rest,
          (Table.assignments, uuid :: column :: owner :: disabled :: rest) ∈ records ∧
            Row.HidesZero column ∧ Row.IsSet owner ∧ disabled ≠ "t" ∧
            b.registry.numberOf owner ∈ b.finish.1.attributes) := by
  intro b
  have hholds : b.Holds (readings none (recordCalls records)) :=
    holds_performAll tree (recordCalls records)
  refine ⟨?_, ?_, hholds.exists_assignment_zero_iff, hholds.exists_dynamicOption_zero_iff,
    hholds.exists_rule_zero_iff⟩
  · intro uuid column owner disabled rest
    rw [Row.readAssignment_eq_missing_iff, Row.not_isSet_iff]
  · intro uuid column option precondition disabled rest
    rw [Row.readDynamicOption_eq_missing_iff, Row.not_isSet_iff]

/-- An assignment to a category that is written with two zeros makes a rule. -/
theorem not_category_ne_zero :
    ¬ forall (tree : CategoryTree) (records : List (Table × List String)),
      let b := ((∅ : Builder).withCategories tree).performAll (recordCalls records)
      (forall row, row ∈ b.assignments.toList -> row.categoryId ≠ 0) ∧
        (forall row, row ∈ b.dynamicOptions.toList -> row.categoryId ≠ 0) ∧
        forall (key : CategoryId) (r : Rule),
          b.finish.1.rules[key]? = some r -> r.categoryId ≠ 0 := by
  intro h
  have hnone := (h ∅
    [(.attributes, ["kind", "", "f", "f", "f", "Kind", "1", "", "", "f", "", ""]),
      (.assignments, ["first", "00", "kind", "f"])]).2.2
  have hrule : exists (key : CategoryId) (r : Rule),
      (((∅ : Builder).withCategories ∅).performAll (recordCalls
        [(.attributes, ["kind", "", "f", "f", "f", "Kind", "1", "", "", "f", "", ""]),
          (.assignments, ["first", "00", "kind", "f"])])).finish.1.rules[key]? = some r ∧
        r.categoryId = 0 :=
    exists_rule_iff.mpr
      ⟨{ categoryId := 0, attributeId := 1, isDisabled := false }, by decide, rfl, rfl, by rfl⟩
  rcases hrule with ⟨key, r, hr, hzero⟩
  exact hnone key r hr hzero

end Builder
end FacetRules
