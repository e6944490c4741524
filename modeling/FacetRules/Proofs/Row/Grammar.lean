import FacetRules.Proofs.Builder.Records
import FacetRules.Proofs.Text.Numbers

/-!
# The grammar of records

A record is long enough for its table or it is not.  If it is, some of its columns are tested one
after the other: references must be set, orders must be numbers or blank, and the category must be
a number that is set.  The record becomes a row when all tests are passed, and otherwise the first
test that fails gives the reason.  Columns that are neither tested nor kept make no difference.
-/

namespace FacetRules
namespace Row

/-- The column at a position, empty where the record is too short. -/
def column (fields : List String) (i : Nat) : String :=
  fields.getD i ""

/-- The column stands for an order: a signed decimal of 64 bits with blanks around it, or blanks
alone, which stand for 0. -/
def IsOrder (column : String) (n : Int64) : Prop :=
  exists kept, Text.Trims Text.isBlank column.toList kept ∧
    (kept = [] ∧ n = 0 ∨ Text.Signed kept n.toInt)

/-- The column is set and stands for a category: an unsigned decimal of 32 bits with blanks around
it. -/
def IsCategory (column : String) (n : CategoryId) : Prop :=
  IsSet column ∧ Text.Number column.toList n

/-!
# Tests
-/

/-- What a column is tested for. -/
inductive Check
  | reference (position : Nat) (reason : SkipReason)
  | order (position : Nat)
  | category (position : Nat)

namespace Check

def position : Check -> Nat
  | reference position _ => position
  | order position => position
  | category position => position

def Accepts : Check -> String -> Prop
  | reference _ _, column => IsSet column
  | order _, column => exists n, IsOrder column n
  | category _, column => exists n, IsCategory column n

/-- Why a column is not accepted. -/
def reason : Check -> String -> SkipReason
  | reference _ reason, _ => reason
  | order _, _ => .invalidNumber
  | category _, column =>
      if column = "" ∨ column = "0" then .missingCategory else .invalidNumber

def Passes (check : Check) (fields : List String) : Prop :=
  check.Accepts (column fields check.position)

def Refuses (check : Check) (fields : List String) (reason : SkipReason) : Prop :=
  ¬ check.Passes fields ∧ reason = check.reason (column fields check.position)

end Check

/-- The first of the tests that fails does so for this reason. -/
inductive FirstRefusal (fields : List String) : List Check -> SkipReason -> Prop
  | here {check : Check} {checks : List Check} {reason : SkipReason} :
      check.Refuses fields reason -> FirstRefusal fields (check :: checks) reason
  | later {check : Check} {checks : List Check} {reason : SkipReason} :
      check.Passes fields -> FirstRefusal fields checks reason ->
      FirstRefusal fields (check :: checks) reason

end Row

namespace Table

open Row (Check)

/-- How many columns a record must have. -/
def width : Table -> Nat
  | attributes => 12
  | options => 9
  | assignments => 4
  | dynamicOptions => 5

/-- The tests of a record in the order in which they are made. -/
def checks : Table -> List Check
  | attributes => [.reference 0 .missingAttribute, .order 6, .order 11]
  | options => [.reference 0 .missingOption, .reference 1 .missingAttribute, .order 4]
  | assignments => [.category 1, .reference 2 .missingAttribute]
  | dynamicOptions => [.category 1, .reference 2 .missingOption]

/-- The columns that are tested or kept; the others are dates or beyond the last one. -/
def usedColumns : Table -> List Nat
  | attributes => [0, 1, 2, 3, 4, 5, 6, 9, 10, 11]
  | options => [0, 1, 2, 3, 4, 7, 8]
  | assignments => [0, 1, 2, 3]
  | dynamicOptions => [0, 1, 2, 3, 4]

end Table

/-!
# What rows carry
-/

open Row (column IsOrder IsCategory)

structure AttributeRow.Carries (row : AttributeRow) (fields : List String) : Prop where
  uuid : row.uuid = column fields 0
  kind : row.kind = column fields 1
  isMultipleAllowed : row.isMultipleAllowed = true <-> column fields 2 = "t"
  isRequired : row.isRequired = true <-> column fields 3 = "t"
  isDisabled : row.isDisabled = true <-> column fields 4 = "t"
  title : row.title = column fields 5
  displayOrder : IsOrder (column fields 6) row.displayOrder
  isSearchable : row.isSearchable = true <-> column fields 9 = "t"
  listingType : row.listingType = column fields 10
  displayPage : IsOrder (column fields 11) row.displayPage

structure OptionRow.Carries (row : OptionRow) (fields : List String) : Prop where
  uuid : row.uuid = column fields 0
  attributeUuid : row.attributeUuid = column fields 1
  title : row.title = column fields 2
  isDisabled : row.isDisabled = true <-> column fields 3 = "t"
  displayOrder : IsOrder (column fields 4) row.displayOrder
  color : row.color = column fields 7
  subtitle : row.subtitle = column fields 8

structure AssignmentRow.Carries (row : AssignmentRow) (fields : List String) : Prop where
  uuid : row.uuid = column fields 0
  categoryId : IsCategory (column fields 1) row.categoryId
  attributeUuid : row.attributeUuid = column fields 2
  isDisabled : row.isDisabled = true <-> column fields 3 = "t"

structure DynamicOptionRow.Carries (row : DynamicOptionRow) (fields : List String) : Prop where
  uuid : row.uuid = column fields 0
  categoryId : IsCategory (column fields 1) row.categoryId
  optionUuid : row.optionUuid = column fields 2
  precondition : row.precondition = column fields 3
  isDisabled : row.isDisabled = true <-> column fields 4 = "t"

namespace Row

/-- The row is one of the table and carries the columns of the record. -/
def Carries : Table -> Row -> List String -> Prop
  | .attributes, ofAttribute row, fields => row.Carries fields
  | .options, ofOption row, fields => row.Carries fields
  | .assignments, ofAssignment row, fields => row.Carries fields
  | .dynamicOptions, ofDynamicOption row, fields => row.Carries fields
  | _, _, _ => False

theorem flag_eq_true_iff {field : String} : flag field = true <-> field = "t" :=
  beq_iff_eq

/-!
# Columns
-/

theorem isOrder_iff {field : String} {n : Int64} :
    IsOrder field n <->
      Text.trim field.toList = [] ∧ n = 0 ∨ Text.readInt64? (Text.trim field.toList) = some n := by
  rw [IsOrder, Text.exists_trims_iff, Text.readInt64?_eq_some_iff, Text.trim]

theorem orderOrZero_eq_ok_iff {field : String} {n : Int64} :
    orderOrZero field = .ok n <-> IsOrder field n := by
  rw [isOrder_iff]
  unfold orderOrZero
  cases htrim : Text.trim field.toList with
  | nil =>
      have hnone : Text.readInt64? [] = none := rfl
      simp [hnone, eq_comm]
  | cons c cs =>
      cases hread : Text.readInt64? (c :: cs) with
      | none => simp [hread]
      | some m => simp [hread]

theorem orderOrZero_eq_error {field : String} {reason : SkipReason}
    (h : orderOrZero field = .error reason) : reason = .invalidNumber := by
  unfold orderOrZero at h
  split at h
  · cases h
  · split at h
    · cases h
    · cases h
      rfl

theorem category_eq_ok_iff {field : String} {n : CategoryId} :
    category field = .ok n <-> IsCategory field n := by
  unfold category
  rw [bind_eq_ok_iff, IsCategory, <- Text.readUInt32?_trim_eq_some_iff]
  constructor
  · intro hexists
    rcases hexists with ⟨value, hvalue, hread⟩
    rcases required_eq_ok_iff.mp hvalue with ⟨hset, rfl⟩
    split at hread
    · rename_i m hm
      cases hread
      exact ⟨hset, hm⟩
    · cases hread
  · intro h
    exact ⟨field, required_eq_ok_iff.mpr ⟨h.1, rfl⟩, by rw [h.2]⟩

theorem category_eq_error {field : String} {reason : SkipReason}
    (h : category field = .error reason) :
    reason = if field = "" ∨ field = "0" then .missingCategory else .invalidNumber := by
  unfold category at h
  rcases bind_eq_error_iff.mp h with hunset | ⟨value, hvalue, hread⟩
  · rcases required_eq_error_iff.mp hunset with ⟨hset, rfl⟩
    rw [if_pos (not_isSet_iff.mp hset)]
  · rcases required_eq_ok_iff.mp hvalue with ⟨hset, rfl⟩
    rw [if_neg fun hunset => not_isSet_iff.mpr hunset hset]
    split at hread
    · cases hread
    · cases hread
      rfl

/-!
# One test

A test decides a reading that succeeds exactly if the test is passed, and fails otherwise for the
reason of the test.
-/

structure Check.Decides {α : Type} (check : Check) (fields : List String)
    (reading : Except SkipReason α) : Prop where
  ok_iff : (exists a, reading = .ok a) <-> check.Passes fields
  reason_eq : forall reason, reading = .error reason ->
    reason = check.reason (column fields check.position)

section Decides

variable {fields : List String}

theorem Check.Decides.error_iff {α : Type} {check : Check} {reading : Except SkipReason α}
    (h : check.Decides fields reading) {reason : SkipReason} :
    reading = .error reason <-> check.Refuses fields reason := by
  rw [Check.Refuses, <- h.ok_iff]
  constructor
  · intro herror
    refine ⟨?_, h.reason_eq reason herror⟩
    intro hexists
    rcases hexists with ⟨a, ha⟩
    rw [herror] at ha
    cases ha
  · intro hrefuses
    cases hreading : reading with
    | error other => rw [hrefuses.2, h.reason_eq other hreading]
    | ok a => exact absurd ⟨a, hreading⟩ hrefuses.1

theorem decides_required (position : Nat) (reason : SkipReason) :
    (Check.reference position reason).Decides fields
      (required reason (column fields position)) where
  ok_iff := by
    simp only [required_eq_ok_iff]
    exact exists_and_left.trans (and_iff_left ⟨_, rfl⟩)
  reason_eq := fun _other h => (required_eq_error_iff.mp h).2

theorem decides_orderOrZero (position : Nat) :
    (Check.order position).Decides fields (orderOrZero (column fields position)) where
  ok_iff := exists_congr fun _n => orderOrZero_eq_ok_iff
  reason_eq := fun _other h => orderOrZero_eq_error h

theorem decides_category (position : Nat) :
    (Check.category position).Decides fields (category (column fields position)) where
  ok_iff := exists_congr fun _n => category_eq_ok_iff
  reason_eq := fun _other h => category_eq_error h

end Decides

/-!
# Tests one after the other
-/

/-- The reading succeeds exactly if all tests are passed, and fails otherwise for the reason of the
first one that is not. -/
structure Follows {α : Type} (fields : List String) (checks : List Check)
    (reading : Except SkipReason α) : Prop where
  ok_iff : (exists a, reading = .ok a) <-> forall check, check ∈ checks -> check.Passes fields
  error_iff : forall reason, reading = .error reason <-> FirstRefusal fields checks reason

section Follows

variable {fields : List String}

theorem follows_ok {α : Type} (a : α) : Follows fields [] (.ok a) where
  ok_iff := by simp
  error_iff := by
    intro reason
    constructor
    · intro h
      cases h
    · intro h
      cases h

theorem Check.Decides.bind {α β : Type} {check : Check} {checks : List Check}
    {x : Except SkipReason α} {f : α -> Except SkipReason β} (hx : check.Decides fields x)
    (hf : forall a, x = .ok a -> Follows fields checks (f a)) :
    Follows fields (check :: checks) (x >>= f) where
  ok_iff := by
    rw [List.forall_mem_cons, <- hx.ok_iff]
    constructor
    · intro hexists
      rcases hexists with ⟨b, hb⟩
      rcases bind_eq_ok_iff.mp hb with ⟨a, ha, hfa⟩
      exact ⟨⟨a, ha⟩, (hf a ha).ok_iff.mp ⟨b, hfa⟩⟩
    · intro hall
      rcases hall with ⟨⟨a, ha⟩, hrest⟩
      rcases (hf a ha).ok_iff.mpr hrest with ⟨b, hfa⟩
      exact ⟨b, bind_eq_ok_iff.mpr ⟨a, ha, hfa⟩⟩
  error_iff := by
    intro reason
    rw [bind_eq_error_iff]
    constructor
    · intro hcases
      rcases hcases with herror | ⟨a, ha, hfa⟩
      · exact .here (hx.error_iff.mp herror)
      · exact .later (hx.ok_iff.mp ⟨a, ha⟩) (((hf a ha).error_iff reason).mp hfa)
    · intro hrefusal
      cases hrefusal with
      | here hrefuses =>
          exact .inl (hx.error_iff.mpr hrefuses)
      | later hpasses hrest =>
          rcases hx.ok_iff.mpr hpasses with ⟨a, ha⟩
          exact .inr ⟨a, ha, ((hf a ha).error_iff reason).mpr hrest⟩

theorem Follows.map {α β : Type} {checks : List Check} {x : Except SkipReason α}
    (h : Follows fields checks x) (f : α -> β) : Follows fields checks (x.map f) where
  ok_iff := by
    rw [<- h.ok_iff]
    cases x with
    | error reason => simp [Except.map]
    | ok a => simp [Except.map]
  error_iff := by
    intro reason
    rw [<- h.error_iff]
    cases x with
    | error other => simp [Except.map]
    | ok a => simp [Except.map]

end Follows

/-!
# Records of full length
-/

section Columns

variable {fields : List String}

theorem eq_columns_append {n : Nat} (h : n ≤ fields.length) :
    fields = (List.range n).map (column fields) ++ fields.drop n := by
  have htake : (List.range n).map (column fields) = fields.take n := by
    apply List.ext_getElem
    · simp [h]
    · intro i hi _hi
      have hlt : i < fields.length := by simp at hi; omega
      simp [column, hlt]
  rw [htake, List.take_append_drop]

theorem readAttribute_of_le (h : 12 ≤ fields.length) :
    readAttribute fields = do
      let uuid <- required .missingAttribute (column fields 0)
      let displayOrder <- orderOrZero (column fields 6)
      let displayPage <- orderOrZero (column fields 11)
      return {
        uuid, displayOrder, displayPage
        kind := column fields 1
        isMultipleAllowed := flag (column fields 2)
        isRequired := flag (column fields 3)
        isDisabled := flag (column fields 4)
        title := column fields 5
        isSearchable := flag (column fields 9)
        listingType := column fields 10 } :=
  (congrArg readAttribute (eq_columns_append h)).trans rfl

theorem readOption_of_le (h : 9 ≤ fields.length) :
    readOption fields = do
      let uuid <- required .missingOption (column fields 0)
      let attributeUuid <- required .missingAttribute (column fields 1)
      let displayOrder <- orderOrZero (column fields 4)
      return {
        uuid, attributeUuid, displayOrder
        title := column fields 2
        isDisabled := flag (column fields 3)
        color := column fields 7
        subtitle := column fields 8 } :=
  (congrArg readOption (eq_columns_append h)).trans rfl

theorem readAssignment_of_le (h : 4 ≤ fields.length) :
    readAssignment fields = do
      let categoryId <- category (column fields 1)
      let attributeUuid <- required .missingAttribute (column fields 2)
      return {
        categoryId, attributeUuid
        uuid := column fields 0
        isDisabled := flag (column fields 3) } :=
  (congrArg readAssignment (eq_columns_append h)).trans rfl

theorem readDynamicOption_of_le (h : 5 ≤ fields.length) :
    readDynamicOption fields = do
      let categoryId <- category (column fields 1)
      let optionUuid <- required .missingOption (column fields 2)
      return {
        categoryId, optionUuid
        uuid := column fields 0
        precondition := column fields 3
        isDisabled := flag (column fields 4) } :=
  (congrArg readDynamicOption (eq_columns_append h)).trans rfl

end Columns

/-!
# Records of each table

A record of full length is read by its tests.  A shorter one is refused as it is.
-/

section Records

variable {fields : List String}

theorem follows_readAttribute (h : 12 ≤ fields.length) :
    Follows fields (Table.checks .attributes) (readAttribute fields) := by
  rw [readAttribute_of_le h]
  apply (decides_required 0 .missingAttribute).bind
  intro uuid _huuid
  apply (decides_orderOrZero 6).bind
  intro displayOrder _horder
  apply (decides_orderOrZero 11).bind
  intro displayPage _hpage
  exact follows_ok _

theorem follows_readOption (h : 9 ≤ fields.length) :
    Follows fields (Table.checks .options) (readOption fields) := by
  rw [readOption_of_le h]
  apply (decides_required 0 .missingOption).bind
  intro uuid _huuid
  apply (decides_required 1 .missingAttribute).bind
  intro attributeUuid _howner
  apply (decides_orderOrZero 4).bind
  intro displayOrder _horder
  exact follows_ok _

theorem follows_readAssignment (h : 4 ≤ fields.length) :
    Follows fields (Table.checks .assignments) (readAssignment fields) := by
  rw [readAssignment_of_le h]
  apply (decides_category 1).bind
  intro categoryId _hcategory
  apply (decides_required 2 .missingAttribute).bind
  intro attributeUuid _howner
  exact follows_ok _

theorem follows_readDynamicOption (h : 5 ≤ fields.length) :
    Follows fields (Table.checks .dynamicOptions) (readDynamicOption fields) := by
  rw [readDynamicOption_of_le h]
  apply (decides_category 1).bind
  intro categoryId _hcategory
  apply (decides_required 2 .missingOption).bind
  intro optionUuid _hoption
  exact follows_ok _

theorem follows_read {table : Table} (h : table.width ≤ fields.length) :
    Follows fields table.checks (read table fields) := by
  cases table with
  | attributes => exact (follows_readAttribute h).map ofAttribute
  | options => exact (follows_readOption h).map ofOption
  | assignments => exact (follows_readAssignment h).map ofAssignment
  | dynamicOptions => exact (follows_readDynamicOption h).map ofDynamicOption

theorem read_of_lt {table : Table} (h : fields.length < table.width) :
    read table fields = .error .tooFewFields := by
  cases table with
  | attributes =>
      rw [read]
      unfold readAttribute
      split
      · simp only [Table.width, List.length_cons] at h
        omega
      · rfl
  | options =>
      rw [read]
      unfold readOption
      split
      · simp only [Table.width, List.length_cons] at h
        omega
      · rfl
  | assignments =>
      rw [read]
      unfold readAssignment
      split
      · simp only [Table.width, List.length_cons] at h
        omega
      · rfl
  | dynamicOptions =>
      rw [read]
      unfold readDynamicOption
      split
      · simp only [Table.width, List.length_cons] at h
        omega
      · rfl

theorem exists_read_iff {table : Table} :
    (exists row, read table fields = .ok row) <->
      table.width ≤ fields.length ∧ forall check, check ∈ table.checks -> check.Passes fields := by
  by_cases hlong : table.width ≤ fields.length
  · rw [(follows_read hlong).ok_iff]
    exact (and_iff_right hlong).symm
  · rw [read_of_lt (Nat.lt_of_not_le hlong)]
    simp [hlong]

theorem read_eq_error_iff {table : Table} {reason : SkipReason} :
    read table fields = .error reason <->
      fields.length < table.width ∧ reason = .tooFewFields ∨
        table.width ≤ fields.length ∧ FirstRefusal fields table.checks reason := by
  by_cases hlong : table.width ≤ fields.length
  · rw [(follows_read hlong).error_iff, and_iff_right hlong]
    exact (or_iff_right fun hshort => absurd hlong (Nat.not_le_of_lt hshort.1)).symm
  · have hshort := Nat.lt_of_not_le hlong
    rw [read_of_lt hshort]
    simp [hlong, hshort, eq_comm]

theorem FirstRefusal.exists_check {checks : List Check} {reason : SkipReason}
    (h : FirstRefusal fields checks reason) :
    exists check, check ∈ checks ∧ reason = check.reason (column fields check.position) := by
  induction h with
  | here hrefuses =>
      exact ⟨_, List.mem_cons_self, hrefuses.2⟩
  | later _hpasses _hrest ih =>
      rcases ih with ⟨check, hcheck, hreason⟩
      exact ⟨check, List.mem_cons_of_mem _ hcheck, hreason⟩

theorem mem_refusals_of_reference {table : Table} {position : Nat} {reason : SkipReason}
    (h : Check.reference position reason ∈ table.checks) : reason ∈ refusals := by
  cases table with
  | attributes =>
      have hreason : position = 0 ∧ reason = .missingAttribute := by simpa [Table.checks] using h
      simp [hreason.2, refusals]
  | options =>
      have hreason : position = 0 ∧ reason = .missingOption ∨
          position = 1 ∧ reason = .missingAttribute := by
        simpa [Table.checks] using h
      rcases hreason with ⟨_, rfl⟩ | ⟨_, rfl⟩
      · simp [refusals]
      · simp [refusals]
  | assignments =>
      have hreason : position = 2 ∧ reason = .missingAttribute := by simpa [Table.checks] using h
      simp [hreason.2, refusals]
  | dynamicOptions =>
      have hreason : position = 2 ∧ reason = .missingOption := by simpa [Table.checks] using h
      simp [hreason.2, refusals]

theorem reason_mem_refusals {table : Table} {check : Check} (h : check ∈ table.checks)
    (column : String) : check.reason column ∈ refusals := by
  cases check with
  | reference position reason => exact mem_refusals_of_reference h
  | order position => simp [Check.reason, refusals]
  | category position =>
      rw [Check.reason]
      split
      · simp [refusals]
      · simp [refusals]

theorem refuses_read (table : Table) (fields : List String) : Refuses (read table fields) := by
  intro reason h
  rcases read_eq_error_iff.mp h with ⟨_hshort, rfl⟩ | ⟨_hlong, hfirst⟩
  · simp [refusals]
  · rcases hfirst.exists_check with ⟨check, hcheck, rfl⟩
    exact reason_mem_refusals hcheck _

theorem carries_readAttribute {row : AttributeRow} (hlong : 12 ≤ fields.length)
    (h : readAttribute fields = .ok row) : row.Carries fields := by
  rw [readAttribute_of_le hlong] at h
  rcases bind_eq_ok_iff.mp h with ⟨uuid, huuid, h⟩
  rcases bind_eq_ok_iff.mp h with ⟨displayOrder, horder, h⟩
  rcases bind_eq_ok_iff.mp h with ⟨displayPage, hpage, h⟩
  cases h
  exact {
    uuid := (required_eq_ok_iff.mp huuid).2
    kind := rfl
    isMultipleAllowed := flag_eq_true_iff
    isRequired := flag_eq_true_iff
    isDisabled := flag_eq_true_iff
    title := rfl
    displayOrder := orderOrZero_eq_ok_iff.mp horder
    isSearchable := flag_eq_true_iff
    listingType := rfl
    displayPage := orderOrZero_eq_ok_iff.mp hpage }

theorem carries_readOption {row : OptionRow} (hlong : 9 ≤ fields.length)
    (h : readOption fields = .ok row) : row.Carries fields := by
  rw [readOption_of_le hlong] at h
  rcases bind_eq_ok_iff.mp h with ⟨uuid, huuid, h⟩
  rcases bind_eq_ok_iff.mp h with ⟨attributeUuid, howner, h⟩
  rcases bind_eq_ok_iff.mp h with ⟨displayOrder, horder, h⟩
  cases h
  exact {
    uuid := (required_eq_ok_iff.mp huuid).2
    attributeUuid := (required_eq_ok_iff.mp howner).2
    title := rfl
    isDisabled := flag_eq_true_iff
    displayOrder := orderOrZero_eq_ok_iff.mp horder
    color := rfl
    subtitle := rfl }

theorem carries_readAssignment {row : AssignmentRow} (hlong : 4 ≤ fields.length)
    (h : readAssignment fields = .ok row) : row.Carries fields := by
  rw [readAssignment_of_le hlong] at h
  rcases bind_eq_ok_iff.mp h with ⟨categoryId, hcategory, h⟩
  rcases bind_eq_ok_iff.mp h with ⟨attributeUuid, howner, h⟩
  cases h
  exact {
    uuid := rfl
    categoryId := category_eq_ok_iff.mp hcategory
    attributeUuid := (required_eq_ok_iff.mp howner).2
    isDisabled := flag_eq_true_iff }

theorem carries_readDynamicOption {row : DynamicOptionRow} (hlong : 5 ≤ fields.length)
    (h : readDynamicOption fields = .ok row) : row.Carries fields := by
  rw [readDynamicOption_of_le hlong] at h
  rcases bind_eq_ok_iff.mp h with ⟨categoryId, hcategory, h⟩
  rcases bind_eq_ok_iff.mp h with ⟨optionUuid, hoption, h⟩
  cases h
  exact {
    uuid := rfl
    categoryId := category_eq_ok_iff.mp hcategory
    optionUuid := (required_eq_ok_iff.mp hoption).2
    precondition := rfl
    isDisabled := flag_eq_true_iff }

theorem carries_read {table : Table} {row : Row} (hlong : table.width ≤ fields.length)
    (h : read table fields = .ok row) : Carries table row fields := by
  cases table with
  | attributes =>
      rcases exists_of_map_eq_ok h with ⟨read, hread, rfl⟩
      exact carries_readAttribute hlong hread
  | options =>
      rcases exists_of_map_eq_ok h with ⟨read, hread, rfl⟩
      exact carries_readOption hlong hread
  | assignments =>
      rcases exists_of_map_eq_ok h with ⟨read, hread, rfl⟩
      exact carries_readAssignment hlong hread
  | dynamicOptions =>
      rcases exists_of_map_eq_ok h with ⟨read, hread, rfl⟩
      exact carries_readDynamicOption hlong hread

theorem read_congr {table : Table} {other : List String} (hlong : table.width ≤ fields.length)
    (hother : table.width ≤ other.length)
    (hcolumns : forall i, i ∈ table.usedColumns -> column fields i = column other i) :
    read table fields = read table other := by
  cases table with
  | attributes =>
      simp only [Table.usedColumns, List.forall_mem_cons] at hcolumns
      rw [read, read, readAttribute_of_le hlong, readAttribute_of_le hother]
      simp only [hcolumns]
  | options =>
      simp only [Table.usedColumns, List.forall_mem_cons] at hcolumns
      rw [read, read, readOption_of_le hlong, readOption_of_le hother]
      simp only [hcolumns]
  | assignments =>
      simp only [Table.usedColumns, List.forall_mem_cons] at hcolumns
      rw [read, read, readAssignment_of_le hlong, readAssignment_of_le hother]
      simp only [hcolumns]
  | dynamicOptions =>
      simp only [Table.usedColumns, List.forall_mem_cons] at hcolumns
      rw [read, read, readDynamicOption_of_le hlong, readDynamicOption_of_le hother]
      simp only [hcolumns]

end Records

/-- A record becomes a row exactly if it is long enough for its table and passes all tests of the
table, and the row carries its columns.  Otherwise it is too short, or the first test that it does
not pass gives the reason.  Nothing but the used columns of a record that is long enough makes any
difference. -/
theorem read_grammar (table : Table) (fields : List String) :
    ((exists row, read table fields = .ok row) <->
        table.width ≤ fields.length ∧
          forall check, check ∈ table.checks -> check.Passes fields) ∧
      (forall row, read table fields = .ok row -> Carries table row fields) ∧
      (forall reason, read table fields = .error reason <->
        fields.length < table.width ∧ reason = .tooFewFields ∨
          table.width ≤ fields.length ∧ FirstRefusal fields table.checks reason) ∧
      forall other : List String, table.width ≤ fields.length -> table.width ≤ other.length ->
        (forall i, i ∈ table.usedColumns -> fields[i]? = other[i]?) ->
        read table fields = read table other := by
  refine ⟨exists_read_iff, ?_, fun _reason => read_eq_error_iff, ?_⟩
  · intro row hrow
    exact carries_read (exists_read_iff.mp ⟨row, hrow⟩).1 hrow
  · intro other hlong hother hcolumns
    apply read_congr hlong hother
    intro i hi
    rw [column, column, List.getD_eq_getElem?_getD, List.getD_eq_getElem?_getD, hcolumns i hi]

/-- An assignment of category 7 without an attribute, and one with a column too many. -/
theorem read_grammar_assignments :
    let unset := ["first", " +7 ", "0", "t"]
    let long := ["first", " +7 ", "kind", "t", "2023"]
    let row : AssignmentRow :=
      { uuid := "first", categoryId := 7, attributeUuid := "kind", isDisabled := true }
    (read .assignments unset = .error .missingAttribute ∧
        FirstRefusal unset (Table.checks .assignments) .missingAttribute) ∧
      (read .assignments long = .ok (.ofAssignment row) ∧ row.Carries long) ∧
      read .assignments long = read .assignments (long.take 4) := by
  intro unset long row
  have hunset : read .assignments unset = .error .missingAttribute := by rfl
  have hlong : read .assignments long = .ok (.ofAssignment row) := by rfl
  refine ⟨⟨hunset, ?_⟩, ⟨hlong, (read_grammar .assignments long).2.1 _ hlong⟩, ?_⟩
  · rcases ((read_grammar .assignments unset).2.2.1 _).mp hunset with ⟨hlt, _⟩ | ⟨_, hfirst⟩
    · exact absurd hlt (by decide)
    · exact hfirst
  · exact (read_grammar .assignments long).2.2.2 (long.take 4) (by decide) (by decide) (by decide)

end Row
end FacetRules
