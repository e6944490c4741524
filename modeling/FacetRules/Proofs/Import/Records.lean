import Mathlib.Data.List.ReduceOption
import FacetRules.Import
import FacetRules.Proofs.Builder.History
import FacetRules.Proofs.Except

/-!
# Reading the files of a table

A file of a table gives records, and after them a failure if it is damaged.  Reading the
files one after the other, with as many records left as the limit allows, comes to the same
as putting their results one after the other and cutting the list off at the limit: loading
fails if there is a failure in what is left, and adds its records otherwise.
-/

namespace FacetRules

/-!
# Adding records

A record that can be read has all its keys, so nothing fails when its row is added.
-/

namespace Row

theorem ne_empty_of_required {reason : SkipReason} {field value : String}
    (h : required reason field = .ok value) : value ≠ "" := by
  unfold required at h
  split at h
  · cases h
  · rename_i hset
    cases h
    exact fun hempty => hset (Or.inl hempty)

theorem uuid_of_readAttribute {fields : List String} {row : AttributeRow}
    (h : readAttribute fields = .ok row) : row.uuid ≠ "" := by
  unfold readAttribute at h
  split at h
  · rcases bind_eq_ok_iff.mp h with ⟨uuid, huuid, h⟩
    rcases bind_eq_ok_iff.mp h with ⟨order, _horder, h⟩
    rcases bind_eq_ok_iff.mp h with ⟨page, _hpage, h⟩
    cases h
    exact ne_empty_of_required huuid
  · cases h

theorem uuids_of_readOption {fields : List String} {row : OptionRow}
    (h : readOption fields = .ok row) : row.uuid ≠ "" ∧ row.attributeUuid ≠ "" := by
  unfold readOption at h
  split at h
  · rcases bind_eq_ok_iff.mp h with ⟨uuid, huuid, h⟩
    rcases bind_eq_ok_iff.mp h with ⟨owner, howner, h⟩
    rcases bind_eq_ok_iff.mp h with ⟨order, _horder, h⟩
    cases h
    exact ⟨ne_empty_of_required huuid, ne_empty_of_required howner⟩
  · cases h

theorem uuid_of_readAssignment {fields : List String} {row : AssignmentRow}
    (h : readAssignment fields = .ok row) : row.attributeUuid ≠ "" := by
  unfold readAssignment at h
  split at h
  · rcases bind_eq_ok_iff.mp h with ⟨category, _hcategory, h⟩
    rcases bind_eq_ok_iff.mp h with ⟨owner, howner, h⟩
    cases h
    exact ne_empty_of_required howner
  · cases h

theorem uuid_of_readDynamicOption {fields : List String} {row : DynamicOptionRow}
    (h : readDynamicOption fields = .ok row) : row.optionUuid ≠ "" := by
  unfold readDynamicOption at h
  split at h
  · rcases bind_eq_ok_iff.mp h with ⟨category, _hcategory, h⟩
    rcases bind_eq_ok_iff.mp h with ⟨option, hoption, h⟩
    cases h
    exact ne_empty_of_required hoption
  · cases h

theorem isKeyed_of_read {table : Table} {fields : List String} {row : Row}
    (h : Row.read table fields = .ok row) : row.isKeyed = true := by
  cases table with
  | attributes =>
      rcases exists_of_map_eq_ok h with ⟨read, hread, rfl⟩
      simpa [isKeyed, keys] using uuid_of_readAttribute hread
  | options =>
      rcases exists_of_map_eq_ok h with ⟨read, hread, rfl⟩
      simpa [isKeyed, keys] using uuids_of_readOption hread
  | assignments =>
      rcases exists_of_map_eq_ok h with ⟨read, hread, rfl⟩
      simpa [isKeyed, keys] using uuid_of_readAssignment hread
  | dynamicOptions =>
      rcases exists_of_map_eq_ok h with ⟨read, hread, rfl⟩
      simpa [isKeyed, keys] using uuid_of_readDynamicOption hread

end Row

namespace Builder

/-- Adding a record never fails; one that cannot be used is counted. -/
theorem fst_addFields (b : Builder) (table : Table) (fields : List String) :
    (b.addFields table fields).1 = .ok () := by
  simp only [addFields]
  cases hread : Row.read table fields with
  | error reason =>
      rfl
  | ok row =>
      rcases addRow_of_isKeyed { b with report := b.report.read table }
        (Row.isKeyed_of_read hread) with ⟨r, _hr, _hsuffix, _hx, heq⟩
      simp only [heq]

end Builder

namespace Import

open Builder

theorem addRecords_eq (table : Table) (b : Builder) (rows : List (List String)) :
    addRecords table b rows = .ok (b.performAll (rows.map (Call.fields table))) := by
  induction rows generalizing b with
  | nil =>
      rfl
  | cons fields rows ih =>
      have hadded : b.addFields table fields = (.ok (), (b.addFields table fields).2) :=
        Prod.ext (b.fst_addFields table fields) rfl
      rw [addRecords, hadded]
      exact ih _

/-!
# The results of a file

A result is a record, or nothing where reading fails.
-/

/-- What a file gives: its records, and a failure behind them if it is damaged. -/
def results (content : FileContent) : List (Option (List String)) :=
  let (bytes, intact) := content.unpack
  let records := Csv.read bytes intact
  records.rows.map some ++ if records.damaged then [none] else []

/-- As much of a list as the limit allows. -/
def within {α : Type} : Limit -> List α -> List α
  | some limit, xs => xs.take limit
  | none, xs => xs

section Within

variable {α β : Type}

theorem within_map (f : α -> β) (limit : Limit) (xs : List α) :
    within limit (xs.map f) = (within limit xs).map f := by
  cases limit with
  | none => rfl
  | some limit => exact List.map_take.symm

/-- What the front of a list leaves of the limit is for the rest. -/
theorem within_append (limit : Limit) (xs ys : List α) :
    within limit (xs ++ ys) =
      within limit xs ++ within (limit.map (· - (within limit xs).length)) ys := by
  cases limit with
  | none =>
      rfl
  | some limit =>
      have hrest : limit - (xs.take limit).length = limit - xs.length := by
        rw [List.length_take]
        omega
      show (xs ++ ys).take limit = xs.take limit ++ ys.take (limit - (xs.take limit).length)
      rw [hrest, List.take_append]

theorem length_within_le {limit : Nat} (xs : List α) :
    (within (some limit) xs).length ≤ limit :=
  List.length_take_le limit xs

/-- A limit that is reached leaves nothing for the rest. -/
theorem within_of_reaches {count : Nat} {limit : Limit} (h : reaches count limit = true)
    (ys : List α) : within (limit.map (· - count)) ys = [] := by
  cases limit with
  | none =>
      cases h
  | some limit =>
      have hle : limit ≤ count := of_decide_eq_true h
      show ys.take (limit - count) = []
      rw [Nat.sub_eq_zero_of_le hle, List.take_zero]

theorem within_singleton {count : Nat} {limit : Limit} (h : reaches count limit = false)
    (y : α) : within (limit.map (· - count)) [y] = [y] := by
  cases limit with
  | none =>
      rfl
  | some limit =>
      have hlt : count < limit := Nat.lt_of_not_le (of_decide_eq_false h)
      apply List.take_of_length_le
      show 1 ≤ limit - count
      omega

end Within

/-!
# One file
-/

/-- The failure of a damaged file counts, unless the limit is reached before it. -/
theorem within_damaged (limit : Limit) (rows : List (List String)) :
    none ∈ within limit (rows.map some ++ [none]) <->
      reaches (within limit rows).length limit = false := by
  rw [within_append, within_map, List.length_map, List.mem_append]
  cases hreaches : reaches (within limit rows).length limit with
  | true =>
      rw [within_of_reaches hreaches]
      simp
  | false =>
      rw [within_singleton hreaches]
      simp

theorem reduceOption_map_some {α : Type} (xs : List α) : (xs.map some).reduceOption = xs := by
  rw [List.reduceOption, List.filterMap_map]
  exact List.filterMap_some

/-- Reading a file comes to what the limit leaves of its results. -/
theorem loadFile_eq (table : Table) (limit : Limit) (b : Builder) (name : String)
    (content : FileContent) :
    loadFile table limit b name content =
      if none ∈ within limit (results content) then
        .error (.damagedTable name)
      else
        .ok (b.performAll ((within limit (results content)).reduceOption.map
          (Call.fields table)), (within limit (results content)).length) := by
  rcases hunpack : content.unpack with ⟨bytes, intact⟩
  rcases hread : Csv.read bytes intact with ⟨rows, damaged⟩
  have hresults : results content = rows.map some ++ if damaged then [none] else [] := by
    simp only [results, hunpack, hread]
  have hloaded : loadFile table limit b name content =
      if damaged && !reaches (within limit rows).length limit then
        .error (.damagedTable name)
      else
        .ok (b.performAll ((within limit rows).map (Call.fields table)),
          (within limit rows).length) := by
    simp only [loadFile, hunpack, hread, addRecords_eq]
    cases limit with
    | none => rfl
    | some limit => rfl
  have hintact : within limit (rows.map some) = (within limit rows).map some :=
    within_map some limit rows
  rw [hloaded, hresults]
  -- The rows are the same with and without damage; only the failure behind them can be cut off.
  cases damaged with
  | false =>
      have hwhole : (rows.map some ++ if false then [none] else []) = rows.map some := by simp
      rw [hwhole, hintact, reduceOption_map_some, List.length_map, if_neg (by simp),
        if_neg (by simp)]
  | true =>
      rw [if_pos rfl, if_congr (within_damaged limit rows) rfl rfl]
      cases hreaches : reaches (within limit rows).length limit with
      | false =>
          rfl
      | true =>
          have hrest : within limit (rows.map some ++ [none]) = (within limit rows).map some := by
            rw [within_append, hintact, List.length_map, within_of_reaches hreaches,
              List.append_nil]
          rw [hrest, reduceOption_map_some, List.length_map]
          rfl

/-- No file gives more records than the limit has left, so taking their number from the
limit is a true subtraction. -/
theorem count_le_of_loadFile {table : Table} {limit : Nat} {b b' : Builder} {name : String}
    {content : FileContent} {count : Nat}
    (h : loadFile table (some limit) b name content = .ok (b', count)) : count ≤ limit := by
  rw [loadFile_eq] at h
  split at h
  · cases h
  · cases h
    exact length_within_le (results content)

/-!
# All files of a table
-/

/-- Reading files with a limit for all of them comes to what the limit leaves of their
results, one after the other. -/
theorem loadFiles_eq_ok_iff {table : Table} {limit : Limit} {b b' : Builder}
    {files : List (String × FileContent)} :
    loadFiles table limit b files = .ok b' <->
      none ∉ within limit (files.flatMap fun file => results file.2) ∧
        b' = b.performAll ((within limit
          (files.flatMap fun file => results file.2)).reduceOption.map (Call.fields table)) := by
  -- The other files are read with what the first leaves of the limit, so the limit varies.
  induction files generalizing limit b with
  | nil =>
      have hnil : within limit ([] : List (Option (List String))) = [] := by
        cases limit with
        | none => rfl
        | some limit => exact List.take_nil
      rw [List.flatMap_nil, hnil]
      constructor
      · intro h
        cases h
        exact ⟨by simp, rfl⟩
      · intro h
        rw [h.2]
        rfl
  | cons file files ih =>
      rw [List.flatMap_cons, within_append, List.reduceOption_append, List.map_append,
        performAll_append, List.mem_append, not_or, loadFiles, loadFile_eq]
      by_cases hfailed : none ∈ within limit (results file.2)
      · rw [if_pos hfailed]
        constructor
        · intro h
          cases h
        · intro h
          exact absurd hfailed h.1.1
      · rw [if_neg hfailed, ok_bind]
        simp only
        cases hreaches : reaches (within limit (results file.2)).length limit with
        | true =>
            rw [within_of_reaches hreaches]
            constructor
            · intro h
              cases h
              exact ⟨⟨hfailed, by simp⟩, rfl⟩
            · intro h
              rw [h.2]
              rfl
        | false =>
            rw [if_neg (by decide), ih, and_assoc, and_iff_right hfailed]

end Import
end FacetRules
