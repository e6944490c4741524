import FacetRules.Proofs.Builder.History
import FacetRules.Proofs.Expansion.Numbers
import FacetRules.Proofs.Renumbering.Basic

/-!
# Loading in passes

A pass puts its suffix in force and adds the records.  What a builder reads in all
passes is one copy for each pass of what it reads without a suffix: the rows are the same
ones, read under the suffixes, and their numbers are the copies of the numbers.
-/

namespace FacetRules

namespace Attribute

def copy (size pass : Nat) (a : Attribute) : Attribute :=
  { a with
    id := copyId size pass a.id
    optionIds := a.optionIds.map (copyId size pass) }

end Attribute

namespace AttributeOption

def copy (size pass : Nat) (o : AttributeOption) : AttributeOption :=
  { o with
    id := copyId size pass o.id
    attributeId := copyId size pass o.attributeId }

end AttributeOption

namespace Assignment

def copy (size pass : Nat) (row : Assignment) : Assignment :=
  { row with attributeId := copyId size pass row.attributeId }

end Assignment

namespace DynamicOption

def copy (size pass : Nat) (row : DynamicOption) : DynamicOption :=
  { row with
    optionId := copyId size pass row.optionId
    suffix := some (Import.expandSuffix pass) }

end DynamicOption

namespace Reading

def inPass (pass : Nat) (x : Reading) : Reading :=
  { x with suffix := some (Import.expandSuffix pass) }

section Copies

variable {r s : Registry} {n p : Nat} {x : Reading}

theorem number?_inPass (h : r.CopiedTo n s) (hp : p < n) (hx : x.suffix = none)
    (uuid : String) :
    (x.inPass p).number? s uuid = (x.number? r uuid).map (copyId r.size p) := by
  rw [number?, number?, hx]
  exact h.lookupSuffixed_eq hp uuid

theorem renumbers_inPass (h : r.CopiedTo n s) (hp : p < n) (hx : x.suffix = none) :
    x.Renumbers (copyId r.size p) r s (x.inPass p) where
  row_eq := rfl
  number?_eq := number?_inPass h hp hx

theorem attribute?_inPass (h : r.CopiedTo n s) (hp : p < n) (hx : x.suffix = none) :
    (x.inPass p).attribute? s = (x.attribute? r).map (Attribute.copy r.size p) :=
  (renumbers_inPass h hp hx).attribute?_eq

theorem option?_inPass (h : r.CopiedTo n s) (hp : p < n) (hx : x.suffix = none) :
    (x.inPass p).option? s = (x.option? r).map (AttributeOption.copy r.size p) :=
  (renumbers_inPass h hp hx).option?_eq

theorem assignment?_inPass (h : r.CopiedTo n s) (hp : p < n) (hx : x.suffix = none) :
    (x.inPass p).assignment? s = (x.assignment? r).map (Assignment.copy r.size p) :=
  (renumbers_inPass h hp hx).assignment?_eq

theorem dynamicOption?_inPass (h : r.CopiedTo n s) (hp : p < n) (hx : x.suffix = none) :
    (x.inPass p).dynamicOption? s = (x.dynamicOption? r).map (DynamicOption.copy r.size p) :=
  (renumbers_inPass h hp hx).dynamicOption?_eq

end Copies

end Reading

namespace Builder

/-- Calls that add records. -/
def recordCalls (records : List (Table × List String)) : List Call :=
  records.map fun record => .fields record.1 record.2

/-- The records, added once in every pass. -/
def passes (n : Nat) (records : List (Table × List String)) : List Call :=
  (List.range n).flatMap fun p =>
    .suffix (some (Import.expandSuffix p)) :: recordCalls records

theorem passes_succ (n : Nat) (records : List (Table × List String)) :
    passes (n + 1) records =
      passes n records ++ .suffix (some (Import.expandSuffix n)) :: recordCalls records := by
  rw [passes, List.range_succ, List.flatMap_append]
  simp [passes]

/-!
# What the calls read
-/

theorem readings_append (current : Option String) (front back : List Call) :
    readings current (front ++ back) =
      readings current front ++ readings (front.foldl Call.suffixAfter current) back := by
  induction front generalizing current with
  | nil =>
      rfl
  | cons call front ih =>
      rw [List.cons_append, readings, ih, readings, List.append_assoc]
      rfl

theorem mentions_append (current : Option String) (front back : List Call) :
    mentions current (front ++ back) =
      mentions current front ++ mentions (front.foldl Call.suffixAfter current) back := by
  induction front generalizing current with
  | nil =>
      rfl
  | cons call front ih =>
      rw [List.cons_append, mentions, ih, mentions, List.append_assoc]
      rfl

/-- Records change no suffix, so each of them is read by itself. -/
theorem readings_recordCalls_eq (current : Option String)
    (records : List (Table × List String)) :
    readings current (recordCalls records) = records.flatMap fun record =>
      ((Call.fields record.1 record.2).reading? current).toList := by
  induction records with
  | nil =>
      rfl
  | cons record records ih =>
      rw [List.flatMap_cons, <- ih]
      rfl

theorem mentions_recordCalls_eq (current : Option String)
    (records : List (Table × List String)) :
    mentions current (recordCalls records) = records.flatMap fun record =>
      (Call.fields record.1 record.2).numbered.map (Registry.keyOf · current) := by
  induction records with
  | nil =>
      rfl
  | cons record records ih =>
      rw [List.flatMap_cons, <- ih]
      rfl

theorem readings_recordCalls (p : Nat) (records : List (Table × List String)) :
    readings (some (Import.expandSuffix p)) (recordCalls records) =
      (readings none (recordCalls records)).map (Reading.inPass p) := by
  rw [readings_recordCalls_eq, readings_recordCalls_eq, List.map_flatMap]
  congr 1
  funext record
  rw [<- Option.toList_map, Call.reading?, Call.reading?, Option.map_map]
  rfl

theorem suffix_of_mem_readings {records : List (Table × List String)} {x : Reading}
    (h : x ∈ readings none (recordCalls records)) : x.suffix = none := by
  rw [readings_recordCalls_eq] at h
  rcases List.mem_flatMap.mp h with ⟨record, _hrecord, hx⟩
  rcases Option.map_eq_some_iff.mp (Option.mem_toList.mp hx) with ⟨row, _hrow, rfl⟩
  rfl

theorem mentions_recordCalls (p : Nat) (records : List (Table × List String)) :
    mentions (some (Import.expandSuffix p)) (recordCalls records) =
      (mentions none (recordCalls records)).map fun key => key ++ Import.expandSuffix p := by
  rw [mentions_recordCalls_eq, mentions_recordCalls_eq, List.map_flatMap]
  congr 1
  funext record
  rw [List.map_map]
  apply List.map_congr_left
  intro uuid _huuid
  show uuid ++ Import.expandSuffix p = (uuid ++ "") ++ Import.expandSuffix p
  rw [String.append_empty]

section Passes

variable (n : Nat) (records : List (Table × List String))

theorem readings_passes :
    readings none (passes n records) =
      copies n Reading.inPass (readings none (recordCalls records)) := by
  induction n with
  | zero =>
      rfl
  | succ n ih =>
      have hsuffix : Call.suffixAfter ((passes n records).foldl Call.suffixAfter none)
          (.suffix (some (Import.expandSuffix n))) = some (Import.expandSuffix n) := by
        simp [Call.suffixAfter, Import.expandSuffix_ne_empty]
      rw [passes_succ, readings_append, ih, copies_succ, readings, hsuffix,
        readings_recordCalls]
      rfl

theorem mentions_passes :
    mentions none (passes n records) =
      copies n (fun p key => key ++ Import.expandSuffix p)
        (mentions none (recordCalls records)) := by
  induction n with
  | zero =>
      rfl
  | succ n ih =>
      have hsuffix : Call.suffixAfter ((passes n records).foldl Call.suffixAfter none)
          (.suffix (some (Import.expandSuffix n))) = some (Import.expandSuffix n) := by
        simp [Call.suffixAfter, Import.expandSuffix_ne_empty]
      rw [passes_succ, mentions_append, ih, copies_succ, mentions, hsuffix,
        mentions_recordCalls]
      rfl

theorem filterMap_passes {α : Type} {f : Call -> Option α}
    (hf : forall suffix, f (.suffix suffix) = none) :
    (passes n records).filterMap f =
      copies n (fun _ x => x) ((recordCalls records).filterMap f) := by
  induction n with
  | zero =>
      rfl
  | succ n ih =>
      rw [passes_succ, List.filterMap_append, ih, copies_succ,
        List.filterMap_cons_none (hf _), List.map_id']

end Passes

/-!
# Two shops

The tables of a shop that is in order, and of one that is not.
-/

/-- The shop sells something in size 42, and shoes in size 43 as well. -/
def shoeTables : List (Table × List String) :=
  [(.attributes, ["kind", "", "f", "f", "f", "Kind", "1", "", "", "f", "", ""]),
    (.attributes, ["size", "", "f", "f", "f", "Size", "2", "", "", "f", "", ""]),
    (.options, ["00000000-0000-0000-0000-000000000001", "kind", "Shoes", "f", "1", "", "", "", ""]),
    (.options, ["forty-two", "size", "42", "f", "1", "", "", "", ""]),
    (.options, ["forty-three", "size", "43", "f", "2", "", "", "", ""]),
    (.assignments, ["first", "10", "kind", "f"]),
    (.assignments, ["second", "10", "size", "f"]),
    (.dynamicOptions, ["third", "10", "forty-two", "", "f"]),
    (.dynamicOptions,
      ["fourth", "10", "forty-three", "\x7b00000000-0000-0000-0000-000000000001\x7d", "f"])]

/-- The shop has references that lead nowhere: to a color that is not loaded, to a key that
nothing has, and an entry that is no key. -/
def untidyShop : List (Table × List String) :=
  [(.attributes, ["kind", "", "f", "f", "f", "Kind", "1", "", "", "f", "", ""]),
    (.attributes, ["size", "", "f", "f", "f", "Size", "2", "", "", "f", "", ""]),
    (.options,
      ["00000000-0000-0000-0000-000000000001", "kind", "Shoes", "f", "1", "", "", "", ""]),
    (.options, ["forty-two", "size", "42", "f", "1", "", "", "", ""]),
    (.options, ["red", "color", "Red", "f", "1", "", "", "", ""]),
    (.assignments, ["first", "10", "kind", "f"]),
    (.assignments, ["second", "10", "size", "f"]),
    (.assignments, ["third", "10", "size", "t"]),
    (.assignments, ["fourth", "11", "color", "f"]),
    (.assignments, ["fifth", "", "kind", "f"]),
    (.dynamicOptions,
      ["sixth", "10", "red", "\x7b00000000-0000-0000-0000-000000000001\x7d", "f"]),
    (.dynamicOptions, ["seventh", "10", "forty-two",
      "\x7b00000000-0000-0000-0000-000000000001,00000000-0000-0000-0000-000000000002,?\x7d",
      "f"])]

end Builder
end FacetRules
