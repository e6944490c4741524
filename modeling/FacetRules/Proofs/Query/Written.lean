import FacetRules.Proofs.Text.Numbers
import FacetRules.Query.Conditions

/-!
# Written pairs and filters

A pair is written as two numbers with a hyphen between them, a filter as a number, a colon and the
start of the titles.  The first mark in the text is the one that parts it, so a pair has no second
hyphen, while the start of the titles may hold any mark.  A number may have a plus sign, zeros in
front and blanks around it, so there are many texts for one pair; its written form is one of them.
-/

namespace FacetRules

open Text (Number)

namespace Pair

/-- The text stands for the pair: two numbers with the first hyphen between them. -/
def WrittenAs (p : Pair) (s : String) : Prop :=
  exists front back, s.toList = front ++ '-' :: back ∧ '-' ∉ front ∧
    Number front p.attributeId ∧ Number back p.optionId

end Pair

namespace TitleFilter

/-- The text stands for the filter: a number in front of the first colon, and behind it the start
of the titles as it is. -/
def WrittenAs (f : TitleFilter) (s : String) : Prop :=
  exists front, s.toList = front ++ ':' :: f.start.toList ∧ ':' ∉ front ∧
    Number front f.attributeId

end TitleFilter

/-!
# The first mark
-/

namespace Text

theorem splitFirst_eq_some_iff {sep : Char} {cs front back : List Char} :
    splitFirst sep cs = some (front, back) <-> cs = front ++ sep :: back ∧ sep ∉ front := by
  constructor
  · exact eq_append_of_splitFirst
  · intro h
    rw [h.1]
    exact splitFirst_append h.2 back

theorem not_mem_toString {c : Char} (hc : c.isDigit = false) (n : UInt32) :
    c ∉ (toString n).toList := by
  intro hmem
  have hdigit := (digits_toString n).isDigit_of_mem c hmem
  rw [hc] at hdigit
  cases hdigit

end Text

/-!
# Readers
-/

/-- Reading finds what a text stands for, or says that the text is at fault. -/
structure Finds {α : Type} (read : String -> Except Error α) (writtenAs : α -> String -> Prop)
    (fault : String -> Error) : Prop where
  ok_of : forall s a, writtenAs a s -> read s = .ok a
  or_fault : forall s, (exists a, read s = .ok a ∧ writtenAs a s) ∨ read s = .error (fault s)

section Finds

variable {α : Type} {read : String -> Except Error α} {writtenAs : α -> String -> Prop}
  {fault : String -> Error}

theorem Finds.ok_iff (h : Finds read writtenAs fault) {s : String} {a : α} :
    read s = .ok a <-> writtenAs a s := by
  constructor
  · intro hread
    rcases h.or_fault s with ⟨other, hother, hwritten⟩ | herror
    · rw [hread] at hother
      cases hother
      exact hwritten
    · rw [hread] at herror
      cases herror
  · exact h.ok_of s a

theorem Finds.error_of_not (h : Finds read writtenAs fault) {s : String}
    (hnot : forall a, ¬ writtenAs a s) : read s = .error (fault s) := by
  rcases h.or_fault s with ⟨a, _hread, hwritten⟩ | herror
  · exact absurd hwritten (hnot a)
  · exact herror

end Finds

/-!
# Pairs
-/

namespace Pair

theorem read_of_writtenAs {s : String} {p : Pair} (h : p.WrittenAs s) : read s = .ok p := by
  rcases h with ⟨front, back, hs, hmark, hfront, hback⟩
  have hsplit := Text.splitFirst_eq_some_iff.mpr ⟨hs, hmark⟩
  have hattribute := Text.readUInt32?_trim_eq_some_iff.mpr hfront
  have hoption := Text.readUInt32?_trim_eq_some_iff.mpr hback
  simp [read, hsplit, hattribute, hoption]

theorem read_cases (s : String) :
    (exists p, read s = .ok p ∧ p.WrittenAs s) ∨ read s = .error (.invalidPair s) := by
  unfold read
  dsimp only
  split
  · rename_i p hparts
    rcases Option.bind_eq_some_iff.mp hparts with ⟨⟨front, back⟩, hsplit, hparts⟩
    rcases Option.bind_eq_some_iff.mp hparts with ⟨attributeId, hattribute, hparts⟩
    rcases Option.bind_eq_some_iff.mp hparts with ⟨optionId, hoption, hparts⟩
    rcases Text.splitFirst_eq_some_iff.mp hsplit with ⟨hs, hmark⟩
    cases hparts
    exact .inl ⟨_, rfl, front, back, hs, hmark, Text.readUInt32?_trim_eq_some_iff.mp hattribute,
      Text.readUInt32?_trim_eq_some_iff.mp hoption⟩
  · exact .inr rfl

theorem finds_read : Finds read WrittenAs .invalidPair where
  ok_of := fun _s _p => read_of_writtenAs
  or_fault := read_cases

theorem writtenAs_text (p : Pair) : p.WrittenAs p.text := by
  refine ⟨(toString p.attributeId).toList, (toString p.optionId).toList, ?_,
    Text.not_mem_toString rfl _, Text.number_toString _, Text.number_toString _⟩
  simp [text]

end Pair

/-!
# Filters
-/

namespace TitleFilter

theorem read_of_writtenAs {s : String} {f : TitleFilter} (h : f.WrittenAs s) :
    read s = .ok f := by
  rcases h with ⟨front, hs, hmark, hfront⟩
  have hsplit := Text.splitFirst_eq_some_iff.mpr ⟨hs, hmark⟩
  have hattribute := Text.readUInt32?_trim_eq_some_iff.mpr hfront
  simp [read, hsplit, hattribute]

theorem read_cases (s : String) :
    (exists f, read s = .ok f ∧ f.WrittenAs s) ∨ read s = .error (.invalidFilter s) := by
  unfold read
  dsimp only
  split
  · rename_i f hparts
    rcases Option.bind_eq_some_iff.mp hparts with ⟨⟨front, back⟩, hsplit, hparts⟩
    rcases Option.bind_eq_some_iff.mp hparts with ⟨attributeId, hattribute, hparts⟩
    rcases Text.splitFirst_eq_some_iff.mp hsplit with ⟨hs, hmark⟩
    cases hparts
    refine .inl ⟨_, rfl, front, ?_, hmark, Text.readUInt32?_trim_eq_some_iff.mp hattribute⟩
    rw [hs, String.toList_ofList]
  · exact .inr rfl

theorem finds_read : Finds read WrittenAs .invalidFilter where
  ok_of := fun _s _f => read_of_writtenAs
  or_fault := read_cases

theorem writtenAs_text (f : TitleFilter) : f.WrittenAs f.text := by
  refine ⟨(toString f.attributeId).toList, ?_, Text.not_mem_toString rfl _,
    Text.number_toString _⟩
  simp [text]

end TitleFilter

/-- A text is read as the pair or filter that it stands for, if there is one, and is refused as
invalid otherwise.  Every pair and every filter is read back from its written form, whatever
the start of the titles is, and so is what was read from any other text. -/
theorem Conditions.read_written :
    (forall (s : String) (p : Pair), Pair.read s = .ok p <-> p.WrittenAs s) ∧
      (forall s : String, (forall p : Pair, ¬ p.WrittenAs s) ->
        Pair.read s = .error (.invalidPair s)) ∧
      (forall p : Pair, Pair.read p.text = .ok p) ∧
      (forall (s : String) (p : Pair), Pair.read s = .ok p -> Pair.read p.text = Pair.read s) ∧
      (forall (s : String) (f : TitleFilter), TitleFilter.read s = .ok f <-> f.WrittenAs s) ∧
      (forall s : String, (forall f : TitleFilter, ¬ f.WrittenAs s) ->
        TitleFilter.read s = .error (.invalidFilter s)) ∧
      forall (attributeId : Id) (start : String),
        TitleFilter.read (toString attributeId ++ ":" ++ start) = .ok { attributeId, start } := by
  refine ⟨fun _s _p => Pair.finds_read.ok_iff, fun _s h => Pair.finds_read.error_of_not h,
    fun p => Pair.read_of_writtenAs p.writtenAs_text, ?_,
    fun _s _f => TitleFilter.finds_read.ok_iff, fun _s h => TitleFilter.finds_read.error_of_not h,
    ?_⟩
  · intro s p hread
    rw [hread]
    exact Pair.read_of_writtenAs p.writtenAs_text
  · intro attributeId start
    exact TitleFilter.read_of_writtenAs (TitleFilter.writtenAs_text { attributeId, start })

/-- The pair 7-8 with blanks, a sign and a zero, and a number without any mark. -/
theorem Conditions.read_written_blanks :
    Pair.read " +07 - 8" = .ok { attributeId := 7, optionId := 8 } ∧
      Pair.read "7-8" = Pair.read " +07 - 8" ∧ Pair.read "7" = .error (.invalidPair "7") ∧
      TitleFilter.read "7" = .error (.invalidFilter "7") := by
  have hread : Pair.read " +07 - 8" = .ok { attributeId := 7, optionId := 8 } := by rfl
  refine ⟨hread, Conditions.read_written.2.2.2.1 " +07 - 8" _ hread,
    Conditions.read_written.2.1 "7" ?_, Conditions.read_written.2.2.2.2.2.1 "7" ?_⟩
  · intro p h
    rcases h with ⟨front, back, hs, _hall⟩
    have hmark : '-' ∈ "7".toList := by
      rw [hs]
      simp
    exact absurd hmark (by decide)
  · intro f h
    rcases h with ⟨front, hs, _hall⟩
    have hmark : ':' ∈ "7".toList := by
      rw [hs]
      simp
    exact absurd hmark (by decide)

end FacetRules
