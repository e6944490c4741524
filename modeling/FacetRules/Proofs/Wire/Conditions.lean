import FacetRules.CommandLine.Run
import FacetRules.Proofs.Except
import FacetRules.Proofs.Json.Records
import FacetRules.Proofs.Query.Smallest

/-!
# Conditions on the wire

Search conditions are read back from the JSON text that is printed for them, whatever the filters
ask for and however large the numbers are.  An answer that is printed in JSON holds the conditions
without what is no longer visible; whoever takes them out of it and asks again gets the answer
that these conditions give.
-/

namespace FacetRules

open Json

/-!
# Parts of a printed value
-/

namespace Json

theorem infix_printMembers {m : Literal × Value} {ms : List (Literal × Value)} (h : m ∈ ms)
    (depth : Nat) : printValue depth m.2 <:+: printMembers depth ms := by
  induction ms with
  | nil =>
      cases h
  | cons w ms ih =>
      rcases List.mem_cons.mp h with rfl | h
      · exact ⟨',' :: (newLine depth ++ m.1.print ++ [':', ' ']), printMembers depth ms, by
          simp [printMembers]⟩
      · have hlast : printMembers depth ms <:+ printMembers depth (w :: ms) :=
          ⟨',' :: (newLine depth ++ w.1.print ++ ':' :: ' ' :: printValue depth w.2), by
            simp [printMembers]⟩
        exact (ih h).trans hlast.isInfix

theorem infix_printValue_object {m : Literal × Value} {ms : List (Literal × Value)} (h : m ∈ ms)
    (depth : Nat) : printValue (depth + 1) m.2 <:+: printValue depth (.object ms) := by
  cases ms with
  | nil =>
      cases h
  | cons w ms =>
      rcases List.mem_cons.mp h with rfl | h
      · exact ⟨'\x7b' :: (newLine (depth + 1) ++ m.1.print ++ [':', ' ']),
          printMembers (depth + 1) ms ++ newLine depth ++ ['\x7d'], by simp [printValue]⟩
      · have hmembers : printMembers (depth + 1) ms <:+: printValue depth (.object (w :: ms)) :=
          ⟨'\x7b' :: (newLine (depth + 1) ++ w.1.print ++ ':' :: ' ' :: printValue (depth + 1) w.2),
            newLine depth ++ ['\x7d'], by simp [printValue]⟩
        exact (infix_printMembers h (depth + 1)).trans hmembers

theorem infix_of_lookup {members : List (String × Value)} (name : String) {v : Value}
    (h : members.lookup name = some v) (depth : Nat) :
    printValue (depth + 1) v <:+: printValue depth (.record members) := by
  rcases List.lookup_eq_some_iff.mp h with ⟨front, back, rfl, _hfront⟩
  exact infix_printValue_object (m := (Literal.ofString name, v))
    (List.mem_map.mpr ⟨(name, v), List.mem_append_right front List.mem_cons_self, rfl⟩) depth

end Json

/-!
# Encoders
-/

namespace Wire

theorem roundTrips_pair : RoundTrips ofPair pair where
  standard := by
    intro p
    apply standard_record
    simp only [List.forall_mem_cons]
    exact ⟨roundTrips_word32.standard p.attributeId, roundTrips_word32.standard p.optionId,
      List.forall_mem_nil _⟩
  decode_encode := by
    intro p
    rw [pair, ofPair, fields?_record (by simp) (by simp)]
    simp only [Option.bind_eq_bind, Option.bind_some]
    rw [Fields.required_eq roundTrips_word32 _ "attribute_id" rfl,
      Fields.required_eq roundTrips_word32 _ "option_id" rfl]
    rfl

theorem roundTrips_titleFilter : RoundTrips ofTitleFilter titleFilter where
  standard := by
    intro f
    apply standard_record
    simp only [List.forall_mem_cons]
    exact ⟨roundTrips_word32.standard f.attributeId, roundTrips_text.standard f.start,
      List.forall_mem_nil _⟩
  decode_encode := by
    intro f
    rw [titleFilter, ofTitleFilter, fields?_record (by simp) (by simp)]
    simp only [Option.bind_eq_bind, Option.bind_some]
    rw [Fields.required_eq roundTrips_word32 _ "attribute_id" rfl,
      Fields.required_eq roundTrips_text _ "prefix" rfl]
    rfl

theorem roundTrips_conditions : RoundTrips ofConditions conditions where
  standard := by
    intro q
    apply standard_record
    simp only [List.forall_mem_cons]
    exact ⟨roundTrips_word32.list.standard q.categoryIds, roundTrips_pair.list.standard q.pairs,
      roundTrips_word64.standard q.pageSize, roundTrips_word64.standard q.offset,
      roundTrips_titleFilter.list.standard q.filters, List.forall_mem_nil _⟩
  decode_encode := by
    intro q
    rw [conditions, ofConditions, fields?_record (by simp) (by simp)]
    simp only [Option.bind_eq_bind, Option.bind_some]
    rw [Fields.optional_eq roundTrips_word32.list _ "category_id" rfl,
      Fields.optional_eq roundTrips_pair.list _ "attributes" rfl,
      Fields.optional_eq roundTrips_word64 _ "page_size" rfl,
      Fields.optional_eq roundTrips_word64 _ "offset" rfl,
      Fields.optional_eq roundTrips_titleFilter.list _ "filters" rfl]
    rfl

theorem standard_ofVisibleOption (o : VisibleOption) : (ofVisibleOption o).Standard := by
  apply standard_record
  simp only [List.forall_mem_cons]
  exact ⟨roundTrips_word32.standard o.id, roundTrips_text.standard o.title,
    List.forall_mem_nil _⟩

theorem standard_map {α : Type} {encode : α -> Value} (h : forall x, (encode x).Standard)
    (xs : List α) : (Value.array (xs.map encode)).Standard := by
  apply Value.Standard.array
  intro v hv
  rcases List.mem_map.mp hv with ⟨x, _hx, rfl⟩
  exact h x

theorem standard_ofVisibleAttribute (a : VisibleAttribute) : (ofVisibleAttribute a).Standard := by
  apply standard_record
  simp only [List.forall_mem_cons]
  exact ⟨roundTrips_word32.standard a.id, roundTrips_text.standard a.title,
    standard_map standard_ofVisibleOption a.options, List.forall_mem_nil _⟩

theorem standard_ofVisible (v : Visible) : (ofVisible v).Standard := by
  apply standard_record
  simp only [List.forall_mem_cons]
  exact ⟨.integer _, roundTrips_word64.standard v.pageSize,
    standard_map standard_ofVisibleAttribute v.attributes,
    roundTrips_conditions.standard v.corrected, List.forall_mem_nil _⟩

end Wire

namespace Conditions

theorem ofJson_of_read? {text : String} {q : Conditions}
    (h : Value.read? text.toList = some (Wire.ofConditions q)) : ofJson text = .ok q := by
  rw [ofJson, Wire.roundTrips_conditions.bind_eq_some h]

end Conditions

/-!
# What is printed for an answer
-/

namespace CommandLine

variable {env : Environment} {service : Service} {q : Conditions} {v : Visible}

theorem stdout_printFind_json (h : service.catalog.find q = .ok v) :
    (printFind env service q true).stdout = (Wire.ofVisible v).print ++ "\n" := by
  rw [printFind, Service.find, Catalog.findCommand, h, ok_bind]
  rfl

end CommandLine

/-- Conditions are written under fixed field names, and every text that stands for what is
written, such as its printed form, is read as the same conditions.  When a query is answered in
JSON, the output stands for a value with a member `corrected`, whose printed form is a piece of
the output; every text that stands for this member is read as the corrected conditions, and so it
is answered as they are. -/
theorem Conditions.ofJson_printed :
    (forall q : Conditions,
      (exists members : List (String × Value), Wire.ofConditions q = .record members ∧
        members.map Prod.fst =
          ["category_id", "attributes", "page_size", "offset", "filters"]) ∧
      ofJson (Wire.ofConditions q).print = .ok q ∧
      forall text : String, Value.read? text.toList = some (Wire.ofConditions q) ->
        ofJson text = .ok q) ∧
    forall (env : CommandLine.Environment) (service : Service) (q : Conditions) (v : Visible),
      service.catalog.find q = .ok v ->
      exists out corrected : Value,
        Value.read? (CommandLine.printFind env service q true).stdout.toList = some out ∧
        out.member? "corrected" = some corrected ∧
        printValue 1 corrected <:+:
          (CommandLine.printFind env service q true).stdout.toList ∧
        Value.read? (printValue 1 corrected) = some corrected ∧
        forall text : String, Value.read? text.toList = some corrected ->
          ofJson text = .ok v.corrected ∧
            (ofJson text >>= service.find) = service.find v.corrected := by
  constructor
  · intro q
    exact ⟨⟨_, rfl, rfl⟩, ofJson_of_read? (Wire.roundTrips_conditions.standard q).read?_print,
      fun _text htext => ofJson_of_read? htext⟩
  · intro env service q v hv
    have hstandard := Wire.standard_ofVisible v
    have hcorrected := Wire.roundTrips_conditions.standard v.corrected
    have hstdout : (CommandLine.printFind env service q true).stdout.toList =
        printValue 0 (Wire.ofVisible v) ++ ['\n'] := by
      rw [CommandLine.stdout_printFind_json hv, String.toList_append, Value.print,
        String.toList_ofList]
      rfl
    rw [hstdout]
    refine ⟨Wire.ofVisible v, Wire.ofConditions v.corrected, ?_, ?_, ?_,
      hcorrected.read?_printValue 1, ?_⟩
    · apply hstandard.read?_append 0
      intro c hc
      rw [List.mem_singleton.mp hc]
      rfl
    · rw [Wire.ofVisible, member?_record (by simp)]
      rfl
    · have hinfix : printValue 1 (Wire.ofConditions v.corrected) <:+:
          printValue 0 (Wire.ofVisible v) :=
        infix_of_lookup "corrected" (by rfl) 0
      exact hinfix.trans (List.prefix_append _ _).isInfix
    · intro text htext
      have hread := ofJson_of_read? htext
      exact ⟨hread, by rw [hread, ok_bind]⟩

/-- Boots are selected, and a color that no boots have, with a filter for a title that begins with
a quotation mark and a control.  The piece of the output is asked again as it stands. -/
theorem Conditions.ofJson_printed_boots :
    let q : Conditions :=
      { categoryIds := [10], pairs := [⟨1, 4⟩, ⟨9, 5⟩], filters := [⟨7, "\"\x01"⟩] }
    exists (v : Visible) (text : String),
      Catalog.boots.find q = .ok v ∧ v.corrected.pairs = [⟨1, 4⟩] ∧
        v.corrected.filters = q.filters ∧
        text.toList <:+: (CommandLine.printFind { storage := fun _path => .missing }
          ⟨Catalog.boots⟩ q true).stdout.toList ∧
        ofJson text = .ok v.corrected := by
  intro q
  have hanswer : (Catalog.boots.find q).map
      (fun v => (v.corrected.pairs, v.corrected.filters)) =
        .ok ([⟨1, 4⟩], [⟨7, "\"\x01"⟩]) := by
    decide +kernel
  rcases exists_of_map_eq_ok hanswer with ⟨v, hv, hfacts⟩
  rcases Prod.mk.inj hfacts with ⟨hpairs, hfilters⟩
  rcases Conditions.ofJson_printed.2 { storage := fun _path => .missing } ⟨Catalog.boots⟩ q v hv
    with ⟨_out, corrected, _hout, _hmember, hinfix, hread, htext⟩
  have hpiece : (String.ofList (printValue 1 corrected)).toList = printValue 1 corrected :=
    String.toList_ofList
  refine ⟨v, String.ofList (printValue 1 corrected), hv, hpairs, hfilters, ?_, ?_⟩
  · rw [hpiece]
    exact hinfix
  · apply (htext _ _).1
    rw [hpiece]
    exact hread

end FacetRules
