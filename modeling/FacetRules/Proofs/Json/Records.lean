import FacetRules.Json.Record
import FacetRules.Proofs.Json.Printed

/-!
# Records that are read back

An encoder and a reader belong together when everything that is encoded is a standard value and
is read as what it was.  Numbers and texts are of this kind, whatever characters a text holds, and
so is a list when its items are.  The fields of a record are found under their names; where some
members of the object are taken away, the other ones are found as before.
-/

namespace FacetRules
namespace Json

/-!
# Texts
-/

namespace Literal

theorem unescape?_of_mem {entry : Char × Char} (h : entry ∈ shortEscapes) :
    unescape? entry.2 = some entry.1 := by
  revert entry
  decide

theorem pieceOf_cases (c : Char) :
    (exists mark, pieceOf c = .escape mark ∧ unescape? mark = some c) ∨
      (c.toNat < 0x20 ∧ pieceOf c = .unit c.toNat.toUInt16) ∨
      (c ≠ '"' ∧ c ≠ '\\' ∧ 0x20 ≤ c.toNat ∧ pieceOf c = .plain c) := by
  unfold pieceOf
  split
  · rename_i d mark hfind
    have hmem := List.mem_of_find?_eq_some hfind
    have hd := List.find?_some hfind
    simp only [Bool.and_eq_true, beq_iff_eq] at hd
    rw [<- hd.1]
    exact .inl ⟨mark, rfl, unescape?_of_mem hmem⟩
  · rename_i hnone
    have hother := List.find?_eq_none.mp hnone
    split
    · rename_i hlt
      exact .inr (.inl ⟨hlt, rfl⟩)
    · rename_i hge
      refine .inr (.inr ⟨?_, ?_, Nat.le_of_not_lt hge, rfl⟩)
      · rintro rfl
        exact hother ('"', '"') (by decide) (by decide)
      · rintro rfl
        exact hother ('\\', '\\') (by decide) (by decide)

theorem standard_ofString (s : String) : (ofString s).Standard := by
  intro piece hpiece
  rcases List.mem_map.mp hpiece with ⟨c, _hc, rfl⟩
  rcases pieceOf_cases c with ⟨mark, hmark, hknown⟩ | ⟨_hlt, hunit⟩ |
    ⟨hquote, hbackslash, hcontrol, hplain⟩
  · rw [hmark]
    exact .escape hknown
  · rw [hunit]
    exact .unit _
  · rw [hplain]
    exact .plain hquote hbackslash hcontrol

theorem chars?_unit {n : UInt16} (h : n.toNat < 0xD800) (l : Literal) :
    chars? (.unit n :: l) = (chars? l).map (Char.ofNat n.toNat :: ·) := by
  have hhigh : isHighUnit n = false := by
    simp [isHighUnit]
    omega
  have hlow : isLowUnit n = false := by
    simp [isLowUnit]
    omega
  have hkept : ¬ (isHighUnit n || isLowUnit n) = true := by
    rw [hhigh, hlow]
    exact Bool.false_ne_true
  match l with
  | [] => exact if_neg hkept
  | .plain _ :: _ => exact if_neg hkept
  | .escape _ :: _ => exact if_neg hkept
  | .unit _ :: _ =>
      rw [chars?, hhigh, hlow]
      rfl

theorem chars?_map_pieceOf (cs : List Char) : chars? (cs.map pieceOf) = some cs := by
  induction cs with
  | nil =>
      rfl
  | cons c cs ih =>
      rw [List.map_cons]
      rcases pieceOf_cases c with ⟨mark, hmark, hknown⟩ | ⟨hlt, hunit⟩ |
        ⟨_hquote, _hbackslash, _hcontrol, hplain⟩
      · rw [hmark, chars?, hknown, ih]
        rfl
      · have hn : c.toNat.toUInt16.toNat = c.toNat := 
          UInt16.toNat_ofNat_of_lt (Nat.lt_trans hlt (by decide))
        rw [hunit, chars?_unit (by omega), ih, hn, Char.ofNat_toNat]
        rfl
      · rw [hplain, chars?, ih]
        rfl

theorem text?_ofString (s : String) : (ofString s).text? = some s := by
  rw [text?, ofString, chars?_map_pieceOf]
  exact congrArg some String.ofList_toList

end Literal

/-!
# Encoders with their readers
-/

/-- What is encoded is a standard value, and is read as it was. -/
structure RoundTrips {α : Type} (encode : α -> Value) (decode : Decoder α) : Prop where
  standard : forall x, (encode x).Standard
  decode_encode : forall x, decode (encode x) = some x

theorem mapM_map_eq_some {α β : Type} {encode : α -> β} {decode : β -> Option α}
    (h : forall x, decode (encode x) = some x) (xs : List α) :
    (xs.map encode).mapM decode = some xs := by
  induction xs with
  | nil =>
      rfl
  | cons x xs ih =>
      rw [List.map_cons, List.mapM_cons, h, ih]
      rfl

theorem roundTrips_word32 : RoundTrips (fun n : UInt32 => .ofNat n.toNat) .word32 where
  standard := fun _n => .integer _
  decode_encode := Text.word32?_toNat

theorem roundTrips_word64 : RoundTrips (fun n : UInt64 => .ofNat n.toNat) .word64 where
  standard := fun _n => .integer _
  decode_encode := Text.word64?_toNat

theorem roundTrips_text : RoundTrips .ofString .text where
  standard := fun s => .string (Literal.standard_ofString s)
  decode_encode := Literal.text?_ofString

section RoundTrips

variable {α : Type} {encode : α -> Value} {decode : Decoder α}

theorem RoundTrips.list (h : RoundTrips encode decode) :
    RoundTrips (fun xs => .array (xs.map encode)) (.list decode) where
  standard := by
    intro xs
    apply Value.Standard.array
    intro v hv
    rcases List.mem_map.mp hv with ⟨x, _hx, rfl⟩
    exact h.standard x
  decode_encode := mapM_map_eq_some h.decode_encode

/-- What is encoded is read back from any text that is read as the encoded value. -/
theorem RoundTrips.bind_eq_some (h : RoundTrips encode decode) {x : α} {v : Option Value}
    (hv : v = some (encode x)) : v.bind decode = some x := by
  rw [hv, Option.bind_some, h.decode_encode]

end RoundTrips

/-!
# Records
-/

theorem standard_record {members : List (String × Value)}
    (h : forall m, m ∈ members -> m.2.Standard) : (Value.record members).Standard := by
  apply Value.Standard.object
  · intro m hm
    rcases List.mem_map.mp hm with ⟨member, _hmember, rfl⟩
    exact Literal.standard_ofString member.1
  · intro m hm
    rcases List.mem_map.mp hm with ⟨member, hmember, rfl⟩
    exact h member hmember

/-- The fields of a record are its members with known names, when none of them is repeated. -/
theorem fields?_record_known {names : List String} {members : List (String × Value)}
    (hnodup : (members.map Prod.fst).Nodup) :
    fields? names (.record members) = some (members.filter fun m => names.contains m.1) := by
  rw [Value.record, fields?, mapM_map_eq_some]
  · exact if_pos ((List.filter_sublist.map Prod.fst).nodup hnodup)
  · intro member
    simp only [Literal.text?_ofString]
    rfl

theorem fields?_record {names : List String} {members : List (String × Value)}
    (hnames : forall m, m ∈ members -> m.1 ∈ names) (hnodup : (members.map Prod.fst).Nodup) :
    fields? names (.record members) = some members := by
  rw [fields?_record_known hnodup, List.filter_eq_self.mpr]
  intro m hm
  exact List.contains_iff_mem.mpr (hnames m hm)

/-- Taking members away takes away their fields and no others. -/
theorem lookup_filter {α : Type} (kept : String -> Bool) (members : List (String × α))
    (name : String) :
    (members.filter fun m => kept m.1).lookup name =
      if kept name then members.lookup name else none := by
  induction members with
  | nil =>
      simp
  | cons m members ih =>
      rcases m with ⟨key, v⟩
      by_cases hname : name = key
      · subst hname
        by_cases hkept : kept name = true
        · simp [hkept]
        · simp [hkept, ih]
      · have hkey : (name == key) = false := beq_eq_false_iff_ne.mpr hname
        by_cases hkept : kept key = true
        · simp [hkept, List.lookup_cons, hkey, ih]
        · simp [hkept, List.lookup_cons, hkey, ih]

/-- The value of a member of an object. -/
def Value.member? (name : String) (v : Value) : Option Value :=
  (fields? [name] v).bind fun fields => fields.lookup name

theorem member?_record {members : List (String × Value)} (hnodup : (members.map Prod.fst).Nodup)
    (name : String) : (Value.record members).member? name = members.lookup name := by
  rw [Value.member?, fields?_record_known hnodup, Option.bind_some,
    lookup_filter (fun key => [name].contains key), if_pos (by simp)]

section Fields

variable {α : Type} {encode : α -> Value} {decode : Decoder α} (h : RoundTrips encode decode)
  (members : Fields) (name : String) {x : α} (hx : members.lookup name = some (encode x))

include h hx

theorem Fields.required_eq : members.required name decode = some x := by
  rw [Fields.required, hx]
  exact h.decode_encode x

theorem Fields.optional_eq (default : α) : members.optional name decode default = some x := by
  rw [Fields.optional, hx]
  exact h.decode_encode x

/-- A field with a default, in a record of which some members were taken away. -/
theorem Fields.optional_filter (kept : String -> Bool) (default : α) :
    Fields.optional (members.filter fun m => kept m.1) name decode default =
      some (if kept name then x else default) := by
  rw [Fields.optional, lookup_filter, hx]
  by_cases hkept : kept name = true
  · rw [if_pos hkept, if_pos hkept]
    exact h.decode_encode x
  · rw [if_neg hkept, if_neg hkept]

end Fields

end Json
end FacetRules
