import FacetRules.Proofs.Precondition.Reading

/-!
# Damaged lists

A list of keys is written with commas between the keys and braces around it.  An export may damage
the keys of a list, each in one of two ways: yen signs stick to either end of the key, or the comma
behind it is lost, so that two keys stand together.  Reading undoes the damage, whatever keys it
has come to.

The shapes are told apart by their lengths in bytes.  A key has 36, and 38 to 48 with one to six
yen signs, which have two bytes each; two keys have 72.  No character of a key is a brace, a comma
or a yen sign, so nothing is cut or trimmed inside a key.
-/

namespace FacetRules
namespace Precondition

/-- The characters of keys: hexadecimal digits and hyphens. -/
def isKeyChar (c : Char) : Bool :=
  c.isDigit || ('a' ≤ c && c ≤ 'f') || ('A' ≤ c && c ≤ 'F') || c == '-'

/-- A key as the tables have it: 36 hexadecimal digits and hyphens. -/
structure Key where
  text : String
  length_eq : text.length = 36
  isKeyChar_of_mem : forall c, c ∈ text.toList -> isKeyChar c = true

/-- What stands between two commas of an export: a key, a key with one to six yen signs around it,
or two keys without the comma between them. -/
inductive Piece
  | intact (key : Key)
  | stained (before : Nat) (key : Key) (after : Nat) (pos : 1 ≤ before + after)
      (le : before + after ≤ 6)
  | joined (first second : Key)

namespace Piece

def yens (n : Nat) : String :=
  String.ofList (List.replicate n '¥')

def text : Piece -> String
  | intact key => key.text
  | stained before key after _ _ => yens before ++ key.text ++ yens after
  | joined first second => first.text ++ second.text

/-- The only key of a piece, or the first of two. -/
def first : Piece -> Key
  | intact key => key
  | stained _ key _ _ _ => key
  | joined first _ => first

def second? : Piece -> Option Key
  | joined _ second => some second
  | _ => none

end Piece

def ofKeys (keys : List Key) : String :=
  "\x7b" ++ ",".intercalate (keys.map Key.text) ++ "\x7d"

/-!
# The characters of a key
-/

theorem utf8Size_of_isKeyChar {c : Char} (h : isKeyChar c = true) : c.utf8Size = 1 := by
  rw [Char.utf8Size_eq_one_iff]
  simp only [isKeyChar, Char.isDigit, Bool.or_eq_true, Bool.and_eq_true, decide_eq_true_eq,
    beq_iff_eq] at h
  rcases h with ((hdigit | hlower) | hupper) | rfl
  · exact UInt32.le_trans hdigit.2 (by decide)
  · exact UInt32.le_trans hlower.2 (by decide)
  · exact UInt32.le_trans hupper.2 (by decide)
  · decide

theorem byteLength_of_keyChars {cs : List Char} (h : forall c, c ∈ cs -> isKeyChar c = true) :
    byteLength cs = cs.length := by
  induction cs with
  | nil =>
      rfl
  | cons c cs ih =>
      rw [byteLength_cons, utf8Size_of_isKeyChar (h c (by simp)),
        ih fun d hd => h d (by simp [hd]), List.length_cons, Nat.add_comm]

theorem byteLength_key (key : Key) : byteLength key.text.toList = 36 := by
  rw [byteLength_of_keyChars key.isKeyChar_of_mem, String.length_toList, key.length_eq]

theorem byteLength_yens (n : Nat) : byteLength (List.replicate n '¥') = 2 * n := by
  induction n with
  | zero =>
      rfl
  | succ n ih =>
      have hyen : '¥'.utf8Size = 2 := by decide
      rw [List.replicate_succ, byteLength_cons, ih, hyen]
      omega

theorem Key.ne_of_mem {key : Key} {c d : Char} (hc : c ∈ key.text.toList)
    (hd : isKeyChar d = false) : c ≠ d := by
  intro heq
  have hkey := key.isKeyChar_of_mem c hc
  rw [heq, hd] at hkey
  cases hkey

/-!
# The shapes of the pieces
-/

section Stained

variable (before after : Nat) (key : Key)

/-- A key is what is left when the yen signs are taken away. -/
theorem trims_stained :
    Text.Trims (· == '¥')
      (List.replicate before '¥' ++ key.text.toList ++ List.replicate after '¥')
      key.text.toList where
  split := by
    refine ⟨_, _, rfl, ?_, ?_⟩
    · intro c hc
      exact beq_iff_eq.mpr (List.eq_of_mem_replicate hc)
    · intro c hc
      exact beq_iff_eq.mpr (List.eq_of_mem_replicate hc)
  head := by
    intro c hc
    exact beq_eq_false_iff_ne.mpr (Key.ne_of_mem (List.mem_of_mem_head? hc) (by decide))
  last := by
    intro c hc
    exact beq_eq_false_iff_ne.mpr (Key.ne_of_mem (List.mem_of_getLast? hc) (by decide))

theorem toList_stained (pos : 1 ≤ before + after) (le : before + after ≤ 6) :
    (Piece.stained before key after pos le).text.toList =
      List.replicate before '¥' ++ key.text.toList ++ List.replicate after '¥' := by
  simp [Piece.text, Piece.yens]

theorem byteLength_stained :
    byteLength (List.replicate before '¥' ++ key.text.toList ++ List.replicate after '¥') =
      36 + 2 * (before + after) := by
  rw [byteLength_append, byteLength_append, byteLength_yens, byteLength_yens, byteLength_key]
  omega

end Stained

/-- Every piece is examined as what it was written for. -/
theorem holds_pieces (pieces : List Piece) :
    Holds (pieces.map fun piece => piece.text.toList)
      (pieces.map fun piece => piece.first.text.toList)
      ((pieces.filterMap Piece.second?).map fun key => key.text.toList) [] := by
  induction pieces with
  | nil =>
      exact .nil
  | cons piece pieces ih =>
      rw [List.map_cons]
      cases piece with
      | intact key =>
          exact .key (byteLength_key key) ih
      | stained before key after pos le =>
          have hlength := byteLength_stained before after key
          rw [toList_stained]
          exact .stripped (by omega) (by omega) (trims_stained before after key)
            (byteLength_key key) ih
      | joined first second =>
          rw [Piece.text, String.toList_append]
          exact .concatenated (byteLength_key first) (byteLength_key second) ih

theorem Piece.thirtySix_le_byteLength (piece : Piece) : 36 ≤ byteLength piece.text.toList := by
  cases piece with
  | intact key =>
      exact Nat.le_of_eq (byteLength_key key).symm
  | stained before key after pos le =>
      rw [toList_stained, byteLength_stained]
      exact Nat.le_add_right 36 _
  | joined first second =>
      rw [Piece.text, String.toList_append, byteLength_append, byteLength_key]
      exact Nat.le_add_right 36 _

theorem Piece.ne_of_mem {piece : Piece} {c d : Char} (hc : c ∈ piece.text.toList)
    (hd : isKeyChar d = false) (hyen : d ≠ '¥') : c ≠ d := by
  cases piece with
  | intact key =>
      exact Key.ne_of_mem hc hd
  | stained before key after pos le =>
      rw [toList_stained, List.mem_append, List.mem_append] at hc
      rcases hc with (hbefore | hkey) | hafter
      · rw [List.eq_of_mem_replicate hbefore]
        exact hyen.symm
      · exact Key.ne_of_mem hkey hd
      · rw [List.eq_of_mem_replicate hafter]
        exact hyen.symm
  | joined first second =>
      rw [Piece.text, String.toList_append, List.mem_append] at hc
      rcases hc with hfirst | hsecond
      · exact Key.ne_of_mem hfirst hd
      · exact Key.ne_of_mem hsecond hd

/-!
# Whole lists
-/

/-- Pieces with commas between them and any braces around them. -/
def ofPieces (opening : String) (pieces : List Piece) (closing : String) : String :=
  opening ++ ",".intercalate (pieces.map Piece.text) ++ closing

section Whole

variable (pieces : List Piece)

theorem isBrace_eq_false_of_mem {c : Char}
    (h : c ∈ [','].intercalate (pieces.map fun piece => piece.text.toList)) :
    isBrace c = false := by
  have hne : c ≠ '\x7b' ∧ c ≠ '\x7d' := by
    rcases mem_of_mem_intercalate h with hcomma | ⟨part, hpart, hc⟩
    · rw [List.mem_singleton.mp hcomma]
      decide
    · rcases List.mem_map.mp hpart with ⟨piece, _hpiece, rfl⟩
      exact ⟨Piece.ne_of_mem hc (by decide) (by decide), Piece.ne_of_mem hc (by decide) (by decide)⟩
  rw [isBrace, Bool.or_eq_false_iff]
  exact ⟨beq_eq_false_iff_ne.mpr hne.1, beq_eq_false_iff_ne.mpr hne.2⟩

/-- The braces are taken away and the list is cut at its commas. -/
theorem entries_ofPieces (hne : pieces ≠ []) {opening closing : String}
    (hopening : forall c, c ∈ opening.toList -> isBrace c = true)
    (hclosing : forall c, c ∈ closing.toList -> isBrace c = true) :
    entries (ofPieces opening pieces closing) = pieces.map fun piece => piece.text.toList := by
  have htrims : Text.Trims isBrace (ofPieces opening pieces closing).toList
      ([','].intercalate (pieces.map fun piece => piece.text.toList)) := by
    refine ⟨⟨opening.toList, closing.toList, ?_, hopening, hclosing⟩, ?_, ?_⟩
    · simp [ofPieces, String.toList_intercalate, Function.comp_def]
    · intro c hc
      exact isBrace_eq_false_of_mem pieces (List.mem_of_mem_head? hc)
    · intro c hc
      exact isBrace_eq_false_of_mem pieces (List.mem_of_getLast? hc)
  rw [entries, <- htrims.eq_trimOf]
  apply List.splitOn_intercalate
  · intro part hpart hcomma
    rcases List.mem_map.mp hpart with ⟨piece, _hpiece, rfl⟩
    exact Piece.ne_of_mem hcomma (by decide) (by decide) rfl
  · exact fun hnil => hne (List.map_eq_nil_iff.mp hnil)

theorem three_le_utf8ByteSize_ofPieces (hne : pieces ≠ []) (opening closing : String) :
    3 ≤ (ofPieces opening pieces closing).utf8ByteSize := by
  cases pieces with
  | nil =>
      exact absurd rfl hne
  | cons piece pieces =>
      have hpiece := piece.thirtySix_le_byteLength
      rcases prefix_intercalate [','] piece.text.toList
        (pieces.map fun piece => piece.text.toList) with ⟨rest, hrest⟩
      rw [<- byteLength_toList, ofPieces]
      simp only [String.toList_append, String.toList_intercalate, List.map_map, List.map_cons,
        Function.comp_def, byteLength_append]
      have hlist : byteLength (",".toList.intercalate
          (piece.text.toList :: pieces.map fun piece => piece.text.toList)) =
          byteLength piece.text.toList + byteLength rest := by
        rw [<- byteLength_append, hrest]
        rfl
      omega

theorem read_ofPieces (hne : pieces ≠ []) (opening closing : String)
    (hopening : forall c, c ∈ opening.toList -> isBrace c = true)
    (hclosing : forall c, c ∈ closing.toList -> isBrace c = true) :
    read (ofPieces opening pieces closing) =
      .triggers ((pieces.map Piece.first ++ pieces.filterMap Piece.second?).map Key.text) [] := by
  have hholds := holds_pieces pieces
  rw [<- entries_ofPieces pieces hne hopening hclosing] at hholds
  rw [read_of_holds (three_le_utf8ByteSize_ofPieces pieces hne opening closing) hholds]
  simp [Function.comp_def]

end Whole

theorem ofKeys_eq (keys : List Key) :
    ofKeys keys = ofPieces "\x7b" (keys.map Piece.intact) "\x7d" := by
  rw [ofPieces, List.map_map]
  rfl

/-- A list that was written with any damage, with braces around it or without, is read as the keys
it came from: the only key of every piece, or the first of two, in their order, and behind these
the second keys.  Nothing is rejected.  Reading undoes the writing of a list without damage. -/
theorem read_recovers :
    (forall pieces : List Piece, pieces ≠ [] -> forall opening closing : String,
        (forall c, c ∈ opening.toList -> isBrace c = true) ->
        (forall c, c ∈ closing.toList -> isBrace c = true) ->
        read (ofPieces opening pieces closing) =
          .triggers
            ((pieces.map Piece.first ++ pieces.filterMap Piece.second?).map Key.text) []) ∧
      forall keys : List Key, keys ≠ [] ->
        read (ofKeys keys) = .triggers (keys.map Key.text) [] := by
  constructor
  · intro pieces hne opening closing hopening hclosing
    exact read_ofPieces pieces hne opening closing hopening hclosing
  · intro keys hne
    have hbraces : forall c, isBrace c = true -> forall d, d ∈ [c] -> isBrace d = true := by
      intro c hc d hd
      rw [List.mem_singleton.mp hd]
      exact hc
    have hread := read_ofPieces (keys.map Piece.intact) (by simpa using hne) "\x7b" "\x7d"
      (hbraces _ (by decide)) (hbraces _ (by decide))
    have hseconds : (keys.map Piece.intact).filterMap Piece.second? = [] := by
      simp [Piece.second?]
    rw [ofKeys_eq, hread, hseconds, List.append_nil, List.map_map]
    simp [Function.comp_def, Piece.first]

/-- A key with a yen sign behind it and two keys at once, in braces and without them. -/
theorem read_recovers_stained :
    let a : Key := ⟨"5508f4a4-7369-4993-904f-7fab6ae31305", by rfl, List.all_eq_true.mp (by rfl)⟩
    let b : Key := ⟨"a4bf6fbb-4fd4-4417-bd62-cb05629c9b31", by rfl, List.all_eq_true.mp (by rfl)⟩
    let pieces : List Piece := [.joined b a, .stained 1 a 2 (by omega) (by omega), .intact b]
    read (ofPieces "\x7b" pieces "\x7d") = .triggers [b.text, a.text, b.text, a.text] [] ∧
      read (ofPieces "" pieces "") = .triggers [b.text, a.text, b.text, a.text] [] ∧
      read (ofKeys [a, b]) = .triggers [a.text, b.text] [] := by
  intro a b pieces
  have hbraces := read_recovers.1 pieces (by simp [pieces]) "\x7b" "\x7d"
    (List.all_eq_true.mp (by rfl)) (List.all_eq_true.mp (by rfl))
  have hbare := read_recovers.1 pieces (by simp [pieces]) "" ""
    (List.all_eq_true.mp (by rfl)) (List.all_eq_true.mp (by rfl))
  exact ⟨hbraces, hbare, read_recovers.2 [a, b] (by simp)⟩

end Precondition
end FacetRules
