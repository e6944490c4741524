import FacetRules.Proofs.Dump.Reading
import FacetRules.Text.Split

/-!
# Lines that look alike

The text of a line tells its kind and its numbers, whatever the titles are.  Lines that show what
one catalog stores therefore look alike only when they are the same.
-/

namespace FacetRules

namespace Text

/-- Blanks in front do not hide the digits of a number. -/
theorem filter_leftpad_blank (width n : Nat) :
    ((Nat.toDigits 10 n).leftpad width ' ').filter Char.isDigit = Nat.toDigits 10 n := by
  rw [List.leftpad, List.filter_append, List.filter_replicate, if_neg (by decide),
    List.nil_append]
  apply List.filter_eq_self.mpr
  intro c hc
  exact Nat.isDigit_of_mem_toDigits (by decide) (by decide) hc

theorem toDigits_inj {m n : Nat} (h : Nat.toDigits 10 m = Nat.toDigits 10 n) : m = n := by
  have hm := Nat.ofDigitChars_ten_toDigits (n := m)
  rw [h, Nat.ofDigitChars_ten_toDigits] at hm
  exact hm.symm

theorem bracket_notMem_leftpad (width n : Nat) :
    ']' ∉ (Nat.toDigits 10 n).leftpad width ' ' := by
  intro h
  rcases List.mem_append.mp h with hblank | hdigit
  · exact absurd (List.mem_replicate.mp hblank).2 (by decide)
  · have hbracket := Nat.isDigit_of_mem_toDigits (by decide) (by decide) hdigit
    cases hbracket

end Text

namespace DumpLine

/-!
# Columns
-/

theorem toList_column_append (id : UInt32) (s : String) :
    (column id ++ s).toList =
      '[' :: ((Nat.toDigits 10 id.toNat).leftpad 6 ' ' ++ ']' :: s.toList) := by
  have hflush : (Text.flushRight 6 ' ' id.toNat).toList =
      (Nat.toDigits 10 id.toNat).leftpad 6 ' ' := String.toList_ofList
  rw [column, String.toList_append, String.toList_append, String.toList_append, hflush]
  simp

theorem column_append_inj {i j : UInt32} {s t : String} (h : column i ++ s = column j ++ t) :
    i = j ∧ s = t := by
  have hlists := congrArg String.toList h
  rw [toList_column_append, toList_column_append] at hlists
  have hsplit := congrArg (Text.splitFirst ']') (List.cons.inj hlists).2
  rw [Text.splitFirst_append (Text.bracket_notMem_leftpad 6 i.toNat),
    Text.splitFirst_append (Text.bracket_notMem_leftpad 6 j.toNat)] at hsplit
  rcases Prod.mk.inj (Option.some.inj hsplit) with ⟨hcolumn, hrest⟩
  have hdigits := congrArg (List.filter Char.isDigit) hcolumn
  rw [Text.filter_leftpad_blank, Text.filter_leftpad_blank] at hdigits
  exact ⟨UInt32.toNat_inj.mp (Text.toDigits_inj hdigits), String.toList_inj.mp hrest⟩

/-!
# Kinds
-/

inductive Kind
  | heading
  | shown
  | listed
  | omitted
  | trigger
  | gated
  | unlocked
  deriving DecidableEq

def kind : DumpLine -> Kind
  | heading .. => .heading
  | shown _ => .shown
  | listed _ => .listed
  | omitted _ => .omitted
  | trigger _ _ => .trigger
  | gated _ => .gated
  | unlocked _ => .unlocked

/-- What lines of a kind begin with, in front of their first number. -/
def Kind.start : Kind -> String
  | heading => "category "
  | shown => " - attribute "
  | listed => "    - option "
  | omitted => "      <skipped "
  | trigger => " - precondition: attribute "
  | gated => "    - attribute "
  | unlocked => "       - option "

/-- No kind begins as another one does and goes on. -/
theorem Kind.eq_of_start_prefix {k l : Kind} (h : k.start.toList <+: l.start.toList) : k = l := by
  cases k <;> cases l <;> first | rfl | exact absurd h (by decide)

/-!
# The texts by their numbers

The columns stand in front of everything that follows them, whatever titles there are between.  The
parts are put together by laws over any strings, so that no literal has to be evaluated for it.
-/

theorem append_three (a b c d : String) : a ++ b ++ c ++ d = a ++ (b ++ (c ++ d)) := by
  rw [String.append_assoc, String.append_assoc]

theorem append_four (a b c d e : String) : a ++ b ++ c ++ d ++ e = a ++ (b ++ (c ++ d ++ e)) := by
  rw [append_three, String.append_assoc, String.append_assoc]

theorem append_seven (a b c d e f g h : String) :
    a ++ b ++ c ++ d ++ e ++ f ++ g ++ h = a ++ (b ++ (c ++ d ++ e ++ (f ++ (g ++ h)))) := by
  rw [append_three _ f g h, append_four a b c d e, String.append_assoc,
    String.append_assoc]

theorem text_heading (category : CategoryId) (name : String) (visible assigned triggers : Nat) :
    exists tail, (heading category name visible assigned triggers).text =
      Kind.heading.start ++ (column category ++ tail) :=
  ⟨_, append_four _ _ _ _ _⟩

theorem text_shown (a : Attribute) :
    (shown a).text =
      Kind.shown.start ++ (column a.id ++ (" - " ++ titled a.title a.displayOrder)) :=
  append_three _ _ _ _

theorem text_listed (o : AttributeOption) :
    (listed o).text =
      Kind.listed.start ++ (column o.id ++ (" - " ++ titled o.title o.displayOrder)) :=
  append_three _ _ _ _

theorem text_omitted (count : Nat) :
    (omitted count).text = Kind.omitted.start ++ (toString count ++ " more>") :=
  String.append_assoc

theorem text_trigger (a : Attribute) (o : AttributeOption) :
    (trigger a o).text =
      Kind.trigger.start ++ (column a.id ++
        (" - " ++ a.title ++ " - option " ++ (column o.id ++ (" - " ++ o.title)))) :=
  append_seven _ _ _ _ _ _ _ _

theorem text_gated (a : Attribute) :
    (gated a).text =
      Kind.gated.start ++ (column a.id ++ (" - " ++ titled a.title a.displayOrder)) :=
  append_three _ _ _ _

theorem text_unlocked (o : AttributeOption) :
    (unlocked o).text =
      Kind.unlocked.start ++ (column o.id ++ (" - " ++ titled o.title o.displayOrder)) :=
  append_three _ _ _ _

theorem exists_text_eq (line : DumpLine) :
    exists tail, line.text = line.kind.start ++ tail := by
  cases line with
  | heading category name visible assigned triggers =>
      rcases text_heading category name visible assigned triggers with ⟨tail, htail⟩
      exact ⟨_, htail⟩
  | shown a => exact ⟨_, text_shown a⟩
  | listed o => exact ⟨_, text_listed o⟩
  | omitted count => exact ⟨_, text_omitted count⟩
  | trigger a o => exact ⟨_, text_trigger a o⟩
  | gated a => exact ⟨_, text_gated a⟩
  | unlocked o => exact ⟨_, text_unlocked o⟩

theorem kind_eq_of_text_eq {line other : DumpLine} (h : line.text = other.text) :
    line.kind = other.kind := by
  rcases exists_text_eq line with ⟨tail, htail⟩
  rcases exists_text_eq other with ⟨rest, hrest⟩
  have hlists : line.kind.start.toList ++ tail.toList = other.kind.start.toList ++ rest.toList := by
    rw [<- String.toList_append, <- String.toList_append, <- htail, <- hrest, h]
  rcases List.prefix_or_prefix_of_prefix (List.prefix_append line.kind.start.toList tail.toList)
    (hlists ▸ List.prefix_append other.kind.start.toList rest.toList) with hprefix | hprefix
  · exact Kind.eq_of_start_prefix hprefix
  · exact (Kind.eq_of_start_prefix hprefix).symm

/-!
# What is stored
-/

theorem attribute_eq_of_column_eq {c : Catalog} {a b : Attribute} {s t : String}
    (ha : c.attributes[a.id]? = some a) (hb : c.attributes[b.id]? = some b)
    (h : column a.id ++ s = column b.id ++ t) : a = b ∧ s = t := by
  rcases column_append_inj h with ⟨hid, hrest⟩
  rw [hid, hb] at ha
  exact ⟨(Option.some.inj ha).symm, hrest⟩

theorem option_eq_of_column_eq {c : Catalog} {o p : AttributeOption} {s t : String}
    (ho : c.options[o.id]? = some o) (hp : c.options[p.id]? = some p)
    (h : column o.id ++ s = column p.id ++ t) : o = p := by
  rw [(column_append_inj h).1, hp] at ho
  exact (Option.some.inj ho).symm

theorem count_eq_of_text_eq {m n : Nat} (h : (omitted m).text = (omitted n).text) : m = n := by
  rw [text_omitted, text_omitted, String.append_right_inj, String.append_left_inj] at h
  have hdigits : forall k : Nat, (toString k).toList = Nat.toDigits 10 k :=
    fun _k => String.toList_ofList
  have hlists := congrArg String.toList h
  rw [hdigits, hdigits] at hlists
  exact Text.toDigits_inj hlists

/-- In one catalog no two lines look alike. -/
theorem Stored.eq_of_text_eq {c : Catalog} {line other : DumpLine} (hline : line.Stored c)
    (hother : other.Stored c) (h : line.text = other.text) : line = other := by
  have hkind := kind_eq_of_text_eq h
  cases line with
  | heading category name visible assigned triggers =>
      cases other with
      | heading named name' visible' assigned' triggers' =>
          rcases text_heading category name visible assigned triggers with ⟨tail, htail⟩
          rcases text_heading named name' visible' assigned' triggers' with ⟨rest, hrest⟩
          rw [htail, hrest, String.append_right_inj] at h
          rcases column_append_inj h with ⟨rfl, _htails⟩
          rcases hline with ⟨r, hr, rfl, rfl, rfl, rfl⟩
          rcases hother with ⟨s, hs, rfl, rfl, rfl, rfl⟩
          rw [hs] at hr
          rw [Option.some.inj hr]
      | _ => cases hkind
  | shown a =>
      cases other with
      | shown b =>
          rw [text_shown, text_shown, String.append_right_inj] at h
          rw [(attribute_eq_of_column_eq hline hother h).1]
      | _ => cases hkind
  | listed o =>
      cases other with
      | listed p =>
          rw [text_listed, text_listed, String.append_right_inj] at h
          rw [option_eq_of_column_eq hline hother h]
      | _ => cases hkind
  | omitted m =>
      cases other with
      | omitted n => rw [count_eq_of_text_eq h]
      | _ => cases hkind
  | trigger a o =>
      cases other with
      | trigger b p =>
          rw [text_trigger, text_trigger, String.append_right_inj] at h
          rcases attribute_eq_of_column_eq hline.2.2 hother.2.2 h with ⟨rfl, hrest⟩
          rw [String.append_right_inj] at hrest
          rw [option_eq_of_column_eq hline.1 hother.1 hrest]
      | _ => cases hkind
  | gated a =>
      cases other with
      | gated b =>
          rw [text_gated, text_gated, String.append_right_inj] at h
          rw [(attribute_eq_of_column_eq hline hother h).1]
      | _ => cases hkind
  | unlocked o =>
      cases other with
      | unlocked p =>
          rw [text_unlocked, text_unlocked, String.append_right_inj] at h
          rw [option_eq_of_column_eq hline hother h]
      | _ => cases hkind

end DumpLine
end FacetRules
