import FacetRules.Json.Printer
import FacetRules.Json.Reader

/-!
# Reading what was printed

What is printed for a value is read as this value, at whatever depth it is printed and whatever
follows it, as long as a number that comes last is not continued.  Every value that stands for
something here can be printed in this way; left out are literals that hold a character which
would have to be escaped, and numbers that are no integers.
-/

namespace FacetRules
namespace Json

/-- A piece that is read as it is written. -/
inductive Piece.Standard : Piece -> Prop
  | plain {c : Char} (quote : c ≠ '"') (backslash : c ≠ '\\') (control : 0x20 ≤ c.toNat) :
      Standard (.plain c)
  | escape {mark c : Char} (known : Literal.unescape? mark = some c) : Standard (.escape mark)
  | unit (n : UInt16) : Standard (.unit n)

def Literal.Standard (l : Literal) : Prop :=
  forall piece, piece ∈ l -> piece.Standard

/-- A value that is read as it is written. -/
inductive Value.Standard : Value -> Prop
  | null : Standard .null
  | bool (b : Bool) : Standard (.bool b)
  | integer (i : Int) : Standard (.integer i)
  | string {l : Literal} (pieces : l.Standard) : Standard (.string l)
  | array {vs : List Value} (items : forall v, v ∈ vs -> Standard v) : Standard (.array vs)
  | object {ms : List (Literal × Value)} (keys : forall m, m ∈ ms -> m.1.Standard)
      (values : forall m, m ∈ ms -> Standard m.2) : Standard (.object ms)

/-!
# White space
-/

theorem skipSpace_cons_of_not {c : Char} (h : isSpace c = false) (cs : List Char) :
    skipSpace (c :: cs) = c :: cs :=
  List.dropWhile_cons_of_neg (ne_true_of_eq_false h)

theorem skipSpace_newLine (depth : Nat) (cs : List Char) :
    skipSpace (newLine depth ++ cs) = skipSpace cs := by
  apply List.dropWhile_append_of_pos
  intro c hc
  rcases List.mem_cons.mp hc with rfl | hc
  · rfl
  · rw [List.eq_of_mem_replicate hc]
    rfl

/-!
# Literals
-/

theorem unit?_unitDigits (n : UInt16) :
    unit? (Nat.digitChar (n.toNat / 4096)) (Nat.digitChar (n.toNat / 256 % 16))
      (Nat.digitChar (n.toNat / 16 % 16)) (Nat.digitChar (n.toNat % 16)) = some n := by
  have hdigit : forall d, d < 16 -> hexDigit? (Nat.digitChar d) = some d := by
    decide
  have hn : n.toNat < 65536 := n.toNat_lt
  have hsum : ((n.toNat / 4096 * 16 + n.toNat / 256 % 16) * 16 + n.toNat / 16 % 16) * 16 +
      n.toNat % 16 = n.toNat := by
    omega
  rw [unit?, hdigit _ (by omega), hdigit _ (by omega), hdigit _ (by omega), hdigit _ (by omega)]
  show some (_ : Nat).toUInt16 = some n
  rw [hsum]
  exact congrArg some UInt16.ofNat_toNat

theorem readLiteral_piece {piece : Piece} (h : piece.Standard) {cs rest : List Char} {l : Literal}
    (hcs : readLiteral cs = some (l, rest)) :
    readLiteral (piece.print ++ cs) = some (piece :: l, rest) := by
  cases h with
  | @plain c quote backslash control =>
      have hkept : ¬ (c == '\\' || decide (c.toNat < 0x20)) = true := by
        simp [backslash, control]
      show readLiteral (c :: cs) = _
      rw [readLiteral, if_neg hkept, hcs]
      · rfl
      · exact quote
      · intro _a _b _c _d _rest hc
        exact absurd hc backslash
      · intro _mark _rest hc
        exact absurd hc backslash
  | @escape mark c known =>
      show readLiteral ('\\' :: mark :: cs) = _
      rw [readLiteral, known, Option.isSome_some, if_pos rfl, hcs]
      · rfl
      · intro _a _b _c _d _rest hmark _hcs
        rw [hmark] at known
        cases known
  | unit n =>
      show readLiteral ('\\' :: 'u' :: (_ :: _ :: _ :: _ :: cs)) = _
      rw [readLiteral, unit?_unitDigits, hcs]
      rfl

theorem readLiteral_print {l : Literal} (h : l.Standard) (rest : List Char) :
    readLiteral (l.flatMap Piece.print ++ '"' :: rest) = some (l, rest) := by
  induction l with
  | nil =>
      exact readLiteral.eq_2 rest
  | cons piece l ih =>
      have hrest := ih fun p hp => h p (List.mem_cons_of_mem piece hp)
      rw [List.flatMap_cons, List.append_assoc]
      exact readLiteral_piece (h piece List.mem_cons_self) hrest

/-!
# Numbers
-/

theorem isSpace_of_isDigit {c : Char} (h : c.isDigit = true) : isSpace c = false := by
  have hne : forall d : Char, d.isDigit = false -> (c == d) = false := by
    intro d hd
    apply beq_eq_false_iff_ne.mpr
    intro heq
    rw [heq, hd] at h
    cases h
  rw [isSpace, hne ' ' rfl, hne '\t' rfl, hne '\n' rfl, hne '\r' rfl]
  rfl

theorem exists_cons_toDigits (n : Nat) :
    exists d ds, Nat.toDigits 10 n = d :: ds ∧ d.isDigit = true := by
  rcases List.exists_cons_of_ne_nil (Nat.toDigits_ne_nil (n := n) (b := 10)) with ⟨d, ds, hds⟩
  refine ⟨d, ds, hds, Nat.isDigit_of_mem_toDigits (b := 10) (n := n) (by decide) (by decide) ?_⟩
  rw [hds]
  exact List.mem_cons_self

theorem head?_toDigits {n : Nat} (h : n ≠ 0) : (Nat.toDigits 10 n).head? ≠ some '0' := by
  induction n using Nat.strongRecOn with
  | ind n ih =>
      by_cases hlt : n < 10
      · have hdigit : forall d, d < 10 -> d ≠ 0 -> Nat.digitChar d ≠ '0' := by
          decide
        rw [Nat.toDigits_of_lt_base hlt]
        intro hhead
        exact hdigit n hlt h (Option.some.inj hhead)
      · have hfront := ih (n / 10) (by omega) (by omega)
        rcases exists_cons_toDigits (n / 10) with ⟨d, ds, hds, _hdigit⟩
        rw [Nat.toDigits_of_base_le (by decide) (by omega), hds]
        rw [hds] at hfront
        exact hfront

/-- What follows does not continue a number. -/
structure EndsNumber (rest : List Char) : Prop where
  digit : forall c, c ∈ rest.head? -> c.isDigit = false
  mark : forall c, c ∈ rest.head? -> c ∉ ['.', 'e', 'E']

theorem endsNumber_nil : EndsNumber [] where
  digit := by
    intro c hc
    cases hc
  mark := by
    intro c hc
    cases hc

theorem endsNumber_cons {c : Char} (digit : c.isDigit = false) (mark : c ∉ ['.', 'e', 'E'])
    (cs : List Char) : EndsNumber (c :: cs) where
  digit := by
    intro d hd
    rw [<- Option.some.inj hd]
    exact digit
  mark := by
    intro d hd
    rw [<- Option.some.inj hd]
    exact mark

theorem spanDigits_append {ds rest : List Char} (hds : forall c, c ∈ ds -> c.isDigit = true)
    (h : EndsNumber rest) : spanDigits (ds ++ rest) = (ds, rest) := by
  have hrest : rest.takeWhile Char.isDigit = [] ∧ rest.dropWhile Char.isDigit = rest := by
    cases rest with
    | nil =>
        exact ⟨rfl, rfl⟩
    | cons c rest =>
        have hc := ne_true_of_eq_false (h.digit c rfl)
        exact ⟨List.takeWhile_cons_of_neg hc, List.dropWhile_cons_of_neg hc⟩
  rw [spanDigits, List.takeWhile_append_of_pos hds, List.dropWhile_append_of_pos hds, hrest.1,
    hrest.2, List.append_nil]

theorem wholeDigits?_toDigits (n : Nat) {rest : List Char} (h : EndsNumber rest) :
    wholeDigits? (Nat.toDigits 10 n ++ rest) = some (Nat.toDigits 10 n, rest) := by
  have hdigits : forall c, c ∈ Nat.toDigits 10 n -> c.isDigit = true := by
    intro c hc
    exact Nat.isDigit_of_mem_toDigits (by decide) (by decide) hc
  rw [wholeDigits?, spanDigits_append hdigits h]
  split
  · rename_i hnil
    exact absurd (congrArg Prod.fst hnil) Nat.toDigits_ne_nil
  · rename_i c cs _rest hzero
    have hlist : Nat.toDigits 10 n = '0' :: c :: cs := congrArg Prod.fst hzero
    have hhead : (Nat.toDigits 10 n).head? = some '0' := by
      rw [hlist]
      rfl
    have hn : n = 0 := Classical.byContradiction fun hne => head?_toDigits hne hhead
    rw [hn, Nat.toDigits_zero] at hlist
    cases hlist
  · rfl

theorem fraction?_of_endsNumber {rest : List Char} (h : EndsNumber rest) :
    fraction? rest = some ([], rest) := by
  unfold fraction?
  split
  · exact absurd (by decide) (h.mark '.' rfl)
  · rfl

theorem exponent?_of_endsNumber {rest : List Char} (h : EndsNumber rest) :
    exponent? rest = some ([], rest) := by
  cases rest with
  | nil =>
      rfl
  | cons c rest =>
      have hc : ¬ (c == 'e' || c == 'E') = true := by
        have hmark := h.mark c rfl
        simp only [List.mem_cons, not_or] at hmark
        simp [hmark]
      unfold exponent?
      exact if_neg hc

/-- The digits of a number and the sign in front of them. -/
theorem readNumber_toDigits (minus : Bool) (n : Nat) {rest : List Char} (h : EndsNumber rest)
    (hminus : minus = true -> n ≠ 0) :
    readNumber ((if minus then ['-'] else []) ++ Nat.toDigits 10 n ++ rest) =
      some (.integer (if minus then -(n : Int) else n), rest) := by
  have hwhole := wholeDigits?_toDigits n h
  cases minus with
  | true =>
      have hn := hminus rfl
      show readNumber ('-' :: (Nat.toDigits 10 n ++ rest)) = _
      unfold readNumber
      simp [hwhole, fraction?_of_endsNumber h, exponent?_of_endsNumber h,
        Nat.ofDigitChars_ten_toDigits, hn]
  | false =>
      rcases exists_cons_toDigits n with ⟨d, ds, hds, hdigit⟩
      have hsign : d ≠ '-' := by
        intro heq
        rw [heq] at hdigit
        cases hdigit
      show readNumber (Nat.toDigits 10 n ++ rest) = _
      have hread := Nat.ofDigitChars_ten_toDigits (n := n)
      rw [hds] at hread ⊢
      rw [hds, List.cons_append] at hwhole
      unfold readNumber
      simp [hwhole, fraction?_of_endsNumber h, exponent?_of_endsNumber h, hread, hsign]

theorem readNumber_printInteger (i : Int) {rest : List Char} (h : EndsNumber rest) :
    readNumber (printInteger i ++ rest) = some (.integer i, rest) := by
  cases i with
  | ofNat n => exact readNumber_toDigits false n h (by intro hminus; cases hminus)
  | negSucc n => exact readNumber_toDigits true (n + 1) h (fun _hminus => Nat.succ_ne_zero n)

theorem exists_cons_printInteger (i : Int) :
    exists c cs, printInteger i = c :: cs ∧ (c.isDigit = true ∨ c = '-') := by
  cases i with
  | ofNat n =>
      rcases exists_cons_toDigits n with ⟨d, ds, hds, hdigit⟩
      exact ⟨d, ds, hds, .inl hdigit⟩
  | negSucc n =>
      exact ⟨'-', Nat.toDigits 10 (n + 1), rfl, .inr rfl⟩

theorem isSpace_of_number {c : Char} (h : c.isDigit = true ∨ c = '-') : isSpace c = false := by
  rcases h with hdigit | rfl
  · exact isSpace_of_isDigit hdigit
  · rfl

/-- What begins with a digit or a minus sign is read as a number. -/
theorem readValue_of_number {c : Char} (h : c.isDigit = true ∨ c = '-') (budget : Nat)
    (cs : List Char) : readValue (budget + 1) (c :: cs) = readNumber (c :: cs) := by
  have hne : forall (d : Char) {ds : List Char}, d.isDigit = false -> d ≠ '-' ->
      c :: cs ≠ d :: ds := by
    intro d ds hd hminus heq
    rcases h with hdigit | hsign
    · rw [(List.cons.inj heq).1, hd] at hdigit
      cases hdigit
    · exact hminus ((List.cons.inj heq).1.symm.trans hsign)
  rw [readValue, skipSpace_cons_of_not (isSpace_of_number h)]
  -- None of the marks that the other kinds of values begin with is a digit or a sign.
  split
  · rename_i hnull
    exact absurd hnull (hne 'n' rfl (by decide))
  · rename_i htrue
    exact absurd htrue (hne 't' rfl (by decide))
  · rename_i hfalse
    exact absurd hfalse (hne 'f' rfl (by decide))
  · rename_i hquote
    exact absurd hquote (hne '"' rfl (by decide))
  · rename_i hbracket
    exact absurd hbracket (hne '[' rfl (by decide))
  · rename_i hbrace
    exact absurd hbrace (hne '\x7b' rfl (by decide))
  · rfl

/-!
# Values
-/

/-- The value is read back from its printed form, and what follows it is left. -/
def Value.ReadsBack (v : Value) : Prop :=
  forall (depth budget : Nat) (rest : List Char), 2 * (printValue depth v).length ≤ budget ->
    EndsNumber rest -> readValue budget (printValue depth v ++ rest) = some (v, rest)

theorem exists_cons_printValue {v : Value} (h : v.Standard) (depth : Nat) :
    exists c cs, printValue depth v = c :: cs ∧ isSpace c = false ∧ c ≠ ']' := by
  cases h with
  | null => exact ⟨_, _, rfl, rfl, by decide⟩
  | bool b =>
      cases b with
      | false => exact ⟨_, _, rfl, rfl, by decide⟩
      | true => exact ⟨_, _, rfl, rfl, by decide⟩
  | integer i =>
      rcases exists_cons_printInteger i with ⟨c, cs, hcs, hnumber⟩
      refine ⟨c, cs, hcs, isSpace_of_number hnumber, ?_⟩
      rintro rfl
      rcases hnumber with hdigit | hsign
      · cases hdigit
      · cases hsign
  | string pieces => exact ⟨_, _, rfl, rfl, by decide⟩
  | @array vs items =>
      cases vs with
      | nil => exact ⟨_, _, rfl, rfl, by decide⟩
      | cons v vs => exact ⟨_, _, rfl, rfl, by decide⟩
  | @object ms keys values =>
      cases ms with
      | nil => exact ⟨_, _, rfl, rfl, by decide⟩
      | cons m ms => exact ⟨_, _, rfl, rfl, by decide⟩

theorem endsNumber_newLine (depth : Nat) (cs : List Char) : EndsNumber (newLine depth ++ cs) :=
  endsNumber_cons rfl (by decide) _

theorem endsNumber_comma (cs : List Char) : EndsNumber (',' :: cs) :=
  endsNumber_cons rfl (by decide) cs

section White

variable {cs ds : List Char} (h : skipSpace cs = skipSpace ds) (budget : Nat)

include h

theorem readValue_of_skipSpace_eq : readValue budget cs = readValue budget ds := by
  cases budget with
  | zero => rw [readValue, readValue]
  | succ budget => rw [readValue, readValue, h]

theorem readItems_of_skipSpace_eq : readItems budget cs = readItems budget ds := by
  cases budget with
  | zero => rw [readItems, readItems]
  | succ budget => rw [readItems, readItems, readValue_of_skipSpace_eq h]

theorem readMembers_of_skipSpace_eq : readMembers budget cs = readMembers budget ds := by
  cases budget with
  | zero => rw [readMembers, readMembers]
  | succ budget => rw [readMembers, readMembers, h]

end White

/-- The items of an array, up to the closing bracket. -/
theorem readItems_print {v : Value} {vs : List Value} (h : forall w, w ∈ v :: vs -> w.ReadsBack)
    (depth outer : Nat) {budget : Nat}
    (hbudget : 2 * (printValue depth v ++ printItems depth vs).length < budget)
    (rest : List Char) :
    readItems budget
        (printValue depth v ++ (printItems depth vs ++ (newLine outer ++ ']' :: rest))) =
      some (v :: vs, rest) := by
  rcases Nat.exists_eq_add_one_of_ne_zero (by omega : budget ≠ 0) with ⟨budget, rfl⟩
  rw [List.length_append] at hbudget
  have hv := fun cs => h v List.mem_cons_self depth budget cs (by omega)
  induction vs generalizing v budget with
  | nil =>
      rw [printItems, List.nil_append, readItems, hv _ (endsNumber_newLine _ _)]
      simp only [Option.bind_eq_bind, Option.bind_some, skipSpace_newLine]
      rfl
  | cons w vs ih =>
      simp only [printItems, List.length_cons, List.length_append] at hbudget
      rcases Nat.exists_eq_add_one_of_ne_zero (by omega : budget ≠ 0) with ⟨less, rfl⟩
      have hitems : forall u, u ∈ w :: vs -> u.ReadsBack := fun u hu =>
        h u (List.mem_cons_of_mem v hu)
      have hvs := ih hitems less (by omega) fun cs =>
        hitems w List.mem_cons_self depth less cs (by omega)
      rw [printItems, List.cons_append, readItems, hv _ (endsNumber_comma _)]
      simp only [Option.bind_eq_bind, Option.bind_some, List.append_assoc]
      rw [skipSpace_cons_of_not rfl]
      simp only [readItems_of_skipSpace_eq (skipSpace_newLine _ _), hvs]
      rfl

/-- The first member of an object; what follows it tells whether there are others. -/
theorem readMembers_member {m : Literal × Value} (hkey : m.1.Standard) (h : m.2.ReadsBack)
    {depth budget : Nat} (hbudget : 2 * (printValue depth m.2).length ≤ budget)
    {cs : List Char} (hcs : EndsNumber cs) :
    readMembers (budget + 1) (m.1.print ++ ':' :: ' ' :: (printValue depth m.2 ++ cs)) =
      match skipSpace cs with
      | ',' :: rest => (readMembers budget rest).bind fun (ms, rest) => some (m :: ms, rest)
      | '\x7d' :: rest => some ([m], rest)
      | _ => none := by
  have hspace : forall rest, readValue budget (' ' :: rest) = readValue budget rest := by
    intro rest
    have hskip : skipSpace (' ' :: rest) = skipSpace rest := rfl
    exact readValue_of_skipSpace_eq hskip budget
  rw [Literal.print, List.cons_append, List.append_assoc, readMembers, skipSpace_cons_of_not rfl]
  simp only [List.cons_append, List.nil_append, readLiteral_print hkey, Option.bind_eq_bind,
    Option.bind_some]
  rw [skipSpace_cons_of_not rfl]
  simp only [hspace, h depth budget cs hbudget hcs, Option.bind_some]
  rfl

/-- The members of an object, up to the closing brace. -/
theorem readMembers_print {m : Literal × Value} {ms : List (Literal × Value)}
    (hkeys : forall w, w ∈ m :: ms -> w.1.Standard)
    (h : forall w, w ∈ m :: ms -> w.2.ReadsBack) (depth outer : Nat) {budget : Nat}
    (hbudget : 2 * (printValue depth m.2 ++ printMembers depth ms).length < budget)
    (rest : List Char) :
    readMembers budget
        (m.1.print ++ ':' :: ' ' :: (printValue depth m.2 ++
          (printMembers depth ms ++ (newLine outer ++ '\x7d' :: rest)))) =
      some (m :: ms, rest) := by
  rcases Nat.exists_eq_add_one_of_ne_zero (by omega : budget ≠ 0) with ⟨budget, rfl⟩
  rw [List.length_append] at hbudget
  have hkey := hkeys m List.mem_cons_self
  have hv := h m List.mem_cons_self
  induction ms generalizing m budget with
  | nil =>
      rw [printMembers, List.nil_append,
        readMembers_member hkey hv (by omega) (endsNumber_newLine _ _), skipSpace_newLine]
      rfl
  | cons w ms ih =>
      simp only [printMembers, List.length_cons, List.length_append] at hbudget
      rcases Nat.exists_eq_add_one_of_ne_zero (by omega : budget ≠ 0) with ⟨less, rfl⟩
      have hmem : forall u, u ∈ w :: ms -> u ∈ m :: w :: ms := fun u hu =>
        List.mem_cons_of_mem m hu
      have hms := ih (fun u hu => hkeys u (hmem u hu)) (fun u hu => h u (hmem u hu)) less
        (by omega) (hkeys w (by simp)) (h w (by simp))
      rw [printMembers, List.cons_append,
        readMembers_member hkey hv (by omega) (endsNumber_comma _), skipSpace_cons_of_not rfl]
      simp only [List.append_assoc, List.cons_append]
      rw [readMembers_of_skipSpace_eq (skipSpace_newLine _ _), hms]
      rfl

/-!
# Standard values
-/

/-- Nothing is printed as an empty text, so there is a budget to begin with. -/
theorem Value.readsBack_of_succ {v : Value} (hv : v.Standard)
    (h : forall (depth budget : Nat) (rest : List Char),
      2 * (printValue depth v).length ≤ budget + 1 -> EndsNumber rest ->
        readValue (budget + 1) (printValue depth v ++ rest) = some (v, rest)) : v.ReadsBack := by
  intro depth budget rest hbudget hrest
  rcases exists_cons_printValue hv depth with ⟨c, cs, hcs, _hspace, _hbracket⟩
  have hpos : 0 < (printValue depth v).length := by
    rw [hcs]
    exact Nat.succ_pos cs.length
  rcases Nat.exists_eq_add_one_of_ne_zero (by omega : budget ≠ 0) with ⟨budget, rfl⟩
  exact h depth budget rest hbudget hrest

theorem readValue_bracket {c : Char} {before cs : List Char} (hskip : skipSpace before = c :: cs)
    (hspace : isSpace c = false) (hbracket : c ≠ ']') (budget : Nat) :
    readValue (budget + 1) ('[' :: before) =
      (readItems budget before).map fun (vs, rest) => (.array vs, rest) := by
  have hsame : readItems budget before = readItems budget (c :: cs) :=
    readItems_of_skipSpace_eq (hskip.trans (skipSpace_cons_of_not hspace cs).symm) budget
  rw [readValue, skipSpace_cons_of_not rfl, hsame]
  simp only [hskip]
  split
  · rename_i heq
    exact absurd (List.cons.inj heq).1 hbracket
  · rfl

theorem readValue_brace {before cs : List Char} (hskip : skipSpace before = '"' :: cs)
    (budget : Nat) :
    readValue (budget + 1) ('\x7b' :: before) =
      (readMembers budget before).map fun (ms, rest) => (.object ms, rest) := by
  have hsame : readMembers budget before = readMembers budget ('"' :: cs) :=
    readMembers_of_skipSpace_eq (hskip.trans (skipSpace_cons_of_not rfl cs).symm) budget
  rw [readValue, skipSpace_cons_of_not rfl, hsame]
  simp only [hskip]
  rfl

theorem Value.readsBack_array {vs : List Value} (items : forall v, v ∈ vs -> v.Standard)
    (h : forall v, v ∈ vs -> v.ReadsBack) : (Value.array vs).ReadsBack := by
  apply readsBack_of_succ (.array items)
  intro depth budget rest hbudget _hrest
  cases vs with
  | nil =>
      rfl
  | cons v vs =>
      rcases exists_cons_printValue (items v List.mem_cons_self) (depth + 1) with
        ⟨c, cs, hcs, hspace, hbracket⟩
      simp only [printValue, List.length_cons, List.length_append] at hbudget
      have hlength : 2 * (printValue (depth + 1) v ++ printItems (depth + 1) vs).length <
          budget := by
        rw [List.length_append]
        omega
      have hitems := readItems_print h (depth + 1) depth hlength rest
      have hskip : skipSpace (newLine (depth + 1) ++ (printValue (depth + 1) v ++
          (printItems (depth + 1) vs ++ (newLine depth ++ ']' :: rest)))) = c :: (cs ++
            (printItems (depth + 1) vs ++ (newLine depth ++ ']' :: rest))) := by
        rw [skipSpace_newLine, hcs, List.cons_append, skipSpace_cons_of_not hspace]
      simp only [printValue, List.cons_append, List.append_assoc, List.nil_append]
      rw [readValue_bracket hskip hspace hbracket,
        readItems_of_skipSpace_eq (skipSpace_newLine _ _), hitems]
      rfl

theorem Value.readsBack_object {ms : List (Literal × Value)}
    (keys : forall m, m ∈ ms -> m.1.Standard) (values : forall m, m ∈ ms -> m.2.Standard)
    (h : forall m, m ∈ ms -> m.2.ReadsBack) : (Value.object ms).ReadsBack := by
  apply readsBack_of_succ (.object keys values)
  intro depth budget rest hbudget _hrest
  cases ms with
  | nil =>
      rfl
  | cons m ms =>
      simp only [printValue, List.length_cons, List.length_append] at hbudget
      have hlength : 2 * (printValue (depth + 1) m.2 ++
          printMembers (depth + 1) ms).length < budget := by
        rw [List.length_append]
        omega
      have hmembers := readMembers_print keys h (depth + 1) depth hlength rest
      simp only [printValue, List.cons_append, List.append_assoc, List.nil_append]
      rw [readValue_brace, readMembers_of_skipSpace_eq (skipSpace_newLine _ _), hmembers]
      · rfl
      · rw [skipSpace_newLine, Literal.print, List.cons_append, skipSpace_cons_of_not rfl]

/-- A standard value is read back from its printed form. -/
theorem Value.Standard.readsBack {v : Value} (h : v.Standard) : v.ReadsBack := by
  induction h with
  | null =>
      apply readsBack_of_succ .null
      intro depth budget rest _hbudget _hrest
      rfl
  | bool b =>
      apply readsBack_of_succ (.bool b)
      intro depth budget rest _hbudget _hrest
      cases b with
      | false => rfl
      | true => rfl
  | integer i =>
      apply readsBack_of_succ (.integer i)
      intro depth budget rest _hbudget hrest
      rcases exists_cons_printInteger i with ⟨c, cs, hcs, hnumber⟩
      have hread := readNumber_printInteger i hrest
      rw [hcs, List.cons_append] at hread
      rw [printValue, hcs, List.cons_append, readValue_of_number hnumber, hread]
  | @string l pieces =>
      apply readsBack_of_succ (.string pieces)
      intro depth budget rest _hbudget _hrest
      rw [printValue, Literal.print, List.cons_append, List.append_assoc, readValue,
        skipSpace_cons_of_not rfl]
      simp only [List.singleton_append, readLiteral_print pieces]
      rfl
  | array items ih => exact readsBack_array items ih
  | object keys values ih => exact readsBack_object keys values ih

theorem endsNumber_of_space {white : List Char} (h : forall c, c ∈ white -> isSpace c = true) :
    EndsNumber white := by
  cases white with
  | nil =>
      exact endsNumber_nil
  | cons c white =>
      have hc := h c List.mem_cons_self
      simp only [isSpace, Bool.or_eq_true, beq_iff_eq] at hc
      rcases hc with ((rfl | rfl) | rfl) | rfl
      · exact endsNumber_cons rfl (by decide) white
      · exact endsNumber_cons rfl (by decide) white
      · exact endsNumber_cons rfl (by decide) white
      · exact endsNumber_cons rfl (by decide) white

/-- A standard value is read from its printed form, whatever white space follows it. -/
theorem Value.Standard.read?_append {v : Value} (h : v.Standard) (depth : Nat)
    {white : List Char} (hwhite : forall c, c ∈ white -> isSpace c = true) :
    Value.read? (printValue depth v ++ white) = some v := by
  have hskip : skipSpace white = [] := by
    have hall : (white ++ []).dropWhile isSpace = [].dropWhile isSpace :=
      List.dropWhile_append_of_pos hwhite
    rwa [List.append_nil] at hall
  have hread := h.readsBack depth (2 * (printValue depth v ++ white).length + 2) white
    (by rw [List.length_append]; omega) (endsNumber_of_space hwhite)
  rw [Value.read?, hread]
  simp only [hskip]
  rfl

theorem Value.Standard.read?_printValue {v : Value} (h : v.Standard) (depth : Nat) :
    Value.read? (printValue depth v) = some v := by
  have hnone : forall c, c ∈ ([] : List Char) -> isSpace c = true := by
    intro c hc
    cases hc
  have hread := h.read?_append depth hnone
  rwa [List.append_nil] at hread

theorem Value.Standard.read?_print {v : Value} (h : v.Standard) :
    Value.read? v.print.toList = some v := by
  rw [Value.print, String.toList_ofList, h.read?_printValue]

end Json
end FacetRules
