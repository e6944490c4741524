import FacetRules.Precondition

/-!
# Pieces of texts

Trimming, splitting and cutting a text are known by what they make of it: the text is put
together again from the pieces.  Lengths are counted in bytes, and no piece ends inside a
character.
-/

namespace FacetRules

/-!
# Lengths in bytes
-/

@[simp]
theorem byteLength_nil : byteLength [] = 0 :=
  rfl

@[simp]
theorem byteLength_cons (c : Char) (cs : List Char) :
    byteLength (c :: cs) = c.utf8Size + byteLength cs :=
  rfl

@[simp]
theorem byteLength_append (front back : List Char) :
    byteLength (front ++ back) = byteLength front + byteLength back := by
  rw [byteLength, List.map_append, total_append]
  rfl

theorem utf8ByteSize_ofList (cs : List Char) :
    (String.ofList cs).utf8ByteSize = byteLength cs := by
  induction cs with
  | nil =>
      rfl
  | cons c cs ih =>
      rw [<- List.singleton_append, String.ofList_append, String.utf8ByteSize_append, ih,
        byteLength_append, byteLength_cons, byteLength_nil, Nat.add_zero]
      congr 1
      exact String.utf8ByteSize_singleton

theorem byteLength_toList (s : String) : byteLength s.toList = s.utf8ByteSize := by
  rw [<- utf8ByteSize_ofList, String.ofList_toList]

/-!
# Cutting
-/

theorem cutAtByte_append (front back : List Char) :
    cutAtByte (byteLength front) (front ++ back) = some (front, back) := by
  induction front with
  | nil =>
      rw [byteLength_nil, cutAtByte]
      rfl
  | cons c front ih =>
      have hpos : 0 < c.utf8Size := c.utf8Size_pos
      have hne : byteLength (c :: front) ≠ 0 := by
        rw [byteLength_cons]
        omega
      rcases Nat.exists_eq_add_one_of_ne_zero hne with ⟨n, hn⟩
      rw [hn, List.cons_append, cutAtByte, <- hn, if_pos (by rw [byteLength_cons]; omega),
        byteLength_cons, Nat.add_sub_cancel_left, ih]
      rfl

theorem eq_append_of_cutAtByte {n : Nat} {cs front back : List Char}
    (h : cutAtByte n cs = some (front, back)) : cs = front ++ back ∧ byteLength front = n := by
  induction cs generalizing n front with
  | nil =>
      cases n with
      | zero =>
          cases h
          exact ⟨rfl, rfl⟩
      | succ n =>
          cases h
  | cons c cs ih =>
      cases n with
      | zero =>
          cases h
          exact ⟨rfl, rfl⟩
      | succ n =>
          rw [cutAtByte] at h
          split at h
          · rename_i hle
            rcases Option.map_eq_some_iff.mp h with ⟨⟨piece, rest⟩, hcut, heq⟩
            cases heq
            rcases ih hcut with ⟨rfl, hlength⟩
            refine ⟨rfl, ?_⟩
            rw [byteLength_cons, hlength]
            omega
          · cases h

/-!
# Splitting and joining
-/

theorem mem_of_mem_intercalate {sep : List Char} {parts : List (List Char)} {c : Char}
    (h : c ∈ sep.intercalate parts) : c ∈ sep ∨ exists part, part ∈ parts ∧ c ∈ part := by
  induction parts with
  | nil =>
      cases h
  | cons part parts ih =>
      cases parts with
      | nil =>
          rw [List.intercalate_singleton] at h
          exact .inr ⟨part, List.mem_singleton.mpr rfl, h⟩
      | cons next parts =>
          rw [List.intercalate_cons_cons, List.mem_append, List.mem_append] at h
          rcases h with (hpart | hsep) | hrest
          · exact .inr ⟨part, List.mem_cons_self, hpart⟩
          · exact .inl hsep
          · rcases ih hrest with hsep | ⟨other, hother, hc⟩
            · exact .inl hsep
            · exact .inr ⟨other, List.mem_cons_of_mem part hother, hc⟩

theorem prefix_intercalate (sep part : List Char) (parts : List (List Char)) :
    part <+: sep.intercalate (part :: parts) := by
  cases parts with
  | nil => simp [List.intercalate_singleton]
  | cons next parts =>
      rw [List.intercalate_cons_cons, List.append_assoc]
      exact List.prefix_append part _

theorem not_mem_of_mem_splitOn {sep : Char} {cs part : List Char} (h : part ∈ cs.splitOn sep) :
    sep ∉ part := by
  induction cs generalizing part with
  | nil =>
      rw [List.mem_singleton.mp h]
      exact List.not_mem_nil
  | cons c cs ih =>
      rw [List.splitOn_cons_eq_if_modifyHead] at h
      split at h
      · rcases List.mem_cons.mp h with rfl | h
        · exact List.not_mem_nil
        · exact ih h
      · rename_i hne
        cases hparts : cs.splitOn sep with
        | nil =>
            exact absurd hparts (List.splitOn_ne_nil sep cs)
        | cons first others =>
            rw [hparts] at h ih
            rcases List.mem_cons.mp h with rfl | h
            · rw [List.mem_cons, not_or]
              exact ⟨fun heq => hne (beq_iff_eq.mpr heq.symm), ih (by simp)⟩
            · exact ih (by simp [h])

/-!
# Trimming
-/

namespace Text

/-- What is left of a text when the characters of a class are taken away at both ends. -/
structure Trims (p : Char -> Bool) (cs kept : List Char) : Prop where
  split : exists front back, cs = front ++ kept ++ back ∧
    (forall c, c ∈ front -> p c = true) ∧ forall c, c ∈ back -> p c = true
  head : forall c, c ∈ kept.head? -> p c = false
  last : forall c, c ∈ kept.getLast? -> p c = false

/-- What is left after taking away from the front does not start with the class. -/
theorem of_mem_head?_dropWhile {p : Char -> Bool} {cs : List Char} {c : Char}
    (hc : c ∈ (cs.dropWhile p).head?) : p c = false := by
  have hhead := List.head?_dropWhile_not p cs
  rw [Option.mem_def.mp hc] at hhead
  exact hhead

theorem trims_trimOf (p : Char -> Bool) (cs : List Char) : Trims p cs (trimOf p cs) where
  split := by
    refine ⟨cs.takeWhile p, ((cs.dropWhile p).reverse.takeWhile p).reverse, ?_, ?_, ?_⟩
    · rw [List.append_assoc, trimOf, <- List.reverse_append, List.takeWhile_append_dropWhile,
        List.reverse_reverse, List.takeWhile_append_dropWhile]
    · intro c hc
      exact List.all_eq_true.mp List.all_takeWhile c hc
    · intro c hc
      exact List.all_eq_true.mp List.all_takeWhile c (List.mem_reverse.mp hc)
  head := by
    intro c hc
    have hstarts : trimOf p cs <+: cs.dropWhile p := by
      rw [<- List.reverse_suffix, trimOf, List.reverse_reverse]
      exact List.dropWhile_suffix p
    have hfirst : c ∈ (cs.dropWhile p).head? := by
      rcases List.head?_eq_some_iff.mp (Option.mem_def.mp hc) with ⟨rest, hrest⟩
      rw [hrest] at hstarts
      rcases hstarts with ⟨back, hback⟩
      rw [<- hback]
      rfl
    exact of_mem_head?_dropWhile hfirst
  last := by
    intro c hc
    rw [trimOf, List.getLast?_reverse] at hc
    exact of_mem_head?_dropWhile hc

/-- Trimming is the only way to take away everything of the class at both ends. -/
theorem Trims.eq_trimOf {p : Char -> Bool} {cs kept : List Char} (h : Trims p cs kept) :
    kept = trimOf p cs := by
  rcases h.split with ⟨front, back, rfl, hfront, hback⟩
  have hself := trimOf_eq_self h.head h.last
  rw [trimOf] at hself ⊢
  rw [List.append_assoc, List.dropWhile_append_of_pos hfront, List.dropWhile_append]
  split
  · rename_i hempty
    -- Nothing is kept, so the whole text is of the class.
    rw [List.isEmpty_iff.mp hempty] at hself
    have hnone : back.dropWhile p = [] := by
      have hall : (back ++ []).dropWhile p = [].dropWhile p :=
        List.dropWhile_append_of_pos hback
      rwa [List.append_nil] at hall
    rw [hnone, <- hself]
  · have hreverse : forall c, c ∈ back.reverse -> p c = true := by
      intro c hc
      exact hback c (List.mem_reverse.mp hc)
    rw [List.reverse_append, List.dropWhile_append_of_pos hreverse, hself]

end Text
end FacetRules
