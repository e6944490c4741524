import FacetRules.Proofs.Text.Pieces

/-!
# Reading a precondition

Every entry of a precondition is accounted for.  An entry gives a key in its place, or is two
keys at once, of which the second is examined behind all entries, or is rejected.  Keys are never
lost and never split again, so the loop that examines the entries ends after one step for each
entry and one more for each second key.
-/

namespace FacetRules

namespace Worklist

/-- The loop ends after so many steps and not before, and changes nothing from then on. -/
structure EndsAfter (w : Worklist) (n : Nat) (done : Worklist) : Prop where
  running : forall m, m < n -> (run m w).pending ≠ []
  pending_eq : done.pending = []
  run_eq : forall m, n ≤ m -> run m w = done

end Worklist

namespace Precondition

open Text (Trims)

/-- What stands between the commas of a text, when the braces around it are taken away. -/
structure Lists (raw : List Char) (entries : List (List Char)) : Prop where
  trims : Trims isBrace raw ([','].intercalate entries)
  ne_nil : entries ≠ []
  not_mem : forall entry, entry ∈ entries -> ',' ∉ entry

/-- What the entries hold: the keys that they give in their places, the second halves of those
that are two keys at once, and the ones that are neither. -/
inductive Holds : List (List Char) -> List (List Char) -> List (List Char) ->
    List (List Char) -> Prop where
  | nil : Holds [] [] [] []
  | key {key : List Char} {entries keys halves rejected : List (List Char)} :
      byteLength key = 36 ->
      Holds entries keys halves rejected ->
      Holds (key :: entries) (key :: keys) halves rejected
  | stripped {entry key : List Char} {entries keys halves rejected : List (List Char)} :
      37 ≤ byteLength entry -> byteLength entry ≤ 49 ->
      Trims (· == '¥') entry key -> byteLength key = 36 ->
      Holds entries keys halves rejected ->
      Holds (entry :: entries) (key :: keys) halves rejected
  | concatenated {first second : List Char} {entries keys halves rejected : List (List Char)} :
      byteLength first = 36 -> byteLength second = 36 ->
      Holds entries keys halves rejected ->
      Holds ((first ++ second) :: entries) (first :: keys) (second :: halves) rejected
  | rejected {entry : List Char} {entries keys halves rejected : List (List Char)} :
      byteLength entry ≠ 36 ->
      (37 ≤ byteLength entry -> byteLength entry ≤ 49 ->
        forall key, Trims (· == '¥') entry key -> byteLength key ≠ 36) ->
      (forall first second, entry = first ++ second -> byteLength first = 36 ->
        byteLength second ≠ 36) ->
      Holds entries keys halves rejected ->
      Holds (entry :: entries) keys halves (entry :: rejected)

/-!
# One entry
-/

section Classify

open Fragment

theorem classify_of_key {entry : List Char} (h : byteLength entry = 36) :
    classify entry = .valid entry := by
  simp [classify, keyLength, h]

theorem classify_of_stripped {entry key : List Char} (hlower : 37 ≤ byteLength entry)
    (hupper : byteLength entry ≤ 49) (htrims : Trims (· == '¥') entry key)
    (hkey : byteLength key = 36) : classify entry = .stripped key := by
  have hne : ¬ byteLength entry = keyLength := by
    rw [keyLength]
    omega
  have hrange : keyLength < byteLength entry ∧ byteLength entry < 50 := by
    rw [keyLength]
    omega
  have hkept : byteLength key = keyLength := hkey
  simp only [classify]
  rw [if_neg hne, if_pos hrange, <- htrims.eq_trimOf, if_pos hkept]

theorem classify_of_concatenated {first second : List Char} (hfirst : byteLength first = 36)
    (hsecond : byteLength second = 36) :
    classify (first ++ second) = .concatenated first second := by
  have hcut : cutAtByte 36 (first ++ second) = some (first, second) := by
    rw [<- hfirst]
    exact cutAtByte_append first second
  simp [classify, keyLength, hfirst, hsecond, hcut]

theorem classify_of_rejected {entry : List Char} (hne : byteLength entry ≠ 36)
    (hstripped : 37 ≤ byteLength entry -> byteLength entry ≤ 49 ->
      forall key, Trims (· == '¥') entry key -> byteLength key ≠ 36)
    (hconcatenated : forall first second, entry = first ++ second -> byteLength first = 36 ->
      byteLength second ≠ 36) : classify entry = .invalid entry := by
  have hnot : ¬ byteLength entry = keyLength := hne
  simp only [classify]
  rw [if_neg hnot]
  split
  · rename_i hrange
    rw [keyLength] at hrange
    rw [if_neg]
    exact hstripped (by omega) (by omega) _ (Text.trims_trimOf _ entry)
  · split
    · rename_i hlength
      split
      · rename_i first second hcut
        rcases eq_append_of_cutAtByte hcut with ⟨rfl, hfirst⟩
        rw [byteLength_append, hfirst] at hlength
        exact absurd (Nat.add_left_cancel (hlength.trans (Nat.two_mul keyLength)))
          (hconcatenated first second rfl hfirst)
      · rfl
    · rfl

end Classify

theorem exists_holds (entries : List (List Char)) :
    exists keys halves rejected, Holds entries keys halves rejected := by
  induction entries with
  | nil =>
      exact ⟨[], [], [], .nil⟩
  | cons entry entries ih =>
      rcases ih with ⟨keys, halves, rejected, hrest⟩
      by_cases hkey : byteLength entry = 36
      · exact ⟨_, _, _, .key hkey hrest⟩
      by_cases hstripped : exists key, (37 ≤ byteLength entry ∧ byteLength entry ≤ 49) ∧
          Trims (· == '¥') entry key ∧ byteLength key = 36
      · rcases hstripped with ⟨key, ⟨hlower, hupper⟩, htrims, hlength⟩
        exact ⟨_, _, _, .stripped hlower hupper htrims hlength hrest⟩
      by_cases hconcatenated : exists first second, entry = first ++ second ∧
          byteLength first = 36 ∧ byteLength second = 36
      · rcases hconcatenated with ⟨first, second, rfl, hfirst, hsecond⟩
        exact ⟨_, _, _, .concatenated hfirst hsecond hrest⟩
      refine ⟨_, _, _, .rejected hkey ?_ ?_ hrest⟩
      · intro hlower hupper key htrims hlength
        exact hstripped ⟨key, ⟨hlower, hupper⟩, htrims, hlength⟩
      · intro first second heq hfirst hsecond
        exact hconcatenated ⟨first, second, heq, hfirst, hsecond⟩

/-- The key has 36 bytes and is a part of one of the entries. -/
def KeyOf (entries : List (List Char)) (key : List Char) : Prop :=
  byteLength key = 36 ∧ exists entry, entry ∈ entries ∧ key <:+: entry

theorem KeyOf.of_part {entry key : List Char} (hlength : byteLength key = 36)
    (hpart : key <:+: entry) (entries : List (List Char)) : KeyOf (entry :: entries) key :=
  ⟨hlength, entry, List.mem_cons_self, hpart⟩

theorem KeyOf.cons {entries : List (List Char)} {key : List Char} (h : KeyOf entries key)
    (first : List Char) : KeyOf (first :: entries) key := by
  rcases h with ⟨hlength, entry, hentry, hpart⟩
  exact ⟨hlength, entry, List.mem_cons_of_mem first hentry, hpart⟩

section Holds

variable {entries keys halves rejected : List (List Char)}

theorem Holds.keyOf_of_mem (h : Holds entries keys halves rejected) {key : List Char}
    (hkey : key ∈ keys ++ halves) : KeyOf entries key := by
  induction h with
  | nil =>
      cases hkey
  | key hlength _hrest ih =>
      rcases List.mem_cons.mp hkey with rfl | hkey
      · exact .of_part hlength (List.infix_refl key) _
      · exact (ih hkey).cons _
  | stripped _hlower _hupper htrims hlength _hrest ih =>
      rcases List.mem_cons.mp hkey with rfl | hkey
      · rcases htrims.split with ⟨front, back, hsplit, _hfront, _hback⟩
        exact .of_part hlength ⟨front, back, hsplit.symm⟩ _
      · exact (ih hkey).cons _
  | @concatenated first second _entries keys halves _rejected hfirst hsecond _hrest ih =>
      have hcases : key = first ∨ key = second ∨ key ∈ keys ++ halves := by
        simpa [or_left_comm] using hkey
      rcases hcases with rfl | rfl | hkey
      · exact .of_part hfirst (List.prefix_append key second).isInfix _
      · exact .of_part hsecond (List.suffix_append first key).isInfix _
      · exact (ih hkey).cons _
  | rejected _hne _hstripped _hconcatenated _hrest ih =>
      exact (ih hkey).cons _

/-- An entry gives a key or is rejected. -/
theorem Holds.length_eq (h : Holds entries keys halves rejected) :
    keys.length + rejected.length = entries.length := by
  induction h
  case nil =>
    rfl
  all_goals
    simp only [List.length_cons]
    omega

theorem Holds.length_halves_le (h : Holds entries keys halves rejected) :
    halves.length ≤ entries.length := by
  induction h
  case nil =>
    exact Nat.le_refl 0
  all_goals
    simp only [List.length_cons]
    omega

end Holds

/-!
# The loop
-/

open Worklist

section Loop

/-- A step examines one entry and gives one key or one rejected entry for it. -/
theorem length_examine (w : Worklist) (entry : List Char) (rest : List (List Char)) :
    (w.examine entry rest).uuids.length + (w.examine entry rest).rejected.length =
      w.uuids.length + w.rejected.length + 1 := by
  unfold examine
  split
  all_goals
    simp only [List.length_append, List.length_singleton]
    omega

theorem length_run_le (n : Nat) (w : Worklist) :
    (run n w).uuids.length + (run n w).rejected.length ≤
      w.uuids.length + w.rejected.length + n := by
  induction n generalizing w with
  | zero =>
      exact Nat.le_refl _
  | succ n ih =>
      rw [run]
      split
      · exact Nat.le_add_right _ _
      · rename_i entry rest _hpending
        have hrest := ih (w.examine entry rest)
        rw [length_examine] at hrest
        omega

theorem run_of_nil {w : Worklist} (h : w.pending = []) (n : Nat) : run n w = w := by
  cases n with
  | zero => rfl
  | succ n => rw [run, h]

theorem run_add (m n : Nat) (w : Worklist) : run (m + n) w = run n (run m w) := by
  induction m generalizing w with
  | zero =>
      rw [Nat.zero_add, run]
  | succ m ih =>
      rw [Nat.succ_add, run, run]
      split
      · rename_i hnil
        exact (run_of_nil hnil n).symm
      · rename_i entry rest _hpending
        exact ih (w.examine entry rest)

/-- The loop goes through entries and leaves their second halves behind what waits. -/
theorem run_of_holds {entries keys halves rejected : List (List Char)}
    (h : Holds entries keys halves rejected) (queued uuids refused : List (List Char)) (n : Nat) :
    run (entries.length + n)
        { pending := entries ++ queued, uuids := uuids, rejected := refused } =
      run n
        { pending := queued ++ halves
          uuids := uuids ++ keys
          rejected := refused ++ rejected } := by
  induction h generalizing queued uuids refused with
  | nil =>
      simp
  | key hkey _hrest ih =>
      rw [List.length_cons, Nat.succ_add, List.cons_append, run]
      simp only [examine, classify_of_key hkey]
      rw [ih, List.append_assoc]
      rfl
  | stripped hlower hupper htrims hkey _hrest ih =>
      rw [List.length_cons, Nat.succ_add, List.cons_append, run]
      simp only [examine, classify_of_stripped hlower hupper htrims hkey]
      rw [ih, List.append_assoc]
      rfl
  | concatenated hfirst hsecond _hrest ih =>
      rw [List.length_cons, Nat.succ_add, List.cons_append, run]
      simp only [examine, classify_of_concatenated hfirst hsecond]
      rw [List.append_assoc, ih, List.append_assoc, List.append_assoc]
      rfl
  | rejected hne hstripped hconcatenated _hrest ih =>
      rw [List.length_cons, Nat.succ_add, List.cons_append, run]
      simp only [examine, classify_of_rejected hne hstripped hconcatenated]
      rw [ih, List.append_assoc]
      rfl

theorem holds_of_keys {keys : List (List Char)}
    (h : forall key, key ∈ keys -> byteLength key = 36) : Holds keys keys [] [] := by
  induction keys with
  | nil =>
      exact .nil
  | cons key keys ih =>
      exact .key (h key (by simp)) (ih fun other hother => h other (by simp [hother]))

/-- Second halves are keys, so going through them leaves nothing to examine. -/
theorem run_entries {entries keys halves rejected : List (List Char)}
    (h : Holds entries keys halves rejected) (n : Nat) :
    run (entries.length + halves.length + n) { pending := entries } =
      { pending := [], uuids := keys ++ halves, rejected := rejected } := by
  have hhalves : Holds halves halves [] [] :=
    holds_of_keys fun half hhalf => (h.keyOf_of_mem (List.mem_append_right keys hhalf)).1
  have hentries := run_of_holds h [] [] [] (halves.length + n)
  have hrest := run_of_holds hhalves [] ([] ++ keys) ([] ++ rejected) n
  simp only [List.append_nil, List.nil_append] at hentries hrest
  rw [Nat.add_assoc, hentries, hrest]
  exact run_of_nil rfl n

theorem endsAfter_entries {entries keys halves rejected : List (List Char)}
    (h : Holds entries keys halves rejected) :
    EndsAfter { pending := entries } (entries.length + halves.length)
      { pending := [], uuids := keys ++ halves, rejected := rejected } where
  running := by
    -- With nothing left after fewer steps, fewer keys and rejected entries would be there.
    intro m hm hnil
    have hend := run_entries h 0
    rw [Nat.add_zero, <- Nat.add_sub_of_le (Nat.le_of_lt hm), run_add, run_of_nil hnil] at hend
    have hcount := length_run_le m { pending := entries }
    have hentries := h.length_eq
    simp only [hend, List.length_append, List.length_nil] at hcount
    omega
  pending_eq := rfl
  run_eq := by
    intro m hm
    rcases Nat.exists_eq_add_of_le hm with ⟨more, rfl⟩
    exact run_entries h more

end Loop

/-!
# Whole preconditions
-/

theorem lists_entries (raw : String) : Lists raw.toList (entries raw) where
  trims := by
    rw [entries, List.intercalate_splitOn]
    exact Text.trims_trimOf isBrace raw.toList
  ne_nil := List.splitOn_ne_nil _ _
  not_mem := by
    intro entry hentry
    exact not_mem_of_mem_splitOn hentry

theorem read_of_short {raw : String} (h : raw.utf8ByteSize < 3) : read raw = .always := by
  rw [<- byteLength_toList] at h
  rw [read, if_pos h]

/-- What the entries hold is what is read. -/
theorem read_of_holds {raw : String} (h : 3 ≤ raw.utf8ByteSize)
    {keys halves rejected : List (List Char)} (hholds : Holds (entries raw) keys halves rejected) :
    read raw = .triggers ((keys ++ halves).map String.ofList) (rejected.map String.ofList) := by
  have hlong : ¬ byteLength raw.toList < 3 := by
    rw [byteLength_toList]
    omega
  have hsteps : (entries raw).length + halves.length ≤ 2 * (entries raw).length := by
    have hle := hholds.length_halves_le
    omega
  rw [read, if_neg hlong]
  simp only [(endsAfter_entries hholds).run_eq _ hsteps]

/-- A text of fewer than three bytes is no list.  Any other text is read entry by entry: every
entry gives a key, a key and a half that is examined last, or is rejected.  Keys have 36 bytes and
hold no comma, and the loop takes no more than two steps for each entry. -/
theorem read_accounts (raw : String) :
    (raw.utf8ByteSize < 3 -> read raw = .always) ∧
      (3 ≤ raw.utf8ByteSize ->
        exists (listed keys halves unread : List (List Char)) (uuids rejected : List String),
          Lists raw.toList listed ∧ Holds listed keys halves unread ∧
            read raw = .triggers uuids rejected ∧
            uuids.map String.toList = keys ++ halves ∧ rejected.map String.toList = unread ∧
            (forall uuid, uuid ∈ uuids -> uuid.utf8ByteSize = 36 ∧ ',' ∉ uuid.toList) ∧
            uuids.length + rejected.length = listed.length + halves.length ∧
            exists done steps, EndsAfter { pending := listed } steps done ∧
              steps ≤ 2 * listed.length ∧ done.uuids = keys ++ halves ∧
              done.rejected = unread) := by
  refine ⟨read_of_short, ?_⟩
  intro hlong
  have hlists := lists_entries raw
  rcases exists_holds (entries raw) with ⟨keys, halves, unread, hholds⟩
  have hlength := hholds.length_eq
  have hle := hholds.length_halves_le
  refine ⟨entries raw, keys, halves, unread, _, _, hlists, hholds, read_of_holds hlong hholds,
    ?_, ?_, ?_, ?_, ?_⟩
  · simp [Function.comp_def]
  · simp [Function.comp_def]
  · intro uuid huuid
    rcases List.mem_map.mp huuid with ⟨key, hkey, rfl⟩
    rcases hholds.keyOf_of_mem hkey with ⟨hbytes, entry, hentry, hpart⟩
    rw [utf8ByteSize_ofList, String.toList_ofList]
    exact ⟨hbytes, fun hcomma => hlists.not_mem entry hentry (hpart.subset hcomma)⟩
  · simp only [List.length_map, List.length_append]
    omega
  · exact ⟨_, _, endsAfter_entries hholds, by omega, rfl, rfl⟩

/-- A key with a yen sign, two keys at once and a word that is no key give three keys, the second
half last. -/
theorem read_accounts_damaged :
    let raw := "\x7b5508f4a4-7369-4993-904f-7fab6ae31305¥," ++
      "5508f4a4-7369-4993-904f-7fab6ae31305a4bf6fbb-4fd4-4417-bd62-cb05629c9b31,nope\x7d"
    read "" = .always ∧
      exists (uuids rejected : List String), read raw = .triggers uuids rejected ∧
        uuids = ["5508f4a4-7369-4993-904f-7fab6ae31305", "5508f4a4-7369-4993-904f-7fab6ae31305",
          "a4bf6fbb-4fd4-4417-bd62-cb05629c9b31"] ∧
        rejected = ["nope"] ∧ forall uuid, uuid ∈ uuids -> uuid.utf8ByteSize = 36 := by
  intro raw
  have hread : read raw = .triggers
      ["5508f4a4-7369-4993-904f-7fab6ae31305", "5508f4a4-7369-4993-904f-7fab6ae31305",
        "a4bf6fbb-4fd4-4417-bd62-cb05629c9b31"] ["nope"] := by
    decide +kernel
  have hlong : 3 ≤ raw.utf8ByteSize := by
    decide +kernel
  refine ⟨(read_accounts "").1 (by decide +kernel), ?_⟩
  rcases (read_accounts raw).2 hlong with
    ⟨_listed, _keys, _halves, _unread, uuids, rejected, _hlists, _hholds, htriggers, _huuids,
      _hrejected, hkeys, _hlength, _hends⟩
  have hsame := htriggers.symm.trans hread
  rcases Precondition.triggers.inj hsame with ⟨rfl, rfl⟩
  exact ⟨_, _, hread, rfl, rfl, fun uuid huuid => (hkeys uuid huuid).1⟩

end Precondition
end FacetRules
