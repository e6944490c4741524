import FacetRules.Proofs.Registry.Inverse

/-!
# Runs of the registry

Keys are resolved and looked up in any order, and the suffix is switched in between.  What
such a run leaves can be read off its operations: the distinct keys that were resolved, in
the order in which they first came up, have the numbers 1, 2, 3 and so on.  A key is a uuid
with the suffix behind it, and where one ends and the other begins does not matter.
-/

namespace FacetRules
namespace Registry

inductive Operation
  | resolve (uuid : String)
  | lookup (uuid : String)
  | lookupSuffixed (uuid : String) (suffix : Option String)
  | setSuffix (suffix : Option String)

/-- Performs an operation.  Switching the suffix answers nothing. -/
def perform (r : Registry) : Operation -> Except Error (Option Id) × Registry
  | .resolve uuid => ((r.resolve uuid).1.map some, (r.resolve uuid).2)
  | .lookup uuid => (.ok (r.lookup uuid), r)
  | .lookupSuffixed uuid suffix => (.ok (r.lookupSuffixed uuid suffix), r)
  | .setSuffix suffix => (.ok none, r.setSuffix suffix)

def performAll (r : Registry) (ops : List Operation) : Registry :=
  ops.foldl (fun r op => (r.perform op).2) r

/-- The key of a uuid with a suffix behind it.  The empty uuid forms none. -/
def formed? (uuid : String) (suffix : Option String) : Option String :=
  if uuid = "" then none else some (uuid ++ suffix.getD "")

namespace Operation

/-- The suffix in force after an operation; an empty suffix is none. -/
def suffixAfter (current : Option String) : Operation -> Option String
  | setSuffix suffix => if suffix = some "" then none else suffix
  | _ => current

def key? (current : Option String) : Operation -> Option String
  | resolve uuid => formed? uuid current
  | lookup uuid => formed? uuid current
  | lookupSuffixed uuid suffix => formed? uuid suffix
  | setSuffix _ => none

def resolved? (current : Option String) : Operation -> Option String
  | resolve uuid => formed? uuid current
  | _ => none

end Operation

def suffixAfter (ops : List Operation) : Option String :=
  ops.foldl Operation.suffixAfter none

/-- The keys that a run resolves, the suffix in force at its beginning given. -/
def resolvedKeys : Option String -> List Operation -> List String
  | _, [] => []
  | current, op :: ops =>
      (op.resolved? current).toList ++ resolvedKeys (op.suffixAfter current) ops

theorem formed?_eq_some_iff {uuid key : String} {suffix : Option String} :
    formed? uuid suffix = some key <-> uuid ≠ "" ∧ uuid ++ suffix.getD "" = key := by
  unfold formed?
  by_cases huuid : uuid = ""
  · simp [huuid]
  · simp [huuid]

theorem lookupSuffixed_of_formed {uuid key : String} {suffix : Option String}
    (h : formed? uuid suffix = some key) (r : Registry) :
    r.lookupSuffixed uuid suffix = r.ids[key]? := by
  rcases formed?_eq_some_iff.mp h with ⟨huuid, rfl⟩
  rw [lookupSuffixed, if_neg huuid]
  rfl

/-!
# One operation
-/

theorem suffix_perform (r : Registry) (op : Operation) :
    (r.perform op).2.suffix = op.suffixAfter r.suffix := by
  cases op with
  | resolve uuid =>
      exact suffix_resolve r uuid
  | lookup uuid =>
      rfl
  | lookupSuffixed uuid suffix =>
      rfl
  | setSuffix suffix =>
      cases suffix with
      | none =>
          rfl
      | some s =>
          show (some s).filter (· != "") = if some s = some "" then none else some s
          rw [Option.filter_some]
          by_cases hs : s = ""
          · simp [hs]
          · simp [hs]

theorem keys_perform (r : Registry) (op : Operation) :
    (r.perform op).2.keys.toList =
      (r.keys.toList ++ (op.resolved? r.suffix).toList).eraseDups := by
  have hsame : (r.keys.toList ++ []).eraseDups = r.keys.toList := by
    rw [List.append_nil, eraseDups_of_nodup r.keys_nodup]
  cases op with
  | resolve uuid =>
      by_cases huuid : uuid = ""
      · simp only [perform, Operation.resolved?, formed?, huuid, resolve_empty]
        exact hsame.symm
      · simp only [perform, Operation.resolved?, formed?, if_neg huuid]
        exact keys_resolve huuid r
  | lookup uuid =>
      exact hsame.symm
  | lookupSuffixed uuid suffix =>
      exact hsame.symm
  | setSuffix suffix =>
      exact hsame.symm

theorem extends_perform (r : Registry) (op : Operation) : r.Extends (r.perform op).2 := by
  unfold Extends
  rw [keys_perform, List.eraseDups_append, eraseDups_of_nodup r.keys_nodup]
  exact List.prefix_append _ _

/-- The number that an operation answers is that of its key afterwards. -/
theorem getElem?_ids_of_perform {r : Registry} {op : Operation} {key : String} {id : Id}
    (hkey : op.key? r.suffix = some key) (hid : (r.perform op).1 = .ok (some id)) :
    (r.perform op).2.ids[key]? = some id := by
  cases op with
  | resolve uuid =>
      rcases formed?_eq_some_iff.mp hkey with ⟨huuid, _hkey⟩
      rcases resolve_fst huuid r with ⟨found, hfound, hlookup⟩
      rw [perform, hfound] at hid
      cases hid
      rw [lookupSuffixed_of_formed hkey] at hlookup
      exact hlookup
  | lookup uuid =>
      rw [perform, lookup, lookupSuffixed_of_formed hkey] at hid
      exact Except.ok.inj hid
  | lookupSuffixed uuid suffix =>
      rw [perform, lookupSuffixed_of_formed hkey] at hid
      exact Except.ok.inj hid
  | setSuffix suffix =>
      cases hkey

/-- An operation that forms a numbered key answers its number. -/
theorem perform_of_getElem?_ids {r : Registry} {op : Operation} {key : String} {id : Id}
    (hkey : op.key? r.suffix = some key) (hid : r.ids[key]? = some id) :
    (r.perform op).1 = .ok (some id) := by
  cases op with
  | resolve uuid =>
      rcases formed?_eq_some_iff.mp hkey with ⟨huuid, rfl⟩
      rw [perform, resolve_of_some huuid hid]
      rfl
  | lookup uuid =>
      rw [perform, lookup, lookupSuffixed_of_formed hkey, hid]
  | lookupSuffixed uuid suffix =>
      rw [perform, lookupSuffixed_of_formed hkey, hid]
  | setSuffix suffix =>
      cases hkey

/-!
# A run
-/

theorem performAll_append (r : Registry) (front back : List Operation) :
    r.performAll (front ++ back) = (r.performAll front).performAll back :=
  List.foldl_append

theorem suffix_performAll (r : Registry) (ops : List Operation) :
    (r.performAll ops).suffix = ops.foldl Operation.suffixAfter r.suffix := by
  induction ops generalizing r with
  | nil =>
      rfl
  | cons op ops ih =>
      show ((r.perform op).2.performAll ops).suffix = _
      rw [ih, suffix_perform]
      rfl

theorem keys_performAll (r : Registry) (ops : List Operation) :
    (r.performAll ops).keys.toList =
      (r.keys.toList ++ resolvedKeys r.suffix ops).eraseDups := by
  induction ops generalizing r with
  | nil =>
      rw [resolvedKeys, List.append_nil, eraseDups_of_nodup r.keys_nodup]
      rfl
  | cons op ops ih =>
      show ((r.perform op).2.performAll ops).keys.toList = _
      rw [ih, keys_perform, suffix_perform, eraseDups_eraseDups_append, List.append_assoc]
      rfl

theorem extends_performAll (r : Registry) (ops : List Operation) :
    r.Extends (r.performAll ops) := by
  induction ops generalizing r with
  | nil =>
      exact Extends.refl r
  | cons op ops ih =>
      exact (extends_perform r op).trans (ih (r.perform op).2)

theorem resolvedKeys_append (current : Option String) (front back : List Operation) :
    resolvedKeys current (front ++ back) =
      resolvedKeys current front ++
        resolvedKeys (front.foldl Operation.suffixAfter current) back := by
  induction front generalizing current with
  | nil =>
      rfl
  | cons op front ih =>
      rw [List.cons_append, resolvedKeys, ih, resolvedKeys, List.append_assoc]
      rfl

/-- Somewhere in the run the key was resolved, under some split into uuid and suffix. -/
def Resolves (ops : List Operation) (key : String) : Prop :=
  exists front uuid back, ops = front ++ .resolve uuid :: back ∧ uuid ≠ "" ∧
    uuid ++ (suffixAfter front).getD "" = key

theorem exists_of_mem_resolvedKeys {current : Option String} {ops : List Operation}
    {key : String} (h : key ∈ resolvedKeys current ops) :
    exists front uuid back, ops = front ++ .resolve uuid :: back ∧
      formed? uuid (front.foldl Operation.suffixAfter current) = some key := by
  induction ops generalizing current with
  | nil =>
      cases h
  | cons op ops ih =>
      rcases List.mem_append.mp h with h | h
      · have hkey := Option.mem_toList.mp h
        cases op with
        | resolve uuid => exact ⟨[], uuid, ops, rfl, hkey⟩
        | lookup uuid => cases hkey
        | lookupSuffixed uuid suffix => cases hkey
        | setSuffix suffix => cases hkey
      · rcases ih h with ⟨front, uuid, back, rfl, hkey⟩
        exact ⟨op :: front, uuid, back, rfl, hkey⟩

theorem mem_resolvedKeys {ops : List Operation} {key : String} :
    key ∈ resolvedKeys none ops <-> Resolves ops key := by
  constructor
  · intro h
    rcases exists_of_mem_resolvedKeys h with ⟨front, uuid, back, hops, hkey⟩
    exact ⟨front, uuid, back, hops, formed?_eq_some_iff.mp hkey⟩
  · intro h
    rcases h with ⟨front, uuid, back, rfl, huuid, hkey⟩
    have hformed : formed? uuid (suffixAfter front) = some key :=
      formed?_eq_some_iff.mpr ⟨huuid, hkey⟩
    rw [resolvedKeys_append, resolvedKeys]
    apply List.mem_append_right
    apply List.mem_append_left
    exact Option.mem_toList.mpr hformed

/-!
# What a run leaves
-/

/-- The distinct keys that a run resolves, in the order in which they first came up. -/
def distinctKeys (ops : List Operation) : List String :=
  (resolvedKeys none ops).eraseDups

/-- The registry numbers the keys of a run and nothing else. -/
structure Numbers (r : Registry) (ops : List Operation) : Prop where
  suffix_eq : r.suffix = suffixAfter ops
  size_eq : r.size = (distinctKeys ops).length
  /-- The first key has the number 1, and no number is left out. -/
  number_iff : forall (key : String) (id : Id), r.ids[key]? = some id <->
    exists i, (distinctKeys ops)[i]? = some key ∧ id.toNat = i + 1
  uuidOf_iff : forall (id : Id) (key : String), r.uuidOf id = some key <-> r.ids[key]? = some id
  uuidOf_none_iff : forall id : Id, r.uuidOf id = none <-> ¬ (1 ≤ id.toNat ∧ id.toNat ≤ r.size)
  found_iff : forall (uuid : String) (suffix : Option String), uuid ≠ "" ->
    ((exists id, r.lookupSuffixed uuid suffix = some id) <->
      Resolves ops (uuid ++ suffix.getD ""))
  uuidOf_found : forall (uuid : String) (suffix : Option String) (id : Id),
    r.lookupSuffixed uuid suffix = some id -> r.uuidOf id = some (uuid ++ suffix.getD "")

section Run

variable {ops : List Operation}

theorem keys_performAll_empty (ops : List Operation) :
    (performAll ∅ ops).keys.toList = distinctKeys ops :=
  keys_performAll ∅ ops

theorem size_performAll_empty (ops : List Operation) :
    (performAll ∅ ops).size = (distinctKeys ops).length :=
  congrArg List.length (keys_performAll_empty ops)

theorem suffix_performAll_empty (ops : List Operation) :
    (performAll ∅ ops).suffix = suffixAfter ops :=
  suffix_performAll ∅ ops

theorem getElem?_ids_performAll (h : (distinctKeys ops).length < UInt32.size) (key : String)
    (id : Id) :
    (performAll ∅ ops).ids[key]? = some id <->
      exists i, (distinctKeys ops)[i]? = some key ∧ id.toNat = i + 1 := by
  rw [getElem?_ids, Option.map_eq_some_iff]
  apply exists_congr
  intro i
  rw [idxOf?_keys_eq_some_iff, <- Array.getElem?_toList, keys_performAll_empty]
  apply and_congr_right
  intro hkey
  have hlt := (List.getElem?_eq_some_iff.mp hkey).1
  have hnumber : (numberAt i).toNat = i + 1 := toNat_numberAt (by omega)
  rw [<- hnumber, UInt32.toNat_inj, eq_comm]

theorem exists_lookup_iff {r : Registry} {uuid : String} (huuid : uuid ≠ "")
    (suffix : Option String) :
    (exists id, r.lookupSuffixed uuid suffix = some id) <-> uuid ++ suffix.getD "" ∈ r.keys := by
  rw [lookupSuffixed_of_formed (formed?_eq_some_iff.mpr ⟨huuid, rfl⟩)]
  exact exists_number_iff

theorem numbers_performAll_empty (h : (distinctKeys ops).length < UInt32.size) :
    (performAll ∅ ops).Numbers ops where
  suffix_eq := suffix_performAll_empty ops
  size_eq := size_performAll_empty ops
  number_iff := getElem?_ids_performAll h
  uuidOf_iff := by
    intro id key
    apply uuidOf_eq_some_iff
    rw [size_performAll_empty]
    exact h
  uuidOf_none_iff := by
    intro id
    rw [uuidOf_eq_none_iff, <- UInt32.toNat_inj]
    show id.toNat = 0 ∨ _ <-> _
    omega
  found_iff := by
    intro uuid suffix huuid
    rw [exists_lookup_iff huuid, <- Array.mem_toList_iff, keys_performAll_empty, distinctKeys,
      List.mem_eraseDups, mem_resolvedKeys]
  uuidOf_found := by
    intro uuid suffix id hid
    have huuid : uuid ≠ "" := by
      intro hempty
      rw [hempty, lookupSuffixed_empty] at hid
      cases hid
    rw [lookupSuffixed_of_formed (formed?_eq_some_iff.mpr ⟨huuid, rfl⟩)] at hid
    apply (uuidOf_eq_some_iff _).mpr hid
    rw [size_performAll_empty]
    exact h

theorem length_distinctKeys_append_singleton (front : List Operation) (op : Operation) :
    (distinctKeys (front ++ [op])).length =
      (distinctKeys front).length +
        if (op.resolved? (suffixAfter front)).any fun key => !(distinctKeys front).contains key
        then 1 else 0 := by
  have hkeys : distinctKeys (front ++ [op]) =
      (distinctKeys front ++ (op.resolved? (suffixAfter front)).toList).eraseDups := by
    rw [distinctKeys, resolvedKeys_append, resolvedKeys, resolvedKeys, List.append_nil,
      <- eraseDups_eraseDups_append]
    rfl
  rw [hkeys]
  have hnodup : (distinctKeys front).Nodup := nodup_eraseDups _
  cases op.resolved? (suffixAfter front) with
  | none =>
      simp [eraseDups_of_nodup hnodup]
  | some key =>
      cases hseen : (distinctKeys front).contains key with
      | true =>
          have hmem : key ∈ distinctKeys front := List.contains_iff_mem.mp hseen
          rw [eraseDups_append_of_subset (by simpa using hmem), eraseDups_of_nodup hnodup]
          simp [hmem]
      | false =>
          have hmem : key ∉ distinctKeys front := by
            intro hmem
            rw [List.contains_iff_mem.mpr hmem] at hseen
            cases hseen
          rw [eraseDups_append_of_disjoint (by simpa using hmem), eraseDups_of_nodup hnodup]
          simp [hmem, List.eraseDups_cons]

end Run

/-- For every run on a new registry in which the numbers do not run out: the registry numbers
the keys of the run.  It grows by one with every key that is resolved for the first time and
not otherwise, the empty uuid is refused and changes nothing, and a number once given stays:
whatever forms the same key later is answered with it. -/
theorem run_numbers {ops : List Operation} (h : (distinctKeys ops).length < UInt32.size) :
    let r := performAll ∅ ops
    r.Numbers ops ∧
      (forall front op back, ops = front ++ op :: back ->
        (performAll ∅ (front ++ [op])).size =
          (performAll ∅ front).size +
            if (op.resolved? (suffixAfter front)).any fun key =>
              !(distinctKeys front).contains key then 1 else 0) ∧
      (forall front uuid back, ops = front ++ .resolve uuid :: back -> uuid ≠ "" ->
        exists id, ((performAll ∅ front).perform (.resolve uuid)).1 = .ok (some id)) ∧
      r.perform (.resolve "") = (.error .emptyUuid, r) ∧
      (forall (front back : List Operation) (key : String) (id : Id), ops = front ++ back ->
        (performAll ∅ front).ids[key]? = some id -> r.ids[key]? = some id) ∧
      forall front op back later key id, ops = front ++ op :: back ->
        op.key? (suffixAfter front) = some key ->
        ((performAll ∅ front).perform op).1 = .ok (some id) ->
        later.key? (suffixAfter ops) = some key -> (r.perform later).1 = .ok (some id) := by
  intro r
  refine ⟨numbers_performAll_empty h, ?_, ?_, ?_, ?_, ?_⟩
  · intro front op back _hops
    rw [size_performAll_empty, size_performAll_empty]
    exact length_distinctKeys_append_singleton front op
  · intro front uuid back _hops huuid
    rcases resolve_fst huuid (performAll ∅ front) with ⟨id, hid, _hlookup⟩
    exact ⟨id, by rw [perform, hid]; rfl⟩
  · rw [perform, resolve_empty]
    rfl
  · intro front back key id hops hid
    apply Extends.getElem?_ids _ hid
    show Extends _ (performAll ∅ ops)
    rw [hops, performAll_append]
    exact extends_performAll _ back
  · intro front op back later key id hops hkey hid hlater
    rw [<- suffix_performAll_empty] at hkey hlater
    have hafter := getElem?_ids_of_perform hkey hid
    apply perform_of_getElem?_ids hlater
    apply Extends.getElem?_ids _ hafter
    show Extends _ (performAll ∅ ops)
    rw [hops, performAll_append]
    exact extends_performAll _ back

/-- A uuid that ends like a suffix forms the key of a shorter one under that suffix. -/
theorem run_numbers_split :
    let ops : List Operation :=
      [.resolve "abc", .setSuffix (some "-x"), .resolve "abc", .setSuffix (some ""), .resolve ""]
    let r := performAll ∅ ops
    (distinctKeys ops).length < UInt32.size ∧ r.size = 2 ∧ r.suffix = none ∧
      r.uuidOf 2 = some "abc-x" ∧ (r.perform (.lookup "abc-x")).1 = .ok (some 2) := by
  intro ops r
  have hsize : (distinctKeys ops).length < UInt32.size := by
    decide +kernel
  have h := run_numbers hsize
  have htwo : r.ids["abc-x"]? = some 2 := (h.1.number_iff "abc-x" 2).mpr ⟨1, rfl, rfl⟩
  refine ⟨hsize, h.1.size_eq, h.1.suffix_eq, (h.1.uuidOf_iff 2 "abc-x").mpr htwo, ?_⟩
  exact h.2.2.2.2.2 [.resolve "abc", .setSuffix (some "-x")] (.resolve "abc")
    [.setSuffix (some ""), .resolve ""] (.lookup "abc-x") "abc-x" 2 rfl rfl rfl rfl

end Registry
end FacetRules
