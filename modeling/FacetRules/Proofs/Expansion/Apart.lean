import FacetRules.Proofs.Import.Runs
import FacetRules.Proofs.Registry.Inverse

/-!
# Passes do not meet

Whatever the tables name their rows by, also when it ends like a suffix itself, what a pass numbers
is numbered in no other pass, and a look-up under the suffix of a pass finds what this pass has
numbered and nothing else.
-/

namespace FacetRules

/-!
# Numbers that have not run out
-/

namespace Registry

theorem eq_of_getElem?_ids {r : Registry} (hr : r.size ≤ UInt32.size) {key other : String} {id : Id}
    (hkey : r.ids[key]? = some id) (hother : r.ids[other]? = some id) : key = other := by
  rw [getElem?_ids] at hkey hother
  rcases Option.map_eq_some_iff.mp hkey with ⟨i, hi, rfl⟩
  rcases Option.map_eq_some_iff.mp hother with ⟨j, hj, hnumber⟩
  have hplace := idxOf?_keys_eq_some_iff.mp hi
  have hplace' := idxOf?_keys_eq_some_iff.mp hj
  have hilt : i < r.size := (Array.getElem?_eq_some_iff.mp hplace).1
  have hjlt : j < r.size := (Array.getElem?_eq_some_iff.mp hplace').1
  have hmod : (j + 1) % UInt32.size = (i + 1) % UInt32.size := congrArg UInt32.toNat hnumber
  have hsame : j = i := by
    rw [show UInt32.size = 4294967296 from rfl] at hr hmod
    omega
  rw [hsame, hplace] at hplace'
  exact Option.some.inj hplace'

end Registry

/-!
# After so many passes
-/

namespace Builder

/-- The builder after so many passes over the records. -/
def afterPasses (tree : CategoryTree) (records : List (Table × List String)) (n : Nat) : Builder :=
  ((∅ : Builder).withCategories tree).performAll (passes n records)

/-- The key has no number before the pass, and this one after it. -/
def MintedIn (tree : CategoryTree) (records : List (Table × List String)) (p : Nat)
    (key : String) (id : Id) : Prop :=
  (afterPasses tree records p).registry.ids[key]? = none ∧
    (afterPasses tree records (p + 1)).registry.ids[key]? = some id

section After

variable {tree : CategoryTree} {records : List (Table × List String)} {n p q : Nat}
  {key uuid : String} {id : Id}

theorem keys_afterPasses (tree : CategoryTree) (records : List (Table × List String)) (n : Nat) :
    (afterPasses tree records n).registry.keys.toList =
      (copies n (fun p uuid => uuid ++ Import.expandSuffix p)
        (mentions none (recordCalls records))).eraseDups := by
  rw [afterPasses, keys_performAll_withCategories, mentions_passes]

/-- The keys are those of the records, under the suffixes of the passes so far. -/
theorem exists_number_afterPasses_iff :
    (exists id, (afterPasses tree records n).registry.ids[key]? = some id) <->
      exists p uuid, p < n ∧ uuid ∈ mentions none (recordCalls records) ∧
        uuid ++ Import.expandSuffix p = key := by
  rw [Registry.exists_number_iff, <- Array.mem_toList_iff, keys_afterPasses, List.mem_eraseDups,
    mem_copies]

theorem extends_afterPasses (h : p ≤ n) :
    (afterPasses tree records p).registry.Extends (afterPasses tree records n).registry := by
  induction h with
  | refl =>
      exact Registry.Extends.refl _
  | step _hle ih =>
      apply ih.trans
      unfold Registry.Extends
      rw [keys_afterPasses, keys_afterPasses, copies_succ, List.eraseDups_append]
      exact List.prefix_append _ _

theorem ne_empty_of_mem_mentions (h : uuid ∈ mentions none (recordCalls records)) :
    uuid ≠ "" := by
  rw [mentions_recordCalls_eq] at h
  rcases List.mem_flatMap.mp h with ⟨record, _hrecord, hmem⟩
  rcases List.mem_map.mp hmem with ⟨numbered, hnumbered, rfl⟩
  rw [Registry.keyOf, Option.getD_none, String.append_empty]
  exact Call.ne_empty_of_mem_numbered hnumbered

/-!
# One pass

A pass numbers the uuids of the records under its own suffix, because no earlier pass can have
formed such a key.
-/

theorem MintedIn.exists_uuid (h : MintedIn tree records p key id) :
    exists uuid, uuid ≠ "" ∧ key = uuid ++ Import.expandSuffix p := by
  rcases exists_number_afterPasses_iff.mp ⟨id, h.2⟩ with ⟨pass, uuid, hpass, huuid, hkey⟩
  have hlast : ¬ pass < p := by
    intro hlt
    rcases exists_number_afterPasses_iff.mpr ⟨pass, uuid, hlt, huuid, hkey⟩ with ⟨other, hother⟩
    rw [h.1] at hother
    cases hother
  have hp : pass = p := Nat.le_antisymm (Nat.le_of_lt_succ hpass) (Nat.le_of_not_lt hlast)
  rw [hp] at hkey
  exact ⟨uuid, ne_empty_of_mem_mentions huuid, hkey.symm⟩

theorem MintedIn.getElem?_ids (h : MintedIn tree records p key id) (hp : p < n) :
    (afterPasses tree records n).registry.ids[key]? = some id :=
  (extends_afterPasses (Nat.succ_le_of_lt hp)).getElem?_ids h.2

/-- A key with the suffix of a pass was numbered in this pass. -/
theorem mintedIn_of_getElem?_ids
    (hid : (afterPasses tree records n).registry.ids[uuid ++ Import.expandSuffix q]? = some id) :
    q < n ∧ MintedIn tree records q (uuid ++ Import.expandSuffix q) id := by
  rcases exists_number_afterPasses_iff.mp ⟨id, hid⟩ with ⟨pass, named, hpass, hnamed, hkey⟩
  rcases Import.append_expandSuffix_inj hkey with ⟨rfl, rfl⟩
  have hbefore : (afterPasses tree records pass).registry.ids[
      named ++ Import.expandSuffix pass]? = none := by
    apply Option.eq_none_iff_forall_ne_some.mpr
    intro other hother
    rcases exists_number_afterPasses_iff.mp ⟨other, hother⟩ with
      ⟨earlier, same, hearlier, _hsame, heq⟩
    exact absurd (Import.append_expandSuffix_inj heq).1 (Nat.ne_of_lt hearlier)
  rcases exists_number_afterPasses_iff.mpr
    ⟨pass, named, Nat.lt_succ_self pass, hnamed, rfl⟩ with ⟨given, hgiven⟩
  have hminted : MintedIn tree records pass (named ++ Import.expandSuffix pass) given :=
    ⟨hbefore, hgiven⟩
  have hlater := hminted.getElem?_ids hpass
  rw [hid] at hlater
  rw [Option.some.inj hlater]
  exact ⟨hpass, hminted⟩

end After

end Builder

/-!
# The passes of an import
-/

namespace Import

open Builder

/-- In this pass over the tables the key gets its number. -/
def Mints (storage : Storage) (options : ImportOptions) (tree : CategoryTree) (p : Nat)
    (key : String) (id : Id) : Prop :=
  exists before after : Builder,
    loadPasses storage options p 0 (Builder.withCategories ∅ tree) = .ok before ∧
      loadTables storage options (before.setSuffix (some (expandSuffix p))) = .ok after ∧
      before.registry.ids[key]? = none ∧ after.registry.ids[key]? = some id

/-- What the passes of an import have numbered does not meet. -/
structure Apart (storage : Storage) (options : ImportOptions) (tree : CategoryTree) (n : Nat)
    (b : Builder) : Prop where
  /-- Every key was numbered in one of the passes. -/
  minted : forall (key : String) (id : Id), b.registry.ids[key]? = some id ->
    exists p, p < n ∧ Mints storage options tree p key id
  /-- A pass numbers uuids under its own suffix, and their numbers stay. -/
  stays : forall (p : Nat) (key : String) (id : Id), p < n -> Mints storage options tree p key id ->
    b.registry.ids[key]? = some id ∧
      exists uuid, uuid ≠ "" ∧ key = uuid ++ expandSuffix p
  /-- A look-up under the suffix of a pass finds what this pass has numbered. -/
  lookup_iff : forall (q : Nat) (uuid : String) (id : Id), uuid ≠ "" ->
    (b.registry.lookupSuffixed uuid (some (expandSuffix q)) = some id <->
      q < n ∧ Mints storage options tree q (uuid ++ expandSuffix q) id)
  /-- Under the suffix of a pass no uuid forms a key of another pass. -/
  key_ne : forall (p q : Nat) (key uuid : String) (id : Id), p < n -> p ≠ q ->
    Mints storage options tree p key id -> Registry.keyOf uuid (some (expandSuffix q)) ≠ key
  /-- As long as there are no more keys than numbers, passes give different numbers. -/
  id_ne : b.registry.size ≤ UInt32.size -> forall (p q : Nat) (key other : String) (id id' : Id),
    p < n -> q < n -> p ≠ q -> Mints storage options tree p key id ->
      Mints storage options tree q other id' -> id ≠ id'
  lookup_ne : b.registry.size ≤ UInt32.size -> forall (p q : Nat) (key uuid : String) (id : Id),
    p < n -> p ≠ q -> Mints storage options tree p key id ->
      b.registry.lookupSuffixed uuid (some (expandSuffix q)) ≠ some id

section Apart

variable {storage : Storage} {options : ImportOptions} {tree : CategoryTree} {n : Nat}
  {b : Builder}

theorem exists_directory_of_loadTables {b b' : Builder}
    (h : loadTables storage options b = .ok b') :
    exists files, storage options.dataDir = .directory files := by
  unfold loadTables at h
  split at h
  · rename_i files hdir
    exact ⟨files, hdir⟩
  · cases h

/-- In a directory that can be read every pass numbers what it numbers over the records alone. -/
theorem mints_iff {files : List (String × FileContent)}
    (hdir : storage options.dataDir = .directory files)
    (hfiles : Intact (limitOf options.maxRecords) files) {p : Nat} {key : String} {id : Id} :
    Mints storage options tree p key id <->
      MintedIn tree (allRecords (limitOf options.maxRecords) files) p key id := by
  have hbefore : loadPasses storage options p 0 (Builder.withCategories ∅ tree) =
      .ok (afterPasses tree (allRecords (limitOf options.maxRecords) files) p) := by
    rw [loadPasses_eq_ok_iff hdir, <- passes_eq_passesFrom]
    exact ⟨fun _ => hfiles, rfl⟩
  have hafter : loadTables storage options
      ((afterPasses tree (allRecords (limitOf options.maxRecords) files) p).setSuffix
        (some (expandSuffix p))) =
      .ok (afterPasses tree (allRecords (limitOf options.maxRecords) files) (p + 1)) := by
    rw [loadTables_eq_ok_iff hdir, afterPasses, afterPasses, passes_succ, performAll_append]
    exact ⟨hfiles, rfl⟩
  constructor
  · intro hmints
    rcases hmints with ⟨before, after, hb, ha, hnone, hsome⟩
    rw [hbefore] at hb
    cases hb
    rw [hafter] at ha
    cases ha
    exact ⟨hnone, hsome⟩
  · intro hminted
    exact ⟨_, _, hbefore, hafter, hminted⟩

/-- Passes that were made are passes over records that do not depend on the pass. -/
theorem exists_records_of_loadPasses
    (h : loadPasses storage options n 0 (Builder.withCategories ∅ tree) = .ok b) :
    exists records, b = afterPasses tree records n ∧ forall p key id, p < n ->
      (Mints storage options tree p key id <-> MintedIn tree records p key id) := by
  cases n with
  | zero =>
      cases h
      exact ⟨[], rfl, fun p _key _id hp => absurd hp (Nat.not_lt_zero p)⟩
  | succ n =>
      have hsteps := h
      rw [loadPasses, bind_eq_ok_iff] at hsteps
      rcases hsteps with ⟨first, hfirst, _hrest⟩
      rcases exists_directory_of_loadTables hfirst with ⟨files, hdir⟩
      rcases (loadPasses_eq_ok_iff hdir).mp h with ⟨hintact, rfl⟩
      refine ⟨allRecords (limitOf options.maxRecords) files, ?_, ?_⟩
      · rw [<- passes_eq_passesFrom]
        rfl
      · intro p key id _hp
        exact mints_iff hdir (hintact (Nat.succ_pos n))

theorem apart_of_loadPasses
    (h : loadPasses storage options n 0 (Builder.withCategories ∅ tree) = .ok b) :
    Apart storage options tree n b := by
  rcases exists_records_of_loadPasses h with ⟨records, rfl, hmints⟩
  have hkey : forall (p q : Nat) (key uuid : String) (id : Id), p < n -> p ≠ q ->
      Mints storage options tree p key id ->
        Registry.keyOf uuid (some (expandSuffix q)) ≠ key := by
    intro p q key uuid id hp hne hmint heq
    rcases ((hmints p key id hp).mp hmint).exists_uuid with ⟨named, _hnamed, rfl⟩
    exact hne (append_expandSuffix_inj heq).1.symm
  have hid : (afterPasses tree records n).registry.size ≤ UInt32.size ->
      forall (p : Nat) (key other : String) (id : Id), p < n ->
        Mints storage options tree p key id ->
        (afterPasses tree records n).registry.ids[other]? = some id -> other = key := by
    intro hsize p key other id hp hmint hother
    exact Registry.eq_of_getElem?_ids hsize hother
      (((hmints p key id hp).mp hmint).getElem?_ids hp)
  refine ⟨?_, ?_, ?_, hkey, ?_, ?_⟩
  · intro key id hnumber
    rcases exists_number_afterPasses_iff.mp ⟨id, hnumber⟩ with ⟨p, uuid, hp, _huuid, rfl⟩
    exact ⟨p, hp, (hmints p _ id hp).mpr (mintedIn_of_getElem?_ids hnumber).2⟩
  · intro p key id hp hmint
    have hminted := (hmints p key id hp).mp hmint
    exact ⟨hminted.getElem?_ids hp, hminted.exists_uuid⟩
  · intro q uuid id huuid
    rw [Registry.lookupSuffixed, if_neg huuid]
    constructor
    · intro hnumber
      rcases mintedIn_of_getElem?_ids hnumber with ⟨hq, hminted⟩
      exact ⟨hq, (hmints q _ id hq).mpr hminted⟩
    · intro hboth
      exact ((hmints q _ id hboth.1).mp hboth.2).getElem?_ids hboth.1
  · intro hsize p q key other id id' hp hq hne hmint hother heq
    subst heq
    have hminted := (hmints q other id hq).mp hother
    have hsame := hid hsize p key other id hp hmint (hminted.getElem?_ids hq)
    rcases hminted.exists_uuid with ⟨uuid, _huuid, hform⟩
    exact hkey p q key uuid id hp hne hmint (hform.symm.trans hsame)
  · intro hsize p q key uuid id hp hne hmint hlookup
    rw [Registry.lookupSuffixed] at hlookup
    split at hlookup
    · cases hlookup
    · exact hkey p q key uuid id hp hne hmint (hid hsize p key _ id hp hmint hlookup)

end Apart

/-- A key tells the pass that formed it and the uuid in front of the suffix, and so the passes of
an import do not meet. -/
theorem passes_apart :
    (forall (u v : String) (p q : Nat),
      u ++ expandSuffix p = v ++ expandSuffix q <-> p = q ∧ u = v) ∧
      forall (storage : Storage) (options : ImportOptions) (tree : CategoryTree) (n : Nat)
        (b : Builder), loadPasses storage options n 0 (Builder.withCategories ∅ tree) = .ok b ->
          Apart storage options tree n b := by
  constructor
  · intro u v p q
    constructor
    · exact append_expandSuffix_inj
    · intro heq
      rw [heq.1, heq.2]
  · intro storage options tree n b h
    exact apart_of_loadPasses h

/-- Two attributes, of which the second is named like the first under the suffix of a pass. -/
def suffixedAttributes : List (String × FileContent) :=
  [("attribute.csv.gz",
    [.packed ("uuid,kind\nkind,,f,f,f,Kind,1,,,f,,\n" ++
      "kind-expanded-001,,f,f,f,Copy,2,,,f,,").toByteArray.data.toList])]

/-- In two passes both attributes are numbered twice, and under the suffix of the second pass the
first is not taken for the copy of the second that the first pass has made. -/
theorem passes_apart_suffixedAttributes :
    let storage : Storage := .ofList [("data", .directory suffixedAttributes)]
    exists b, loadPasses storage { dataDir := "data" } 2 0 (Builder.withCategories ∅ ∅) = .ok b ∧
      Mints storage { dataDir := "data" } ∅ 0 "kind-expanded-001-expanded-000" 2 ∧
      Mints storage { dataDir := "data" } ∅ 1 "kind-expanded-001" 3 ∧
      b.registry.lookupSuffixed "kind" (some (expandSuffix 1)) ≠ some 2 := by
  intro storage
  have hintact : Intact none suffixedAttributes := by
    intro table
    cases table with
    | attributes => decide +kernel
    | options => decide +kernel
    | assignments => decide +kernel
    | dynamicOptions => decide +kernel
  have hload : loadPasses storage { dataDir := "data" } 2 0 (Builder.withCategories ∅ ∅) =
      .ok (afterPasses ∅ (allRecords none suffixedAttributes) 2) := by
    apply (loadPasses_eq_ok_iff rfl).mpr
    exact ⟨fun _ => hintact, rfl⟩
  have hapart := passes_apart.2 _ _ _ _ _ hload
  have hsecond : (afterPasses ∅ (allRecords none suffixedAttributes) 2).registry.lookupSuffixed
      "kind-expanded-001" (some (expandSuffix 0)) = some 2 := by
    decide +kernel
  have hthird : (afterPasses ∅ (allRecords none suffixedAttributes) 2).registry.lookupSuffixed
      "kind" (some (expandSuffix 1)) = some 3 := by
    decide +kernel
  have hsize : (afterPasses ∅ (allRecords none suffixedAttributes) 2).registry.size ≤
      UInt32.size := by
    decide +kernel
  have hfirst := ((hapart.lookup_iff 0 "kind-expanded-001" 2 (by decide)).mp hsecond).2
  have hlast := ((hapart.lookup_iff 1 "kind" 3 (by decide)).mp hthird).2
  exact ⟨_, hload, hfirst, hlast,
    hapart.lookup_ne hsize 0 1 _ "kind" 2 (by decide) (by decide) hfirst⟩

end Import
end FacetRules
