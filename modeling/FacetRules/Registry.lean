import FacetRules.Error

/-!
# The registry of keys

The tables name everything by long keys.  The registry numbers the keys 1, 2, 3,
... in the order in which they are first seen, and never renumbers one.  Keys of
attributes and of options are numbered together, so a key can be looked up before
it is known which of the two it names.

A suffix can be put in force, which is then part of every key.  Loading the same
tables again under another suffix gives a disjoint copy of the data.

The registry holds the number of each key, and beside that the keys in the order of
their numbers.  Both say the same.
-/

namespace FacetRules

structure Registry where
  ids : Std.ExtTreeMap String Id := ∅
  /-- The keys, the first of which has the number 1. -/
  keys : Array String := #[]
  suffix : Option String := none
  keys_nodup : keys.toList.Nodup := by simp
  ids_eq : forall key, ids[key]? =
      (keys.toList.idxOf? key).map (fun i => UInt32.ofNat (i + 1)) := by simp

namespace Registry

def numberAt (i : Nat) : Id :=
  UInt32.ofNat (i + 1)

instance : EmptyCollection Registry where
  emptyCollection := {}

instance : Inhabited Registry where
  default := ∅

/-- Puts a suffix in force, or none; an empty suffix is none. -/
def setSuffix (r : Registry) (suffix : Option String) : Registry :=
  { r with suffix := suffix.filter (· != "") }

def keyOf (uuid : String) (suffix : Option String) : String :=
  uuid ++ suffix.getD ""

def lookupSuffixed (r : Registry) (uuid : String) (suffix : Option String) : Option Id :=
  if uuid = "" then none else r.ids[keyOf uuid suffix]?

def lookup (r : Registry) (uuid : String) : Option Id :=
  r.lookupSuffixed uuid r.suffix

def append (r : Registry) (key : String) (fresh : r.ids[key]? = none) : Registry where
  ids := r.ids.insert key (numberAt r.keys.size)
  keys := r.keys.push key
  suffix := r.suffix
  keys_nodup := by
    have hkey : key ∉ r.keys.toList := by
      rw [r.ids_eq key] at fresh
      simpa using fresh
    simp only [Array.toList_push]
    exact List.nodup_append.mpr
      ⟨r.keys_nodup, by simp, by
        intro a ha b hb hab
        rw [List.mem_singleton] at hb
        subst hb
        subst hab
        exact hkey ha⟩
  ids_eq := by
    have hkey : r.keys.toList.idxOf? key = none := by
      rw [r.ids_eq key] at fresh
      simpa using fresh
    intro k
    rw [Std.ExtTreeMap.getElem?_insert, r.ids_eq k, Array.toList_push,
      List.idxOf?, List.findIdx?_append]
    by_cases h : key = k
    · subst h
      have hnone : r.keys.toList.findIdx? (fun x => x == key) = none := hkey
      simp [hnone, numberAt, List.findIdx?_cons]
    · simp [h, List.findIdx?_cons]

/-- The number of a uuid under the suffix in force, and the registry afterwards.  A new
key gets the next number; an empty uuid changes nothing. -/
def resolve (r : Registry) (uuid : String) : Except Error Id × Registry :=
  if uuid = "" then
    (.error .emptyUuid, r)
  else
    match h : r.ids[keyOf uuid r.suffix]? with
    | some id => (.ok id, r)
    | none => (.ok (numberAt r.keys.size), r.append (keyOf uuid r.suffix) h)

def uuidOf (r : Registry) (id : Id) : Option String :=
  if id = 0 then none else r.keys[id.toNat - 1]?

def describe (r : Registry) (id : Id) : String :=
  (r.uuidOf id).getD "?"

def size (r : Registry) : Nat :=
  r.keys.size

def isEmpty (r : Registry) : Bool :=
  r.keys.isEmpty

def toList (r : Registry) : List (String × Id) :=
  r.keys.toList.zipIdx.map fun (key, i) => (key, numberAt i)

/-! ## What resolving leaves -/

theorem resolve_empty (r : Registry) : r.resolve "" = (.error .emptyUuid, r) := by
  simp [resolve]

end Registry
end FacetRules
