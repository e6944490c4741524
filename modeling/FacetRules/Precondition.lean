import FacetRules.Text.Blank
import FacetRules.Total

/-!
# Preconditions

A dynamic option carries a precondition: a list of keys between braces, separated
by commas.  The option is shown when any one of the listed options is selected.
A precondition of fewer than three bytes lists nothing, and the option is always
shown.

A key has 36 bytes.  Two kinds of damage are known and repaired: yen signs stuck
to either end of a key, and two keys written without a comma between them.  Any
other entry is rejected.

The entries wait in a list.  Splitting an entry in two puts its second half at
the end of that list, so that every half is examined like any other entry.  No
more than two steps are needed for each entry of the text.
-/

namespace FacetRules

def byteLength (cs : List Char) : Nat :=
  total (cs.map Char.utf8Size)

/-- Cuts a text after a number of bytes, unless a character stands across the cut
or the text is shorter. -/
def cutAtByte : Nat -> List Char -> Option (List Char × List Char)
  | 0, cs => some ([], cs)
  | _ + 1, [] => none
  | n + 1, c :: cs =>
      if c.utf8Size ≤ n + 1 then
        (cutAtByte (n + 1 - c.utf8Size) cs).map fun (front, back) => (c :: front, back)
      else
        none

inductive Fragment
  | valid (uuid : List Char)
  /-- A key that had yen signs stuck to it. -/
  | stripped (uuid : List Char)
  /-- Two keys written without a comma. -/
  | concatenated (first second : List Char)
  | invalid (entry : List Char)
  deriving DecidableEq, Repr

namespace Fragment

def keyLength : Nat := 36

def classify (entry : List Char) : Fragment :=
  let n := byteLength entry
  if n = keyLength then
    .valid entry
  else if keyLength < n ∧ n < 50 then
    let kept := Text.trimOf (· == '¥') entry
    if byteLength kept = keyLength then .stripped kept else .invalid entry
  else if n = 2 * keyLength then
    match cutAtByte keyLength entry with
    | some (first, second) => .concatenated first second
    | none => .invalid entry
  else
    .invalid entry

end Fragment

/-- Entries that wait to be examined, and what the examined ones gave. -/
structure Worklist where
  pending : List (List Char)
  uuids : List (List Char) := []
  rejected : List (List Char) := []
  deriving DecidableEq, Repr

namespace Worklist

def examine (w : Worklist) (entry : List Char) (rest : List (List Char)) : Worklist :=
  match Fragment.classify entry with
  | .valid uuid => { w with pending := rest, uuids := w.uuids ++ [uuid] }
  | .stripped uuid => { w with pending := rest, uuids := w.uuids ++ [uuid] }
  | .concatenated first second =>
      { w with pending := rest ++ [second], uuids := w.uuids ++ [first] }
  | .invalid entry => { w with pending := rest, rejected := w.rejected ++ [entry] }

/-- Examines entries until none waits, for at most this many steps. -/
def run : Nat -> Worklist -> Worklist
  | 0, w => w
  | n + 1, w =>
      match w.pending with
      | [] => w
      | entry :: rest => run n (w.examine entry rest)

end Worklist

inductive Precondition
  | always
  /-- When one of the options with these keys is selected; the rejected entries
  name no key. -/
  | triggers (uuids rejected : List String)
  deriving DecidableEq, Repr

namespace Precondition

def isBrace (c : Char) : Bool :=
  c == '\x7b' || c == '\x7d'

def entries (raw : String) : List (List Char) :=
  (Text.trimOf isBrace raw.toList).splitOn ','

def read (raw : String) : Precondition :=
  if byteLength raw.toList < 3 then
    .always
  else
    let waiting := entries raw
    let done := Worklist.run (2 * waiting.length) { pending := waiting }
    .triggers (done.uuids.map String.ofList) (done.rejected.map String.ofList)

end Precondition
end FacetRules
