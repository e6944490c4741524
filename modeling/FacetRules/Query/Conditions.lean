import FacetRules.Error
import FacetRules.Text.Blank
import FacetRules.Text.Decimal
import FacetRules.Text.Split

/-!
# Search conditions

What a shopper asks for: a category, the options selected so far, a limit on the
options listed per attribute, and filters on option titles.

A selected pair is written as the numbers of the attribute and the option with a
hyphen between them, a filter as the number of the attribute, a colon and the
start of the titles.  Numbers may have blanks around them; the start of the
titles is taken as it stands.
-/

namespace FacetRules

structure Pair where
  attributeId : Id
  optionId : Id
  deriving DecidableEq, Repr

namespace Pair

def text (p : Pair) : String :=
  toString p.attributeId ++ "-" ++ toString p.optionId

def read (s : String) : Except Error Pair :=
  let parts : Option Pair := do
    let (front, back) <- Text.splitFirst '-' s.toList
    let attributeId <- Text.readUInt32? (Text.trim front)
    let optionId <- Text.readUInt32? (Text.trim back)
    return { attributeId, optionId }
  match parts with
  | some pair => .ok pair
  | none => .error (.invalidPair s)

end Pair

structure TitleFilter where
  attributeId : Id
  start : String
  deriving DecidableEq, Repr

namespace TitleFilter

def text (f : TitleFilter) : String :=
  toString f.attributeId ++ ":" ++ f.start

def read (s : String) : Except Error TitleFilter :=
  let parts : Option TitleFilter := do
    let (front, back) <- Text.splitFirst ':' s.toList
    let attributeId <- Text.readUInt32? (Text.trim front)
    return { attributeId, start := String.ofList back }
  match parts with
  | some filter => .ok filter
  | none => .error (.invalidFilter s)

def keeps (f : TitleFilter) (title : String) : Bool :=
  f.start.toList.isPrefixOf title.toList

end TitleFilter

structure Conditions where
  categoryIds : List CategoryId := []
  pairs : List Pair := []
  /-- How many options to list per attribute; 0 stands for the default. -/
  pageSize : UInt64 := 0
  /-- Given back as it is and not used otherwise. -/
  offset : UInt64 := 0
  filters : List TitleFilter := []
  deriving DecidableEq, Repr

namespace Conditions

def ofCategory (category : CategoryId) : Conditions :=
  { categoryIds := [category] }

/-- The filter that a query applies: the first one, unless it asks for nothing. -/
def activeFilter (q : Conditions) : Option TitleFilter :=
  q.filters.head?.filter fun f => f.start != ""

/-- The selected options in the order of their first selection. -/
def selectedOptions (q : Conditions) : List Id :=
  (q.pairs.map Pair.optionId).eraseDups

end Conditions

def defaultPageSize : UInt64 := 100

def maxPageSize : UInt64 := 1000

def effectivePageSize (requested : UInt64) : UInt64 :=
  if requested = 0 then defaultPageSize else min requested maxPageSize

end FacetRules
