import FacetRules.Catalog
import FacetRules.Text.Decimal

/-!
# Dumps

A dump shows compiled rules to a person who checks an import.  Each rule is a
section of lines: a heading, the attributes that are always visible with the first
of their options, and the triggers with everything they bring into view.  The
sections come in ascending order of their categories, and the sizes of the catalog
close the dump.
-/

namespace FacetRules

structure DumpOptions where
  category : Option CategoryId := none
  /-- How many options to list per always-visible attribute; 0 stands for the default. -/
  maxLines : UInt64 := 0
  deriving DecidableEq, Repr

namespace DumpOptions

def defaultMaxLines : Nat := 5

def effectiveMaxLines (options : DumpOptions) : Nat :=
  if options.maxLines = 0 then defaultMaxLines else options.maxLines.toNat

end DumpOptions

inductive DumpLine
  /-- The heading of a rule, with the numbers of its always-visible attributes, its
  attributes and its triggers. -/
  | heading (category : CategoryId) (name : String) (visible assigned triggers : Nat)
  | shown (a : Attribute)
  | listed (o : AttributeOption)
  /-- How many options of the attribute above are not listed. -/
  | omitted (count : Nat)
  | trigger (a : Attribute) (o : AttributeOption)
  /-- An attribute that the trigger above brings into view. -/
  | gated (a : Attribute)
  | unlocked (o : AttributeOption)
  deriving DecidableEq, Repr

namespace DumpLine

def column (id : UInt32) : String :=
  "[" ++ Text.flushRight 6 ' ' id.toNat ++ "]"

def titled (title : String) (order : Int64) : String :=
  title ++ " (" ++ toString order ++ ")"

def text : DumpLine -> String
  | heading category name visible assigned triggers =>
      "category " ++ column category ++ " - " ++ name ++
        s!" ({visible} / {assigned} attributes, {triggers} conditions)"
  | shown a => " - attribute " ++ column a.id ++ " - " ++ titled a.title a.displayOrder
  | listed o => "    - option " ++ column o.id ++ " - " ++ titled o.title o.displayOrder
  | omitted count => s!"      <skipped {count} more>"
  | trigger a o =>
      " - precondition: attribute " ++ column a.id ++ " - " ++ a.title ++
        " - option " ++ column o.id ++ " - " ++ o.title
  | gated a => "    - attribute " ++ column a.id ++ " - " ++ titled a.title a.displayOrder
  | unlocked o => "       - option " ++ column o.id ++ " - " ++ titled o.title o.displayOrder

def render (lines : List DumpLine) : String :=
  String.join (lines.map fun line => line.text ++ "\n")

end DumpLine

namespace Stats

def text (s : Stats) : String :=
  "=== Stats ===\n" ++
    s!"Attributes        : {s.attributes}\n" ++
    s!"Options           : {s.options}\n" ++
    s!"Category Rules    : {s.categoryRules}\n" ++
    s!"Refs              : {s.refs}\n"

end Stats

namespace Catalog

def dumpVisible (c : Catalog) (maxLines : Nat) (id : Id) : Except Error (List DumpLine) := do
  let a <- c.attributeOf id
  let options <- (a.optionIds.take maxLines).mapM c.optionOf
  let rest :=
    if maxLines < a.optionIds.length then
      [DumpLine.omitted (a.optionIds.length - maxLines)]
    else
      []
  return .shown a :: options.map .listed ++ rest

def dumpGroup (c : Catalog) (g : Group) : Except Error (List DumpLine) := do
  let a <- c.attributeOf g.attributeId
  let options <- g.optionIds.mapM c.optionOf
  return .gated a :: options.map .unlocked

def dumpTrigger (c : Catalog) (entry : Id × List Group) : Except Error (List DumpLine) := do
  let o <- c.optionOf entry.1
  let a <- c.attributeOf o.attributeId
  let groups <- entry.2.mapM c.dumpGroup
  return .trigger a o :: groups.flatten

def dumpRule (c : Catalog) (maxLines : Nat) (r : Rule) : Except Error (List DumpLine) := do
  let visible <- r.alwaysVisibleIds.mapM (c.dumpVisible maxLines)
  let triggers <- r.triggers.toList.mapM c.dumpTrigger
  let heading := DumpLine.heading r.categoryId (c.categories.fullName r.categoryId)
    r.alwaysVisibleIds.length r.attributeIds.length r.triggers.size
  return heading :: visible.flatten ++ triggers.flatten

/-- The rules that are to be dumped.  A single category must have one. -/
def rulesToDump (c : Catalog) (options : DumpOptions) : Except Error (List Rule) :=
  match options.category with
  | some category => (c.ruleOf category).map fun r => [r]
  | none => .ok c.ruleList

def dump (c : Catalog) (options : DumpOptions) : Except Error String := do
  let rules <- c.rulesToDump options
  let sections <- rules.mapM (c.dumpRule options.effectiveMaxLines)
  return DumpLine.render sections.flatten ++ "\n" ++ c.stats.text

end Catalog
end FacetRules
