import FacetRules.Dump
import FacetRules.Query.Visible
import FacetRules.Report

/-!
# Commands

A command answers with the data to show and with messages for the person who gave
it.  Nothing is printed here.
-/

namespace FacetRules

inductive Level
  | info
  | success
  | warning
  deriving DecidableEq, Repr

structure Message where
  level : Level
  content : String
  deriving DecidableEq, Repr

structure Answer where
  visible : Option Visible := none
  dump : Option String := none
  stats : Option Stats := none
  messages : List Message := []
  deriving DecidableEq, Repr

namespace Answer

def hasLevel (a : Answer) (level : Level) : Bool :=
  a.messages.any (·.level == level)

end Answer

namespace Catalog

/-! ## Querying -/

/-- How a dropped pair is named: by titles, or by numbers if one of them names
nothing. -/
def dropLabel (c : Catalog) (p : Pair) : String :=
  match c.pairLabel p.attributeId p.optionId with
  | .ok label => label
  | .error _ => p.text

def dropWarning (c : Catalog) (p : Pair) : Message where
  level := .warning
  content := "Dropped selection " ++ p.text ++ " (" ++ c.dropLabel p ++ "): no longer visible"

def findCommand (c : Catalog) (q : Conditions) : Except Error Answer := do
  let visible <- c.find q
  let dropped := q.pairs.filter fun p => !visible.corrected.pairs.contains p
  let nothing :=
    if visible.attributes.isEmpty then
      [{ level := .info, content := "No visible attributes" }]
    else
      []
  return {
    visible := some visible
    messages := dropped.map c.dropWarning ++ nothing }

/-! ## Dumping -/

def dumpCommand (c : Catalog) (options : DumpOptions) : Except Error Answer := do
  let text <- c.dump options
  return { dump := some text, stats := some c.stats }

/-! ## Importing -/

def importMessages (c : Catalog) (report : Report) : List Message :=
  let categories : List Message :=
    if c.categories.isEmpty then
      []
    else
      [{ level := .info, content := s!"Loaded {c.categories.size} categories" }]
  let rows : List Message := report.rowsRead.toList.map fun (table, n) =>
    { level := .info, content := s!"Read {n} {table.name} rows" }
  let skips : List Message := report.skipped.toList.map fun (reason, n) =>
    { level := .warning, content := s!"Skipped {n} rows: {reason.text}" }
  let stats := c.stats
  let outcome : Message :=
    if stats.categoryRules = 0 then
      { level := .warning, content := "No category rules were compiled" }
    else
      { level := .success
        content := s!"Compiled {stats.categoryRules} category rules " ++
          s!"({stats.attributes} attributes, {stats.options} options)" }
  categories ++ rows ++ skips ++ [outcome]

def importAnswer (c : Catalog) (report : Report) : Answer where
  stats := some c.stats
  messages := c.importMessages report

end Catalog
end FacetRules
