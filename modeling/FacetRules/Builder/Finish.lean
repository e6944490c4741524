import FacetRules.Builder.Basic
import FacetRules.Precondition

/-!
# Compiling a catalog

When all tables are loaded, every attribute gets its list of options, every
category with an attribute gets a rule, and the dynamic options are worked into
the rules.  References that lead nowhere are counted and left out; nothing makes
compiling fail.

A key in a precondition is looked up and not numbered.  It names a trigger when it
is the key of an option whose attribute is loaded.  A key that is both an
attribute's and an option's counts as the attribute's.
-/

namespace FacetRules
namespace Builder

structure Loaded where
  registry : Registry
  attributes : IdMap Attribute
  options : IdMap AttributeOption

structure Compilation where
  rules : IdMap Rule := ∅
  report : Report

namespace Compilation

def skip (c : Compilation) (reason : SkipReason) : Compilation :=
  { c with report := c.report.skip reason }

/-- Changes the rule of a category that has one. -/
def modifyRule (c : Compilation) (category : CategoryId) (f : Rule -> Rule) : Compilation :=
  { c with rules := c.rules.modify category f }

end Compilation

/-! ## The options of the attributes -/

def linkOption : IdMap Attribute × Report -> AttributeOption -> IdMap Attribute × Report
  | (attributes, report), o =>
      match attributes[o.attributeId]? with
      | some a => (attributes.insert o.attributeId (a.addOption o.id), report)
      | none => (attributes, report.skip .optionWithoutAttribute)

def linkOptions (attributes : IdMap Attribute) (options : OptionTable) (report : Report) :
    IdMap Attribute × Report :=
  options.toList.foldl linkOption (attributes, report)

/-! ## The attributes of the categories -/

def applyAssignment (attributes : IdMap Attribute) (c : Compilation) (row : Assignment) :
    Compilation :=
  if row.isDisabled then
    c.skip .disabledRow
  else if !attributes.contains row.attributeId then
    c.skip .unknownAttribute
  else
    let rule := c.rules.getD row.categoryId { categoryId := row.categoryId }
    { c with rules := c.rules.insert row.categoryId (rule.assign row.attributeId) }

/-! ## The options of the categories -/

def applyTrigger (loaded : Loaded) (row : DynamicOption) (o : AttributeOption)
    (c : Compilation) (uuid : String) : Compilation :=
  match loaded.registry.lookupSuffixed uuid row.suffix with
  | none => c.skip .unknownPrecondition
  | some id =>
      if loaded.attributes.contains id then
        c.skip .preconditionIsAttribute
      else
        match loaded.options[id]? with
        | none => c.skip .unknownPrecondition
        | some trigger =>
            if loaded.attributes.contains trigger.attributeId then
              c.modifyRule row.categoryId fun r => r.gate id o.attributeId o.id
            else
              c.skip .optionWithoutAttribute

def applyDynamicOption (loaded : Loaded) (c : Compilation) (row : DynamicOption) :
    Compilation :=
  if row.isDisabled then
    c.skip .disabledRow
  else
    match loaded.options[row.optionId]? with
    | none => c.skip .unknownOption
    | some o =>
        match c.rules[row.categoryId]? with
        | none => c.skip .unknownCategoryRule
        | some rule =>
            match Precondition.read row.precondition with
            | .always =>
                if rule.attributeIds.contains o.attributeId then
                  c.modifyRule row.categoryId fun r => r.showAlways o.id
                else
                  c.skip .attributeNotInCategory
            | .triggers uuids rejected =>
                if loaded.attributes.contains o.attributeId then
                  let c := rejected.foldl (fun c _ => c.skip .malformedPrecondition) c
                  uuids.foldl (applyTrigger loaded row o) c
                else
                  c.skip .optionWithoutAttribute

/-! ## The catalog -/

def finish (b : Builder) : Catalog × Report :=
  let (attributes, report) := linkOptions b.attributes b.options b.report
  let loaded := { registry := b.registry, attributes, options := b.options.entries }
  let assigned := b.assignments.toList.foldl (applyAssignment attributes) { report }
  let compiled := b.dynamicOptions.toList.foldl (applyDynamicOption loaded) assigned
  ({ registry := b.registry.setSuffix none
     attributes
     options := b.options.entries
     rules := compiled.rules.map fun _ r => r.classify
     categories := b.categories },
    compiled.report)

end Builder
end FacetRules
