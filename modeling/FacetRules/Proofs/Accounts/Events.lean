import FacetRules.Proofs.Builder.Records
import FacetRules.Proofs.Compile.Rules
import FacetRules.Proofs.Totals

/-!
# What is left out

Every row, every stored option and every key of a precondition is either used or left out
for one reason.  Which of the two can be read off the finished catalog: off what its keys
name, which attributes are loaded and which categories have a rule.
-/

namespace FacetRules

namespace Precondition

/-- The entries of a precondition that name no key. -/
def rejected : Precondition -> List String
  | always => []
  | triggers _ rejected => rejected

end Precondition

namespace DynamicOptionRow

def uuids (row : DynamicOptionRow) : List String :=
  (Precondition.read row.precondition).uuids

def rejected (row : DynamicOptionRow) : List String :=
  (Precondition.read row.precondition).rejected

/-- The option is not shown whatever is selected. -/
def isConditional (row : DynamicOptionRow) : Bool :=
  Precondition.read row.precondition != .always

end DynamicOptionRow

/-- The reason, where it applies. -/
def SkipReason.when (reason : SkipReason) (applies : Bool) : List SkipReason :=
  if applies then [reason] else []

/-- The record cannot be read, for this reason. -/
def isRefused (reason : SkipReason) (record : Table × List String) : Bool :=
  match Row.read record.1 record.2 with
  | .ok _ => false
  | .error found => found == reason

namespace Catalog

/-!
# What keys name
-/

def attributeNamed? (c : Catalog) (uuid : String) : Option Attribute :=
  (c.registry.lookup uuid).bind fun id => c.attributes[id]?

def optionNamed? (c : Catalog) (uuid : String) : Option AttributeOption :=
  (c.registry.lookup uuid).bind fun id => c.options[id]?

def isOwned (c : Catalog) (o : AttributeOption) : Bool :=
  c.attributes.contains o.attributeId

def namesAttribute (c : Catalog) (uuid : String) : Bool :=
  (c.attributeNamed? uuid).isSome

def namesNothing (c : Catalog) (uuid : String) : Bool :=
  !c.namesAttribute uuid && (c.optionNamed? uuid).isNone

/-- The key is that of an option whose attribute is not loaded. -/
def namesOrphan (c : Catalog) (uuid : String) : Bool :=
  !c.namesAttribute uuid && (c.optionNamed? uuid).any fun o => !c.isOwned o

/-!
# What rows come to
-/

/-- The option of a row that is enabled. -/
def storedOption? (c : Catalog) (row : DynamicOptionRow) : Option AttributeOption :=
  if row.isDisabled then none else c.optionNamed? row.optionUuid

def namesNoOption (c : Catalog) (row : DynamicOptionRow) : Bool :=
  !row.isDisabled && (c.optionNamed? row.optionUuid).isNone

def lacksRule (c : Catalog) (row : DynamicOptionRow) : Bool :=
  (c.storedOption? row).isSome && !c.rules.contains row.categoryId

/-- The option is to be shown whatever is selected, but its category does not have the
attribute. -/
def isOutside (c : Catalog) (row : DynamicOptionRow) : Bool :=
  (c.storedOption? row).any fun o =>
    !row.isConditional && c.rules[row.categoryId]?.any fun r =>
      !r.attributeIds.contains o.attributeId

/-- The option has a precondition, but its attribute is not loaded. -/
def lacksAttribute (c : Catalog) (row : DynamicOptionRow) : Bool :=
  (c.storedOption? row).any fun o =>
    row.isConditional && c.rules.contains row.categoryId && !c.isOwned o

/-- The option has a precondition, the keys of which are looked at. -/
def isGated (c : Catalog) (row : DynamicOptionRow) : Bool :=
  (c.storedOption? row).any fun o =>
    row.isConditional && c.rules.contains row.categoryId && c.isOwned o

/-- The assignment is enabled, but its attribute is not loaded. -/
def namesUnloaded (c : Catalog) (row : AssignmentRow) : Bool :=
  !row.isDisabled && !c.namesAttribute row.attributeUuid

/-- The dynamic options that have the keys of their preconditions looked at. -/
def gatedRows (c : Catalog) (records : List (Table × List String)) : List DynamicOptionRow :=
  (dynamicOptionRows records).filter c.isGated

/-- The number of stored options whose attribute is not loaded. -/
def orphans (c : Catalog) : Nat :=
  c.options.toList.countP fun e => !c.isOwned e.2

/-- How many things have to be left out for a reason: records that cannot be read, and then
rows, options and entries of preconditions that come to nothing. -/
def events (c : Catalog) (records : List (Table × List String)) : SkipReason -> Nat
  | .disabledRow =>
      (assignmentRows records).countP AssignmentRow.isDisabled +
        (dynamicOptionRows records).countP DynamicOptionRow.isDisabled
  | .optionWithoutAttribute =>
      c.orphans + (dynamicOptionRows records).countP c.lacksAttribute +
        total ((c.gatedRows records).map fun row => row.uuids.countP c.namesOrphan)
  | .unknownAttribute => (assignmentRows records).countP c.namesUnloaded
  | .unknownOption => (dynamicOptionRows records).countP c.namesNoOption
  | .unknownCategoryRule => (dynamicOptionRows records).countP c.lacksRule
  | .attributeNotInCategory => (dynamicOptionRows records).countP c.isOutside
  | .malformedPrecondition => total ((c.gatedRows records).map fun row => row.rejected.length)
  | .preconditionIsAttribute =>
      total ((c.gatedRows records).map fun row => row.uuids.countP c.namesAttribute)
  | .unknownPrecondition =>
      total ((c.gatedRows records).map fun row => row.uuids.countP c.namesNothing)
  | reason => records.countP (isRefused reason)

/-!
# The reasons one by one
-/

def assignmentSkips (c : Catalog) (row : AssignmentRow) : List SkipReason :=
  SkipReason.disabledRow.when row.isDisabled ++
    SkipReason.unknownAttribute.when (c.namesUnloaded row)

def keySkips (c : Catalog) (uuid : String) : List SkipReason :=
  SkipReason.optionWithoutAttribute.when (c.namesOrphan uuid) ++
    SkipReason.preconditionIsAttribute.when (c.namesAttribute uuid) ++
    SkipReason.unknownPrecondition.when (c.namesNothing uuid)

def dynamicSkips (c : Catalog) (row : DynamicOptionRow) : List SkipReason :=
  SkipReason.disabledRow.when row.isDisabled ++
    SkipReason.unknownOption.when (c.namesNoOption row) ++
    SkipReason.unknownCategoryRule.when (c.lacksRule row) ++
    SkipReason.attributeNotInCategory.when (c.isOutside row) ++
    SkipReason.optionWithoutAttribute.when (c.lacksAttribute row) ++
    (if c.isGated row then row.rejected.map fun _ => .malformedPrecondition else []) ++
    (if c.isGated row then row.uuids.flatMap c.keySkips else [])

end Catalog

namespace Builder

/-!
# One key
-/

section Key

variable (b : Builder) (uuid : String)

theorem attributeNamed?_finish :
    b.finish.1.attributeNamed? uuid =
      (b.registry.lookupSuffixed uuid none).bind fun id => b.loaded.attributes[id]? :=
  rfl

theorem optionNamed?_finish :
    b.finish.1.optionNamed? uuid =
      (b.registry.lookupSuffixed uuid none).bind fun id => b.loaded.options[id]? :=
  rfl

theorem namesAttribute_finish :
    b.finish.1.namesAttribute uuid =
      (b.registry.lookupSuffixed uuid none).any b.loaded.attributes.contains := by
  rw [Catalog.namesAttribute, attributeNamed?_finish]
  cases b.registry.lookupSuffixed uuid none with
  | none => rfl
  | some id => exact (IdMap.contains_eq_isSome b.loaded.attributes id).symm

theorem keySkips_singleton :
    b.loaded.keySkips none [uuid] = b.finish.1.keySkips uuid := by
  have hregistry : b.loaded.registry = b.registry := rfl
  have hattributes : b.finish.1.attributes = b.loaded.attributes := rfl
  simp only [Loaded.keySkips, Loaded.triggerOf, Catalog.keySkips, SkipReason.when,
    Catalog.namesOrphan, Catalog.namesNothing, Catalog.isOwned, namesAttribute_finish,
    optionNamed?_finish, hregistry, hattributes, List.filterMap_cons, List.filterMap_nil]
  cases b.registry.lookupSuffixed uuid none with
  | none =>
      rfl
  | some id =>
      by_cases hattribute : id ∈ b.loaded.attributes
      · have hcontains : b.loaded.attributes.contains id = true := hattribute
        simp [hcontains]
      · cases hoption : b.loaded.options[id]? with
        | none =>
            simp [hattribute, hoption]
        | some o =>
            by_cases howner : o.attributeId ∈ b.loaded.attributes
            · simp [hattribute, hoption, howner]
            · simp [hattribute, hoption, howner]

theorem keySkips_loaded (uuids : List String) :
    b.loaded.keySkips none uuids = uuids.flatMap b.finish.1.keySkips := by
  induction uuids with
  | nil =>
      rfl
  | cons uuid uuids ih =>
      rw [List.flatMap_cons, <- ih, <- keySkips_singleton, Loaded.keySkips, Loaded.keySkips,
        Loaded.keySkips, <- List.filterMap_append]
      rfl

end Key

theorem length_gatingsBehind (l : Loaded) (suffix : Option String) (o : AttributeOption)
    (uuids : List String) :
    (l.gatingsBehind suffix o uuids).length + (l.keySkips suffix uuids).length =
      uuids.length := by
  rw [Loaded.gatingsBehind, List.length_map, Loaded.keySkips]
  induction uuids with
  | nil =>
      rfl
  | cons uuid uuids ih =>
      rw [List.length_cons, <- ih, List.filterMap_cons, List.filterMap_cons]
      cases l.triggerOf suffix uuid with
      | error reason => exact (Nat.add_assoc _ _ 1).symm
      | ok trigger => exact Nat.succ_add _ _

/-!
# One assignment
-/

theorem assignmentSkip?_staged {b : Builder} {row : AssignmentRow}
    (h : b.registry.lookupSuffixed row.attributeUuid none =
      some (b.registry.numberOf row.attributeUuid)) :
    (assignmentSkip? b.loaded.attributes (row.staged b.registry)).toList =
      b.finish.1.assignmentSkips row := by
  have hloaded : b.loaded.attributes.contains (row.staged b.registry).attributeId =
      b.finish.1.namesAttribute row.attributeUuid := by
    rw [namesAttribute_finish, h]
    rfl
  have hdisabled : (row.staged b.registry).isDisabled = row.isDisabled := rfl
  rw [assignmentSkip?, hloaded, hdisabled, Catalog.assignmentSkips, Catalog.namesUnloaded]
  cases row.isDisabled with
  | true =>
      rfl
  | false =>
      cases b.finish.1.namesAttribute row.attributeUuid with
      | true => rfl
      | false => rfl

/-!
# One dynamic option
-/

theorem attributeIdsOf?_eq (b : Builder) (category : CategoryId) :
    b.attributeIdsOf? category = b.finish.1.rules[category]?.map Rule.attributeIds := by
  rw [getElem?_rules_finish, attributeIdsOf?]
  split
  · rfl
  · rw [Option.map_some, attributeIds_compiledRule]

section Row

variable {b : Builder} {row : DynamicOptionRow}

theorem listingOf_staged
    (h : b.registry.lookupSuffixed row.optionUuid none =
      some (b.registry.numberOf row.optionUuid)) :
    b.loaded.listingOf (b.attributeIdsOf? row.categoryId) (row.staged b.registry) =
      if row.isDisabled then .error .disabledRow
      else
        match b.finish.1.optionNamed? row.optionUuid with
        | none => .error .unknownOption
        | some o =>
            match b.finish.1.rules[row.categoryId]? with
            | none => .error .unknownCategoryRule
            | some r =>
                match Precondition.read row.precondition with
                | .always =>
                    if r.attributeIds.contains o.attributeId then .ok (.always o)
                    else .error .attributeNotInCategory
                | .triggers uuids rejected =>
                    if b.finish.1.isOwned o then .ok (.behind o uuids rejected)
                    else .error .optionWithoutAttribute := by
  have hoption : b.loaded.options[(row.staged b.registry).optionId]? =
      b.finish.1.optionNamed? row.optionUuid := by
    rw [optionNamed?_finish, h]
    rfl
  rw [Loaded.listingOf, hoption, attributeIdsOf?_eq]
  cases b.finish.1.rules[row.categoryId]? with
  | none => rfl
  | some r => rfl

/-- What a row comes to can be read off the finished catalog. -/
theorem judge_staged
    (h : b.registry.lookupSuffixed row.optionUuid none =
      some (b.registry.numberOf row.optionUuid)) :
    b.loaded.skipsBy (b.attributeIdsOf? row.categoryId) (row.staged b.registry) =
        b.finish.1.dynamicSkips row ∧
      (b.loaded.gatingsBy (b.attributeIdsOf? row.categoryId) (row.staged b.registry)).length +
          (if b.finish.1.isGated row then (row.uuids.flatMap b.finish.1.keySkips).length else 0) =
        if b.finish.1.isGated row then row.uuids.length else 0 := by
  have hsuffix : (row.staged b.registry).suffix = none := rfl
  simp only [Loaded.skipsBy, Loaded.gatingsBy, listingOf_staged h, hsuffix, Catalog.dynamicSkips,
    SkipReason.when, Catalog.namesNoOption, Catalog.lacksRule, Catalog.isOutside,
    Catalog.lacksAttribute, Catalog.isGated, Catalog.storedOption?,
    DynamicOptionRow.isConditional, DynamicOptionRow.uuids, DynamicOptionRow.rejected,
    <- keySkips_loaded, IdMap.contains_eq_isSome b.finish.1.rules row.categoryId]
  rcases Bool.eq_false_or_eq_true row.isDisabled with hdisabled | henabled
  · simp [hdisabled]
  · simp only [henabled]
    cases b.finish.1.optionNamed? row.optionUuid with
    | none =>
        simp
    | some o =>
        cases b.finish.1.rules[row.categoryId]? with
        | none =>
            simp
        | some r =>
            cases Precondition.read row.precondition with
            | always =>
                by_cases hmem : o.attributeId ∈ r.attributeIds
                · simp [hmem]
                · simp [hmem]
            | triggers uuids rejected =>
                rcases Bool.eq_false_or_eq_true (b.finish.1.isOwned o) with howned | horphan
                · simp [howned, Precondition.rejected, Precondition.uuids, length_gatingsBehind]
                · simp [horphan]

end Row

end Builder
end FacetRules
