import FacetRules.Builder.Finish
import FacetRules.Proofs.Maps
import FacetRules.Proofs.Report

/-!
# Linking options to their attributes

Every attribute gets, in table order, the options that name it.  An option whose
attribute is not loaded is left out and counted, and the attributes are otherwise as
they were.
-/

namespace FacetRules

namespace Attribute

def addOptions (a : Attribute) (options : List Id) : Attribute :=
  { a with optionIds := a.optionIds ++ options }

@[simp]
theorem addOptions_nil (a : Attribute) : a.addOptions [] = a := by
  simp [addOptions]

theorem addOptions_addOption (a : Attribute) (option : Id) (options : List Id) :
    (a.addOption option).addOptions options = a.addOptions (option :: options) := by
  simp [addOptions, addOption]

end Attribute

namespace Builder

/-- The options in a list that name an attribute. -/
def linkedTo (attributeId : Id) (os : List AttributeOption) : List Id :=
  (os.filter (·.attributeId == attributeId)).map AttributeOption.id

def linkSkips (attributes : IdMap Attribute) (os : List AttributeOption) : List SkipReason :=
  (os.filter fun o => !attributes.contains o.attributeId).map fun _ =>
    .optionWithoutAttribute

theorem linkedTo_cons (attributeId : Id) (o : AttributeOption) (os : List AttributeOption) :
    linkedTo attributeId (o :: os) =
      if o.attributeId = attributeId then o.id :: linkedTo attributeId os
      else linkedTo attributeId os := by
  by_cases h : o.attributeId = attributeId
  · simp [linkedTo, h]
  · simp [linkedTo, h]

theorem mem_linkedTo {attributeId id : Id} {os : List AttributeOption} :
    id ∈ linkedTo attributeId os <->
      exists o, o ∈ os ∧ o.attributeId = attributeId ∧ o.id = id := by
  simp [linkedTo, and_assoc]

/-!
# One option
-/

section Step

variable {attributes : IdMap Attribute} {o : AttributeOption}

theorem linkOption_of_some {a : Attribute} (ha : attributes[o.attributeId]? = some a)
    (report : Report) :
    linkOption (attributes, report) o =
      (attributes.insert o.attributeId (a.addOption o.id), report) := by
  simp only [linkOption, ha]

theorem linkOption_of_none (ha : attributes[o.attributeId]? = none) (report : Report) :
    linkOption (attributes, report) o =
      (attributes, report.skip .optionWithoutAttribute) := by
  simp only [linkOption, ha]

end Step

theorem linkSkips_congr {attributes loaded : IdMap Attribute} (os : List AttributeOption)
    (h : forall id, loaded.contains id = attributes.contains id) :
    linkSkips loaded os = linkSkips attributes os := by
  simp only [linkSkips, h]

/-- Storing another form of a loaded attribute does not change what is left out. -/
theorem linkSkips_insert {attributes : IdMap Attribute} {id : Id} {a : Attribute}
    (ha : attributes[id]? = some a) (b : Attribute) (os : List AttributeOption) :
    linkSkips (attributes.insert id b) os = linkSkips attributes os := by
  apply linkSkips_congr
  intro other
  rw [IdMap.contains_eq_isSome, IdMap.contains_eq_isSome, IdMap.getElem?_insert]
  by_cases h : id = other
  · subst h
    rw [if_pos rfl, ha]
    rfl
  · rw [if_neg h]

/-!
# All options
-/

theorem getElem?_foldl_linkOption (attributes : IdMap Attribute) (report : Report)
    (os : List AttributeOption) (id : Id) :
    (os.foldl linkOption (attributes, report)).1[id]? =
      attributes[id]?.map fun a => a.addOptions (linkedTo id os) := by
  induction os generalizing attributes report with
  | nil =>
      simp [linkedTo]
  | cons o os ih =>
      rw [List.foldl_cons]
      cases ha : attributes[o.attributeId]? with
      | some a =>
          rw [linkOption_of_some ha, ih, IdMap.getElem?_insert, linkedTo_cons]
          by_cases h : o.attributeId = id
          · subst h
            rw [if_pos rfl, if_pos rfl, ha, Option.map_some, Option.map_some,
              Attribute.addOptions_addOption]
          · rw [if_neg h, if_neg h]
      | none =>
          rw [linkOption_of_none ha, ih, linkedTo_cons]
          by_cases h : o.attributeId = id
          · subst h
            rw [ha]
            rfl
          · rw [if_neg h]

theorem snd_foldl_linkOption (attributes : IdMap Attribute) (report : Report)
    (os : List AttributeOption) :
    (os.foldl linkOption (attributes, report)).2 =
      report.skipAll (linkSkips attributes os) := by
  induction os generalizing attributes report with
  | nil =>
      rfl
  | cons o os ih =>
      rw [List.foldl_cons]
      cases ha : attributes[o.attributeId]? with
      | some a =>
          have hloaded : attributes.contains o.attributeId = true := by
            rw [IdMap.contains_eq_isSome, ha]
            rfl
          have hskip : linkSkips attributes (o :: os) = linkSkips attributes os := by
            simp only [linkSkips, List.filter_cons, hloaded]
            rfl
          rw [linkOption_of_some ha, ih, linkSkips_insert ha, hskip]
      | none =>
          have hloaded : attributes.contains o.attributeId = false := by
            rw [IdMap.contains_eq_isSome, ha]
            rfl
          have hskip : linkSkips attributes (o :: os) =
              .optionWithoutAttribute :: linkSkips attributes os := by
            simp only [linkSkips, List.filter_cons, hloaded]
            rfl
          rw [linkOption_of_none ha, ih, hskip, Report.skipAll_cons]

end Builder
end FacetRules
