import FacetRules.Proofs.Compile.DynamicOptions
import FacetRules.Proofs.Renumbering.Basic

/-!
# Judging a dynamic option under other numbers

A dynamic option is judged by what its keys lead to.  Where they lead to the same things
under other numbers, the row says the same under these numbers, and the same of it is
left out.
-/

namespace FacetRules
namespace Builder

namespace Listing

def renumber (f : Id -> Id) : Listing -> Listing
  | always o => .always (o.renumber f)
  | behind o uuids rejected => .behind (o.renumber f) uuids rejected

end Listing

namespace Loaded

/-- What is loaded under a known number is loaded in the second tables under its other
number, and keys lead to corresponding numbers.  A key that the first tables do not know
leads nowhere in the second ones. -/
structure Renumbers (f : Id -> Id) (known : Id -> Prop) (suffix other : Option String)
    (l m : Loaded) : Prop where
  contains_eq : forall id, known id -> m.attributes.contains (f id) = l.attributes.contains id
  option_eq : forall id, known id ->
    m.options[f id]? = l.options[id]?.map (AttributeOption.renumber f)
  known_owner : forall (id : Id) (o : AttributeOption),
    l.options[id]? = some o -> known o.attributeId
  lookup_of_some : forall (uuid : String) (id : Id),
    l.registry.lookupSuffixed uuid suffix = some id ->
      known id ∧ m.registry.lookupSuffixed uuid other = some (f id)
  lookup_of_none : forall (uuid : String) (id : Id),
    l.registry.lookupSuffixed uuid suffix = none ->
      m.registry.lookupSuffixed uuid other = some id ->
        m.attributes.contains id = false ∧ m.options[id]? = none

/-- The lists agree on which known numbers are in them. -/
def SameMembers (f : Id -> Id) (known : Id -> Prop) (ids others : List Id) : Prop :=
  forall id, known id -> others.contains (f id) = ids.contains id

section Renumbers

variable {f : Id -> Id} {known : Id -> Prop} {suffix other : Option String} {l m : Loaded}

/-!
# One key
-/

theorem Renumbers.triggerOf_eq (h : l.Renumbers f known suffix other m) (uuid : String) :
    m.triggerOf other uuid = (l.triggerOf suffix uuid).map f := by
  unfold triggerOf
  cases hid : l.registry.lookupSuffixed uuid suffix with
  | none =>
      cases hother : m.registry.lookupSuffixed uuid other with
      | none =>
          rfl
      | some id =>
          rcases h.lookup_of_none uuid id hid hother with ⟨hattribute, hoption⟩
          simp only [hattribute, hoption]
          rfl
  | some id =>
      rcases h.lookup_of_some uuid id hid with ⟨hknown, hother⟩
      simp only [hother, h.contains_eq id hknown, h.option_eq id hknown]
      cases l.attributes.contains id with
      | true =>
          rfl
      | false =>
          cases hstored : l.options[id]? with
          | none =>
              rfl
          | some o =>
              have howner := h.contains_eq o.attributeId (h.known_owner id o hstored)
              simp only [Option.map_some, AttributeOption.renumber, howner]
              cases l.attributes.contains o.attributeId with
              | true => rfl
              | false => rfl

theorem Renumbers.gatingsBehind_eq (h : l.Renumbers f known suffix other m)
    (o : AttributeOption) (uuids : List String) :
    m.gatingsBehind other (o.renumber f) uuids =
      (l.gatingsBehind suffix o uuids).map (Gating.renumber f) := by
  have htriggers : (uuids.filterMap fun uuid => (m.triggerOf other uuid).toOption) =
      (uuids.filterMap fun uuid => (l.triggerOf suffix uuid).toOption).map f := by
    rw [List.map_filterMap]
    congr 1
    funext uuid
    rw [h.triggerOf_eq]
    cases l.triggerOf suffix uuid with
    | error reason => rfl
    | ok trigger => rfl
  rw [gatingsBehind, gatingsBehind, htriggers, List.map_map, List.map_map]
  rfl

theorem Renumbers.keySkips_eq (h : l.Renumbers f known suffix other m)
    (uuids : List String) : m.keySkips other uuids = l.keySkips suffix uuids := by
  rw [keySkips, keySkips]
  congr 1
  funext uuid
  rw [h.triggerOf_eq]
  cases l.triggerOf suffix uuid with
  | error reason => rfl
  | ok trigger => rfl

/-!
# One row
-/

section Row

variable {ids? others? : Option (List Id)} {row : DynamicOption}

theorem Renumbers.listingOf_eq (h : l.Renumbers f known suffix other m)
    (hids : Option.Rel (SameMembers f known) ids? others?) (hrow : known row.optionId) :
    m.listingOf others? (row.renumber f other) =
      (l.listingOf ids? row).map (Listing.renumber f) := by
  rcases row with ⟨category, optionId, precondition, isDisabled, read⟩
  have hoption : m.options[f optionId]? = _ := h.option_eq optionId hrow
  cases isDisabled with
  | true =>
      rfl
  | false =>
      simp only [listingOf, DynamicOption.renumber, Bool.false_eq_true, if_false]
      rw [hoption]
      cases hstored : l.options[optionId]? with
      | none =>
          rfl
      | some o =>
          have howner : known o.attributeId := h.known_owner optionId o hstored
          cases hids with
          | none =>
              rfl
          | some hmembers =>
              simp only [Option.map_some, AttributeOption.renumber]
              cases Precondition.read precondition with
              | always =>
                  rename_i ids others
                  simp only [hmembers o.attributeId howner]
                  cases ids.contains o.attributeId with
                  | true => rfl
                  | false => rfl
              | triggers uuids rejected =>
                  simp only [h.contains_eq o.attributeId howner]
                  cases l.attributes.contains o.attributeId with
                  | true => rfl
                  | false => rfl

theorem Renumbers.shownBy_eq (h : l.Renumbers f known suffix other m)
    (hids : Option.Rel (SameMembers f known) ids? others?) (hrow : known row.optionId) :
    m.shownBy others? (row.renumber f other) = (l.shownBy ids? row).map f := by
  rw [shownBy, shownBy, h.listingOf_eq hids hrow]
  cases l.listingOf ids? row with
  | error reason =>
      rfl
  | ok listing =>
      cases listing with
      | always o => rfl
      | behind o uuids rejected => rfl

theorem Renumbers.gatingsBy_eq (h : l.Renumbers f known suffix other m)
    (hids : Option.Rel (SameMembers f known) ids? others?) (hrow : known row.optionId)
    (hsuffix : row.suffix = suffix) :
    m.gatingsBy others? (row.renumber f other) =
      (l.gatingsBy ids? row).map (Gating.renumber f) := by
  rw [gatingsBy, gatingsBy, h.listingOf_eq hids hrow, hsuffix]
  cases l.listingOf ids? row with
  | error reason =>
      rfl
  | ok listing =>
      cases listing with
      | always o =>
          rfl
      | behind o uuids rejected =>
          exact h.gatingsBehind_eq o uuids

theorem Renumbers.skipsBy_eq (h : l.Renumbers f known suffix other m)
    (hids : Option.Rel (SameMembers f known) ids? others?) (hrow : known row.optionId)
    (hsuffix : row.suffix = suffix) :
    m.skipsBy others? (row.renumber f other) = l.skipsBy ids? row := by
  rw [skipsBy, skipsBy, h.listingOf_eq hids hrow, hsuffix]
  cases l.listingOf ids? row with
  | error reason =>
      rfl
  | ok listing =>
      cases listing with
      | always o =>
          rfl
      | behind o uuids rejected =>
          change _ ++ m.keySkips other uuids = _
          rw [h.keySkips_eq]

end Row

end Renumbers

end Loaded
end Builder
end FacetRules
