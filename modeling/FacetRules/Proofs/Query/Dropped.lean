import Mathlib.Data.List.Forall2
import FacetRules.Command
import FacetRules.Proofs.Query.SelectionOrder

/-!
# What is dropped from a selection

An answer keeps the pairs of a selection that name an offered attribute and an offered option,
and the command warns of every other one.  The option may be offered under another attribute
than that of the pair.  Each pair is accounted for once, repeated pairs as often as they are
repeated.  A query without a category offers nothing, so all its pairs are dropped.
-/

namespace FacetRules

namespace Visible

/-- The answer offers the attribute of the pair, and lists its option under some attribute. -/
def Names (v : Visible) (p : Pair) : Prop :=
  v.Offers p.attributeId ∧
    exists a, a ∈ v.attributes ∧ exists o, o ∈ a.options ∧ o.id = p.optionId

instance (v : Visible) (p : Pair) : Decidable (v.Names p) :=
  inferInstanceAs (Decidable ((exists a, a ∈ v.attributes ∧ a.id = p.attributeId) ∧
    exists a, a ∈ v.attributes ∧ exists o, o ∈ a.options ∧ o.id = p.optionId))

end Visible

def nothingVisible : Message where
  level := .info
  content := "No visible attributes"

namespace Catalog

/-- The message warns that the pair was dropped: by its numbers, and by its titles where both of
its numbers are loaded. -/
structure WarnsOf (c : Catalog) (p : Pair) (m : Message) : Prop where
  level_eq : m.level = .warning
  content_eq : exists label,
    m.content = "Dropped selection " ++ p.text ++ " (" ++ label ++ "): no longer visible" ∧
      (forall (a : Attribute) (o : AttributeOption), c.attributes[p.attributeId]? = some a ->
        c.options[p.optionId]? = some o -> label = a.title ++ " - " ++ o.title) ∧
      (p.attributeId ∉ c.attributes ∨ p.optionId ∉ c.options -> label = p.text)

/-- The pairs of a selection are kept or warned of, and nothing else is said but that there is
nothing to choose from. -/
structure AccountsFor (c : Catalog) (q : Conditions) (v : Visible) (messages : List Message) :
    Prop where
  kept_eq : v.corrected.pairs = q.pairs.filter fun p => v.Names p
  messages_eq : exists warnings,
    messages = warnings ++ (if v.attributes = [] then [nothingVisible] else []) ∧
      List.Forall₂ c.WarnsOf (q.pairs.filter fun p => ¬ v.Names p) warnings
  length_eq : (messages.filter fun m => m.level = .warning).length + v.corrected.pairs.length =
    q.pairs.length
  nothing_iff : nothingVisible ∈ messages <-> v.attributes = []
  echoed : forall category, q.categoryIds = [category] ->
    v.corrected.categoryIds = [category] ∧
      v.corrected.pageSize = effectivePageSize q.pageSize ∧
      v.corrected.offset = q.offset ∧ v.corrected.filters = q.filters

/-!
# Pairs that are kept
-/

theorem isOffered_eq_names (v : Visible) (p : Pair) :
    isOffered v.attributes p = decide (v.Names p) := by
  rw [Bool.eq_iff_iff, decide_eq_true_iff, isOffered, Bool.and_eq_true]
  simp only [List.any_eq_true, beq_iff_eq]
  rfl

section Selection

variable {c : Catalog} {q : Conditions} {v : Visible}

theorem Closed.pairs_corrected (h : c.Closed) (hv : c.find q = .ok v) :
    v.corrected.pairs = q.pairs.filter fun p => v.Names p := by
  simp only [<- isOffered_eq_names]
  rcases h.eq_of_find hv with ⟨_hids, rfl⟩ | ⟨category, r, _hids, _hr, rfl⟩
  · have hnone : q.pairs.filter (isOffered ({} : Visible).attributes) = [] :=
      List.filter_eq_nil_iff.mpr fun _p _hp => Bool.false_ne_true
    exact hnone.symm
  · rfl

/-- A pair is not given back exactly when it names nothing that is offered. -/
theorem Closed.dropped_eq (h : c.Closed) (hv : c.find q = .ok v) :
    (q.pairs.filter fun p => !v.corrected.pairs.contains p) =
      q.pairs.filter fun p => ¬ v.Names p := by
  apply List.filter_congr
  intro p hp
  have hkept : p ∈ v.corrected.pairs <-> v.Names p := by
    rw [h.pairs_corrected hv, List.mem_filter, decide_eq_true_iff]
    exact and_iff_right hp
  rw [Bool.eq_iff_iff, Bool.not_eq_true', <- Bool.not_eq_true, List.contains_iff_mem, hkept,
    decide_eq_true_iff]

end Selection

/-!
# Warnings
-/

theorem pairLabel_of_some {c : Catalog} {p : Pair} {a : Attribute} {o : AttributeOption}
    (ha : c.attributes[p.attributeId]? = some a) (ho : c.options[p.optionId]? = some o) :
    c.pairLabel p.attributeId p.optionId = .ok (a.title ++ " - " ++ o.title) := by
  rw [pairLabel, attributeOf_of_some ha, ok_bind, optionOf_of_some ho]
  rfl

theorem mem_of_pairLabel {c : Catalog} {p : Pair} {label : String}
    (h : c.pairLabel p.attributeId p.optionId = .ok label) :
    p.attributeId ∈ c.attributes ∧ p.optionId ∈ c.options := by
  rcases bind_eq_ok_iff.mp h with ⟨a, ha, hrest⟩
  rcases bind_eq_ok_iff.mp hrest with ⟨o, ho, _hlabel⟩
  simp only [Std.ExtTreeMap.mem_iff_isSome_getElem?]
  unfold attributeOf at ha
  unfold optionOf at ho
  constructor
  · split at ha
    · rename_i hsome
      rw [hsome]
      rfl
    · cases ha
  · split at ho
    · rename_i hsome
      rw [hsome]
      rfl
    · cases ho

theorem warnsOf_dropWarning (c : Catalog) (p : Pair) : c.WarnsOf p (c.dropWarning p) where
  level_eq := rfl
  content_eq := by
    refine ⟨c.dropLabel p, rfl, ?_, ?_⟩
    · intro a o ha ho
      rw [dropLabel, pairLabel_of_some ha ho]
    · intro hmissing
      unfold dropLabel
      split
      · rename_i label hlabel
        rcases mem_of_pairLabel hlabel with ⟨ha, ho⟩
        rcases hmissing with hnot | hnot
        · exact absurd ha hnot
        · exact absurd ho hnot
      · rfl

/-- The command warns of the pairs that were dropped, in their order. -/
theorem findCommand_of_find {c : Catalog} {q : Conditions} {v : Visible}
    (hv : c.find q = .ok v) :
    c.findCommand q = .ok
      { visible := some v
        messages := (q.pairs.filter fun p => !v.corrected.pairs.contains p).map c.dropWarning ++
          if v.attributes.isEmpty then [nothingVisible] else [] } := by
  rw [findCommand, hv]
  rfl

theorem exists_find_of_findCommand {c : Catalog} {q : Conditions} {a : Answer}
    (h : c.findCommand q = .ok a) : exists v, c.find q = .ok v ∧ a.visible = some v := by
  rcases bind_eq_ok_iff.mp h with ⟨v, hv, ha⟩
  cases ha
  exact ⟨v, hv, rfl⟩

theorem exists_findCommand_of_find {c : Catalog} {q : Conditions} {v : Visible}
    (h : c.find q = .ok v) : exists a, c.findCommand q = .ok a ∧ a.visible = some v :=
  ⟨_, findCommand_of_find h, rfl⟩

/-- Of warnings and the one message that is none, the warnings are picked out. -/
theorem filter_warnings {warnings : List Message} {nothing : Bool}
    (h : forall m, m ∈ warnings -> m.level = .warning) :
    ((warnings ++ if nothing then [nothingVisible] else []).filter
      fun m => m.level = .warning) = warnings := by
  have hall : (warnings.filter fun m => m.level = .warning) = warnings :=
    List.filter_eq_self.mpr fun m hm => decide_eq_true (h m hm)
  rw [List.filter_append, hall]
  cases nothing with
  | true => exact List.append_nil warnings
  | false => exact List.append_nil warnings

/-!
# Accounts
-/

theorem Closed.accountsFor {c : Catalog} (h : c.Closed) {q : Conditions} {v : Visible}
    (hv : c.find q = .ok v) :
    c.AccountsFor q v ((q.pairs.filter fun p => !v.corrected.pairs.contains p).map c.dropWarning ++
      if v.attributes.isEmpty then [nothingVisible] else []) := by
  rw [h.dropped_eq hv]
  have hwarnings : forall m, m ∈ (q.pairs.filter fun p => ¬ v.Names p).map c.dropWarning ->
      m.level = .warning := by
    intro m hm
    rcases List.mem_map.mp hm with ⟨p, _hp, rfl⟩
    rfl
  constructor
  · exact h.pairs_corrected hv
  · refine ⟨(q.pairs.filter fun p => ¬ v.Names p).map c.dropWarning, ?_, ?_⟩
    · simp only [List.isEmpty_iff]
    · rw [List.forall₂_map_right_iff, List.forall₂_same]
      intro p _hp
      exact c.warnsOf_dropWarning p
  · have hlength := List.length_eq_length_filter_add (l := q.pairs) fun p => v.Names p
    rw [filter_warnings hwarnings, List.length_map, h.pairs_corrected hv, hlength, Nat.add_comm]
    simp only [decide_not]
  · constructor
    · intro hmem
      rcases List.mem_append.mp hmem with hwarned | hnothing
      · exact absurd (hwarnings _ hwarned) (by decide)
      · split at hnothing
        · rename_i hempty
          exact List.isEmpty_iff.mp hempty
        · cases hnothing
    · intro hnil
      simp [hnil]
  · intro category hids
    rcases h.eq_of_find hv with ⟨hnone, _hempty⟩ | ⟨named, r, hnamed, _hr, rfl⟩
    · rw [hids] at hnone
      cases hnone
    · rw [hids] at hnamed
      cases hnamed
      exact ⟨rfl, rfl, rfl, rfl⟩

end Catalog
end FacetRules
