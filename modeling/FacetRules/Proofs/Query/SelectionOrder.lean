import FacetRules.Proofs.Catalog.Totality
import FacetRules.Proofs.Query.Smallest

/-!
# The order of a selection

The order in which options are selected decides between groups that are equally small, and the
order in which attributes come into view.  It decides nothing else: in whatever order the same
pairs are given, the same attributes come into view, each with the same number of options, and
where there is no tie each with the same options.
-/

namespace FacetRules

namespace Rule

/-- No group of the same attribute under the triggers has fewer options. -/
def Smallest (r : Rule) (triggers : List Id) (g : Group) : Prop :=
  forall (t : Id) (h : Group), t ∈ triggers -> r.HasGroup t h ->
    h.attributeId = g.attributeId -> g.optionIds.length ≤ h.optionIds.length

/-- No two of the triggers have smallest groups of one attribute that list different options. -/
def Untied (r : Rule) (triggers : List Id) : Prop :=
  forall (s t : Id) (g h : Group), s ∈ triggers -> t ∈ triggers -> s ≠ t ->
    r.HasGroup s g -> r.HasGroup t h -> g.attributeId = h.attributeId ->
    r.Smallest triggers g -> r.Smallest triggers h -> g.optionIds = h.optionIds

theorem smallest_perm {r : Rule} {triggers reordered : List Id} (h : triggers.Perm reordered)
    {g : Group} : r.Smallest triggers g <-> r.Smallest reordered g := by
  simp only [Smallest, h.mem_iff]

theorem Grouped.eq_of_attributeId {r : Rule} (hr : r.Grouped) {t : Id} {g h : Group}
    (hg : r.HasGroup t g) (hh : r.HasGroup t h) (hid : g.attributeId = h.attributeId) : g = h := by
  rcases hg with ⟨groups, hgroups, hg⟩
  rcases hh with ⟨groups', hgroups', hh⟩
  rw [hgroups] at hgroups'
  cases hgroups'
  exact List.inj_on_of_nodup_map (hr.nodup t groups hgroups) hg hh hid

theorem Untied.eq_of_smallest {r : Rule} {triggers : List Id} (h : r.Untied triggers)
    (hr : r.Grouped) {s t : Id} {g k : Group} (hs : s ∈ triggers) (ht : t ∈ triggers)
    (hg : r.HasGroup s g) (hk : r.HasGroup t k) (hid : g.attributeId = k.attributeId)
    (hgleast : r.Smallest triggers g) (hkleast : r.Smallest triggers k) : g = k := by
  by_cases hst : s = t
  · rw [hst] at hg
    exact hr.eq_of_attributeId hg hk hid
  · exact (Group.mk.injEq ..).mpr ⟨hid, h s t g k hs ht hst hg hk hid hgleast hkleast⟩

end Rule

namespace Catalog

/-!
# Groups in another order
-/

theorem eraseDups_perm {xs ys : List Id} (h : xs.Perm ys) : xs.eraseDups.Perm ys.eraseDups := by
  apply (List.perm_ext_iff_of_nodup (nodup_eraseDups xs) (nodup_eraseDups ys)).mpr
  intro x
  rw [List.mem_eraseDups, List.mem_eraseDups, h.mem_iff]

section Groups

variable {r : Rule} {selected reordered : List Id}

theorem exists_trigger_of_mem_unlockedGroups {g : Group} (hg : g ∈ unlockedGroups r selected) :
    (exists t, t ∈ selected ∧ r.HasGroup t g) ∧ r.Smallest selected g := by
  rcases prefers_of_mem_unlockedGroups hg with
    ⟨before, t, after, hselected, hgroup, hleast, _hfirst⟩
  exact ⟨⟨t, by rw [hselected]; simp, hgroup⟩, hleast⟩

theorem attributeIds_unlockedGroups_perm (r : Rule) (h : selected.Perm reordered) :
    ((unlockedGroups r selected).map Group.attributeId).Perm
      ((unlockedGroups r reordered).map Group.attributeId) := by
  rw [attributeIds_unlockedGroups, attributeIds_unlockedGroups]
  exact eraseDups_perm ((h.flatMap_right _).map Group.attributeId)

/-- What counts of an attribute has as many options in every order. -/
theorem length_eq_of_mem_unlockedGroups (h : selected.Perm reordered) {g k : Group}
    (hg : g ∈ unlockedGroups r selected) (hk : k ∈ unlockedGroups r reordered)
    (hid : g.attributeId = k.attributeId) : g.optionIds.length = k.optionIds.length := by
  rcases exists_trigger_of_mem_unlockedGroups hg with ⟨⟨s, hs, hgroup⟩, hgleast⟩
  rcases exists_trigger_of_mem_unlockedGroups hk with ⟨⟨t, ht, hkroup⟩, hkleast⟩
  apply Nat.le_antisymm
  · exact hgleast t k (h.mem_iff.mpr ht) hkroup hid.symm
  · exact hkleast s g (h.mem_iff.mp hs) hgroup hid

/-- Without a tie it is the same group. -/
theorem eq_of_mem_unlockedGroups (h : selected.Perm reordered) (hr : r.Grouped)
    (huntied : r.Untied selected) {g k : Group} (hg : g ∈ unlockedGroups r selected)
    (hk : k ∈ unlockedGroups r reordered) (hid : g.attributeId = k.attributeId) : g = k := by
  rcases exists_trigger_of_mem_unlockedGroups hg with ⟨⟨s, hs, hgroup⟩, hgleast⟩
  rcases exists_trigger_of_mem_unlockedGroups hk with ⟨⟨t, ht, hkroup⟩, hkleast⟩
  exact huntied.eq_of_smallest hr hs (h.mem_iff.mpr ht) hgroup hkroup hid hgleast
    ((Rule.smallest_perm h).mpr hkleast)

end Groups

/-!
# Entries in another order
-/

/-- The entries are for the same attributes, one for each, and list equally many options. -/
structure SameUpToTies (us ws : List VisibleAttribute) : Prop where
  nodup : (us.map VisibleAttribute.id).Nodup
  ids_perm : (us.map VisibleAttribute.id).Perm (ws.map VisibleAttribute.id)
  length_eq : forall u w, u ∈ us -> w ∈ ws -> u.id = w.id ->
    u.options.length = w.options.length

theorem SameUpToTies.perm {us ws : List VisibleAttribute} (h : SameUpToTies us ws)
    (heq : forall u w, u ∈ us -> w ∈ ws -> u.id = w.id -> u = w) : us.Perm ws := by
  have hws : (ws.map VisibleAttribute.id).Nodup := h.ids_perm.nodup_iff.mp h.nodup
  apply (List.perm_ext_iff_of_nodup h.nodup.of_map hws.of_map).mpr
  intro v
  constructor
  · intro hv
    rcases List.mem_map.mp (h.ids_perm.mem_iff.mp (List.mem_map.mpr ⟨v, hv, rfl⟩)) with
      ⟨w, hw, hid⟩
    rw [heq v w hv hw hid.symm]
    exact hw
  · intro hv
    rcases List.mem_map.mp (h.ids_perm.mem_iff.mpr (List.mem_map.mpr ⟨v, hv, rfl⟩)) with
      ⟨u, hu, hid⟩
    rw [<- heq u v hu hv hid]
    exact hu

section Reordered

variable {c : Catalog} {r : Rule} {q : Conditions} {pairs : List Pair}

theorem selectedTriggers_perm (r : Rule) (hpairs : q.pairs.Perm pairs) :
    (r.selectedTriggers q).Perm (r.selectedTriggers { q with pairs }) :=
  (eraseDups_perm (hpairs.map Pair.optionId)).filter _

theorem Closed.exists_selected_of_entry (h : c.Closed) (hr : c.ClosedRule r)
    {v : VisibleAttribute} (hv : v ∈ c.unlockedPart r q) :
    exists g, g ∈ unlockedGroups r (r.selectedTriggers q) ∧ c.unlocked? g = some v ∧
      v.id = g.attributeId ∧ v.options.length = g.optionIds.length := by
  rcases h.exists_group_of_entry hr hv with ⟨g, hg, hentry, hid, hoptions⟩
  rw [unlockedGroups_selectedTriggers] at hg
  exact ⟨g, hg, hentry, hid, by rw [<- hoptions, List.length_map]⟩

theorem Closed.sameUpToTies (h : c.Closed) (hr : c.ClosedRule r) (hpairs : q.pairs.Perm pairs) :
    SameUpToTies (c.unlockedPart r q) (c.unlockedPart r { q with pairs }) where
  nodup := h.nodup_ids_unlockedPart hr q
  ids_perm := by
    rw [h.ids_unlockedPart_groups hr, h.ids_unlockedPart_groups hr]
    exact attributeIds_unlockedGroups_perm r (eraseDups_perm (hpairs.map Pair.optionId))
  length_eq := by
    intro u w hu hw hid
    rcases h.exists_selected_of_entry hr hu with ⟨g, hg, _hentry, hgid, hglength⟩
    rcases h.exists_selected_of_entry hr hw with ⟨k, hk, _hentry, hkid, hklength⟩
    rw [hglength, hklength]
    apply length_eq_of_mem_unlockedGroups (selectedTriggers_perm r hpairs) hg hk
    rw [<- hgid, <- hkid, hid]

theorem Closed.unlockedPart_perm (h : c.Closed) (hr : c.ClosedRule r) (hgrouped : r.Grouped)
    (hpairs : q.pairs.Perm pairs) (huntied : r.Untied (r.selectedTriggers q)) :
    (c.unlockedPart r q).Perm (c.unlockedPart r { q with pairs }) := by
  apply (h.sameUpToTies hr hpairs).perm
  intro u w hu hw hid
  rcases h.exists_selected_of_entry hr hu with ⟨g, hg, hgentry, hgid, _hlength⟩
  rcases h.exists_selected_of_entry hr hw with ⟨k, hk, hkentry, hkid, _hlength⟩
  have hsame : g = k := by
    apply eq_of_mem_unlockedGroups (selectedTriggers_perm r hpairs) hgrouped huntied hg hk
    rw [<- hgid, <- hkid, hid]
  rw [hsame, hkentry] at hgentry
  exact (Option.some.inj hgentry).symm

theorem isOffered_perm {as bs : List VisibleAttribute} (h : as.Perm bs) :
    isOffered as = isOffered bs := by
  funext p
  rw [isOffered, isOffered, h.any_eq, h.any_eq]

theorem find_of_nil (hq : q.categoryIds = []) : c.find q = .ok {} := by
  rw [find, hq]

theorem correction_perm (category : CategoryId) (hpairs : q.pairs.Perm pairs)
    (hunlocked : (c.unlockedPart r q).Perm (c.unlockedPart r { q with pairs })) :
    (c.answer r category q).corrected.pairs.Perm
      (c.answer r category { q with pairs }).corrected.pairs := by
  have hoffered := isOffered_perm (hunlocked.append_left (c.alwaysPart r q))
  show (q.pairs.filter (isOffered (c.alwaysPart r q ++ _))).Perm
    (pairs.filter (isOffered (c.alwaysPart r q ++ _)))
  rw [hoffered]
  exact hpairs.filter _

end Reordered

/-- The order in which pairs are selected only breaks ties.  In two orders a query fails with the
same error or is answered with the same pages of what is always visible; the same attributes come
into view, with equally many options; and where no two selected triggers are tied, the entries
and the pairs given back are the same in another order. -/
theorem Compiled.find_reordered {c : Catalog} (h : c.Compiled) {q : Conditions}
    {pairs : List Pair} (hpairs : q.pairs.Perm pairs) :
    (exists e, c.find q = .error e ∧ c.find { q with pairs } = .error e) ∨
      exists v w, c.find q = .ok v ∧ c.find { q with pairs } = .ok w ∧
        w.pages = v.pages ∧ w.pageSize = v.pageSize ∧
        exists always us ws, v.attributes = always ++ us ∧ w.attributes = always ++ ws ∧
          SameUpToTies us ws ∧
          forall (category : CategoryId) (r : Rule), q.categoryIds = [category] ->
            c.rules[category]? = some r ->
            always =
                c.firstPages q.filters (effectivePageSize q.pageSize).toNat r.alwaysVisibleIds ∧
              (r.Untied (r.selectedTriggers q) ->
                us.Perm ws ∧ v.corrected.pairs.Perm w.corrected.pairs) := by
  cases hv : c.find q with
  | error e =>
      refine Or.inl ⟨e, rfl, ?_⟩
      exact (h.closed.find_eq_error_iff { q with pairs } e).mpr
        ((h.closed.find_eq_error_iff q e).mp hv)
  | ok v =>
      refine Or.inr ⟨v, ?_⟩
      rcases h.closed.eq_of_find hv with ⟨hids, rfl⟩ | ⟨category, r, hids, hr, rfl⟩
      · refine ⟨{}, rfl, find_of_nil hids, rfl, rfl, [], [], [], rfl, rfl, ?_, ?_⟩
        · exact ⟨List.nodup_nil, List.Perm.refl _, fun u _w hu => nomatch hu⟩
        · intro category r hcategory
          rw [hids] at hcategory
          cases hcategory
      · have hrule := h.closed.rule category r hr
        refine ⟨c.answer r category { q with pairs }, rfl, h.closed.find_eq hr hids, rfl, rfl,
          c.alwaysPart r q, c.unlockedPart r q, c.unlockedPart r { q with pairs }, rfl, rfl,
          h.closed.sameUpToTies hrule hpairs, ?_⟩
        intro named s hnamed hs
        rw [hids] at hnamed
        cases hnamed
        rw [hr] at hs
        cases hs
        refine ⟨alwaysPart_eq_firstPages c r q, ?_⟩
        intro huntied
        have hunlocked := h.closed.unlockedPart_perm hrule (h.grouped hr) hpairs huntied
        exact ⟨hunlocked, correction_perm category hpairs hunlocked⟩

/-- The sizes of boots are fewer than those of shoes, whichever of the two is selected first. -/
theorem find_reordered_boots :
    exists v w, boots.find { categoryIds := [10], pairs := [⟨1, 3⟩, ⟨1, 4⟩] } = .ok v ∧
      boots.find { categoryIds := [10], pairs := [⟨1, 4⟩, ⟨1, 3⟩] } = .ok w ∧
      v.numbers = [(1, [3, 4]), (2, [5])] ∧
      v.attributes.Perm w.attributes ∧ v.corrected.pairs.Perm w.corrected.pairs := by
  have hcompiled : boots.Compiled := Compiled.finish ∅ _
  let q : Conditions := { categoryIds := [10], pairs := [⟨1, 3⟩, ⟨1, 4⟩] }
  rcases rules_boots with ⟨r, hr, hthree, hfour⟩
  have htriggers : r.selectedTriggers q = [3, 4] := by
    have hselected : q.selectedOptions = [3, 4] := by
      rfl
    have hthreeIn : r.triggers.contains (3 : Id) = true := by
      rw [IdMap.contains_eq_isSome, hthree]
      rfl
    have hfourIn : r.triggers.contains (4 : Id) = true := by
      rw [IdMap.contains_eq_isSome, hfour]
      rfl
    simp [Rule.selectedTriggers, hselected, hthreeIn, hfourIn]
  have hshoes : forall g, r.HasGroup 3 g -> g = { attributeId := 2, optionIds := [5, 6] } := by
    intro g hgroup
    rcases hgroup with ⟨groups, hgroups, hg⟩
    rw [hthree] at hgroups
    cases hgroups
    exact List.mem_singleton.mp hg
  -- The sizes of shoes are not a smallest group, so there is nothing to be tied with.
  have hlarger : forall g, r.HasGroup 3 g -> ¬ r.Smallest [3, 4] g := by
    intro g hgroup hleast
    rw [hshoes g hgroup] at hleast
    have hle := hleast 4 { attributeId := 2, optionIds := [5] } (by simp) ⟨_, hfour, by simp⟩ rfl
    exact absurd hle (by decide)
  have huntied : r.Untied (r.selectedTriggers q) := by
    rw [htriggers]
    intro s t g h hs ht hne hg hh _hid hgleast hhleast
    rcases List.mem_cons.mp hs with rfl | hs
    · exact absurd hgleast (hlarger g hg)
    · rcases List.mem_cons.mp ht with rfl | ht
      · exact absurd hhleast (hlarger h hh)
      · exact absurd ((List.mem_singleton.mp hs).trans (List.mem_singleton.mp ht).symm) hne
  have hpairs : q.pairs.Perm [⟨1, 4⟩, ⟨1, 3⟩] := List.Perm.swap _ _ []
  rcases hcompiled.find_reordered hpairs with
    ⟨e, he, _he⟩ | ⟨v, w, hv, hw, _hpages, _hsize, always, us, ws, hvparts, hwparts, _hties, hall⟩
  · rw [hcompiled.closed.find_eq hr rfl] at he
    cases he
  · rcases hall 10 r rfl hr with ⟨_halways, huntied'⟩
    rcases huntied' huntied with ⟨hperm, hcorrected⟩
    have hnumbers : (boots.find q).map Visible.numbers = .ok [(1, [3, 4]), (2, [5])] := by
      rfl
    rw [hv] at hnumbers
    refine ⟨v, w, hv, hw, Except.ok.inj hnumbers, ?_, hcorrected⟩
    rw [hvparts, hwparts]
    exact hperm.append_left always

end Catalog
end FacetRules
