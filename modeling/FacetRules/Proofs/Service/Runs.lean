import FacetRules.Proofs.Import.Runs
import FacetRules.Proofs.Query.Dropped
import FacetRules.Proofs.Query.InOrder
import FacetRules.Service

/-!
# Runs of the service

A service is asked for answers and given catalogs in any order.  What it answers depends on
the catalog alone that was installed last: catalogs are handed over or imported, and where
an import fails, nothing is installed.
-/

namespace FacetRules

open Builder

namespace Service

inductive Request
  | replace (c : Catalog)
  | importTables (storage : Storage) (options : ImportOptions)
  | find (q : Conditions)
  | dump (options : DumpOptions)
  | stats

inductive Response
  /-- The catalog that was in service before. -/
  | former (c : Catalog)
  | answer (a : Except Error Answer)
  | stats (s : Stats)

def perform (s : Service) : Request -> Response × Service
  | .replace c => (.former (s.replace c).1, (s.replace c).2)
  | .importTables storage options =>
      (.answer (s.importTables storage options).1, (s.importTables storage options).2)
  | .find q => (.answer (s.find q), s)
  | .dump options => (.answer (s.dump options), s)
  | .stats => (.stats s.stats, s)

/-- What the requests of a run are answered, one after the other. -/
def responses : Service -> List Request -> List Response
  | _, [] => []
  | s, request :: requests => (s.perform request).1 :: responses (s.perform request).2 requests

/-- The catalog that a request installs, as it was handed over or imported. -/
def Request.installs? : Request -> Option Catalog
  | replace c => some c
  | importTables storage options => (Import.run storage options).toOption.map Prod.fst
  | _ => none

/-- The catalog that was installed last, the one at the beginning given. -/
def lastInstalled (start : Catalog) (requests : List Request) : Catalog :=
  (requests.filterMap Request.installs?).getLast?.getD start

/-- What a request is answered from a catalog; an import tells of what it has imported. -/
def respond (c : Catalog) : Request -> Response
  | .replace _ => .former c
  | .importTables storage options =>
      .answer ((Import.run storage options).map fun result => result.1.importAnswer result.2)
  | .find q => .answer (c.findCommand q)
  | .dump options => .answer (c.dumpCommand options)
  | .stats => .stats c.stats

/-!
# One request
-/

theorem fst_perform (s : Service) (request : Request) :
    (s.perform request).1 = respond s.catalog request := by
  cases request with
  | importTables storage options =>
      show Response.answer (s.importTables storage options).1 = _
      rw [importTables, respond]
      cases Import.run storage options with
      | error e => rfl
      | ok result => rfl
  | replace c => rfl
  | find q => rfl
  | dump options => rfl
  | stats => rfl

theorem snd_perform (s : Service) (request : Request) :
    (s.perform request).2 = (request.installs?.map ofCatalog).getD s := by
  cases request with
  | importTables storage options =>
      show (s.importTables storage options).2 = _
      rw [importTables, Request.installs?]
      cases Import.run storage options with
      | error e => rfl
      | ok result => rfl
  | replace c => rfl
  | find q => rfl
  | dump options => rfl
  | stats => rfl

/-!
# Runs
-/

theorem lastInstalled_cons (start : Catalog) (request : Request) (requests : List Request) :
    lastInstalled start (request :: requests) =
      lastInstalled (request.installs?.getD start) requests := by
  cases hinstalls : request.installs? with
  | none =>
      rw [lastInstalled, List.filterMap_cons_none hinstalls]
      rfl
  | some c =>
      rw [lastInstalled, List.filterMap_cons_some hinstalls, List.getLast?_cons]
      rfl

/-- Every request is answered from the catalog that was installed last before it. -/
theorem getElem?_responses (start : Catalog) (requests : List Request) (i : Nat) :
    (responses (ofCatalog start) requests)[i]? = requests[i]?.map
      (respond (lastInstalled start (requests.take i)).presort) := by
  induction requests generalizing start i with
  | nil =>
      rfl
  | cons request requests ih =>
      cases i with
      | zero =>
          show some ((ofCatalog start).perform request).1 = some (respond start.presort request)
          rw [fst_perform]
          rfl
      | succ i =>
          show (responses ((ofCatalog start).perform request).2 requests)[i]? = _
          rw [snd_perform, Option.getD_map, ih, List.take_succ_cons, lastInstalled_cons]
          rfl

end Service

/-!
# Compiled catalogs
-/

namespace Import

theorem exists_directory_of_run {storage : Storage} {options : ImportOptions}
    {result : Catalog × Report} (h : run storage options = .ok result) :
    exists files, storage options.dataDir = .directory files := by
  have hload : forall b b', loadTables storage options b = .ok b' ->
      exists files, storage options.dataDir = .directory files := by
    intro b b' hb
    unfold loadTables at hb
    split at hb
    · rename_i files hdir
      exact ⟨files, hdir⟩
    · cases hb
  rw [run_eq] at h
  rcases bind_eq_ok_iff.mp h with ⟨tree, _htree, h⟩
  rcases bind_eq_ok_iff.mp h with ⟨b, hb, _hresult⟩
  split at hb
  · exact hload _ b hb
  · rename_i hexpand
    have hpositive : 0 < options.expand.toNat := UInt64.pos_iff_ne_zero.mpr hexpand
    rcases Nat.exists_eq_succ_of_ne_zero (Nat.ne_of_gt hpositive) with ⟨count, hcount⟩
    rw [hcount, loadPasses] at hb
    rcases bind_eq_ok_iff.mp hb with ⟨loaded, hloaded, _hrest⟩
    exact hload _ loaded hloaded

/-- What was imported is a compiled catalog in display order. -/
theorem compiled_of_run {storage : Storage} {options : ImportOptions} {c : Catalog}
    {report : Report} (h : run storage options = .ok (c, report)) :
    c.Compiled ∧ c.presort = c := by
  rcases exists_directory_of_run h with ⟨files, hdir⟩
  rcases (run_eq_ok_iff hdir).mp h with ⟨tree, _htree, _hintact, rfl, _hreport⟩
  exact ⟨.presort (.finish tree _), Catalog.presort_presort _⟩

end Import

namespace Catalog

theorem compiled_empty : (∅ : Catalog).Compiled := by
  have hrules : (((∅ : Builder).withCategories ∅).performAll []).finish.1.rules = ∅ := by
    apply Std.ExtTreeMap.ext_getElem?
    intro category
    rfl
  have hempty : (((∅ : Builder).withCategories ∅).performAll []).finish.1 = ∅ := by
    show { (((∅ : Builder).withCategories ∅).performAll []).finish.1 with
      rules := (((∅ : Builder).withCategories ∅).performAll []).finish.1.rules } = (∅ : Catalog)
    rw [hrules]
    rfl
  rw [<- hempty]
  exact .finish ∅ []

end Catalog

namespace Service

open Catalog (exists_find_of_findCommand exists_findCommand_of_find)

theorem exists_run_of_installs? {storage : Storage} {options : ImportOptions} {c : Catalog}
    (h : (Request.importTables storage options).installs? = some c) :
    exists report, Import.run storage options = .ok (c, report) := by
  rcases Option.map_eq_some_iff.mp h with ⟨result, hresult, rfl⟩
  cases hrun : Import.run storage options with
  | error e =>
      rw [hrun] at hresult
      cases hresult
  | ok found =>
      rw [hrun] at hresult
      cases hresult
      exact ⟨result.2, rfl⟩

theorem compiled_lastInstalled {start : Catalog} {requests : List Request}
    (hstart : start.Compiled) (hrequests : forall c, .replace c ∈ requests -> c.Compiled) :
    (lastInstalled start requests).Compiled := by
  have hinstalled : forall c, c ∈ requests.filterMap Request.installs? -> c.Compiled := by
    intro c hc
    rcases List.mem_filterMap.mp hc with ⟨request, hrequest, hinstalls⟩
    cases request with
    | replace d =>
        cases hinstalls
        exact hrequests c hrequest
    | importTables storage options =>
        rcases exists_run_of_installs? hinstalls with ⟨report, hrun⟩
        exact (Import.compiled_of_run hrun).1
    | find q => cases hinstalls
    | dump options => cases hinstalls
    | stats => cases hinstalls
  rw [lastInstalled]
  cases hlast : (requests.filterMap Request.installs?).getLast? with
  | none => exact hstart
  | some c => exact hinstalled c (List.mem_of_getLast? hlast)

/-- How a service begins: with a catalog, or with the empty one. -/
inductive Started : Service -> Catalog -> Prop where
  | new {c : Catalog} : c.Compiled -> Started (ofCatalog c) c
  | default : Started ∅ ∅

theorem Started.eq_and_compiled {s : Service} {start : Catalog} (h : Started s start) :
    s = ofCatalog start ∧ start.Compiled := by
  cases h with
  | new hcompiled => exact ⟨rfl, hcompiled⟩
  | default => exact ⟨rfl, Catalog.compiled_empty⟩

theorem lastInstalled_take_succ (start : Catalog) {requests : List Request} {i : Nat}
    {request : Request} (h : requests[i]? = some request) :
    lastInstalled start (requests.take (i + 1)) =
      request.installs?.getD (lastInstalled start (requests.take i)) := by
  have htake : requests.take (i + 1) = requests.take i ++ [request] := by
    rw [List.take_add_one, h]
    rfl
  rw [lastInstalled, htake, List.filterMap_append]
  cases hinstalls : request.installs? with
  | none =>
      rw [List.filterMap_cons_none hinstalls, List.filterMap_nil, List.append_nil]
      rfl
  | some c =>
      rw [List.filterMap_cons_some hinstalls, List.filterMap_nil, List.getLast?_concat]
      rfl

/-- Whatever is asked of a service, in any order: each request is answered from the catalog
that was installed last before it, in display order.  A query that succeeds lists what is
always visible in this order, with ties as they are in the rows of the calls that the
catalog was compiled from.  What was imported is served as the import gave it, and an import
that fails changes nothing. -/
theorem run_in_order {s : Service} {start : Catalog} (hs : Started s start)
    {requests : List Request} (hrequests : forall c, .replace c ∈ requests -> c.Compiled)
    (i : Nat) :
    let c := lastInstalled start (requests.take i)
    (responses s requests)[i]? = requests[i]?.map (respond c.presort) ∧
      (exists calls, c.CompiledFrom calls) ∧
      (forall q a, requests[i]? = some (.find q) ->
        (responses s requests)[i]? = some (.answer (.ok a)) ->
          exists v, a.visible = some v ∧
            ((q.categoryIds = [] ∧ v = {}) ∨
              exists category r, q.categoryIds = [category] ∧
                c.presort.rules[category]? = some r ∧
                forall calls, c.CompiledFrom calls ->
                  c.presort.AnswersInOrder (readings none calls) category r v)) ∧
      forall storage options, requests[i]? = some (.importTables storage options) ->
        (forall imported report, Import.run storage options = .ok (imported, report) ->
          lastInstalled start (requests.take (i + 1)) = imported ∧
            imported.presort = imported) ∧
        forall e, Import.run storage options = .error e ->
          lastInstalled start (requests.take (i + 1)) = c := by
  intro c
  rcases hs.eq_and_compiled with ⟨rfl, hstart⟩
  have hcompiled : c.Compiled := by
    apply compiled_lastInstalled hstart
    intro d hd
    exact hrequests d (List.mem_of_mem_take hd)
  have hanswer := getElem?_responses start requests i
  refine ⟨hanswer, Catalog.compiled_iff.mp hcompiled, ?_, ?_⟩
  · intro q a hq ha
    rw [hanswer, hq] at ha
    rcases exists_find_of_findCommand (Response.answer.inj (Option.some.inj ha)) with
      ⟨v, hv, hvisible⟩
    refine ⟨v, hvisible, ?_⟩
    rcases hcompiled.presort.closed.eq_of_find hv with hnone | ⟨category, r, hcategory, hr, rfl⟩
    · exact Or.inl hnone
    refine Or.inr ⟨category, r, hcategory, hr, ?_⟩
    intro calls hcalls
    exact hcalls.answer_in_order hr q
  · intro storage options himport
    have hinstalled := lastInstalled_take_succ start himport
    constructor
    · intro imported report hrun
      rw [hinstalled, Request.installs?, hrun]
      exact ⟨rfl, (Import.compiled_of_run hrun).2⟩
    · intro e hrun
      rw [hinstalled, Request.installs?, hrun]
      rfl

/-- The rows of a shop whose sizes come last and whose boots come first; kinds and colours
tie. -/
def unsortedCalls : List Call :=
  [.fields .attributes ["size", "", "f", "f", "f", "Size", "2", "", "", "f", "", ""],
    .fields .attributes ["kind", "", "f", "f", "f", "Kind", "1", "", "", "f", "", ""],
    .fields .attributes ["colour", "", "f", "f", "f", "Colour", "1", "", "", "f", "", ""],
    .fields .options ["large", "size", "Large", "f", "1", "", "", "", ""],
    .fields .options ["shoes", "kind", "Shoes", "f", "1", "", "", "", ""],
    .fields .options ["red", "colour", "Red", "f", "1", "", "", "", ""],
    .fields .options ["sandals", "kind", "Sandals", "f", "1", "", "", "", ""],
    .fields .options ["boots", "kind", "Boots", "f", "-1", "", "", "", ""],
    .fields .assignments ["first", "10", "size", "f"],
    .fields .assignments ["second", "10", "colour", "f"],
    .fields .assignments ["third", "10", "kind", "f"]]

def unsortedCatalog : Catalog :=
  (((∅ : Builder).withCategories ∅).performAll unsortedCalls).finish.1

/-- A catalog is handed over, an import finds no directory, and category 10 is asked for. -/
def unsortedRequests : List Request :=
  [.replace unsortedCatalog, .importTables (.ofList []) { dataDir := "data" },
    .find (.ofCategory 10)]

theorem compiled_of_mem_unsortedRequests :
    forall c, .replace c ∈ unsortedRequests -> c.Compiled := by
  intro c hc
  have heq : c = unsortedCatalog := by
    simpa [unsortedRequests] using hc
  rw [heq]
  exact .finish ∅ unsortedCalls

theorem run_in_order_unsorted :
    Started ∅ ∅ ∧ (forall c, .replace c ∈ unsortedRequests -> c.Compiled) ∧
      exists a v category r, (responses ∅ unsortedRequests)[2]? = some (.answer (.ok a)) ∧
        a.visible = some v ∧
        (v.attributes.map fun u => (u.title, u.options.map VisibleOption.title)) =
          [("Colour", ["Red"]), ("Kind", ["Boots", "Shoes", "Sandals"]), ("Size", ["Large"])] ∧
        unsortedCatalog.presort.AnswersInOrder (readings none unsortedCalls) category r v := by
  have hrun := @run_in_order ∅ ∅ .default unsortedRequests compiled_of_mem_unsortedRequests
  have hlast : lastInstalled ∅ (unsortedRequests.take 2) = unsortedCatalog :=
    ((hrun 1).2.2.2 _ _ rfl).2 _ rfl
  rcases hrun 2 with ⟨hanswer, _hcompiled, hfind, _himport⟩
  have htitles : ((unsortedCatalog.presort.find (.ofCategory 10)).map fun v =>
      v.attributes.map fun u => (u.title, u.options.map VisibleOption.title)) =
        .ok [("Colour", ["Red"]), ("Kind", ["Boots", "Shoes", "Sandals"]),
          ("Size", ["Large"])] := by
    rfl
  rcases exists_of_map_eq_ok htitles with ⟨v, hv, hlisted⟩
  rw [hlast] at hanswer hfind
  rcases exists_findCommand_of_find hv with ⟨a, ha, hvisible⟩
  have hresponse : (responses ∅ unsortedRequests)[2]? = some (.answer (.ok a)) := by
    rw [hanswer, <- ha]
    rfl
  rcases hfind _ a rfl hresponse with ⟨found, hfound, hnone | ⟨category, r, _hq, _hr, horder⟩⟩
  · cases hnone.1
  · rw [hvisible] at hfound
    cases hfound
    exact ⟨.default, compiled_of_mem_unsortedRequests, a, v, category, r, hresponse, hvisible,
      hlisted, horder unsortedCalls (.finish ∅)⟩

end Service
end FacetRules
