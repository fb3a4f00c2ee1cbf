/-
**A catalog only gathers findings.**

Between reading a catalog and the last report on it any number of suites may run, reports may be
made and findings may be added by hand, in any order, and checkers may fail in between.  None of
this touches what the file says, and nothing that was found is ever taken back.  A report sets the
scope anew each time, so that of the history of a catalog it shows the findings and nothing else.

Main definitions:

* `CatalogLint.Operation` — what can be done with a catalog;
* `CatalogLint.Catalog.perform`, `CatalogLint.Catalog.performAll` — the catalog after an operation,
  and after a history of them;
* `CatalogLint.Catalog.reportBy?` — the report that an operation makes;
* `CatalogLint.Catalog.GrowsInto` — another catalog has the same file and at least the findings;
* `CatalogLint.Catalog.Gathered` — what a history leaves alone, and what the next operation may do.

Main results:

* `CatalogLint.Suite.growsInto_runAll` — checkers only add findings, even if some of them fail;
* `CatalogLint.Catalog.growsInto_perform`, `CatalogLint.Catalog.growsInto_performAll` — **one
  operation, and a whole history, only add findings**;
* `CatalogLint.Catalog.report_congr` — a report looks at the findings and not at marks;
* `CatalogLint.Catalog.gathered_performAll` — **what is known after any history**.
-/

import CatalogLint.Proofs.Report.Filtered

set_option autoImplicit false

namespace CatalogLint

variable {σ : Type}

/-! ### Operations -/

/-- Something that is done with a catalog.  The engine of a suite may keep any kind of state, and
its session is whatever earlier requests have made of it. -/
inductive Operation : Type 1 where
  | run {σ : Type} (suite : Suite σ) (session : Suite.Session σ)
  | check {σ : Type} (suite : Suite σ) (session : Suite.Session σ) (patch : Option Patch.Store)
  | report (patch : Option Patch.Store)
  | tagScope (patch : Option Patch.Store)
  | add (index : Nat) (finding : Finding)

/-- The patch information of the report that the operation makes, if it makes one. -/
def Operation.reportsWith? : Operation → Option (Option Patch.Store)
  | check _ _ patch | report patch => some patch
  | run _ _ | tagScope _ | add _ _ => none

namespace Catalog

/-- The catalog with one more finding on the entry with the given index, if there is such an
entry. -/
def addAt (catalog : Catalog) (index : Nat) (finding : Finding) : Catalog :=
  { catalog with entries := catalog.entries.modify index fun tracked => tracked.add [finding] }

/-- The catalog after an operation. -/
def perform (catalog : Catalog) : Operation → Catalog
  | .run suite session => (suite.run catalog session).catalog
  | .check suite session patch => (catalog.check suite patch session).catalog
  | .report patch => catalog.tagScope patch
  | .tagScope patch => catalog.tagScope patch
  | .add index finding => catalog.addAt index finding

def performAll (catalog : Catalog) (history : List Operation) : Catalog :=
  history.foldl perform catalog

/-- The report that the operation makes on the catalog, if it makes one. -/
def reportBy? (catalog : Catalog) : Operation → Option Report
  | .check suite session patch => some (catalog.check suite patch session).report
  | .report patch => some (catalog.report patch)
  | .run _ _ | .tagScope _ | .add _ _ => none

/-! ### Findings entry by entry -/

theorem getElem?_found (catalog : Catalog) (index : Nat) :
    catalog.found[index]? =
      catalog.plainEntries[index]?.map fun entry => (entry, catalog.findingsAt index) := by
  rw [found, plainEntries, findingsAt, List.getElem?_map, List.getElem?_map]
  cases catalog.entries[index]? <;> rfl

theorem findingsAt_eq_getElem?_found (catalog : Catalog) (index : Nat) :
    catalog.findingsAt index = (catalog.found[index]?.map Prod.snd).getD [] := by
  rw [found, findingsAt, List.getElem?_map, Option.map_map]
  rfl

theorem SameFindings.findingsAt_eq {catalog other : Catalog} (h : SameFindings catalog other)
    (index : Nat) : other.findingsAt index = catalog.findingsAt index := by
  rw [findingsAt_eq_getElem?_found, h.found, ← findingsAt_eq_getElem?_found]

/-- Catalogs of the same entries have the same findings if each entry has. -/
theorem SameFindings.of_findingsAt {catalog other : Catalog} (hpath : other.path = catalog.path)
    (hentries : other.plainEntries = catalog.plainEntries)
    (hfindings : ∀ index, other.findingsAt index = catalog.findingsAt index) :
    SameFindings catalog other := by
  refine ⟨hpath, List.ext_getElem? fun index => ?_⟩
  rw [getElem?_found, getElem?_found, hentries, hfindings]

/-- **A report looks at the findings and not at marks.** -/
theorem report_congr {catalog other : Catalog} (h : SameFindings catalog other)
    (patch : Option Patch.Store) : other.report patch = catalog.report patch := by
  rw [report, report, h.tagScope_eq]

/-! ### One finding more -/

section
variable (catalog : Catalog) (index : Nat) (finding : Finding)

/-- A finding that is added changes nothing else. -/
theorem sameFile_addAt : SameFile catalog (catalog.addAt index finding) := by
  refine SameFile.of_getElem? rfl fun i => ?_
  rw [addAt, List.getElem?_modify, Option.map_eq_map, Option.map_map]
  cases catalog.entries[i]? with
  | none => rfl
  | some tracked =>
      by_cases hi : index = i
      · simp [hi, TrackedEntry.add]
      · simp [hi]

/-- It comes after the findings that its entry has. -/
theorem findingsAt_addAt (i : Nat) :
    (catalog.addAt index finding).findingsAt i =
      catalog.findingsAt i ++
        if i = index ∧ index < catalog.entries.length then [finding] else [] := by
  rw [addAt, findingsAt, findingsAt, List.getElem?_modify]
  rcases Nat.lt_or_ge i catalog.entries.length with hlt | hge
  · rw [List.getElem?_eq_getElem hlt]
    by_cases hi : i = index
    · subst hi
      simp [hlt, TrackedEntry.add]
    · simp [hi, Ne.symm hi]
  · rw [List.getElem?_eq_none hge, if_neg (by omega)]
    rfl

end

/-! ### Growing -/

/-- The other catalog has the path and the entries of this one, and whatever was found on them. -/
structure GrowsInto (catalog other : Catalog) : Prop where
  path : other.path = catalog.path
  entries : other.plainEntries = catalog.plainEntries
  /-- The findings of an entry are the beginning of those that it has now. -/
  findings : ∀ index, catalog.findingsAt index <+: other.findingsAt index

theorem GrowsInto.refl (catalog : Catalog) : GrowsInto catalog catalog :=
  ⟨rfl, rfl, fun _ => List.prefix_refl _⟩

theorem GrowsInto.trans {catalog other next : Catalog} (h : GrowsInto catalog other)
    (h' : GrowsInto other next) : GrowsInto catalog next :=
  ⟨h'.path.trans h.path, h'.entries.trans h.entries,
    fun index => (h.findings index).trans (h'.findings index)⟩

theorem SameFindings.growsInto {catalog other : Catalog} (h : SameFindings catalog other) :
    GrowsInto catalog other :=
  ⟨h.path, h.plainEntries_eq, fun index => (h.findingsAt_eq index).symm ▸ List.prefix_refl _⟩

/-- A catalog grows by what is put after the findings of its entries. -/
theorem SameFile.growsInto {catalog other : Catalog} (h : SameFile catalog other)
    {added : Nat → List Finding}
    (hfindings : ∀ index, other.findingsAt index = catalog.findingsAt index ++ added index) :
    GrowsInto catalog other :=
  ⟨h.path, h.entries, fun index => (hfindings index).symm ▸ List.prefix_append _ _⟩

end Catalog

/-- **Checkers only add findings**, whichever of them fail. -/
theorem Suite.growsInto_runAll (checkers : List (Checker σ)) (position : Nat) (catalog : Catalog)
    (session : Session σ) :
    Catalog.GrowsInto catalog (runAll checkers position catalog session).catalog := by
  induction checkers generalizing position catalog session with
  | nil => exact .refl catalog
  | cons checker checkers ih =>
      obtain ⟨next, hsame, hfindings, hcatalog, -⟩ :=
        runAll_cons checker checkers position catalog session
      rw [hcatalog]
      exact (hsame.growsInto hfindings).trans (ih (position + 1) next _)

namespace Catalog

/-- A check leaves the catalog as the run of its suite does, but for the marks. -/
theorem sameFindings_check (catalog : Catalog) (suite : Suite σ) (patch : Option Patch.Store)
    (session : Suite.Session σ) :
    SameFindings (suite.run catalog session).catalog
      (catalog.check suite patch session).catalog := sameFindings_tagScope _ _

/-- **One operation only adds findings.** -/
theorem growsInto_perform (catalog : Catalog) (operation : Operation) :
    GrowsInto catalog (catalog.perform operation) := by
  cases operation with
  | run suite session => exact Suite.growsInto_runAll suite.checkers 0 catalog session
  | check suite session patch =>
      exact (Suite.growsInto_runAll suite.checkers 0 catalog session).trans
        (sameFindings_check catalog suite patch session).growsInto
  | report patch => exact (sameFindings_tagScope catalog patch).growsInto
  | tagScope patch => exact (sameFindings_tagScope catalog patch).growsInto
  | add index finding =>
      exact (sameFile_addAt catalog index finding).growsInto
        (findingsAt_addAt catalog index finding)

/-- **A history only adds findings.** -/
theorem growsInto_performAll (catalog : Catalog) (history : List Operation) :
    GrowsInto catalog (catalog.performAll history) := by
  induction history generalizing catalog with
  | nil => exact .refl catalog
  | cons operation history ih => exact (growsInto_perform catalog operation).trans (ih _)

/-- The report that an operation makes is that on the findings which are there after it. -/
theorem reportBy?_eq (catalog : Catalog) (operation : Operation) :
    catalog.reportBy? operation =
      operation.reportsWith?.map (catalog.perform operation).report := by
  cases operation with
  | check suite session patch =>
      exact congrArg some (report_congr (sameFindings_check catalog suite patch session) patch).symm
  | report patch =>
      exact congrArg some (report_congr (sameFindings_tagScope catalog patch) patch).symm
  | run | tagScope | add => rfl

/-! ### Histories -/

/-- What is known of a catalog `now` that comes of the catalog `start` by some operations. -/
structure Gathered (start now : Catalog) : Prop where
  /-- Neither the path nor the entries have changed, and everything found at the start is there. -/
  grown : GrowsInto start now
  /-- The next operation, whatever it is, keeps all this and every finding. -/
  grows : ∀ operation, GrowsInto now (now.perform operation)
  /-- Setting the scope and reporting change no findings. -/
  found : ∀ patch index,
    (now.perform (.tagScope patch)).findingsAt index = now.findingsAt index ∧
      (now.perform (.report patch)).findingsAt index = now.findingsAt index
  /-- Running a suite changes no scope. -/
  scopesOfRun : ∀ {σ : Type} (suite : Suite σ) (session : Suite.Session σ),
    (now.perform (.run suite session)).entries.map TrackedEntry.inScope =
      now.entries.map TrackedEntry.inScope
  /-- Neither does adding a finding. -/
  scopesOfAdd : ∀ index finding,
    (now.perform (.add index finding)).entries.map TrackedEntry.inScope =
      now.entries.map TrackedEntry.inScope
  /-- A finding that is added is the last one of its entry, and nothing else is added. -/
  added : ∀ index finding i, (now.perform (.add index finding)).findingsAt i =
    now.findingsAt i ++ if i = index ∧ index < start.entries.length then [finding] else []
  /-- A report shows the findings on the entries that the patch leaves in scope. -/
  shown : ∀ patch severity, (now.report patch).issuesOf severity =
    ((now.ownedOf severity).filter fun issue => issue.1.inScopeOf start.path patch).map Prod.snd
  /-- An operation that reports does so on the findings that are there after it. -/
  reported : ∀ operation,
    now.reportBy? operation = operation.reportsWith?.map (now.perform operation).report
  /-- Any other history that has led to the same findings leads to the same reports. -/
  forgotten : ∀ history : List Operation,
    (∀ index, (start.performAll history).findingsAt index = now.findingsAt index) →
    ∀ patch, (start.performAll history).report patch = now.report patch

/-- **What is known after any history.** -/
theorem gathered_performAll (catalog : Catalog) (history : List Operation) :
    Gathered catalog (catalog.performAll history) := by
  have hgrown := growsInto_performAll catalog history
  generalize catalog.performAll history = now at hgrown
  have hlength : now.entries.length = catalog.entries.length := by
    rw [← length_plainEntries, hgrown.entries, length_plainEntries]
  refine ⟨hgrown, growsInto_perform now, fun patch index => ?found, ?scopesOfRun,
    fun index finding => (sameFile_addAt now index finding).scopes, fun index finding => ?added,
    fun patch severity => ?shown, reportBy?_eq now, fun other hfindings patch => ?forgotten⟩
  case found =>
    have hsame := (sameFindings_tagScope now patch).findingsAt_eq index
    exact ⟨hsame, hsame⟩
  case scopesOfRun =>
    intro σ suite session
    exact (Suite.sameFile_runAll suite.checkers 0 now session).scopes
  case added =>
    rw [← hlength]
    exact findingsAt_addAt now index finding
  case shown =>
    rw [← hgrown.path]
    exact issuesOf_report now patch severity
  case forgotten =>
    have hother := growsInto_performAll catalog other
    exact report_congr (.of_findingsAt (hother.path.trans hgrown.path.symm)
      (hother.entries.trans hgrown.entries.symm) hfindings) patch

end Catalog

end CatalogLint
