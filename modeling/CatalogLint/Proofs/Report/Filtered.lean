/-
**What a patch may change about a check.**

A patch decides which entries a report shows.  It is looked at when the checkers are done, so it
cannot change what they find; and a report is put together entry by entry, so that an entry which is
not shown takes its own issues away and no others.  To say which issues these are, each is taken
together with the entry it is on, because the issues of two entries may look the same.

Main definitions:

* `CatalogLint.Catalog.found`, `CatalogLint.Catalog.SameFindings` — the entries with their findings,
  and catalogs that differ in the marks of their entries only;
* `CatalogLint.Report.issuesOf`, `CatalogLint.Catalog.owned` — the issues of a severity, and those
  of a catalog with the entries they are on;
* `CatalogLint.FilteredBy` — what a check with a patch has to do with the check without one.

Main results:

* `CatalogLint.Suite.runAll_congr` — the checkers do not look at marks;
* `CatalogLint.Catalog.issuesOf_report` — **what a report shows**;
* `CatalogLint.Catalog.filteredBy_check` — **a patch only filters what is reported**.
-/

import CatalogLint.Check
import CatalogLint.Proofs.Suite.Run

set_option autoImplicit false

namespace CatalogLint

variable {σ : Type}

/-! ### Marks -/

namespace Catalog

/-- The entries, each with its findings. -/
def found (catalog : Catalog) : List (Entry × List Finding) :=
  catalog.entries.map fun tracked => (tracked.entry, tracked.findings)

/-- The other catalog has the path, the entries and the findings of this one. -/
structure SameFindings (catalog other : Catalog) : Prop where
  path : other.path = catalog.path
  /-- The entries are the same, in the same order, and each has the same findings. -/
  found : other.found = catalog.found

variable {catalog other : Catalog}

theorem SameFindings.symm (h : SameFindings catalog other) : SameFindings other catalog :=
  ⟨h.path.symm, h.found.symm⟩

theorem SameFindings.trans {next : Catalog} (h : SameFindings catalog other)
    (h' : SameFindings other next) : SameFindings catalog next :=
  ⟨h'.path.trans h.path, h'.found.trans h.found⟩

theorem plainEntries_eq_map_found (catalog : Catalog) :
    catalog.plainEntries = catalog.found.map Prod.fst := by
  rw [found, List.map_map]
  rfl

theorem SameFindings.plainEntries_eq (h : SameFindings catalog other) :
    other.plainEntries = catalog.plainEntries := by
  rw [plainEntries_eq_map_found, h.found, ← plainEntries_eq_map_found]

theorem found_add (catalog : Catalog) (findings : List (List Finding)) :
    (catalog.add findings).found =
      List.zipWith (fun known added => (known.1, known.2 ++ added)) catalog.found findings := by
  rw [found, found, add, List.map_zipWith, List.zipWith_map_left]
  rfl

/-- Findings that are added to both catalogs are the same again. -/
theorem SameFindings.add (h : SameFindings catalog other) (findings : List (List Finding)) :
    SameFindings (catalog.add findings) (other.add findings) := by
  refine ⟨h.path, ?_⟩
  rw [found_add, found_add, h.found]

theorem found_tagScope (catalog : Catalog) (patch : Option Patch.Store) :
    (catalog.tagScope patch).found = catalog.found := by
  rw [found, tagScope, List.map_map]
  rfl

theorem sameFindings_tagScope (catalog : Catalog) (patch : Option Patch.Store) :
    SameFindings catalog (catalog.tagScope patch) := ⟨rfl, found_tagScope catalog patch⟩

/-- The marks that a patch sets replace those that were there. -/
theorem SameFindings.tagScope_eq (h : SameFindings catalog other) (patch : Option Patch.Store) :
    other.tagScope patch = catalog.tagScope patch := by
  have hentries : ∀ catalog : Catalog, (catalog.tagScope patch).entries =
      catalog.found.map fun known =>
        ⟨known.1, known.1.inScopeOf catalog.path patch, known.2⟩ := by
    intro catalog
    rw [Catalog.found, List.map_map]
    rfl
  have hmarked : (other.tagScope patch).entries = (catalog.tagScope patch).entries := by
    rw [hentries, hentries, h.found, h.path]
  exact congrArg₂ Catalog.mk h.path hmarked

end Catalog

/-- **The checkers do not look at marks.** -/
theorem Suite.runAll_congr (checkers : List (Checker σ)) (position : Nat)
    {catalog other : Catalog} (h : Catalog.SameFindings catalog other) (session : Session σ) :
    Catalog.SameFindings (runAll checkers position catalog session).catalog
        (runAll checkers position other session).catalog ∧
      (runAll checkers position other session).failures =
        (runAll checkers position catalog session).failures ∧
      (runAll checkers position other session).session =
        (runAll checkers position catalog session).session := by
  induction checkers generalizing position catalog other session with
  | nil => exact ⟨h, rfl, rfl⟩
  | cons checker checkers ih =>
      rw [runAll, runAll, h.plainEntries_eq]
      rcases checker.findings catalog.plainEntries (session.of position) with
        ⟨error | findings, own⟩
      · obtain ⟨hcatalog, hfailures, hsession⟩ :=
          ih (position + 1) h (session.update position own)
        exact ⟨hcatalog, congrArg (List.cons _) hfailures, hsession⟩
      · exact ih (position + 1) (h.add findings) (session.update position own)

/-! ### Reports -/

/-- The issues of a report that have the given severity. -/
def Report.issuesOf (report : Report) : Severity → List Issue
  | .error => report.errors
  | .warning => report.warnings

theorem Report.issuesOf_ofIssues (issues : List Issue) (severity : Severity) :
    (Report.ofIssues issues).issuesOf severity =
      issues.filter fun issue => issue.finding.severity == severity := by
  cases severity with
  | error => rfl
  | warning =>
      refine List.filter_congr fun issue _ => ?_
      rw [Issue.isError]
      cases issue.finding.severity <;> rfl

namespace Catalog

/-- The findings as issues, each with the entry it is on, in the order of the entries and then in
that of the findings. -/
def owned (catalog : Catalog) : List (Entry × Issue) :=
  catalog.found.flatMap fun (entry, findings) =>
    findings.map fun finding => (entry, ⟨catalog.path, entry.firstLine, finding⟩)

/-- Those that have the given severity. -/
def ownedOf (catalog : Catalog) (severity : Severity) : List (Entry × Issue) :=
  catalog.owned.filter fun issue => issue.2.finding.severity == severity

theorem SameFindings.owned_eq {catalog other : Catalog} (h : SameFindings catalog other) :
    other.owned = catalog.owned := by
  rw [owned, owned, h.found, h.path]

/-- A report on entries in scope is on the issues that these entries own. -/
theorem issues_tagScope (catalog : Catalog) (patch : Option Patch.Store) :
    (catalog.tagScope patch).issues =
      (catalog.owned.filter fun issue => issue.1.inScopeOf catalog.path patch).map Prod.snd := by
  rw [issues, tagScope, owned, found]
  induction catalog.entries with
  | nil => rfl
  | cons tracked entries ih =>
      -- the issues of one entry are all shown or all left out
      by_cases hscope : tracked.entry.inScopeOf catalog.path patch = true
      · simpa [hscope, List.filter_map, Function.comp_def, TrackedEntry.issues] using ih
      · simpa [hscope, List.filter_map, Function.comp_def] using ih

/-- Without a patch all issues are shown. -/
theorem issues_tagScope_none (catalog : Catalog) :
    (catalog.tagScope none).issues = catalog.owned.map Prod.snd := by
  rw [issues_tagScope]
  exact congrArg _ (List.filter_eq_self.2 fun _ _ => rfl)

/-- **What a report shows**: the issues that are owned by entries in scope. -/
theorem issuesOf_report (catalog : Catalog) (patch : Option Patch.Store) (severity : Severity) :
    (catalog.report patch).issuesOf severity =
      ((catalog.ownedOf severity).filter fun issue =>
        issue.1.inScopeOf catalog.path patch).map Prod.snd := by
  rw [report, Report.issuesOf_ofIssues, issues_tagScope, List.filter_map, ownedOf,
    List.filter_filter, List.filter_filter]
  simp only [Function.comp_def, Bool.and_comm]

/-- Without a patch it shows those of any entry. -/
theorem issuesOf_report_none (catalog : Catalog) (severity : Severity) :
    (catalog.report none).issuesOf severity = (catalog.ownedOf severity).map Prod.snd := by
  rw [issuesOf_report]
  exact congrArg _ (List.filter_eq_self.2 fun _ _ => rfl)

/-- Each issue is either among the errors or among the warnings. -/
theorem errors_append_warnings_perm (catalog : Catalog) :
    ((catalog.report none).errors ++ (catalog.report none).warnings).Perm
      (catalog.owned.map Prod.snd) := by
  rw [report, issues_tagScope_none]
  exact List.filter_append_perm _ _

/-- A check does not look at the marks that are there before it. -/
theorem check_congr {catalog other : Catalog} (h : SameFindings catalog other) (suite : Suite σ)
    (patch : Option Patch.Store) (session : Suite.Session σ) :
    other.check suite patch session = catalog.check suite patch session := by
  obtain ⟨hcatalog, hfailures, hsession⟩ := Suite.runAll_congr suite.checkers 0 h session
  simp only [check, Suite.run, report, hcatalog.tagScope_eq, hfailures, hsession]

end Catalog

/-! ### With a patch and without -/

/-- What a check of a catalog with a patch has to do with the check without one. -/
structure FilteredBy (patch : Patch.Store) (catalog : Catalog)
    (plain patched : CheckedCatalog σ) : Prop where
  /-- The checked catalog has the path and the entries of the catalog. -/
  file : plain.catalog.path = catalog.path ∧ plain.catalog.plainEntries = catalog.plainEntries
  /-- With the patch the same is found on every entry. -/
  findings : Catalog.SameFindings plain.catalog patched.catalog
  /-- The same checkers fail, for the same reasons. -/
  failures : patched.failures = plain.failures
  /-- The session with the engine is the same. -/
  session : patched.session = plain.session
  /-- The patch marks the entries that it leaves in scope. -/
  marks : patched.catalog.entries.map TrackedEntry.inScope =
    catalog.plainEntries.map fun entry => entry.inScopeOf catalog.path (some patch)
  /-- Without the patch the report shows whatever is found on any entry, under its severity. -/
  whole : ∀ severity, plain.report.issuesOf severity =
    (plain.catalog.ownedOf severity).map Prod.snd
  /-- It shows everything once. -/
  once : (plain.report.errors ++ plain.report.warnings).Perm (plain.catalog.owned.map Prod.snd)
  /-- With the patch the issues of the entries out of scope are removed, and no others. -/
  filtered : ∀ severity, patched.report.issuesOf severity =
    ((plain.catalog.ownedOf severity).filter fun issue =>
      issue.1.inScopeOf catalog.path (some patch)).map Prod.snd

/-- **A patch only filters what is reported**, and marks from before are of no consequence. -/
theorem Catalog.filteredBy_check (catalog : Catalog) (suite : Suite σ) (patch : Patch.Store)
    (session : Suite.Session σ) :
    FilteredBy patch catalog (catalog.check suite none session)
        (catalog.check suite (some patch) session) ∧
      ∀ earlier chosen, (catalog.tagScope earlier).check suite chosen session =
        catalog.check suite chosen session := by
  let run := suite.run catalog session
  have hfile : SameFile catalog run.catalog :=
    Suite.sameFile_runAll suite.checkers 0 catalog session
  -- the checked catalog is that of the run, but for the marks
  have hmarked : SameFindings run.catalog (run.catalog.tagScope none) := sameFindings_tagScope _ _
  have howned : (catalog.check suite none session).catalog.owned = run.catalog.owned :=
    hmarked.owned_eq
  refine ⟨⟨?file, ?findings, rfl, rfl, ?marks, ?whole, ?once, ?filtered⟩, ?earlier⟩
  case file => exact ⟨hfile.path, hmarked.plainEntries_eq.trans hfile.entries⟩
  case findings => exact hmarked.symm.trans (sameFindings_tagScope _ _)
  case marks =>
    rw [← hfile.entries, ← hfile.path, plainEntries, List.map_map]
    exact List.map_map
  case whole =>
    intro severity
    rw [ownedOf, howned]
    exact issuesOf_report_none run.catalog severity
  case once =>
    rw [howned]
    exact errors_append_warnings_perm run.catalog
  case filtered =>
    intro severity
    rw [ownedOf, howned, ← hfile.path]
    exact issuesOf_report run.catalog (some patch) severity
  case earlier =>
    intro earlier chosen
    exact check_congr (sameFindings_tagScope catalog earlier) suite chosen session

end CatalogLint
