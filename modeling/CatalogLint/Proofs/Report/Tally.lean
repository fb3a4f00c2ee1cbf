/-
**What the exit status says about the files.**

A verdict is put together from the reports on many files, from the issues of the files that are no
catalogs, and by ordering and counting all of them again.  None of these steps loses an issue, makes
one twice or changes its severity.  So the counts can be read off the files: an error is a file that
is no catalog, or an error on an entry in scope, and a run fails exactly if there is one.

Main definitions:

* `CatalogLint.Unparsable` — a path at which there is no catalog, and the three reasons for it;
* `CatalogLint.Catalog.shown` — the findings on the entries in scope;
* `CatalogLint.examined` — the catalogs at some paths with what a suite finds in them;
* `CatalogLint.Report.Sorted` — every issue of a report stands under its severity;
* `CatalogLint.Verdict.Truthful` — what the counts and the status of a verdict say about the files.

Main results:

* `CatalogLint.Report.length_issuesOf_report` — a report on a catalog has as many issues as there
  are findings on the entries in scope;
* `CatalogLint.Report.count_verdict` — putting the issues in order does not change their number;
* `CatalogLint.length_issuesOf_checkPaths` — **the issues of many files, counted at the files**;
* `CatalogLint.truthful_verdict_checkPaths` — **the verdict on a check is truthful**.
-/

import CatalogLint.Proofs.Report.Filtered
import CatalogLint.Proofs.Suite.Provision
import CatalogLint.Verdict

set_option autoImplicit false

namespace CatalogLint

variable {σ : Type}

/-! ### What is counted -/

/-- There is no catalog at the path. -/
inductive Unparsable (files : Files) (path : Path) : Prop
  /-- The file cannot be read. -/
  | unread {error : IoError} (h : files.read path = .error error)
  /-- The file is not UTF-8. -/
  | notUtf8 {bytes : ByteArray} (h : files.read path = .ok bytes)
      (hbytes : Files.textOf? bytes = none)
  /-- The content of the file is that of no catalog. -/
  | malformed {bytes : ByteArray} {content : Text} {error : ParseError}
      (h : files.read path = .ok bytes) (hbytes : Files.textOf? bytes = some content)
      (hcontent : Catalog.parse path content = .error error)

theorem unparsable_iff {files : Files} {path : Path} :
    Unparsable files path ↔ ∃ error, Catalog.parseFile files path = .error error := by
  constructor
  · intro h
    cases h with
    | unread h => exact ⟨_, by rw [Catalog.parseFile, h]⟩
    | notUtf8 h hbytes => exact ⟨.encoding path, by simp only [Catalog.parseFile, h, hbytes]⟩
    | malformed h hbytes hcontent =>
        exact ⟨_, by simp only [Catalog.parseFile, h, hbytes]; exact hcontent⟩
  · rintro ⟨error, h⟩
    rw [Catalog.parseFile] at h
    split at h
    · next hread => exact .unread hread
    · next bytes hread =>
      split at h
      · next hbytes => exact .notUtf8 hread hbytes
      · next content hbytes => exact .malformed hread hbytes h

theorem not_unparsable_of_ok {files : Files} {path : Path} {catalog : Catalog}
    (h : Catalog.parseFile files path = .ok catalog) : ¬Unparsable files path := by
  rw [unparsable_iff, h]
  rintro ⟨error, herror⟩
  cases herror

instance (files : Files) (path : Path) : Decidable (Unparsable files path) :=
  match h : Catalog.parseFile files path with
  | .error error => .isTrue (unparsable_iff.2 ⟨error, h⟩)
  | .ok _ => .isFalse (not_unparsable_of_ok h)

/-- The findings on the entries in scope, with the scope that a patch sets. -/
def Catalog.shown (catalog : Catalog) (patch : Option Patch.Store) : List Finding :=
  (catalog.entries.filter fun tracked => tracked.entry.inScopeOf catalog.path patch).flatMap
    TrackedEntry.findings

/-- The catalogs at some paths, each with what a suite finds in it.  The suite runs on one after
another in one session. -/
def examined (files : Files) (suite : Suite σ) (paths : List Path) (session : Suite.Session σ) :
    List Catalog :=
  (suite.runEach (paths.filterMap fun path => (Catalog.parseFile files path).toOption) session).map
    Prod.fst

section
variable {files : Files} {suite : Suite σ} {path : Path} (paths : List Path)
  (session : Suite.Session σ)

theorem examined_of_error {error : ParseError} (h : Catalog.parseFile files path = .error error) :
    examined files suite (path :: paths) session = examined files suite paths session := by
  rw [examined, List.filterMap_cons, h]
  rfl

theorem examined_of_ok {catalog : Catalog} (h : Catalog.parseFile files path = .ok catalog) :
    examined files suite (path :: paths) session =
      (suite.run catalog session).catalog ::
        examined files suite paths (suite.run catalog session).session := by
  rw [examined, List.filterMap_cons, h]
  rfl

end

/-! ### The issues of a report -/

namespace Report

/-- Every issue stands under its severity. -/
def Sorted (report : Report) : Prop :=
  ∀ severity, ∀ issue ∈ report.issuesOf severity, issue.finding.severity = severity

theorem sorted_ofIssues (issues : List Issue) : (ofIssues issues).Sorted := by
  intro severity issue hissue
  rw [issuesOf_ofIssues, List.mem_filter, beq_iff_eq] at hissue
  exact hissue.2

/-- The report on a file is sorted, be it a catalog or not. -/
theorem sorted_error (path : Path) (error : ParseError) :
    (Report.mk [error.issue path] []).Sorted := by
  intro severity issue hissue
  cases severity with
  | error =>
      obtain rfl := List.mem_singleton.1 hissue
      rfl
  | warning => cases hissue

theorem map_finding_issues_tagScope (catalog : Catalog) (patch : Option Patch.Store) :
    (catalog.tagScope patch).issues.map Issue.finding = catalog.shown patch := by
  rw [Catalog.issues, Catalog.tagScope, Catalog.shown, List.filter_map, List.flatMap_map,
    List.map_flatMap]
  refine List.flatMap_congr fun tracked _ => ?_
  rw [TrackedEntry.issues, List.map_map]
  exact List.map_id _

/-- **A report on a catalog has as many issues as there are findings on the entries in scope.** -/
theorem length_issuesOf_report (catalog : Catalog) (patch : Option Patch.Store)
    (severity : Severity) :
    ((catalog.report patch).issuesOf severity).length =
      (catalog.shown patch).countP fun finding => finding.severity == severity := by
  rw [Catalog.report, issuesOf_ofIssues, ← List.countP_eq_length_filter,
    ← map_finding_issues_tagScope, List.countP_map]
  rfl

/-! ### The counts of a verdict -/

/-- The issues of a verdict are those of the report, in another order. -/
theorem issues_verdict_perm (report : Report) (obstacle : Option Text) :
    (report.verdict obstacle).issues.Perm (report.errors ++ report.warnings) :=
  List.mergeSort_perm _ _

/-- **Putting the issues in order does not change their number**, and each is counted under the
severity under which it was reported. -/
theorem count_verdict {report : Report} (h : report.Sorted) (obstacle : Option Text) :
    (report.verdict obstacle).issues.countP Issue.isError = report.errors.length ∧
      (report.verdict obstacle).warningCount = report.warnings.length := by
  have herrors : ∀ issue ∈ report.errors, issue.isError = true := fun issue hissue =>
    beq_iff_eq.2 (h .error issue hissue)
  have hwarnings : ∀ issue ∈ report.warnings, issue.isError = false := by
    intro issue hissue
    rw [Issue.isError, h .warning issue hissue]
    rfl
  have hperm := issues_verdict_perm report obstacle
  constructor
  · rw [hperm.countP_eq, List.countP_append, List.countP_eq_length.2 herrors,
      List.countP_eq_zero.2 fun issue hissue => by rw [hwarnings issue hissue]; simp, Nat.add_zero]
  · rw [Verdict.warningCount, hperm.countP_eq, List.countP_append,
      List.countP_eq_zero.2 fun issue hissue => by rw [herrors issue hissue]; simp,
      List.countP_eq_length.2 fun issue hissue => by rw [hwarnings issue hissue]; rfl, Nat.zero_add]

end Report

/-! ### Many files -/

/-- The issues of a severity in the reports on some files. -/
def issuesOfResults (results : List (Path × FileResult)) (severity : Severity) : List Issue :=
  results.flatMap fun (path, result) => (result.report path).issuesOf severity

theorem Outcome.issuesOf_report (outcome : Outcome) (severity : Severity) :
    outcome.report.issuesOf severity = issuesOfResults outcome.results severity := by
  cases severity <;> rfl

section
variable (files : Files) (suite : Suite σ) (patch : Option Patch.Store) (paths : List Path)
  (session : Suite.Session σ)

/-- What comes of a file: it is no catalog, or it is reported on with what the suite finds. -/
theorem checkAll_cons_cases (path : Path) :
    (∃ error, Catalog.parseFile files path = .error error ∧
      (checkAll files suite patch (path :: paths) session).1 =
        (path, .unreadable error) :: (checkAll files suite patch paths session).1) ∨
    ∃ catalog, Catalog.parseFile files path = .ok catalog ∧
      (checkAll files suite patch (path :: paths) session).1 =
        (path, .checked ((suite.run catalog session).catalog.report patch)
          (suite.run catalog session).failures) ::
            (checkAll files suite patch paths (suite.run catalog session).session).1 := by
  cases hparse : Catalog.parseFile files path with
  | error error => exact .inl ⟨error, rfl, by simp only [checkAll, checkFile, hparse]⟩
  | ok catalog => exact .inr ⟨catalog, rfl, by simp only [checkAll, checkFile, hparse]; rfl⟩

/-- The report on many files is sorted. -/
theorem sorted_checkPaths : (checkPaths files suite patch paths session).1.report.Sorted := by
  intro severity
  rw [Outcome.issuesOf_report]
  change ∀ issue ∈ issuesOfResults (checkAll files suite patch paths session).1 severity, _
  induction paths generalizing session with
  | nil =>
      intro issue hissue
      cases hissue
  | cons path paths ih =>
      obtain ⟨error, -, hresults⟩ | ⟨catalog, -, hresults⟩ :=
        checkAll_cons_cases files suite patch paths session path
      all_goals
        rw [hresults, issuesOfResults, List.flatMap_cons]
        refine List.forall_mem_append.2 ⟨?_, ih _⟩
      · exact Report.sorted_error path error severity
      · exact Report.sorted_ofIssues _ severity

/-- **The issues of many files, counted at the files**: one error for each path without a catalog,
and the findings on the entries in scope. -/
theorem length_issuesOf_checkPaths (severity : Severity) :
    ((checkPaths files suite patch paths session).1.report.issuesOf severity).length =
      (if severity = .error then paths.countP fun path => Unparsable files path else 0) +
        ((examined files suite paths session).flatMap (Catalog.shown · patch)).countP
          fun finding => finding.severity == severity := by
  rw [Outcome.issuesOf_report]
  change (issuesOfResults (checkAll files suite patch paths session).1 severity).length = _
  induction paths generalizing session with
  | nil => cases severity <;> rfl
  | cons path paths ih =>
      obtain ⟨error, hparse, hresults⟩ | ⟨catalog, hparse, hresults⟩ :=
        checkAll_cons_cases files suite patch paths session path
      · have hcount : (paths.countP fun path => Unparsable files path) + 1 =
            (path :: paths).countP fun path => Unparsable files path :=
          (List.countP_cons_of_pos (p := fun path => decide (Unparsable files path))
            (decide_eq_true (unparsable_iff.2 ⟨error, hparse⟩))).symm
        rw [hresults, issuesOfResults, List.flatMap_cons, List.length_append, ← issuesOfResults, ih,
          examined_of_error paths session hparse, ← hcount]
        -- the one issue of the file is an error
        cases severity with
        | error =>
            simp only [FileResult.report, Report.issuesOf, List.length_singleton, if_true]
            omega
        | warning => exact Nat.zero_add _
      · have hcount : (paths.countP fun path => Unparsable files path) =
            (path :: paths).countP fun path => Unparsable files path :=
          (List.countP_cons_of_neg (by simpa using not_unparsable_of_ok hparse)).symm
        have hreport := Report.length_issuesOf_report (suite.run catalog session).catalog patch
          severity
        rw [hresults, issuesOfResults, List.flatMap_cons, List.length_append, ← issuesOfResults, ih,
          examined_of_ok paths session hparse, List.flatMap_cons, List.countP_append, ← hcount,
          ← hreport]
        exact Nat.add_left_comm _ _ _

end

/-! ### The verdict -/

/-- What the counts and the status of a verdict say about the files at some paths; the catalogs are
those at the paths, with what was found in them. -/
structure Verdict.Truthful (verdict : Verdict) (files : Files) (paths : List Path)
    (catalogs : List Catalog) (patch : Option Patch.Store) : Prop where
  /-- The errors are the paths without a catalog and the errors on entries in scope. -/
  errorCount : verdict.errorCount = (paths.countP fun path => Unparsable files path) +
    (catalogs.flatMap (Catalog.shown · patch)).countP fun finding => finding.severity == .error
  /-- The warnings are those on entries in scope. -/
  warningCount : verdict.warningCount =
    (catalogs.flatMap (Catalog.shown · patch)).countP fun finding => finding.severity == .warning
  /-- The run fails if there is no catalog at some path, or an error on an entry in scope. -/
  failure_iff : verdict.status = .failure ↔
    (∃ path ∈ paths, Unparsable files path) ∨
      ∃ catalog ∈ catalogs, ∃ tracked ∈ catalog.entries,
        tracked.entry.inScopeOf catalog.path patch = true ∧
          ∃ finding ∈ tracked.findings, finding.severity = .error
  /-- Otherwise it succeeds, whatever else there is. -/
  success_of_not_failure : verdict.status ≠ .failure → verdict.status = .success

theorem Catalog.mem_shown_iff {catalog : Catalog} {patch : Option Patch.Store} {finding : Finding} :
    finding ∈ catalog.shown patch ↔ ∃ tracked ∈ catalog.entries,
      tracked.entry.inScopeOf catalog.path patch = true ∧ finding ∈ tracked.findings := by
  simp only [shown, List.mem_flatMap, List.mem_filter, and_assoc]

theorem Verdict.status_eq_failure_iff {verdict : Verdict} :
    verdict.status = .failure ↔ 0 < verdict.errorCount := by
  rw [status]
  split <;> simp_all

/-- **The verdict on a check is truthful.** -/
theorem truthful_verdict_checkPaths (files : Files) (suite : Suite σ)
    (patch : Option Patch.Store) (paths : List Path) (session : Suite.Session σ) :
    ((checkPaths files suite patch paths session).1.report.verdict none).Truthful files paths
      (examined files suite paths session) patch := by
  have hsorted := sorted_checkPaths files suite patch paths session
  obtain ⟨herrors, hwarnings⟩ := Report.count_verdict hsorted none
  have hlength := length_issuesOf_checkPaths files suite patch paths session
  have herrorCount : ((checkPaths files suite patch paths session).1.report.verdict
      none).errorCount = _ := herrors.trans (hlength .error)
  refine ⟨herrorCount, ?warningCount, ?failure_iff, ?success⟩
  case warningCount => exact hwarnings.trans ((hlength .warning).trans (Nat.zero_add _))
  case failure_iff =>
    rw [Verdict.status_eq_failure_iff, herrorCount, if_pos rfl, Nat.add_pos_iff_pos_or_pos,
      List.countP_pos_iff, List.countP_pos_iff]
    simp only [decide_eq_true_eq, List.mem_flatMap, Catalog.mem_shown_iff, beq_iff_eq]
    constructor
    · rintro (hpath | ⟨finding, ⟨catalog, hcatalog, tracked, htracked, hscope, hfinding⟩, herror⟩)
      · exact .inl hpath
      · exact .inr ⟨catalog, hcatalog, tracked, htracked, hscope, finding, hfinding, herror⟩
    · rintro (hpath | ⟨catalog, hcatalog, tracked, htracked, hscope, finding, hfinding, herror⟩)
      · exact .inl hpath
      · exact .inr ⟨finding, ⟨catalog, hcatalog, tracked, htracked, hscope, hfinding⟩, herror⟩
  case success =>
    intro h
    rw [Verdict.status] at h ⊢
    split at h
    · exact absurd rfl h
    · next hzero => rw [if_neg hzero]

end CatalogLint
