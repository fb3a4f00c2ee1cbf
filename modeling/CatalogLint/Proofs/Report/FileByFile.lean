/-
**Files are checked one by one.**

What comes of many files is put together from what comes of each of them.  The one thing that a file
can leave to the next is the session with the engine; without the check of grammar there is nothing
of the kind, so that neither the other files nor their order nor their faults make a difference.

Main definitions:

* `CatalogLint.Suite.WithoutEngine` — no checker of a suite works with the engine;
* `CatalogLint.FaultAt` — there is no catalog at a path, and the line that is to blame;
* `CatalogLint.FileByFile` — a check is put together from the checks of its files.

Main results:

* `CatalogLint.Checker.findings_of_not_usesEngine`, `CatalogLint.Suite.runAll_of_withoutEngine` —
  without the engine no checker fails, and the session is neither read nor changed;
* `CatalogLint.checkAll_of_withoutEngine` — **what comes of a file is the same in any list**;
* `CatalogLint.faultAt_iff` — a file that is no catalog is reported at the line that is to blame;
* `CatalogLint.fileByFile_checkPaths` — **files are checked one by one**.
-/

import CatalogLint.Proofs.Catalog.Rejection
import CatalogLint.Proofs.Report.Tally

set_option autoImplicit false

namespace CatalogLint

variable {σ : Type}

/-! ### Suites that need no engine -/

/-- No checker of the suite works with the engine. -/
def Suite.WithoutEngine (suite : Suite σ) : Prop :=
  ∀ checker ∈ suite.checkers, checker.usesEngine = false

/-- A checker that does not work with the engine finds something in any session and leaves the
session alone. -/
theorem Checker.findings_of_not_usesEngine {checker : Checker σ} (h : checker.usesEngine = false)
    (entries : List Entry) :
    ∃ found, ∀ session, checker.findings entries session = (.ok found, session) := by
  cases checker with
  | grammar => cases h
  | _ => exact ⟨_, fun session => rfl⟩

/-- Without the engine no checker fails, and the session is neither read nor changed. -/
theorem Suite.runAll_of_withoutEngine {checkers : List (Checker σ)}
    (h : ∀ checker ∈ checkers, checker.usesEngine = false) (position : Nat) (catalog : Catalog) :
    ∃ next, ∀ session, runAll checkers position catalog session =
      { catalog := next, failures := [], session } := by
  induction checkers generalizing position catalog with
  | nil => exact ⟨catalog, fun session => rfl⟩
  | cons checker checkers ih =>
      obtain ⟨hchecker, hcheckers⟩ := List.forall_mem_cons.1 h
      obtain ⟨found, hfound⟩ :=
        Checker.findings_of_not_usesEngine hchecker catalog.plainEntries
      obtain ⟨next, hnext⟩ := ih hcheckers (position + 1) (catalog.add found)
      refine ⟨next, fun session => ?_⟩
      rw [runAll, hfound]
      simp only [Session.update_of, hnext]

/-- The usual suites without the check of grammar need no engine. -/
theorem Suite.withoutEngine_standard (maxLineLength : Nat) (glossary : Glossary) :
    (standard maxLineLength glossary none : Suite σ).WithoutEngine := by
  intro checker hchecker
  simp only [standard, Option.map_none, Option.toList_none, List.append_nil, List.cons_append,
    List.nil_append, List.mem_cons, List.not_mem_nil, or_false] at hchecker
  rcases hchecker with rfl | rfl | rfl | rfl | rfl | rfl <;> rfl

section
variable {suite : Suite σ} (h : suite.WithoutEngine) (files : Files) (patch : Option Patch.Store)
include h

/-- A check without the engine is the same in any session. -/
theorem check_of_withoutEngine (catalog : Catalog) (session other : Suite.Session σ) :
    catalog.check suite patch other =
      { catalog.check suite patch session with session := other } := by
  obtain ⟨next, hnext⟩ := Suite.runAll_of_withoutEngine h 0 catalog
  simp only [Catalog.check, Suite.run, hnext]

theorem checkFile_of_withoutEngine (path : Path) (session other : Suite.Session σ) :
    checkFile files suite patch path other =
      ((checkFile files suite patch path session).1, other) := by
  rw [checkFile, checkFile]
  cases Catalog.parseFile files path with
  | error error => rfl
  | ok catalog =>
      simp only [check_of_withoutEngine h patch catalog session other]

/-- **What comes of a file is the same in any list.** -/
theorem checkAll_of_withoutEngine (paths : List Path) (session other : Suite.Session σ) :
    checkAll files suite patch paths other =
      (paths.map fun path => (path, (checkFile files suite patch path session).1), other) := by
  induction paths with
  | nil => rfl
  | cons path paths ih =>
      rw [checkAll, checkFile_of_withoutEngine h files patch path session other]
      simp only [ih, List.map_cons]

end

/-! ### Files that are no catalogs -/

/-- There is no catalog at the path, and the line with the given number is to blame; it is zero if
no line is. -/
inductive FaultAt (files : Files) (path : Path) : Nat → Prop
  /-- The file cannot be read. -/
  | unread {error : IoError} (h : files.read path = .error error) : FaultAt files path 0
  /-- The file is not UTF-8. -/
  | notUtf8 {bytes : ByteArray} (h : files.read path = .ok bytes)
      (hbytes : Files.textOf? bytes = none) : FaultAt files path 0
  /-- The line is the first malformed one after the header of the file. -/
  | malformed {bytes : ByteArray} {content line : Text} {number : Nat}
      (h : files.read path = .ok bytes) (hbytes : Files.textOf? bytes = some content)
      (hline : Catalog.IsFirstRejected (Catalog.contentLines content) line number) :
      FaultAt files path number

/-- **A file that is no catalog is reported at the line that is to blame.** -/
theorem faultAt_iff {files : Files} {path : Path} {number : Nat} :
    FaultAt files path number ↔
      ∃ error, Catalog.parseFile files path = .error error ∧ error.line = number := by
  constructor
  · intro h
    cases h with
    | unread h => exact ⟨.io path _, by rw [Catalog.parseFile, h], rfl⟩
    | notUtf8 h hbytes => exact ⟨.encoding path, by simp only [Catalog.parseFile, h, hbytes], rfl⟩
    | @malformed _ _ line _ h hbytes hline =>
        have hfault := Catalog.firstFaultOf_eq_some_iff.2 ⟨_, hline, rfl⟩
        refine ⟨.malformed path number (Catalog.faultOf (Text.trimEnd line)), ?_, rfl⟩
        simp only [Catalog.parseFile, h, hbytes]
        exact Catalog.parse_of_fault path hfault
  · rintro ⟨error, herror, rfl⟩
    cases unparsable_iff.2 ⟨error, herror⟩ with
    | unread h =>
        rw [Catalog.parseFile, h] at herror
        cases herror
        exact .unread h
    | notUtf8 h hbytes =>
        simp only [Catalog.parseFile, h, hbytes] at herror
        cases herror
        exact .notUtf8 h hbytes
    | malformed h hbytes hcontent =>
        simp only [Catalog.parseFile, h, hbytes] at herror
        cases hfault : Catalog.firstFaultOf _ with
        | none =>
            rw [Catalog.parse_of_no_fault path hfault] at herror
            cases herror
        | some found =>
            obtain ⟨line, hline, -⟩ := Catalog.firstFaultOf_eq_some_iff.1 hfault
            rw [Catalog.parse_of_fault path hfault] at herror
            cases herror
            exact .malformed h hbytes hline

/-! ### Many files -/

section
variable {files : Files} {suite : Suite σ} {patch : Option Patch.Store} {path : Path}
  {session : Suite.Session σ}

/-- A path without a catalog comes to nothing but its error. -/
theorem fst_checkFile_of_error {error : ParseError}
    (h : Catalog.parseFile files path = .error error) :
    (checkFile files suite patch path session).1 = .unreadable error := by
  rw [checkFile, h]

/-- A path with a catalog comes to the check of this catalog. -/
theorem fst_checkFile_of_ok {catalog : Catalog} (h : Catalog.parseFile files path = .ok catalog) :
    (checkFile files suite patch path session).1 =
      .checked (catalog.check suite patch session).report
        (catalog.check suite patch session).failures := by
  rw [checkFile, h]

end

/-- The check of the files at any paths is put together from the checks of each of them. -/
structure FileByFile (files : Files) (suite : Suite σ) (patch : Option Patch.Store)
    (check : List Path → Outcome) : Prop where
  /-- The issues of two lists are those of the one and then those of the other. -/
  issues : ∀ xs ys severity, (check (xs ++ ys)).report.issuesOf severity =
    (check xs).report.issuesOf severity ++ (check ys).report.issuesOf severity
  /-- Their counts are added up. -/
  counts : ∀ xs ys, (check (xs ++ ys)).filesChecked =
      (check xs).filesChecked + (check ys).filesChecked ∧
    (check (xs ++ ys)).parseErrors = (check xs).parseErrors + (check ys).parseErrors ∧
    (check (xs ++ ys)).failures.length = (check xs).failures.length + (check ys).failures.length
  /-- Every path is counted once. -/
  total : ∀ paths, (check paths).filesChecked + (check paths).parseErrors = paths.length
  /-- Every path contributes what it does alone. -/
  alone : ∀ paths severity, (check paths).report.issuesOf severity =
    paths.flatMap fun path => (check [path]).report.issuesOf severity
  /-- So the order of the paths only decides the order of the issues. -/
  order : ∀ xs ys severity, xs.Perm ys →
    ((check xs).report.issuesOf severity).Perm ((check ys).report.issuesOf severity)
  /-- At a path there is no catalog or there is one. -/
  either : ∀ path, (∃ number, FaultAt files path number) ∨
    ∃ catalog, Catalog.parseFile files path = .ok catalog
  /-- A path without a catalog contributes one error at the line that is to blame, and nothing
  else. -/
  fault : ∀ path number, FaultAt files path number →
    (∃ message, (check [path]).report = ⟨[⟨path, number, ⟨"Parse error", .error, message⟩⟩], []⟩) ∧
      (check [path]).filesChecked = 0 ∧ (check [path]).parseErrors = 1 ∧
      (check [path]).failures = []
  /-- A path with a catalog contributes what comes of the check of this catalog, in any session. -/
  catalog : ∀ path catalog session, Catalog.parseFile files path = .ok catalog →
    (check [path]).report = (catalog.check suite patch session).report ∧
      (check [path]).filesChecked = 1 ∧ (check [path]).parseErrors = 0 ∧
      (check [path]).failures =
        (catalog.check suite patch session).failures.map fun failure => (path, failure)

/-- The issues in the results on two lists of files are those of the one and then those of the
other. -/
theorem issuesOfResults_append (results others : List (Path × FileResult)) (severity : Severity) :
    issuesOfResults (results ++ others) severity =
      issuesOfResults results severity ++ issuesOfResults others severity := List.flatMap_append

/-- **Files are checked one by one**, if no checker works with the engine. -/
theorem fileByFile_checkPaths {suite : Suite σ} (h : suite.WithoutEngine) (files : Files)
    (patch : Option Patch.Store) (session : Suite.Session σ) :
    FileByFile files suite patch fun paths => (checkPaths files suite patch paths session).1 := by
  have hresults : ∀ paths, (checkPaths files suite patch paths session).1.results =
      paths.map fun path => (path, (checkFile files suite patch path session).1) := by
    intro paths
    rw [checkPaths, checkAll_of_withoutEngine h files patch paths session session]
  have halone : ∀ paths severity,
      (checkPaths files suite patch paths session).1.report.issuesOf severity =
        paths.flatMap fun path =>
          (checkPaths files suite patch [path] session).1.report.issuesOf severity := by
    intro paths severity
    simp only [Outcome.issuesOf_report, hresults, issuesOfResults, List.flatMap_map,
      List.flatMap_singleton, List.map_singleton]
  refine ⟨fun xs ys severity => ?issues, fun xs ys => ?counts, fun paths => ?total, halone,
    fun xs ys severity hperm => ?order, fun path => ?either, fun path number hfault => ?fault,
    fun path catalog other hcatalog => ?catalog⟩
  case issues =>
    simp only [Outcome.issuesOf_report, hresults, List.map_append, issuesOfResults_append]
  case counts =>
    simp only [Outcome.filesChecked, Outcome.parseErrors, Outcome.failures, hresults,
      List.map_append, List.countP_append, List.flatMap_append, List.length_append, and_self]
  case total =>
    have hlength : (checkPaths files suite patch paths session).1.results.length =
        paths.length := by rw [hresults, List.length_map]
    rw [← hlength, List.length_eq_countP_add_countP fun entry => entry.2.isChecked]
    exact congrArg _ (List.countP_congr fun entry _ => by simp)
  case order =>
    simp only [halone xs, halone ys]
    exact hperm.flatMap_right _
  case either =>
    cases hparse : Catalog.parseFile files path with
    | error error => exact .inl ⟨error.line, faultAt_iff.2 ⟨error, hparse, rfl⟩⟩
    | ok catalog => exact .inr ⟨catalog, rfl⟩
  case fault =>
    obtain ⟨error, hparse, rfl⟩ := faultAt_iff.1 hfault
    have hresult : (checkPaths files suite patch [path] session).1.results =
        [(path, .unreadable error)] := by
      rw [hresults, List.map_singleton, fst_checkFile_of_error hparse]
    simp only [Outcome.report, Outcome.filesChecked, Outcome.parseErrors, Outcome.failures, hresult]
    exact ⟨⟨error.message, rfl⟩, rfl, rfl, rfl⟩
  case catalog =>
    have hresult : (checkPaths files suite patch [path] session).1.results =
        [(path, .checked (catalog.check suite patch other).report
          (catalog.check suite patch other).failures)] := by
      rw [hresults, List.map_singleton, fst_checkFile_of_ok hcatalog,
        check_of_withoutEngine h patch catalog other session]
    simp only [Outcome.report, Outcome.filesChecked, Outcome.parseErrors, Outcome.failures, hresult,
      List.flatMap_singleton]
    exact ⟨rfl, rfl, rfl, rfl⟩

/-- A directory with a catalog, a file with a malformed line and a file that is not UTF-8. -/
def mixedFiles : Files where
  root := .directory
    (.entry "a.po" (.file "#: a\nmsgid \"x\"\nmsgstr \"y  z\"\n".toUTF8 false)
      (.entry "b.po" (.file "#: b\nmsgid x\n".toUTF8 false)
        (.entry "c.po" (.file ⟨#[0xE9]⟩ false) .empty)))
  working := []

/-- The usual suite without the check of grammar, on paths of every kind. -/
theorem fileByFile_checkPaths_mixed :
    (Suite.standard 79 Glossary.builtin none : Suite Unit).WithoutEngine ∧
      FaultAt mixedFiles ⟨"b.po"⟩ 2 ∧ FaultAt mixedFiles ⟨"c.po"⟩ 0 ∧
      FaultAt mixedFiles ⟨"d.po"⟩ 0 ∧
      FileByFile mixedFiles (Suite.standard 79 Glossary.builtin none : Suite Unit) none
        fun paths => (checkPaths mixedFiles (Suite.standard 79 Glossary.builtin none) none paths
          { state := () }).1 :=
  have h : (Suite.standard 79 Glossary.builtin none : Suite Unit).WithoutEngine :=
    Suite.withoutEngine_standard 79 Glossary.builtin
  ⟨h, faultAt_iff.2 ⟨.malformed ⟨"b.po"⟩ 2 (.notQuoted "msgid x"), by decide +kernel, rfl⟩,
    faultAt_iff.2 ⟨.encoding ⟨"c.po"⟩, by decide +kernel, rfl⟩,
    faultAt_iff.2 ⟨.io ⟨"d.po"⟩ .noSuchFile, by decide +kernel, rfl⟩,
    fileByFile_checkPaths h mixedFiles none { state := () }⟩

end CatalogLint
