/-
Checking files.

Every file is read, checked and reported on by itself.  A file that is no catalog is reported as one
error and does not keep the others from being checked.

* `CatalogLint.Catalog.check` — a catalog with the findings of a suite, and the report on it;
* `CatalogLint.FileResult`, `CatalogLint.checkFile` — what comes of a file;
* `CatalogLint.Outcome`, `CatalogLint.checkPaths` — what comes of many files;
* `CatalogLint.Outcome.report`, `CatalogLint.Outcome.filesChecked`,
  `CatalogLint.Outcome.parseErrors`, `CatalogLint.Outcome.failures` — the report on all of them, and
  the counts.
-/

import CatalogLint.Report
import CatalogLint.Suite

set_option autoImplicit false

namespace CatalogLint

variable {σ : Type}

/-- A catalog that was checked, and the report on it. -/
structure CheckedCatalog (σ : Type) extends SuiteRun σ where
  report : Report

/-- Runs a suite on a catalog and reports on it, with the scope that a patch sets. -/
def Catalog.check (catalog : Catalog) (suite : Suite σ) (patch : Option Patch.Store)
    (session : Suite.Session σ) : CheckedCatalog σ :=
  let run := suite.run catalog session
  { run with catalog := run.catalog.tagScope patch, report := run.catalog.report patch }

/-- What comes of a file. -/
inductive FileResult where
  /-- It is a catalog: the report on it, and the checkers that failed. -/
  | checked (report : Report) (failures : List Failure)
  | unreadable (error : ParseError)
deriving DecidableEq, Repr

/-- The name that the issue of a file that is no catalog carries. -/
def ParseError.checker : Text := "Parse error"

/-- The line at fault, or zero if no line is. -/
def ParseError.line : ParseError → Nat
  | io _ _ => 0
  | encoding _ => 0
  | malformed _ line _ => line

def ParseError.issue (path : Path) (error : ParseError) : Issue :=
  ⟨path, error.line, ⟨checker, .error, error.message⟩⟩

def checkFile (files : Files) (suite : Suite σ) (patch : Option Patch.Store) (path : Path)
    (session : Suite.Session σ) : FileResult × Suite.Session σ :=
  match Catalog.parseFile files path with
  | .error error => (.unreadable error, session)
  | .ok catalog =>
    let checked := catalog.check suite patch session
    (.checked checked.report checked.failures, checked.session)

/-- What comes of many files, in order. -/
structure Outcome where
  /-- The files, each with what comes of it. -/
  results : List (Path × FileResult)
deriving DecidableEq, Repr

def checkAll (files : Files) (suite : Suite σ) (patch : Option Patch.Store) :
    List Path → Suite.Session σ → List (Path × FileResult) × Suite.Session σ
  | [], session => ([], session)
  | path :: paths, session =>
    let (result, session) := checkFile files suite patch path session
    let (results, session) := checkAll files suite patch paths session
    ((path, result) :: results, session)

/-- What comes of the files at some paths. -/
def checkPaths (files : Files) (suite : Suite σ) (patch : Option Patch.Store)
    (paths : List Path) (session : Suite.Session σ) : Outcome × Suite.Session σ :=
  let (results, session) := checkAll files suite patch paths session
  (⟨results⟩, session)

namespace FileResult

def report (path : Path) : FileResult → Report
  | checked report _ => report
  | unreadable error => { errors := [error.issue path] }

def failures : FileResult → List Failure
  | checked _ failures => failures
  | unreadable _ => []

def isChecked : FileResult → Bool
  | checked _ _ => true
  | unreadable _ => false

end FileResult

namespace Outcome

def report (outcome : Outcome) : Report where
  errors := outcome.results.flatMap fun (path, result) => (result.report path).errors
  warnings := outcome.results.flatMap fun (path, result) => (result.report path).warnings

def filesChecked (outcome : Outcome) : Nat :=
  outcome.results.countP fun (_, result) => result.isChecked

def parseErrors (outcome : Outcome) : Nat :=
  outcome.results.countP fun (_, result) => !result.isChecked

def failures (outcome : Outcome) : List (Path × Failure) :=
  outcome.results.flatMap fun (path, result) => result.failures.map fun failure => (path, failure)

end Outcome

end CatalogLint
