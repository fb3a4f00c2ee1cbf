/-
Reports: the findings that are shown.

Checks run on every entry; a patch only decides which entries a report shows.  Without a patch it
shows all of them.  With one, it shows the entries that own a line which the patch changes in the
catalog's file.

A report on a catalog holds the findings of the entries in scope, in the order of the entries and,
within an entry, in the order in which they were found, the errors apart from the warnings.

* `CatalogLint.Entry.isTouched` — whether a hunk changes a line of the entry;
* `CatalogLint.Catalog.tagScope` — the catalog with the scope of its entries set;
* `CatalogLint.Issue` — a finding with the place of its entry;
* `CatalogLint.Report` — errors and warnings;
* `CatalogLint.Catalog.report` — the report on a catalog.
-/

import CatalogLint.Catalog.Parse
import CatalogLint.Patch.Store

set_option autoImplicit false

namespace CatalogLint

/-! ### Scope -/

/-- Whether a hunk changes a line of the entry. -/
def Entry.isTouched (entry : Entry) (hunk : Patch.Hunk) : Bool :=
  hunk.changed.meets entry.firstLine entry.lastLine

/-- Whether a report on the catalog at `path` shows the entry. -/
def Entry.inScopeOf (entry : Entry) (path : Path) : Option Patch.Store → Bool
  | none => true
  | some store => (Patch.hunks (store.diff path)).any entry.isTouched

/-- The catalog with the scope of its entries set by a patch, if there is one. -/
def Catalog.tagScope (catalog : Catalog) (patch : Option Patch.Store) : Catalog :=
  { catalog with
    entries := catalog.entries.map fun tracked =>
      { tracked with inScope := tracked.entry.inScopeOf catalog.path patch } }

/-! ### Reports -/

/-- A finding, located at the first line of its entry. -/
structure Issue where
  path : Path
  line : Nat
  finding : Finding
deriving DecidableEq, Repr

def Issue.isError (issue : Issue) : Bool := issue.finding.severity == .error

/-- Issues, the errors apart from the warnings. -/
structure Report where
  errors : List Issue := []
  warnings : List Issue := []
deriving DecidableEq, Repr

namespace Report

def ofIssues (issues : List Issue) : Report where
  errors := issues.filter Issue.isError
  warnings := issues.filter fun issue => !issue.isError

def isEmpty (report : Report) : Bool := report.errors.isEmpty && report.warnings.isEmpty

end Report

def TrackedEntry.issues (path : Path) (tracked : TrackedEntry) : List Issue :=
  tracked.findings.map fun finding => ⟨path, tracked.entry.firstLine, finding⟩

namespace Catalog

def issues (catalog : Catalog) : List Issue :=
  (catalog.entries.filter TrackedEntry.inScope).flatMap (TrackedEntry.issues catalog.path)

def report (catalog : Catalog) (patch : Option Patch.Store) : Report :=
  Report.ofIssues (catalog.tagScope patch).issues

end Catalog

end CatalogLint
