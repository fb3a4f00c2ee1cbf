/-
What a run comes to.

The issues of a report are put in the order of their places.  Issues at one place keep their order,
the errors before the warnings.  Only errors make a run fail.

* `CatalogLint.Issue.isAtOrBefore` — the order of places;
* `CatalogLint.Verdict`, `CatalogLint.Report.verdict` — the issues in order, and those of a report;
* `CatalogLint.Verdict.errorCount`, `CatalogLint.Verdict.warningCount`,
  `CatalogLint.Verdict.status` — the counts, and whether the run fails.
-/

import CatalogLint.Report

set_option autoImplicit false

namespace CatalogLint

/-- The order of the places of issues: by path, then by line. -/
def Issue.comparePlaces (a b : Issue) : Ordering :=
  (Text.compare a.path.text b.path.text).then (compare a.line b.line)

/-- Whether the place of `a` is that of `b` or comes before it. -/
def Issue.isAtOrBefore (a b : Issue) : Bool := (a.comparePlaces b).isLE

/-- How a run ends. -/
inductive Status where
  | success
  | failure
  /-- The run could not be carried out. -/
  | abort
deriving DecidableEq, Repr

/-- The number by which a program tells how its run ended. -/
def Status.code : Status → Nat
  | success => 0
  | failure => 1
  | abort => 2

/-- What a run comes to. -/
structure Verdict where
  issues : List Issue
  /-- What kept the command from being carried out, if anything did; it counts as one more error. -/
  obstacle : Option Text := none
deriving DecidableEq, Repr

def Report.verdict (report : Report) (obstacle : Option Text) : Verdict where
  issues := (report.errors ++ report.warnings).mergeSort Issue.isAtOrBefore
  obstacle := obstacle

namespace Verdict

def errorCount (verdict : Verdict) : Nat :=
  verdict.issues.countP Issue.isError + if verdict.obstacle.isSome then 1 else 0

def warningCount (verdict : Verdict) : Nat := verdict.issues.countP fun issue => !issue.isError

def status (verdict : Verdict) : Status := if 0 < verdict.errorCount then .failure else .success

end Verdict

end CatalogLint
