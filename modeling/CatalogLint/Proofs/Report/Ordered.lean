/-
**The issues of a verdict in order.**

A verdict has the errors of a report followed by its warnings, sorted by their places.  A place is a
path and a line; paths are compared by their bytes, and lines by their numbers.  Sorting moves no
issue past another one of the same place, so at each place the issues stand as they stood in the
report: its errors first, and then its warnings.  Nothing is lost, so that the counts are those of
the report.

Main definitions:

* `CatalogLint.Issue.Before`, `CatalogLint.Issue.isAt` — the order of places, and the issues at a
  place;
* `CatalogLint.Verdict.Arranges` — a verdict has the issues of a report, sorted stably and counted.

Main results:

* `CatalogLint.Issue.comparePlaces_eq_lt_iff` — places are compared by bytes and numbers;
* `CatalogLint.filter_mergeSort` — **sorting leaves elements alone that need no order**;
* `CatalogLint.Report.arranges_verdict` — **the verdict on a report arranges its issues**.
-/

import CatalogLint.Proofs.Report.Tally
import CatalogLint.Proofs.Text.ByteOrder

set_option autoImplicit false

namespace CatalogLint

open Std (TransCmp OrientedCmp)

/-! ### Places -/

namespace Issue

/-- The place of `a` comes before that of `b`: the bytes of its path do, or the paths are the same
and its line does. -/
def Before (a b : Issue) : Prop :=
  Text.bytes a.path.text < Text.bytes b.path.text ∨ a.path = b.path ∧ a.line < b.line

/-- Whether the issue is at a place. -/
def isAt (path : Path) (line : Nat) (issue : Issue) : Bool :=
  issue.path = path && issue.line = line

theorem isAt_iff {path : Path} {line : Nat} {issue : Issue} :
    issue.isAt path line = true ↔ issue.path = path ∧ issue.line = line := by
  simp [isAt]

theorem comparePlaces_eq_eq_iff {a b : Issue} :
    a.comparePlaces b = .eq ↔ a.isAt b.path b.line = true := by
  rw [isAt_iff, comparePlaces, Ordering.then_eq_eq, Text.compare_eq_eq_iff, Nat.compare_eq_eq,
    Path.mk.injEq]

/-- Places are compared by the bytes of their paths and by the numbers of their lines. -/
theorem comparePlaces_eq_lt_iff {a b : Issue} : a.comparePlaces b = .lt ↔ a.Before b := by
  rw [Before, comparePlaces, Ordering.then_eq_lt, Text.compare_eq_lt_iff, Text.compare_eq_eq_iff,
    Nat.compare_eq_lt, Path.mk.injEq]

instance : TransCmp fun a b : Issue => Text.compare a.path.text b.path.text where
  eq_swap := OrientedCmp.eq_swap
  isLE_trans := TransCmp.isLE_trans

instance : TransCmp comparePlaces := by
  rw [show comparePlaces =
    compareLex (fun a b => Text.compare a.path.text b.path.text) (compareOn Issue.line) from rfl]
  infer_instance

theorem isAtOrBefore_iff {a b : Issue} :
    a.isAtOrBefore b = true ↔ a.Before b ∨ a.isAt b.path b.line = true := by
  rw [isAtOrBefore, Ordering.isLE_iff_eq_lt_or_eq_eq, comparePlaces_eq_lt_iff,
    comparePlaces_eq_eq_iff]

theorem isAtOrBefore_trans (a b c : Issue) (hab : a.isAtOrBefore b = true)
    (hbc : b.isAtOrBefore c = true) : a.isAtOrBefore c = true :=
  TransCmp.isLE_trans hab hbc

theorem isAtOrBefore_total (a b : Issue) : (a.isAtOrBefore b || b.isAtOrBefore a) = true := by
  have hswap : a.comparePlaces b = (b.comparePlaces a).swap := OrientedCmp.eq_swap
  rw [isAtOrBefore, isAtOrBefore, hswap]
  cases b.comparePlaces a <;> rfl

/-- Issues of one place need no order. -/
theorem isAtOrBefore_of_isAt {path : Path} {line : Nat} {a b : Issue}
    (ha : a.isAt path line = true) (hb : b.isAt path line = true) : a.isAtOrBefore b = true := by
  obtain ⟨rfl, rfl⟩ := isAt_iff.1 hb
  exact isAtOrBefore_iff.2 (.inr ha)

end Issue

/-! ### Sorting -/

/-- **Sorting leaves elements alone that need no order.** -/
theorem filter_mergeSort {α : Type} {le : α → α → Bool} {p : α → Bool}
    (htrans : ∀ a b c, le a b = true → le b c = true → le a c = true)
    (htotal : ∀ a b, (le a b || le b a) = true)
    (hp : ∀ a b, p a = true → p b = true → le a b = true) (list : List α) :
    (list.mergeSort le).filter p = list.filter p := by
  -- what is kept is in order already, so that it stays a sublist
  have hsorted : (list.filter p).Pairwise fun a b => le a b = true := by
    rw [List.pairwise_filter]
    exact List.pairwise_of_forall fun a b ha hb => hp a b ha hb
  have hsublist : ((list.filter p).filter p).Sublist ((list.mergeSort le).filter p) :=
    (List.sublist_mergeSort htrans htotal hsorted List.filter_sublist).filter p
  simp only [List.filter_filter, Bool.and_self] at hsublist
  exact (hsublist.eq_of_length ((List.mergeSort_perm list le).filter p).length_eq.symm).symm

/-! ### Verdicts -/

/-- A verdict has the issues of a report, sorted by their places and counted. -/
structure Verdict.Arranges (verdict : Verdict) (report : Report) (obstacle : Option Text) :
    Prop where
  /-- The issues are the errors and the warnings of the report. -/
  perm : verdict.issues.Perm (report.errors ++ report.warnings)
  /-- No issue comes before one whose place is earlier. -/
  sorted : verdict.issues.Pairwise fun a b => a.Before b ∨ a.path = b.path ∧ a.line = b.line
  /-- At each place the issues stand as in the report, its errors before its warnings. -/
  stable : ∀ path line, verdict.issues.filter (Issue.isAt path line) =
    report.errors.filter (Issue.isAt path line) ++ report.warnings.filter (Issue.isAt path line)
  /-- The errors are counted, and what kept the command from being carried out is one more. -/
  errorCount : verdict.errorCount =
    (report.errors ++ report.warnings).countP (fun issue => issue.finding.severity = .error) +
      if obstacle.isSome then 1 else 0
  /-- The warnings are counted. -/
  warningCount : verdict.warningCount =
    (report.errors ++ report.warnings).countP fun issue => issue.finding.severity = .warning

/-- **The verdict on a report arranges its issues.** -/
theorem Report.arranges_verdict (report : Report) (obstacle : Option Text) :
    (report.verdict obstacle).Arranges report obstacle := by
  have hperm := report.issues_verdict_perm obstacle
  refine ⟨hperm, ?sorted, fun path line => ?stable, ?errorCount, ?warningCount⟩
  case sorted =>
    have hsorted := List.pairwise_mergeSort Issue.isAtOrBefore_trans Issue.isAtOrBefore_total
      (report.errors ++ report.warnings)
    refine hsorted.imp fun {a b} h => ?_
    exact (Issue.isAtOrBefore_iff.1 h).imp_right Issue.isAt_iff.1
  case stable =>
    rw [← List.filter_append]
    exact filter_mergeSort Issue.isAtOrBefore_trans Issue.isAtOrBefore_total
      (fun a b => Issue.isAtOrBefore_of_isAt) _
  case errorCount =>
    rw [Verdict.errorCount, hperm.countP_eq]
    rfl
  case warningCount =>
    rw [Verdict.warningCount, hperm.countP_eq]
    refine List.countP_congr fun issue _ => ?_
    rw [Issue.isError]
    cases issue.finding.severity <;> decide

end CatalogLint
