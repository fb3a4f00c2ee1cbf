/-
**The two outputs of a check agree.**

People get a listing of the issues with a line of counts below it, programs get a JSON document.
The counts are made at different places: the document shows those of the verdict, the listing counts
its issues again, and the report that both come from keeps errors and warnings apart.  All of them
are the same numbers.  The document is read back with every issue as it was, and the listing shows
the same issues in the same order, each with all of its five parts.

Main definitions:

* `CatalogLint.Issue.ShownBy` — a JSON value has the five fields of an issue;
* `CatalogLint.Output.issueText`, `CatalogLint.Output.countText` — what a listing has on an issue,
  and its last line;
* `CatalogLint.Output.Agree` — the two outputs of a verdict agree with each other and with the
  report.

Main results:

* `CatalogLint.Output.exists_document_eq` — **a document is read back, with its counts and issues**;
* `CatalogLint.Output.issueText_false` — without colours, an issue is shown by its five parts;
* `CatalogLint.Output.styled_true` — with colours, control sequences stand around some of them;
* `CatalogLint.Output.render_listing` — **a listing shows the issues one by one, and the counts**;
* `CatalogLint.Output.getLast?_lines_listing` — the counts are in its last line;
* `CatalogLint.Output.agree_checkPaths` — **the two outputs of a check agree**.
-/

import CatalogLint.Output
import CatalogLint.Proofs.Catalog.Composition
import CatalogLint.Proofs.Json.Record
import CatalogLint.Proofs.Report.Tally
import Mathlib.Data.List.Forall2

set_option autoImplicit false

namespace CatalogLint

/-! ### The document -/

/-- A JSON value has the five fields of an issue. -/
def Issue.ShownBy (issue : Issue) (value : Json.Value) : Prop :=
  Json.fields ["filePath", "line", "checker", "severity", "message"] value =
    some [some (.ofText issue.path.text), some (.natural issue.line),
      some (.ofText issue.finding.checker), some (.ofText issue.finding.severity.name),
      some (.ofText issue.finding.message)]

theorem Issue.shownBy_encode (issue : Issue) : issue.ShownBy issue.encode := by
  have hnodup : (["filePath", "line", "checker", "severity", "message"] : List Text).Nodup := by
    decide
  exact @Json.fields_ofMembers _ [_, _, _, _, _] hnodup rfl

theorem Issue.proper_encode (issue : Issue) : issue.encode.Proper := by
  refine Json.proper_ofMembers ?_
  simp only [List.forall_mem_cons]
  exact ⟨Json.proper_ofText _, .natural _, Json.proper_ofText _, Json.proper_ofText _,
    Json.proper_ofText _, List.forall_mem_nil _⟩

theorem Verdict.proper_encode (verdict : Verdict) (filesChecked : Nat) :
    (verdict.encode filesChecked).Proper := by
  have hissues : ∀ item ∈ verdict.issues.map Issue.encode, item.Proper :=
    List.forall_mem_map.2 fun issue _ => issue.proper_encode
  refine Json.proper_ofMembers ?_
  simp only [List.forall_mem_cons]
  exact ⟨.natural _, .natural _, .natural _, .array hissues, List.forall_mem_nil _⟩

namespace Output

/-- The line end of a document is no part of its value. -/
theorem spells_document (verdict : Verdict) (filesChecked : Nat) :
    Json.Spells (verdict.encode filesChecked) (document verdict filesChecked) := by
  have hbare := (verdict.proper_encode filesChecked).spellsBare_prettyAt 0
  have hspaced := Json.Spells.spaced Json.isBlank_nil hbare (Json.isBlank_newline 0)
  rw [List.nil_append] at hspaced
  exact hspaced

/-- **A document is read back, with its counts and issues.** -/
theorem exists_document_eq (verdict : Verdict) (filesChecked : Nat) :
    ∃ value items, Json.parse (document verdict filesChecked) = some value ∧
      Json.fields ["filesChecked", "errorCount", "warningCount", "issues"] value =
        some [some (.natural filesChecked), some (.natural verdict.errorCount),
          some (.natural verdict.warningCount), some (.array items)] ∧
      List.Forall₂ Issue.ShownBy verdict.issues items := by
  have hnodup : (["filesChecked", "errorCount", "warningCount", "issues"] : List Text).Nodup := by
    decide
  refine ⟨verdict.encode filesChecked, verdict.issues.map Issue.encode,
    Json.parse_of_spells (spells_document verdict filesChecked),
    @Json.fields_ofMembers _ [_, _, _, _] hnodup rfl, ?_⟩
  rw [List.forall₂_map_right_iff, List.forall₂_same]
  exact fun issue _ => issue.shownBy_encode

/-! ### The listing -/

/-- A text in some styles. -/
def styled (colours : Bool) (styles : List Style) (text : Text) : Text :=
  render colours [⟨styles, text⟩]

/-- What a listing has on an issue. -/
def issueText (colours : Bool) (issue : Issue) : Text :=
  styled colours (severityStyles issue.finding.severity) issue.finding.severity.name ++ ": " ++
    issue.finding.message ++ "  " ++ styled colours [.dimmed, .cyan] issue.finding.checker ++
    "\n  " ++ styled colours [.blue] "-->" ++ " " ++ issue.path.text ++ ":" ++
    Text.decimal issue.line ++ "\n\n"

/-- The last line of a listing. -/
def countText (colours : Bool) (errors warnings : Nat) : Text :=
  styled colours [.red] "✘" ++ " " ++ Text.decimal (errors + warnings) ++ " problems (" ++
    Text.decimal errors ++ " " ++ styled colours [.red] (counted errors "error") ++ ", " ++
    Text.decimal warnings ++ " " ++ styled colours [.yellow] (counted warnings "warning") ++ ")"

section
variable (colours : Bool)

theorem render_append (pieces more : List Piece) :
    render colours (pieces ++ more) = render colours pieces ++ render colours more :=
  List.flatMap_append

theorem render_cons (piece : Piece) (pieces : List Piece) :
    render colours (piece :: pieces) =
      styled colours piece.styles piece.text ++ render colours pieces :=
  render_append colours [piece] pieces

theorem styled_nil (text : Text) : styled colours [] text = text := by
  cases colours <;> exact List.append_nil _

/-- Without colours, no style makes a difference. -/
theorem styled_false (styles : List Style) (text : Text) : styled false styles text = text :=
  List.append_nil text

/-- With colours, a text stands between two control sequences, unless it has some of its own. -/
theorem styled_true {styles : List Style} (hne : styles ≠ []) {text : Text} (h : '\x1b' ∉ text) :
    styled true styles text = turnOn styles ++ text ++ turnOff := by
  have hsame : Text.replaceAll (Text.replacing turnOff (turnOff ++ turnOn styles)) text = text := by
    refine Text.replaceAll_eq_self fun rest hrest => ?_
    rw [Text.replacing, Option.map_eq_none_iff, Option.eq_none_iff_forall_ne_some]
    intro behind hbehind
    rw [Text.dropStart?_eq_some_iff] at hbehind
    exact h (hrest.subset (hbehind ▸ List.mem_append_left behind (by decide)))
  rw [styled, render, List.flatMap_singleton, if_pos rfl, Piece.coloured,
    if_neg (by simpa using hne)]
  dsimp only
  rw [hsame]

/-- **Without colours, an issue is shown by its five parts**, with marks between them. -/
theorem issueText_false (issue : Issue) :
    issueText false issue = issue.finding.severity.name ++ ": " ++ issue.finding.message ++ "  " ++
      issue.finding.checker ++ "\n  --> " ++ issue.path.text ++ ":" ++ Text.decimal issue.line ++
      "\n\n" := by
  simp only [issueText, styled_false, List.append_assoc]
  rfl

theorem render_issueLines (issue : Issue) :
    render colours (issueLines issue) = issueText colours issue := by
  unfold issueLines issueText plain
  simp only [render_cons, styled_nil, List.append_assoc]
  rw [render, List.flatMap_nil, List.append_nil]

theorem render_countLine (errors warnings : Nat) :
    render colours (countLine errors warnings) =
      Text.unlines [countText colours errors warnings] := by
  unfold countLine countText plain
  simp only [render_cons, styled_nil, Text.unlines, List.flatMap_singleton, List.append_assoc]
  rw [render, List.flatMap_nil]
  rfl

variable {issues : List Issue}

/-- **A listing shows the issues one by one, and the counts.** -/
theorem render_listing (hne : issues ≠ []) :
    render colours (listing issues) = issues.flatMap (issueText colours) ++
      Text.unlines [countText colours (issues.countP Issue.isError)
        (issues.countP fun issue => !issue.isError)] := by
  have hissues : render colours (issues.flatMap issueLines) =
      issues.flatMap (issueText colours) := by
    rw [render, List.flatMap_assoc]
    exact List.flatMap_congr fun issue _ => render_issueLines colours issue
  rw [listing, if_neg (by simpa using hne), render_append, hissues, render_countLine]

theorem render_listing_eq_nil_iff : render colours (listing issues) = [] ↔ issues = [] := by
  constructor
  · intro h
    by_contra hne
    rw [render_listing colours hne] at h
    simp [Text.unlines] at h
  · rintro rfl
    rfl

/-- An issue is shown on lines of its own. -/
theorem getLast?_issueText (issue : Issue) : (issueText colours issue).getLast? = some '\n' := by
  rw [issueText, List.getLast?_append]
  rfl

theorem endsLine_flatMap_issueText (issues : List Issue) :
    Text.EndsLine (issues.flatMap (issueText colours)) := by
  rcases List.eq_nil_or_concat issues with rfl | ⟨front, last, rfl⟩
  · exact .inl rfl
  · right
    rw [List.concat_eq_append, List.flatMap_append, List.flatMap_singleton, List.getLast?_append,
      getLast?_issueText, Option.some_or]

theorem newline_not_mem_countText (errors warnings : Nat) :
    '\n' ∉ countText colours errors warnings := by
  have hdecimal (n : Nat) : '\n' ∉ Text.decimal n := fun hmem =>
    absurd ((Json.isDigits_decimal n).all _ hmem) (by decide)
  have hmark : '\n' ∉ styled colours [.red] "✘" := by cases colours <;> decide
  have herrors : '\n' ∉ styled colours [.red] (counted errors "error") := by
    rw [counted]
    split <;> cases colours <;> decide
  have hwarnings : '\n' ∉ styled colours [.yellow] (counted warnings "warning") := by
    rw [counted]
    split <;> cases colours <;> decide
  simp only [countText, List.mem_append, not_or, hdecimal, hmark, herrors, hwarnings,
    not_false_eq_true, and_true, true_and]
  decide

theorem getLast?_countText (errors warnings : Nat) :
    (countText colours errors warnings).getLast? = some ')' := by
  rw [countText, List.getLast?_append]
  rfl

/-- **The counts are in the last line of a listing.** -/
theorem getLast?_lines_listing (hne : issues ≠ []) :
    (Text.lines (render colours (listing issues))).getLast? =
      some (countText colours (issues.countP Issue.isError)
        (issues.countP fun issue => !issue.isError)) := by
  have hline (errors warnings : Nat) :
      Text.lines (Text.unlines [countText colours errors warnings]) =
        [countText colours errors warnings] :=
    Text.lines_unlines <| List.forall_mem_singleton.2
      ⟨newline_not_mem_countText colours errors warnings, by rw [getLast?_countText]; decide⟩
  rw [render_listing colours hne, Text.lines_append (endsLine_flatMap_issueText colours issues),
    hline, List.getLast?_append]
  rfl

end

/-! ### Agreement -/

/-- The two outputs of a verdict agree with each other and with the report that the verdict is
on. -/
structure Agree (report : Report) (verdict : Verdict) (filesChecked : Nat) : Prop where
  /-- Every issue of the report stands under its severity. -/
  sorted : report.Sorted
  /-- The verdict counts the errors of the report. -/
  errorCount : verdict.errorCount = report.errors.length
  /-- It counts the warnings of the report. -/
  warningCount : verdict.warningCount = report.warnings.length
  /-- The document is read back with these counts, and with the issues of the verdict. -/
  document : ∃ value items, Json.parse (document verdict filesChecked) = some value ∧
    Json.fields ["filesChecked", "errorCount", "warningCount", "issues"] value =
      some [some (.natural filesChecked), some (.natural report.errors.length),
        some (.natural report.warnings.length), some (.array items)] ∧
    List.Forall₂ Issue.ShownBy verdict.issues items
  /-- The listing shows the issues of the verdict, one by one, before the counts. -/
  listing (colours : Bool) (h : verdict.issues ≠ []) :
    render colours (listing verdict.issues) = verdict.issues.flatMap (issueText colours) ++
      Text.unlines [countText colours report.errors.length report.warnings.length]
  /-- The counts are all of its last line. -/
  lastLine (colours : Bool) (h : verdict.issues ≠ []) :
    (Text.lines (render colours (Output.listing verdict.issues))).getLast? =
      some (countText colours report.errors.length report.warnings.length)
  /-- There is nothing to list exactly if the report is empty. -/
  nothing (colours : Bool) : render colours (Output.listing verdict.issues) = [] ↔
    report.errors = [] ∧ report.warnings = []

/-- The verdict on a sorted report is shown as it is, by both outputs. -/
theorem agree_verdict {report : Report} (hsorted : report.Sorted) (filesChecked : Nat) :
    Agree report (report.verdict none) filesChecked := by
  obtain ⟨herrors, hwarnings⟩ := Report.count_verdict hsorted none
  have herrorCount : (report.verdict none).errorCount = report.errors.length := herrors
  rw [Verdict.warningCount] at hwarnings
  refine ⟨hsorted, herrorCount, hwarnings, ?document, fun colours h => ?listing,
    fun colours h => ?lastLine, fun colours => ?nothing⟩
  case document =>
    obtain ⟨value, items, hparse, hfields, hitems⟩ :=
      exists_document_eq (report.verdict none) filesChecked
    rw [herrorCount, Verdict.warningCount, hwarnings] at hfields
    exact ⟨value, items, hparse, hfields, hitems⟩
  case listing => rw [render_listing colours h, herrors, hwarnings]
  case lastLine => rw [getLast?_lines_listing colours h, herrors, hwarnings]
  case nothing =>
    rw [render_listing_eq_nil_iff, ← List.append_eq_nil_iff]
    have hperm := report.issues_verdict_perm none
    exact ⟨fun h => List.nil_perm.1 (h ▸ hperm), fun h => List.perm_nil.1 (h ▸ hperm)⟩

/-- **The two outputs of a check agree.** -/
theorem agree_checkPaths {σ : Type} (files : Files) (suite : Suite σ) (patch : Option Patch.Store)
    (paths : List Path) (session : Suite.Session σ) (filesChecked : Nat) :
    Agree (checkPaths files suite patch paths session).1.report
      ((checkPaths files suite patch paths session).1.report.verdict none) filesChecked :=
  agree_verdict (sorted_checkPaths files suite patch paths session) filesChecked

end Output

end CatalogLint
