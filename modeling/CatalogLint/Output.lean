/-
What a run comes to, in words.

People read a listing of the issues, on a terminal perhaps.  Its text is made of pieces, some of
which have a style.  With colours, a piece with a style stands between the control sequence that
turns the style on and the one that turns all styles off; without colours nothing but the text
itself is written.  Programs read a JSON document.

* `CatalogLint.Output.Piece`, `CatalogLint.Output.render` — pieces, and the text they make;
* `CatalogLint.Output.listing` — every issue with its place, and a line with the counts;
* `CatalogLint.Output.allClear` — the line that stands in place of an empty listing;
* `CatalogLint.Output.unparsedWarning`, `CatalogLint.Output.failureWarning` — the lines on files
  that are no catalogs and on checkers that failed;
* `CatalogLint.Output.created`, `CatalogLint.Output.obstacle` — the lines on a file that was made
  and on what kept a command from being carried out;
* `CatalogLint.Issue.encode`, `CatalogLint.Output.document` — an issue as a JSON value, and the
  document.
-/

import CatalogLint.Json.Value
import CatalogLint.Text.Replacement
import CatalogLint.Verdict

set_option autoImplicit false

namespace CatalogLint

namespace Output

/-! ### Pieces -/

/-- What a piece may look like. -/
inductive Style where
  | bold
  | dimmed
  | red
  | green
  | yellow
  | blue
  | cyan
deriving DecidableEq, Repr

/-- The number of the style in a control sequence. -/
def Style.code : Style → Nat
  | bold => 1
  | dimmed => 2
  | red => 31
  | green => 32
  | yellow => 33
  | blue => 34
  | cyan => 36

/-- A piece of a text. -/
structure Piece where
  styles : List Style := []
  text : Text
deriving DecidableEq, Repr

def plain (text : Text) : Piece := { text }

def control (parameters : Text) : Text := '\x1b' :: '[' :: parameters ++ ['m']

/-- The control sequence that turns some styles on. -/
def turnOn (styles : List Style) : Text :=
  control (Text.joinWith ";" (styles.map fun style => Text.decimal style.code))

/-- The control sequence that turns all styles off. -/
def turnOff : Text := control "0"

/-- The piece with colours.  Where its own text turns all styles off, they are turned on again. -/
def Piece.coloured (piece : Piece) : Text :=
  if piece.styles.isEmpty then piece.text
  else
    let on := turnOn piece.styles
    on ++ Text.replaceAll (Text.replacing turnOff (turnOff ++ on)) piece.text ++ turnOff

/-- The text that some pieces make, with or without colours. -/
def render (colours : Bool) (pieces : List Piece) : Text :=
  pieces.flatMap fun piece => if colours then piece.coloured else piece.text

/-! ### For people -/

def successMark : Text := "✓"

def failureMark : Text := "✘"

/-- A noun after a number. -/
def counted (n : Nat) (noun : Text) : Text := if n = 1 then noun else noun ++ "s"

/-- The styles of a severity. -/
def severityStyles : Severity → List Style
  | .error => [.bold, .red]
  | .warning => [.bold, .yellow]

/-- An issue: its severity, its message and its checker, then its place and an empty line. -/
def issueLines (issue : Issue) : List Piece :=
  [⟨severityStyles issue.finding.severity, issue.finding.severity.name⟩,
    plain (": " ++ issue.finding.message ++ "  "),
    ⟨[.dimmed, .cyan], issue.finding.checker⟩,
    plain "\n  ",
    ⟨[.blue], "-->"⟩,
    plain (" " ++ issue.path.text ++ ":" ++ Text.decimal issue.line ++ "\n\n")]

def countLine (errors warnings : Nat) : List Piece :=
  [⟨[.red], failureMark⟩,
    plain (" " ++ Text.decimal (errors + warnings) ++ " problems (" ++ Text.decimal errors ++ " "),
    ⟨[.red], counted errors "error"⟩,
    plain (", " ++ Text.decimal warnings ++ " "),
    ⟨[.yellow], counted warnings "warning"⟩,
    plain ")\n"]

/-- Every issue with its place, and a line with the counts; nothing if there are no issues. -/
def listing (issues : List Issue) : List Piece :=
  if issues.isEmpty then []
  else
    issues.flatMap issueLines ++
      countLine (issues.countP Issue.isError) (issues.countP fun issue => !issue.isError)

def successLine (message : Text) : List Piece :=
  [⟨[.green], successMark⟩, plain " ", ⟨[.green], message⟩, plain "\n"]

/-- The line that stands in place of an empty listing; `isScoped` tells whether a patch set the
scope of the run. -/
def allClear (filesChecked : Nat) (isScoped : Bool) : List Piece :=
  successLine ("Checked " ++ Text.decimal filesChecked ++ " " ++ counted filesChecked "catalog" ++
    (if isScoped then " (changed entries only)" else "") ++ " - no issues found")

/-- A warning with a count, unless the count is zero. -/
def countWarning (n : Nat) (message : Text) : List Piece :=
  if n = 0 then []
  else [⟨[.bold, .yellow], "warning:"⟩, plain (" " ++ Text.decimal n ++ " " ++ message ++ "\n")]

/-- The line on files that are no catalogs. -/
def unparsedWarning (n : Nat) : List Piece := countWarning n "file(s) could not be parsed"

/-- The line on checkers that failed. -/
def failureWarning (n : Nat) : List Piece :=
  countWarning n "checker run(s) failed and were skipped"

/-- The line on a file that was made. -/
def created (file : Text) : List Piece := successLine ("Created " ++ file)

/-- The line on what kept a command from being carried out. -/
def obstacle (reason : Text) : List Piece :=
  [⟨[.bold, .red], "error:"⟩, plain (" " ++ reason ++ "\n")]

end Output

/-! ### For programs -/

def Issue.encode (issue : Issue) : Json.Value :=
  .ofMembers [("filePath", .ofText issue.path.text), ("line", .natural issue.line),
    ("checker", .ofText issue.finding.checker),
    ("severity", .ofText issue.finding.severity.name),
    ("message", .ofText issue.finding.message)]

/-- The counts and the issues of a run as a JSON value. -/
def Verdict.encode (verdict : Verdict) (filesChecked : Nat) : Json.Value :=
  .ofMembers [("filesChecked", .natural filesChecked),
    ("errorCount", .natural verdict.errorCount), ("warningCount", .natural verdict.warningCount),
    ("issues", .array (verdict.issues.map Issue.encode))]

/-- The counts and the issues of a run as a JSON document. -/
def Output.document (verdict : Verdict) (filesChecked : Nat) : Text :=
  (verdict.encode filesChecked).pretty ++ "\n"

end CatalogLint
