/-
Findings: what a checker has to say about one entry of a catalog.

* `CatalogLint.Severity` — errors fail a run, warnings inform;
* `CatalogLint.Finding` — a checker's name, a severity and a message;
* `CatalogLint.Finding.display` — a finding on one line, the checker's name centred in its brackets.
-/

import CatalogLint.Text.Basic

set_option autoImplicit false

namespace CatalogLint

/-- How serious a finding is.  Only errors make a run fail. -/
inductive Severity where
  | error
  | warning
deriving DecidableEq, Repr

namespace Severity

def name : Severity → Text
  | error => "error"
  | warning => "warning"

end Severity

/-- What a checker has to say about an entry. -/
structure Finding where
  checker : Text
  severity : Severity
  message : Text
deriving DecidableEq, Repr

namespace Finding

/-- The width in which the checker's name is centred. -/
def nameWidth : Nat := 14

/-- The text in the middle of `width` columns; of an odd number of blanks the last stands behind. -/
def centred (width : Nat) (text : Text) : Text :=
  let blanks := width - text.length
  List.replicate (blanks / 2) ' ' ++ text ++ List.replicate (blanks - blanks / 2) ' '

def display (finding : Finding) : Text :=
  "[" ++ centred nameWidth finding.checker ++ "] " ++ finding.message

end Finding

end CatalogLint
