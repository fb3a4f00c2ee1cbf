/-
The entries of a message catalog.

An entry holds a source text and a target text, which says the same in another language, each as the
segments that stand on separate lines of the file.  What the checks know about it (their findings,
and whether a report shows it) is kept apart from what the file says, so that no check can depend on
another one.

* `CatalogLint.Entry` — an entry as the file has it;
* `CatalogLint.Entry.sourceText`, `CatalogLint.Entry.targetText` — the whole texts;
* `CatalogLint.Entry.exemptTerms` — the terms that a comment exempts from the rule on spaces before
  signs;
* `CatalogLint.TrackedEntry` — an entry with its findings and its scope.
-/

import CatalogLint.Finding
import CatalogLint.Markup.Normal
import CatalogLint.Text.Occurrence

set_option autoImplicit false

namespace CatalogLint

/-- An entry of a catalog, as the file has it. -/
structure Entry where
  /-- Where the source text comes from: the rest of the line that opens the entry. -/
  reference : Text
  /-- The number of the entry's first line, counted from one. -/
  firstLine : Nat
  lastLine : Nat
  source : List Text := []
  target : List Text := []
  fuzzy : Bool := false
  comments : List Text := []
deriving DecidableEq, Repr

namespace Entry

def sourceText (entry : Entry) : Text := entry.source.flatten

def targetText (entry : Entry) : Text := entry.target.flatten

/-- The plain form of the source text. -/
def normalizedSource (entry : Entry) : Text := Markup.normalize entry.sourceText

/-- The plain form of the target text. -/
def normalizedTarget (entry : Entry) : Text := Markup.normalize entry.targetText

/-- What stands before an exempted term in a comment. -/
def exemptionMark : Text := "nbsp-ignore:\x60"

/-- The term exempted at the beginning of a text: what stands between the mark and the next
backquote. -/
def exemption? (text : Text) : Option Text :=
  (Text.dropStart? exemptionMark text).bind fun rest =>
    let term := rest.takeWhile (· != '\x60')
    if !term.isEmpty && term.length < rest.length then some term else none

/-- The terms exempted in one comment, from the left. -/
def exemptTermsOf (comment : Text) : List Text :=
  let length (text : Text) := (exemption? text).map (exemptionMark.length + ·.length + 1)
  (Text.occurrences length comment).map fun mark =>
    (mark.matched.drop exemptionMark.length).dropLast

/-- The terms exempted in the translator's comments. -/
def exemptTerms (entry : Entry) : List Text := entry.comments.flatMap exemptTermsOf

def hasLine (entry : Entry) (line : Nat) : Bool := entry.firstLine ≤ line && line ≤ entry.lastLine

end Entry

/-- An entry with what the checks know about it. -/
structure TrackedEntry where
  entry : Entry
  /-- Whether a report shows the entry. -/
  inScope : Bool := false
  /-- What the checkers found, in the order in which they found it. -/
  findings : List Finding := []
deriving DecidableEq, Repr

def TrackedEntry.add (tracked : TrackedEntry) (findings : List Finding) : TrackedEntry :=
  { tracked with findings := tracked.findings ++ findings }

end CatalogLint
