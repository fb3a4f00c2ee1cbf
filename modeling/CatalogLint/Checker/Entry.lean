/-
Checks that look at one entry at a time.

Some of them look at the plain form of the texts of an entry, in which markup is left out.  A
segment of a target text stands on a line of its own between two quotes, which count as part of the
line. Terms of the glossary are looked for in the plain form of the source text, outside quoted
spans, and their equivalents in the target text as it is written.

* `CatalogLint.Checker.DoubleSpace.findings` — a warning for each maximal run of two or more blanks
  in the target text;
* `CatalogLint.Checker.Untranslated.findings` — a warning if there is a source text and no target
  text;
* `CatalogLint.Checker.Fuzzy.findings` — a warning if the target text is marked as unsure;
* `CatalogLint.Checker.LineLength.findings` — an error for each segment of the target text that does
  not fit on its line;
* `CatalogLint.Checker.GlossaryUse.findings` — a warning for each term of the glossary that is not
  translated as agreed.
-/

import CatalogLint.Catalog.Entry
import CatalogLint.Glossary
import CatalogLint.Markup.Span
import CatalogLint.Text.Window

set_option autoImplicit false

namespace CatalogLint.Checker.DoubleSpace

def name : Text := "Double space"

/-- The number of characters shown on each side of a run. -/
def contextWidth : Nat := 30

/-- A run of two or more blanks. -/
def run : Text.Recogniser := fun text =>
  let length := (text.takeWhile Text.isBlank).length
  if 2 ≤ length then some length else none

/-- The maximal runs of two or more blanks in a text. -/
def runs (text : Text) : List Text.Occurrence := Text.occurrences run text

def message (run : Text.Occurrence) : Text :=
  "Double spaces detected between ###" ++ Text.lastChars contextWidth run.before ++
    "### and ###" ++ run.after.take contextWidth ++ "###"

/-- One warning for each run in the plain form of the target text. -/
def findings (entry : Entry) : List Finding :=
  (runs entry.normalizedTarget).map fun run => ⟨name, .warning, message run⟩

end CatalogLint.Checker.DoubleSpace

namespace CatalogLint.Checker.Untranslated

def name : Text := "Empty"

/-- A warning if the entry has a source text and no target text. -/
def findings (entry : Entry) : List Finding :=
  if !entry.sourceText.isEmpty && entry.targetText.isEmpty then
    [⟨name, .warning, "This entry is not translated yet."⟩]
  else []

end CatalogLint.Checker.Untranslated

namespace CatalogLint.Checker.Fuzzy

def name : Text := "Fuzzy"

/-- A warning if the entry is marked. -/
def findings (entry : Entry) : List Finding :=
  if entry.fuzzy then [⟨name, .warning, "This entry is tagged as fuzzy."⟩] else []

end CatalogLint.Checker.Fuzzy

namespace CatalogLint.Checker.LineLength

def name : Text := "Line length"

/-- The number of characters that a segment takes on its line. -/
def lineLength (segment : Text) : Nat := segment.length + 2

/-- What there is to say about a segment that does not fit into `limit` characters. -/
def message (limit : Nat) (segment : Text) : Text :=
  "Line too long (" ++ Text.decimal (lineLength segment) ++ " > " ++ Text.decimal limit ++ "): " ++
    segment

/-- An error for each segment of the target text that does not fit into `limit` characters. -/
def findings (limit : Nat) (entry : Entry) : List Finding :=
  (entry.target.filter fun segment => limit < lineLength segment).map fun segment =>
    ⟨name, .error, message limit segment⟩

end CatalogLint.Checker.LineLength

namespace CatalogLint.Checker.GlossaryUse

def name : Text := "Glossary"

/-- The terms of the glossary that occur in `source` and are not translated as agreed in
`target`. -/
def untranslated (glossary : Glossary) (source target : Text) : List Glossary.Term :=
  glossary.terms.filter fun term => term.foundIn source && !term.translatedIn target

/-- What there is to say about such a term. -/
def message (term : Glossary.Term) (target : Text) : Text :=
  "Found " ++ term.name ++ " that is not translated in " ++ Text.alternatives term.equivalents ++
    " in ###" ++ target ++ "###."

/-- One warning for each term that is not translated as agreed; an entry without a target text has
none. -/
def findings (glossary : Glossary) (entry : Entry) : List Finding :=
  let target := entry.targetText
  if target.isEmpty then []
  else
    let source := Markup.stripQuoted entry.normalizedSource
    (untranslated glossary source target).map fun term =>
      ⟨name, .warning, message term target⟩

end CatalogLint.Checker.GlossaryUse
