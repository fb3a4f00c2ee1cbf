/-
Hunks of a unified diff.

A hunk header gives a range of lines in the old file and one in the new file, by numbers of 64 bits.
A hunk carries some unchanged lines on both sides for context; the lines it changes are those
between the two contexts.

* `CatalogLint.Patch.Hunk`, `CatalogLint.Patch.Hunk.parse` — a hunk header and its reading;
* `CatalogLint.Patch.Hunk.changed` — the lines of the new file that the hunk changes;
* `CatalogLint.Patch.hunks` — the hunk headers of the diff of one file;
* `CatalogLint.Patch.LineRange.meets` — whether a range of lines has a line of another one.
-/

import CatalogLint.Text.Class
import CatalogLint.Text.Lines

set_option autoImplicit false

namespace CatalogLint.Patch

/-- The number of unchanged lines on each side of a hunk. -/
def contextLines : Nat := 3

/-- The lines from `first` up to, but not including, `stop`. -/
structure LineRange where
  first : Nat
  /-- The line after the last one. -/
  stop : Nat
deriving DecidableEq, Repr

/-- Whether some line of the range lies between the two given lines, both included. -/
def LineRange.meets (range : LineRange) (first last : Nat) : Bool :=
  max range.first first < range.stop && max range.first first ≤ last

/-- A hunk header: where the hunk starts in the old and in the new file, and how many lines it has
there. -/
structure Hunk where
  oldStart : Nat
  oldLength : Nat
  newStart : Nat
  newLength : Nat
deriving DecidableEq, Repr

namespace Hunk

/-- The number at the beginning of the text, with the rest: a run of digits, all of them ASCII. -/
def number? (text : Text) : Option (Nat × Text) :=
  let digits := text.takeWhile Text.isDecimalDigit
  match Text.natural? digits with
  | some n => if n < wordBound then some (n, text.drop digits.length) else none
  | none => none

/-- A comma and a number, or the number one if they are left out. -/
def length? : Text → Option (Nat × Text)
  | ',' :: text =>
    if text.head?.any Text.isDecimalDigit then number? text else some (1, ',' :: text)
  | text => some (1, text)

/-- The rest of the text after its blanks, of which there has to be one. -/
def blanks? (text : Text) : Option Text :=
  if text.head?.any Text.isBlank then some (Text.trimStart text) else none

/-- The hunk that a line describes, such as `@@ -10,5 +20,9 @@`; anything may follow. -/
def parse (line : Text) : Option Hunk := do
  let rest ← Text.dropStart? "@@" line
  let rest ← Text.dropStart? "-" (Text.trimStart rest)
  let (oldStart, rest) ← number? rest
  let (oldLength, rest) ← length? rest
  let rest ← Text.dropStart? "+" (← blanks? rest)
  let (newStart, rest) ← number? rest
  let (newLength, rest) ← length? rest
  let _ ← Text.dropStart? "@@" (← blanks? rest)
  some ⟨oldStart, oldLength, newStart, newLength⟩

/-- The lines of the new file between the two contexts of the hunk. -/
def changed (hunk : Hunk) : LineRange :=
  let first := wordSum hunk.newStart contextLines
  ⟨first, max first (wordSum hunk.newStart hunk.newLength - contextLines)⟩

end Hunk

/-- The hunk headers of the diff of one file, in order. -/
def hunks (diff : Text) : List Hunk := (Text.lines diff).filterMap Hunk.parse

end CatalogLint.Patch
