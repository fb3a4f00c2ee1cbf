/-
Capital and small letters, title case, and texts that are equal but for their case.

The small form of a text depends on context in one place only: a capital sigma at the end of a word
becomes a final sigma.  The capital form of one letter may have several letters.  Folding sends
every character to one representative of its case class, so two texts that are equal but for their
case have the same length.

* `CatalogLint.Text.lowerChar`, `CatalogLint.Text.upperChar` — the small and the capital form of one
  character, as a text;
* `CatalogLint.Text.lower` — the small form of a text;
* `CatalogLint.Text.titleCase` — every run of letters begins with a capital and goes on with small
  letters;
* `CatalogLint.Text.fold` — the representative of a character;
* `CatalogLint.Text.startsWithFolded` — a text begins with another one, but for the case;
* `CatalogLint.Text.equalAscii` — two texts are equal but for the case of ASCII letters.
-/

import CatalogLint.Text.Alphabetic
import CatalogLint.Text.Cased
import CatalogLint.Text.CaseTables

set_option autoImplicit false

namespace CatalogLint.Text

/-! ### Forms -/

/-- The small form of one character.  A capital I with a dot keeps its dot as a combining mark. -/
def lowerChar (c : Char) : Text :=
  if c = '\u0130' then ['i', '\u0307'] else [(CaseRow.lookup lowerRows c).getD c]

/-- The capital form of one character. -/
def upperChar (c : Char) : Text :=
  match longUppers.lookup c.toNat with
  | some letters => letters.map Char.ofNat
  | none => [(CaseRow.lookup upperRows c).getD c]

/-- Whether the nearest character that is not skipped belongs to a case. -/
def leadsToCased (text : Text) : Bool := (text.find? (!isCaseIgnorable ·)).any isCased

/-- The small form of the rest of a text; what precedes the rest is given in reverse. -/
def lowerFrom (reversed : Text) : Text → Text
  | [] => []
  | c :: text =>
    let small :=
      if c = 'Σ' then
        if leadsToCased reversed && !leadsToCased text then ['ς'] else ['σ']
      else lowerChar c
    small ++ lowerFrom (c :: reversed) text

/-- The small form of a text: a capital sigma that ends a word becomes a final sigma, and all other
characters have the form they have alone. -/
def lower (text : Text) : Text := lowerFrom [] text

/-- Title case of the rest of a text, given whether a letter stands right before it. -/
def titleCaseFrom : (afterLetter : Bool) → Text → Text
  | _, [] => []
  | afterLetter, c :: text =>
    (if afterLetter then lowerChar c else upperChar c) ++ titleCaseFrom (isAlphabetic c) text

/-- The text with the first letter of every run of letters as a capital and the others small. -/
def titleCase (text : Text) : Text := titleCaseFrom false text

/-! ### Folding -/

/-- The representative of the character's case class: its small letter, but for a few. -/
def fold (c : Char) : Char :=
  if isRecent c then c
  else
    match CaseRow.lookup foldRows c with
    | some image => image
    | none => (CaseRow.lookup lowerRows c).getD c

/-- Whether the text begins with `start`, but for the case. -/
def startsWithFolded : (text start : Text) → Bool
  | _, [] => true
  | [], _ :: _ => false
  | c :: text, s :: start => fold c == fold s && startsWithFolded text start

/-- Whether two texts are equal but for the case of ASCII letters. -/
def equalAscii (s t : Text) : Bool := s.map Char.toLower == t.map Char.toLower

end CatalogLint.Text
