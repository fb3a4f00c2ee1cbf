/-
Quoted spans: French guillemets with a space on the inside of each.

A span runs from an opening guillemet and a blank to the nearest blank and closing guillemet; what
stands between the two blanks has no newline.  The checks must not look into a span, so they either
work on the text without its spans or on the text with their contents blanked out.

* `CatalogLint.Markup.Span` — a quoted span;
* `CatalogLint.Markup.Span.atStart` — the span a text begins with, if there is one;
* `CatalogLint.Markup.maskQuoted` — the text with the contents of its spans blanked out, character
  for character;
* `CatalogLint.Markup.stripQuoted` — the text without its spans.
-/

import CatalogLint.Text.Class
import CatalogLint.Text.Replacement

set_option autoImplicit false

namespace CatalogLint.Markup

/-- The character that blanks out the contents of a span. -/
def placeholder : Char := 'x'

/-- A quoted span: two blanks and what stands between them. -/
structure Span where
  /-- The blank after the opening guillemet. -/
  first : Char
  /-- What stands between the two blanks. -/
  inner : Text
  /-- The blank before the closing guillemet. -/
  last : Char
deriving DecidableEq, Repr

/-- The contents of a span and its second blank, read up to the nearest blank and closing guillemet
on the same line. -/
def Span.close : Text → Option (Text × Char)
  | [] => none
  | c :: text =>
    if Text.isBlank c && text.head? == some '»' then some ([], c)
    else if c = '\n' then none
    else (Span.close text).map fun (inner, last) => (c :: inner, last)

/-- The span that the text begins with. -/
def Span.atStart : Text → Option Span
  | '«' :: first :: text =>
    if Text.isBlank first then (Span.close text).map fun (inner, last) => ⟨first, inner, last⟩
    else none
  | _ => none

/-- The number of characters a span takes: the contents, two blanks and two guillemets. -/
def Span.length (span : Span) : Nat := span.inner.length + 4

def Span.masked (span : Span) : Text :=
  ['«', span.first] ++ List.replicate span.inner.length placeholder ++ [span.last, '»']

/-- The text with the contents of its quoted spans blanked out.  The blanks of a span stay, and so
does the length of the text. -/
def maskQuoted (text : Text) : Text :=
  Text.replaceAll (fun t => (Span.atStart t).map fun span => (span.length, span.masked)) text

/-- The text without its quoted spans. -/
def stripQuoted (text : Text) : Text :=
  Text.replaceAll (fun t => (Span.atStart t).map fun span => (span.length, [])) text

end CatalogLint.Markup
