/-
Non-breakable spaces around French punctuation.

French typography wants a non-breakable space on the inside of guillemets and before the high signs
`? ! : ;`.  Guillemets are looked at in the plain form of the target text.  Signs are looked for
with quoted spans blanked out and the colons of addresses escaped, both of which keep every
character at its place; what is shown of the text around a sign comes from the plain form itself.

* `CatalogLint.Checker.Spacing.openingErrors`, `CatalogLint.Checker.Spacing.closingErrors` —
  guillemets without a non-breakable space on their inside;
* `CatalogLint.Checker.Spacing.UnspacedSign` — a sign without a non-breakable space before it;
* `CatalogLint.Checker.Spacing.isSuppressed` — the signs that are none of our business;
* `CatalogLint.Checker.Spacing.findings` — one error for each badly spaced guillemet or sign.
-/

import CatalogLint.Catalog.Entry
import CatalogLint.Markup.Span
import CatalogLint.Text.Window

set_option autoImplicit false

namespace CatalogLint.Checker.Spacing

def name : Text := "NBSP"

def contextWidth : Nat := 30

/-- An opening guillemet before anything but a non-breakable space. -/
def badOpening : Text.Recogniser
  | '«' :: c :: _ => if Text.isNonBreaking c then none else some 2
  | _ => none

/-- A closing guillemet after anything but a non-breakable space. -/
def badClosing : Text.Recogniser
  | c :: '»' :: _ => if Text.isNonBreaking c then none else some 2
  | _ => none

def guillemetMessage (found : Text.Occurrence) : Text :=
  "Space should be replaced with a non-breakable space in \"" ++ found.matched ++
    "\": between ###" ++ Text.lastChars contextWidth found.before ++ "### and ###" ++
    found.after.take contextWidth ++ "###"

/-- Opening guillemets without a non-breakable space. -/
def openingErrors (text : Text) : List Text.Occurrence := Text.occurrences badOpening text

/-- Closing guillemets without a non-breakable space. -/
def closingErrors (text : Text) : List Text.Occurrence := Text.occurrences badClosing text

/-- The signs that want a space before them, in the order in which they are looked for. -/
def signs : List Char := ['?', '!', ':', ';']

/-- A sign after anything but a non-breakable space. -/
def badSign (sign : Char) : Text.Recogniser
  | c :: s :: _ => if s = sign && !Text.isNonBreaking c then some 2 else none
  | _ => none

/-- The text with the colons of the addresses of web pages escaped, character for character. -/
def escapeAddresses (text : Text) : Text :=
  Text.replaceAll (Text.replacing "https://" "https-//")
    (Text.replaceAll (Text.replacing "http://" "http-//") text)

/-- The text in which signs are looked for, which has a character for every character of `text`. -/
def searched (text : Text) : Text := escapeAddresses (Markup.maskQuoted text)

/-- A sign without a non-breakable space before it. -/
structure UnspacedSign where
  sign : Char
  preceding : Char
  /-- What stands before that character. -/
  before : Text
  /-- What stands after the sign. -/
  after : Text
deriving DecidableEq, Repr

namespace UnspacedSign

/-- The sign with the text shown around it. -/
def context (found : UnspacedSign) : Text :=
  found.before ++ found.preceding :: found.sign :: found.after

/-- The sign as the text has it at the place of a match. -/
def at? (text : Text) (sign : Char) (place : Nat) : Option UnspacedSign :=
  text[place]?.map fun preceding =>
    { sign, preceding
      before := Text.slice text (place - contextWidth) place
      after := Text.slice text (place + 2) (place + 2 + contextWidth) }

def message (found : UnspacedSign) : Text :=
  "There should be a non-breakable space before \"" ++ [found.sign] ++ "\": between ###" ++
    found.before ++ [found.preceding] ++ "### and ###" ++ [found.sign] ++ found.after ++ "###"

end UnspacedSign

/-- Whether the sign continues other punctuation, as in `?!`, or a comment of the entry exempts a
term that is shown around it. -/
def isSuppressed (exempt : List Text) (found : UnspacedSign) : Bool :=
  [':', '?', '!', '.'].contains found.preceding ||
    exempt.any fun term => Text.includes found.context term

/-- The signs of one kind without a non-breakable space before them. -/
def signErrors (exempt : List Text) (text : Text) (sign : Char) : List UnspacedSign :=
  ((Text.occurrences (badSign sign) (searched text)).filterMap fun found =>
    UnspacedSign.at? text sign found.before.length).filter fun found => !isSuppressed exempt found

/-- One error for each badly spaced guillemet or sign: opening guillemets come first, then closing
ones, then the signs, kind by kind. -/
def findings (entry : Entry) : List Finding :=
  let text := entry.normalizedTarget
  let messages :=
    (openingErrors text ++ closingErrors text).map guillemetMessage ++
      (signs.flatMap (signErrors entry.exemptTerms text)).map UnspacedSign.message
  messages.map fun message => ⟨name, .error, message⟩

end CatalogLint.Checker.Spacing
