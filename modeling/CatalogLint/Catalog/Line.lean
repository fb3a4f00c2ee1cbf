/-
The lines of a catalog file, one by one.

What a line means is decided by how it begins, after the blanks at its end are dropped: a reference
comment opens an entry, a keyword opens one of the entry's strings, a quoted string continues the
string that is open, and comments carry flags and remarks.  A line can be at fault by itself; where
it stands does not matter.

* `CatalogLint.Catalog.Field` — the string of an entry that a quoted text belongs to;
* `CatalogLint.Catalog.Fault` — what is wrong with a line;
* `CatalogLint.Catalog.Line`, `CatalogLint.Catalog.Line.ofText` — a line and its reading;
* `CatalogLint.Catalog.unquote` — the content of a quoted string.
-/

import CatalogLint.Text.Class

set_option autoImplicit false

namespace CatalogLint.Catalog

/-- The string of an entry that a quoted text belongs to. -/
inductive Field where
  | unopened
  /-- The context that tells equal source texts apart. -/
  | context
  | source
  | sourcePlural
  /-- The target text, in the singular if there are several forms. -/
  | target
  | otherForm
deriving DecidableEq, Repr

/-- The string that a keyword opens. -/
def Field.ofKeyword? (keyword : Text) : Option Field :=
  if keyword = "msgctxt" then some .context
  else if keyword = "msgid" then some .source
  else if keyword = "msgid_plural" then some .sourcePlural
  else if keyword = "msgstr" || keyword = "msgstr[0]" then some .target
  else if Text.startsWith keyword "msgstr[" then some .otherForm
  else none

/-- What is wrong with a line. -/
inductive Fault where
  /-- A string without its two quotes, in the given line. -/
  | notQuoted (line : Text)
  | unknownKeyword (keyword : Text)
deriving DecidableEq, Repr

def Fault.reason : Fault → Text
  | notQuoted line => "expected a quoted string in \x60" ++ line ++ "\x60"
  | unknownKeyword keyword => "unknown keyword \x60" ++ keyword ++ "\x60"

/-- A line of a catalog file. -/
inductive Line where
  | reference (place : Text)
  | keyword (field : Field) (text : Text)
  /-- A string that continues the one before. -/
  | string (text : Text)
  | flags (list : List Text)
  | comment (text : Text)
  | other
  | faulty (fault : Fault)
deriving DecidableEq, Repr

/-- The content of a quoted string with blanks around it. -/
def unquote (text : Text) : Option Text :=
  (Text.dropStart? ['"'] (Text.trim text)).bind fun inner => Text.dropEnd? ['"'] inner

/-- The reading of a line that begins as a keyword does. -/
def Line.ofKeyword (line : Text) : Line :=
  let (word, rest) := (Text.splitFirst Text.isBlank line).getD (line, [])
  match unquote rest with
  | none => .faulty (.notQuoted line)
  | some text =>
    match Field.ofKeyword? word with
    | some field => .keyword field text
    | none => .faulty (.unknownKeyword word)

/-- The reading of a line without blanks at its end. -/
def Line.ofTrimmed (line : Text) : Line :=
  match Text.dropStart? "#: " line with
  | some place => .reference place
  | none =>
    if Text.startsWith line ['"'] then
      match unquote line with
      | some text => .string text
      | none => .faulty (.notQuoted line)
    else if Text.startsWith line "msg" then .ofKeyword line
    else
      match Text.dropStart? "#," line with
      | some list => .flags (Text.splitOn ',' list)
      | none =>
        if line = "#" then .comment []
        else
          match Text.dropStart? "# " line with
          | some text => .comment text
          | none => .other

def Line.ofText (line : Text) : Line := .ofTrimmed (Text.trimEnd line)

/-- What is wrong with the line, if anything. -/
def Line.fault? : Line → Option Fault
  | faulty fault => some fault
  | _ => none

/-- Whether the line marks the target text as unsure. -/
def Line.marksFuzzy : Line → Bool
  | flags list => list.any fun flag => Text.trim flag = "fuzzy"
  | _ => false

def Line.comment? : Line → Option Text
  | comment text => some text
  | _ => none

end CatalogLint.Catalog
