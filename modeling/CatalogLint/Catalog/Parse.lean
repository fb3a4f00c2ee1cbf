/-
Reading a catalog file.

Every reference comment opens an entry, which extends to the line before the next reference comment
or to the end of the file.  Lines before the first reference comment are the header and belong to no
entry.  So a file is a header and a list of blocks, and each block is read by itself.

* `CatalogLint.Catalog.Block`, `CatalogLint.Catalog.blocks` — the lines of a file, cut at its
  reference comments;
* `CatalogLint.Catalog.strings` — the quoted texts of a block, each with the string it belongs to;
* `CatalogLint.Catalog.Block.read` — the entry of a block, or its first line at fault;
* `CatalogLint.Catalog`, `CatalogLint.Catalog.parse` — a catalog, and the reading of a file;
* `CatalogLint.ParseError` — why a file is no catalog.
-/

import CatalogLint.Catalog.Entry
import CatalogLint.Catalog.Line
import CatalogLint.Files
import CatalogLint.Text.Lines

set_option autoImplicit false

namespace CatalogLint

/-- A catalog: the path of its file and its entries, in the order of the file. -/
structure Catalog where
  path : Path
  entries : List TrackedEntry
deriving DecidableEq, Repr

/-- Why a file is no catalog. -/
inductive ParseError where
  | io (path : Path) (error : IoError)
  | encoding (path : Path)
  | malformed (path : Path) (line : Nat) (fault : Catalog.Fault)
deriving DecidableEq, Repr

def ParseError.message : ParseError → Text
  | io path error => "failed to read catalog " ++ path.quoted ++ ": " ++ error.message
  | encoding path => "catalog " ++ path.quoted ++ " is not valid UTF-8"
  | malformed path line fault =>
    path.quoted ++ ":" ++ Text.decimal line ++ ": " ++ fault.reason

namespace Catalog

/-- A reference comment with the lines up to the next one. -/
structure Block where
  /-- The number of the line with the reference comment. -/
  firstLine : Nat
  reference : Text
  body : List Line
deriving DecidableEq, Repr

/-- The lines before the first reference comment, and the blocks; `number` is the number of the
first line. -/
def blocks (number : Nat) : List Line → List Line × List Block
  | [] => ([], [])
  | line :: lines =>
    let (body, rest) := blocks (number + 1) lines
    match line with
    | .reference place => ([], ⟨number, place, body⟩ :: rest)
    | line => (line :: body, rest)

/-- The first line at fault, with its number; `number` is the number of the first line. -/
def firstFault (number : Nat) : List Line → Option (Nat × Fault)
  | [] => none
  | line :: lines =>
    match line.fault? with
    | some fault => some (number, fault)
    | none => firstFault (number + 1) lines

/-- The quoted texts of some lines, each with the string it belongs to; `field` is the string that
is open before the first line. -/
def strings (field : Field) : List Line → List (Field × Text)
  | [] => []
  | .keyword field text :: lines => (field, text) :: strings field lines
  | .string text :: lines => (field, text) :: strings field lines
  | _ :: lines => strings field lines

/-- The quoted texts of a block that belong to one string. -/
def Block.segments (block : Block) (field : Field) : List Text :=
  ((strings .unopened block.body).filter fun (owner, _) => owner = field).map fun (_, text) => text

/-- The entry that a block describes. -/
def Block.entry (block : Block) : Entry where
  reference := block.reference
  firstLine := block.firstLine
  lastLine := block.firstLine + block.body.length
  source := block.segments .source
  target := block.segments .target
  fuzzy := block.body.any Line.marksFuzzy
  comments := block.body.filterMap Line.comment?

/-- The entry of a block, or its first line at fault. -/
def Block.read (block : Block) : Except (Nat × Fault) Entry :=
  match firstFault (block.firstLine + 1) block.body with
  | some fault => .error fault
  | none => .ok block.entry

/-- The content without the byte order mark it may begin with. -/
def dropByteOrderMark : Text → Text
  | '\uFEFF' :: content => content
  | content => content

/-- The entries of a file's content, or its first line at fault. -/
def readEntries (content : Text) : Except (Nat × Fault) (List Entry) :=
  (blocks 1 ((Text.lines (dropByteOrderMark content)).map Line.ofText)).2.mapM Block.read

def parse (path : Path) (content : Text) : Except ParseError Catalog :=
  match readEntries content with
  | .ok entries => .ok ⟨path, entries.map fun entry => { entry }⟩
  | .error (line, fault) => .error (.malformed path line fault)

def parseFile (files : Files) (path : Path) : Except ParseError Catalog :=
  match files.read path with
  | .error error => .error (.io path error)
  | .ok bytes =>
    match Files.textOf? bytes with
    | none => .error (.encoding path)
    | some content => parse path content

/-- The entries as the file has them. -/
def plainEntries (catalog : Catalog) : List Entry := catalog.entries.map TrackedEntry.entry

def findingCount (catalog : Catalog) : Nat :=
  (catalog.entries.flatMap TrackedEntry.findings).length

/-- The catalog with further findings for its entries, given entry by entry. -/
def add (catalog : Catalog) (findings : List (List Finding)) : Catalog :=
  { catalog with entries := List.zipWith TrackedEntry.add catalog.entries findings }

end Catalog

end CatalogLint
