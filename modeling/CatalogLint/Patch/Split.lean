/-
The files of a patch.

A patch has a section for each file: header lines, a line `+++` with the file's new name, and hunks.
The numbers in a hunk header say how many lines of the old and of the new file its body has, so a
line of a body is never taken for a header, whatever it looks like.  A file that the patch deletes
has no lines to look at and is left out.

* `CatalogLint.Patch.FilePatch` — the hunks of one file;
* `CatalogLint.Patch.Reader`, `CatalogLint.Patch.Reader.step` — the state between two lines of a
  patch, and what a line does to it;
* `CatalogLint.Patch.split` — the files of a patch.
-/

import CatalogLint.Patch.Hunk

set_option autoImplicit false

namespace CatalogLint.Patch

/-- The hunks of one file. -/
structure FilePatch where
  name : Text
  /-- The lines of the hunks, headers included. -/
  lines : List Text
deriving DecidableEq, Repr

/-- The hunks as a text. -/
def FilePatch.diff (file : FilePatch) : Text := Text.unlines file.lines

/-- What is known between two lines of a patch. -/
structure Reader where
  /-- The files that are complete, the last one first. -/
  finished : List FilePatch := []
  /-- The file that is being read, with its lines in reverse. -/
  current : Option FilePatch := none
  /-- The lines of the old file that the current hunk still has to come. -/
  oldAwaited : Nat := 0
  /-- The lines of the new file that the current hunk still has to come. -/
  newAwaited : Nat := 0
deriving DecidableEq, Repr

namespace Reader

def push (reader : Reader) (line : Text) : Reader :=
  { reader with
    current := reader.current.map fun file => { file with lines := line :: file.lines } }

def finish (reader : Reader) : Reader :=
  match reader.current with
  | none => reader
  | some file =>
    { reader with
      finished := { file with lines := file.lines.reverse } :: reader.finished
      current := none }

/-- The state after a line of a hunk's body. -/
def body (reader : Reader) (line : Text) : Reader :=
  match line.head? with
  | some '+' => { reader with newAwaited := reader.newAwaited - 1 }.push line
  | some '-' => { reader with oldAwaited := reader.oldAwaited - 1 }.push line
  | some '\\' => reader.push line
  | _ =>
    { reader with
      oldAwaited := reader.oldAwaited - 1
      newAwaited := reader.newAwaited - 1 }.push line

/-- The file that a line `+++` names, unless it is deleted.  A time may follow after a tabulator,
and the directory that stands for the new version is dropped. -/
def fileOf? (target : Text) : Option FilePatch :=
  let name := Text.trim (target.takeWhile (· != '\t'))
  if name = "/dev/null" then none
  else some ⟨(Text.dropStart? "b/" name).getD name, []⟩

/-- The state after a line that is outside any hunk's body. -/
def header (reader : Reader) (line : Text) : Reader :=
  match Hunk.parse line with
  | some hunk =>
    { reader with oldAwaited := hunk.oldLength, newAwaited := hunk.newLength }.push line
  | none =>
    match Text.dropStart? "+++ " line with
    | some target => { reader.finish with current := fileOf? target }
    | none =>
      if Text.startsWith line "diff " then reader.finish
      else if Text.startsWith line "\\" then reader.push line
      else reader

/-- The state after a line. -/
def step (reader : Reader) (line : Text) : Reader :=
  if reader.oldAwaited = 0 && reader.newAwaited = 0 then reader.header line else reader.body line

end Reader

def split (patch : Text) : List FilePatch :=
  ((Text.lines patch).foldl Reader.step {}).finish.finished.reverse

end CatalogLint.Patch
