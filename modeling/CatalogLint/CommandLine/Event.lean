/-
What a run notes while it goes on.

* `CatalogLint.CommandLine.Event` — what is worth a note;
* `CatalogLint.CommandLine.Event.line` — the note on one line.
-/

import CatalogLint.Check
import CatalogLint.Selection

set_option autoImplicit false

namespace CatalogLint.CommandLine

/-- What is worth a note. -/
inductive Event where
  | missing (path : Path)
  | faultyIgnore (pattern : Text) (error : Glob.Error)
  | closed (directory : Path) (error : IoError)
  | emptyPatch (path : Path)
  | unreadable (path : Path) (error : ParseError)
  /-- The engine is missing and is going to be installed. -/
  | installation (program reason : Text)
  | failure (path : Path) (cause : Failure)
deriving DecidableEq, Repr

namespace Event

def note : Text × Text → Text
  | (name, value) => " " ++ name ++ "=" ++ value

def warning (message : Text) (fields : List (Text × Text)) : Text :=
  " WARN " ++ message ++ fields.flatMap note

def line : Event → Text
  | missing path => warning "path does not exist" [("path", path.text)]
  | closed directory error =>
    warning "cannot access path"
      [("error",
        "IO error for operation on " ++ directory.text ++ ": " ++ error.message)]
  | faultyIgnore pattern error =>
    warning "invalid ignore pattern" [("pattern", pattern), ("error", error.message)]
  | emptyPatch path => warning "patch does not touch any file" [("path", path.text)]
  | unreadable path error =>
    warning "failed to parse catalog" [("path", path.text), ("error", error.message)]
  | installation program reason =>
    warning "grammar engine unavailable, trying to install it"
      [("program", program), ("reason", reason)]
  | failure path cause =>
    "ERROR checker failed checker=" ++ Text.quote cause.checker ++ " path=" ++ path.text ++
      " error=" ++ cause.error.message

/-- The notes on a selection of files. -/
def ofSelection (selection : Selection) : List Event :=
  selection.faulty.map (fun (pattern, error) => faultyIgnore pattern error) ++
    selection.missing.map missing ++
    selection.unreadable.map fun (directory, error) => closed directory error

/-- The notes on the attempts to install an engine, in the order of the checkers. -/
def ofSession {σ : Type} (suite : Suite σ) (session : Suite.Session σ) : List Event :=
  (List.range suite.checkers.length).filterMap fun position =>
    (session.installations position).map fun attempt =>
      installation attempt.program attempt.reason

def ofResult (path : Path) : FileResult → List Event
  | .checked _ failures => failures.map (failure path)
  | .unreadable error => [unreadable path error]

end Event

end CatalogLint.CommandLine
