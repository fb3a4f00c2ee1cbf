/-
Looking for the settings of a project.

Settings hold for the directory with their file and for all directories below it, up to the next
repository: the search goes upwards from a directory and ends at the first one that has settings or
is the root of a repository.

* `CatalogLint.Path.ancestors` — a directory and those above it, by their paths alone;
* `CatalogLint.Settings.find?` — the settings file that holds for a directory;
* `CatalogLint.Settings.Error` — why settings cannot be had;
* `CatalogLint.Settings.load` — the settings that hold for a directory.
-/

import CatalogLint.Files
import CatalogLint.Settings.Codec

set_option autoImplicit false

namespace CatalogLint

/-- The path and up to `bound` paths above it. -/
def Path.ancestorsUpTo : (bound : Nat) → Path → List Path
  | 0, path => [path]
  | bound + 1, path =>
    path ::
      match path.parent? with
      | some parent => ancestorsUpTo bound parent
      | none => []

/-- The path and the paths above it, from the innermost to the outermost. -/
def Path.ancestors (path : Path) : List Path := path.ancestorsUpTo path.components.length

namespace Settings

def fileName : Path := ⟨".polintrc.json"⟩

/-- The name that the root of a repository is known by. -/
def repositoryMark : Path := ⟨".git"⟩

/-- The settings file that holds for the innermost of some directories. -/
def findIn (files : Files) : List Path → Option Path
  | [] => none
  | directory :: directories =>
    if files.exists? (directory.join fileName) then some (directory.join fileName)
    else if files.exists? (directory.join repositoryMark) then none
    else findIn files directories

/-- The settings file that holds for a directory, if there is one. -/
def find? (files : Files) (directory : Path) : Option Path := findIn files directory.ancestors

/-- Why settings cannot be had. -/
inductive Error where
  | io (error : IoError)
  | undecodable (path : Path)
  | fault (cause : Fault)
deriving DecidableEq, Repr

def Error.messages : Error → List Text
  | io error => [error.message]
  | undecodable path => ["Failed to parse config file: " ++ path.quoted]
  | fault cause => cause.messages

def loadFile (files : Files) (path : Path) : Except Error Settings :=
  match files.readText path with
  | .error error => .error (.io error)
  | .ok document =>
    match parse document with
    | none => .error (.undecodable path)
    | some settings =>
      match settings.fault? with
      | some fault => .error (.fault fault)
      | none => .ok settings

/-- Settings, and whether they come from a file. -/
structure Loaded where
  settings : Settings
  fromFile : Bool
deriving DecidableEq, Repr

/-- The settings that hold for a directory; without a file they are the default ones. -/
def load (files : Files) (directory : Path) : Except Error Loaded :=
  match find? files directory with
  | some path => (loadFile files path).map fun settings => ⟨settings, true⟩
  | none => .ok ⟨{}, false⟩

end Settings

end CatalogLint
