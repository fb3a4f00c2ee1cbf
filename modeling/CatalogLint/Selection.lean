/-
The files to check.

A path that names a file is checked whatever it is called.  A path that names a directory stands for
the catalogs in it, at any depth; of these, the ignored ones are left out.  No path is checked
twice, and the paths are in the order of their components.

* `CatalogLint.Ignore`, `CatalogLint.Ignore.parse`, `CatalogLint.Ignore.covers` — a rule for files
  to leave out, as a path or as a pattern;
* `CatalogLint.Tree.filesBelow`, `CatalogLint.Tree.directoriesBelow` — the files and the directories
  in a tree;
* `CatalogLint.Tree.readable` — the part of a tree that can be read;
* `CatalogLint.Path.insertSorted` — one more path in a sorted list;
* `CatalogLint.Selection`, `CatalogLint.Files.select` — the files to check, and what is missing.
-/

import CatalogLint.Files
import CatalogLint.Glob

set_option autoImplicit false

namespace CatalogLint

/-! ### Files to leave out -/

/-- A rule for files to leave out. -/
inductive Ignore where
  | below (directory : Path)
  | pattern (glob : Glob)
deriving DecidableEq, Repr

namespace Ignore

/-- Whether the text is meant as a pattern and not as a path. -/
def isPattern (text : Text) : Bool := text.contains '*' || text.contains '?'

/-- The rule that a text spells. -/
def parse (text : Text) : Except Glob.Error Ignore :=
  if isPattern text then (Glob.parse text).map pattern else .ok (below ⟨text⟩)

/-- Whether the rule leaves the file at a path out. -/
def covers (path : Path) : Ignore → Bool
  | below directory => path.isWithin directory
  | pattern glob => glob.isMatch path.text

end Ignore

/-! ### Files of a directory -/

mutual

/-- The part of a tree at `path` that can be read: a directory whose path is too long is empty. -/
def Tree.readable (path : Path) : Tree → Tree
  | .file content executable => .file content executable
  | .directory entries =>
    .directory (if Files.isLongPath path then .empty else entries.readable path)

/-- The part that can be read of some named trees of the directory at `path`. -/
def Forest.readable (path : Path) : Forest → Forest
  | .empty => .empty
  | .entry name tree others =>
    .entry name (tree.readable (path.join ⟨name⟩)) (others.readable path)

end

mutual

/-- The paths of the directories in a tree, which itself is at `path`. -/
def Tree.directoriesBelow (path : Path) : Tree → List Path
  | .file _ _ => []
  | .directory entries => path :: entries.directoriesBelow path

/-- The paths of the directories in some named trees of the directory at `path`. -/
def Forest.directoriesBelow (path : Path) : Forest → List Path
  | .empty => []
  | .entry name tree others =>
    tree.directoriesBelow (path.join ⟨name⟩) ++ others.directoriesBelow path

end

mutual

/-- The paths of the files in a tree, which itself is at `path`. -/
def Tree.filesBelow (path : Path) : Tree → List Path
  | .file _ _ => [path]
  | .directory entries => entries.filesBelow path

/-- The paths of the files in some named trees of the directory at `path`. -/
def Forest.filesBelow (path : Path) : Forest → List Path
  | .empty => []
  | .entry name tree others => tree.filesBelow (path.join ⟨name⟩) ++ others.filesBelow path

end

/-- The extension of the files that are catalogs. -/
def Catalog.fileExtension : Text := "po"

/-- Whether the path is that of a catalog. -/
def Path.isCatalog (path : Path) : Bool := path.hasExtension Catalog.fileExtension

/-! ### The selection -/

/-- A sorted list of paths with one more path, unless an equal one is there. -/
def Path.insertSorted (path : Path) : List Path → List Path
  | [] => [path]
  | other :: paths =>
    match path.compare other with
    | .lt => path :: other :: paths
    | .eq => other :: paths
    | .gt => other :: insertSorted path paths

/-- The paths in order and without repetitions; of equal paths the first one stays. -/
def Path.sorted (paths : List Path) : List Path :=
  paths.foldl (fun sorted path => path.insertSorted sorted) []

/-- The files to check. -/
structure Selection where
  /-- The paths of the files, in order and without repetitions. -/
  files : List Path
  /-- The given paths that name nothing. -/
  missing : List Path
  /-- The directories below the given paths that cannot be read. -/
  unreadable : List (Path × IoError)
  faulty : List (Text × Glob.Error)
deriving DecidableEq, Repr

/-- What a path stands for: a file, the catalogs in a directory, or nothing at all. -/
def Files.filesAt (files : Files) (ignores : List Ignore) (path : Path) : List Path :=
  match files.tree path with
  | .ok (.file _ _) => [path]
  | .ok (.directory entries) =>
    ((entries.readable path).filesBelow path).filter fun file =>
      file.isCatalog && !ignores.any (·.covers file)
  | .error _ => []

/-- The directories below a path that are found but cannot be read. -/
def Files.unreadableAt (files : Files) (path : Path) : List (Path × IoError) :=
  match files.tree path with
  | .ok tree =>
    (((tree.readable path).directoriesBelow path).filter Files.isLongPath).map fun directory =>
      (directory, .nameTooLong)
  | .error _ => []

/-- The files to check, given by paths and by texts that spell what to leave out.  A text that is no
pattern leaves nothing out. -/
def Files.select (files : Files) (paths : List Path) (ignores : List Text) : Selection where
  files := Path.sorted (paths.flatMap
    (files.filesAt (ignores.filterMap fun text => (Ignore.parse text).toOption)))
  missing := paths.filter fun path => !files.exists? path
  unreadable := paths.flatMap files.unreadableAt
  faulty := ignores.filterMap fun text =>
    match Ignore.parse text with
    | .ok _ => none
    | .error error => some (text, error)

end CatalogLint
