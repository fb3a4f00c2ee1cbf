/-
The files of a reviewed patch, found by the path of their local copy.

Two paths that differ only in `.` components or repeated slashes name the same file, so the files
are kept under the keys of their paths.  A file that is added again takes the place of the former
one.

* `CatalogLint.Patch.LocalFile`, `CatalogLint.Patch.Store` — a file of the patch, and all of them;
* `CatalogLint.Patch.Store.add`, `CatalogLint.Patch.Store.file?`, `CatalogLint.Patch.Store.diff` —
  adding a file, and finding one;
* `CatalogLint.Patch.Store.ofPatch` — the files of a patch below a directory.

Main statement: `file?_add`, the last file added under a key is the one found under it.
-/

import CatalogLint.Patch.Split
import CatalogLint.Path

set_option autoImplicit false

namespace CatalogLint.Patch

/-- A file of the patch. -/
structure LocalFile where
  /-- Its name in the reviewed repository. -/
  name : Text
  /-- Where its new version can be read. -/
  path : Path
  diff : Text
deriving DecidableEq, Repr

/-- The files of a patch, with different keys. -/
structure Store where
  /-- The files, the last one added first. -/
  files : List LocalFile := []
deriving DecidableEq, Repr

namespace Store

/-- The store with a file added; it takes the place of a file with the same key. -/
def add (store : Store) (file : LocalFile) : Store :=
  ⟨file :: store.files.filter fun other => other.path.key != file.path.key⟩

def file? (store : Store) (path : Path) : Option LocalFile :=
  store.files.find? fun file => file.path.key == path.key

/-- The file that was added last under a key is the one found under it; other keys find what they
found before. -/
@[simp] theorem file?_add (store : Store) (file : LocalFile) (path : Path) :
    (store.add file).file? path =
      if file.path.key = path.key then some file else store.file? path := by
  by_cases h : file.path.key = path.key
  · simp [add, file?, h]
  · simp only [add, file?, List.find?_cons, beq_eq_false_iff_ne.mpr h, if_neg h, List.find?_filter]
    congr 1
    funext other
    by_cases ho : other.path.key = path.key
    · simp [ho, Ne.symm h]
    · simp [ho]

/-- The hunks of the file that a path names; a file that the patch does not touch has none. -/
def diff (store : Store) (path : Path) : Text :=
  match store.file? path with
  | some file => file.diff
  | none => []

def size (store : Store) : Nat := store.files.length

def isEmpty (store : Store) : Bool := store.files.isEmpty

def paths (store : Store) : List Path := store.files.map LocalFile.path

/-- The files of a patch, read below the directory `root`. -/
def ofPatch (patch : Text) (root : Path) : Store :=
  (split patch).foldl
    (fun store file => store.add ⟨file.name, root.join ⟨file.name⟩, file.diff⟩) {}

end Store

end CatalogLint.Patch
