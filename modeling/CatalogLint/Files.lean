/-
File trees.

A tree is a file with its bytes, or a directory with named trees in the order of their names.  Paths
are followed from a working directory, one component at a time.

* `CatalogLint.IoError` — why a file cannot be read, written or run;
* `CatalogLint.Tree`, `CatalogLint.Forest` — files and directories;
* `CatalogLint.Tree.get?`, `CatalogLint.Tree.put` — the tree at a place, and the tree with a file
  put at a place;
* `CatalogLint.Files` — a file tree seen from a working directory;
* `CatalogLint.Files.locate`, `CatalogLint.Files.read`, `CatalogLint.Files.readText`,
  `CatalogLint.Files.write` — following a path, reading and writing.
-/

import CatalogLint.Path
import CatalogLint.Text.Window

set_option autoImplicit false

namespace CatalogLint

/-- Why a file cannot be read, written or run. -/
inductive IoError where
  | noSuchFile
  | badFormat
  | permissionDenied
  | notDirectory
  | isDirectory
  | nameTooLong
  | tooManyLinks
  | notUtf8
  | zeroByte
  | zeroByteInName
  /-- Any other reason, in the words of the system. -/
  | other (reason : Text)
deriving DecidableEq, Repr

namespace IoError

def reason : IoError → Text
  | noSuchFile => "No such file or directory"
  | badFormat => "Exec format error"
  | permissionDenied => "Permission denied"
  | notDirectory => "Not a directory"
  | isDirectory => "Is a directory"
  | nameTooLong => "File name too long"
  | tooManyLinks => "Too many levels of symbolic links"
  | notUtf8 => "stream did not contain valid UTF-8"
  | zeroByte => "nul byte found in provided data"
  | zeroByteInName => "file name contained an unexpected NUL byte"
  | other reason => reason

/-- The number by which the system knows the error, if it comes from there. -/
def number? : IoError → Option Nat
  | noSuchFile => some 2
  | badFormat => some 8
  | permissionDenied => some 13
  | notDirectory => some 20
  | isDirectory => some 21
  | nameTooLong => some 36
  | tooManyLinks => some 40
  | notUtf8 | zeroByte | zeroByteInName | other _ => none

def message (error : IoError) : Text :=
  error.reason ++
    match error.number? with
    | some number => " (os error " ++ Text.decimal number ++ ")"
    | none => []

end IoError

mutual

/-- A file, or a directory. -/
inductive Tree where
  | file (content : ByteArray) (executable : Bool)
  | directory (entries : Forest)

/-- The named trees of a directory. -/
inductive Forest where
  | empty
  | entry (name : Text) (tree : Tree) (others : Forest)

end

namespace Forest

def find? : Forest → Text → Option Tree
  | empty, _ => none
  | entry name tree others, wanted => if name = wanted then some tree else others.find? wanted

/-- The forest with `tree` under the given name, in the order of the names.  It takes the place of
the tree that had the name. -/
def insert (name : Text) (tree : Tree) : Forest → Forest
  | empty => entry name tree empty
  | entry name' tree' others =>
    match Text.compare name name' with
    | .lt => entry name tree (entry name' tree' others)
    | .eq => entry name tree others
    | .gt => entry name' tree' (insert name tree others)

def erase (name : Text) : Forest → Forest
  | empty => empty
  | entry name' tree others =>
    if name' = name then others else entry name' tree (erase name others)

end Forest

namespace Tree

/-- The tree at a place, given by the names on the way. -/
def get? : Tree → List Text → Option Tree
  | tree, [] => some tree
  | file _ _, _ :: _ => none
  | directory entries, name :: names => (entries.find? name).bind fun tree => tree.get? names

/-- The tree with `new` put at a place; directories on the way are made, and a file on the way
gives way to one. -/
def put : Tree → List Text → Tree → Tree
  | _, [], new => new
  | file _ _, name :: names, new =>
    directory (.entry name (put (directory .empty) names new) .empty)
  | directory entries, name :: names, new =>
    let old := (entries.find? name).getD (directory .empty)
    directory (entries.insert name (old.put names new))

/-- The tree without what is at a place. -/
def erase : Tree → List Text → Tree
  | tree, [] => tree
  | file content executable, _ :: _ => file content executable
  | directory entries, [name] => directory (entries.erase name)
  | directory entries, name :: names =>
    match entries.find? name with
    | some tree => directory (entries.insert name (tree.erase names))
    | none => directory entries

end Tree

/-- A file tree seen from a working directory. -/
structure Files where
  root : Tree
  /-- The names on the way from the root to the working directory. -/
  working : List Text

namespace Files

/-- Whether a name has more bytes than a file system takes for one. -/
def isLongName (name : Text) : Bool := 255 < Text.byteLength name

/-- Whether a path has more bytes than the system takes for one. -/
def isLongPath (path : Path) : Bool := 4095 < Text.byteLength path.text

/-- Follows the pieces of a path from a directory.  A name that is no directory ends the path, and
even a slash or a dot after it is a mistake. -/
def follow (root : Tree) (place : List Text) : List Text → Except IoError (List Text)
  | [] => .ok place
  | piece :: pieces =>
    match root.get? place with
    | none => .error .noSuchFile
    | some (.file _ _) => .error .notDirectory
    | some (.directory entries) =>
      if piece.isEmpty || piece = "." then follow root place pieces
      else if piece = ".." then follow root place.dropLast pieces
      else if isLongName piece then .error .nameTooLong
      else if (entries.find? piece).isSome then follow root (place ++ [piece]) pieces
      else .error .noSuchFile

def locate (files : Files) (path : Path) : Except IoError (List Text) :=
  if path.text.contains '\x00' then .error .zeroByteInName
  else if path.text.isEmpty then .error .noSuchFile
  else if isLongPath path then .error .nameTooLong
  else
    let start := if path.isAbsolute then [] else files.working
    follow files.root start (Text.splitOn '/' path.text)

def tree (files : Files) (path : Path) : Except IoError Tree := do
  match files.root.get? (← files.locate path) with
  | some tree => .ok tree
  | none => .error .noSuchFile

def exists? (files : Files) (path : Path) : Bool :=
  match files.tree path with
  | .ok _ => true
  | .error _ => false

def isFile (files : Files) (path : Path) : Bool :=
  match files.tree path with
  | .ok (.file _ _) => true
  | _ => false

def read (files : Files) (path : Path) : Except IoError ByteArray := do
  match ← files.tree path with
  | .file content _ => .ok content
  | .directory _ => .error .isDirectory

def textOf? (content : ByteArray) : Option Text := (String.fromUTF8? content).map String.toList

def readText (files : Files) (path : Path) : Except IoError Text := do
  match textOf? (← files.read path) with
  | some text => .ok text
  | none => .error .notUtf8

/-- The place where a file of the path's name would be made: its directory has to be there. -/
def locateNew (files : Files) (path : Path) : Except IoError (List Text) :=
  match path.components.getLast? with
  | some (.named name) =>
    if path.text.endsWith name then do
      let above := path.text.take (path.text.length - name.length)
      let place ← if above.isEmpty then .ok files.working else files.locate ⟨above⟩
      .ok (place ++ [name])
    else .error .isDirectory
  | _ => .error .noSuchFile

/-- The file tree with a file written.  A file that was there keeps its permission to be run. -/
def write (files : Files) (path : Path) (content : ByteArray) : Except IoError Files :=
  match files.tree path with
  | .ok (.directory _) => .error .isDirectory
  | .ok (.file _ executable) => do
    let place ← files.locate path
    .ok { files with root := files.root.put place (.file content executable) }
  | .error .noSuchFile => do
    let place ← files.locateNew path
    .ok { files with root := files.root.put place (.file content false) }
  | .error e => .error e

end Files

end CatalogLint
