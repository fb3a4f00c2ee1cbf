/-
Paths of files, as they are written.

A path is kept as the text it was given as, because reports and messages show it so.  What it names
is decided by its components: repeated slashes and inner `.` components make no difference, while
`..` stays, and a leading `.` still tells two paths apart unless one asks for the key.

* `CatalogLint.Path` — a path;
* `CatalogLint.Path.components`, `CatalogLint.Path.key` — its components, with and without a leading
  `.`;
* `CatalogLint.Path.join`, `CatalogLint.Path.parent?` — a path below another one, and the path
  above;
* `CatalogLint.Path.hasExtension`, `CatalogLint.Path.isWithin` — its extension, and whether it lies
  at or below another path;
* `CatalogLint.Path.compare` — the order of paths, component by component.
-/

import CatalogLint.Text.Printable

set_option autoImplicit false

namespace CatalogLint

/-- A path, as it is written. -/
structure Path where
  text : Text
deriving DecidableEq, Repr

namespace Path

/-- A component of a path. -/
inductive Component where
  /-- The root directory, at the beginning of an absolute path. -/
  | root
  /-- The current directory, at the beginning of a relative path. -/
  | current
  | parent
  | named (name : Text)
deriving DecidableEq, Repr

/-- The rank of a component's kind: the root comes first and names come last. -/
def Component.rank : Component → Nat
  | root => 0
  | current => 1
  | parent => 2
  | named _ => 3

/-- The order of components: by kind, and two names by their texts. -/
def Component.compare : Component → Component → Ordering
  | named s, named t => Text.compare s t
  | a, b => Ord.compare a.rank b.rank

def isAbsolute (path : Path) : Bool := path.text.head? == some '/'

/-- Whether a piece between slashes stands for no component. -/
def isVoid (piece : Text) : Bool := piece.isEmpty || piece = "."

/-- The component that a piece between slashes stands for, if any, at a place that is not the
beginning of a relative path. -/
def innerComponent? (piece : Text) : Option Component :=
  if isVoid piece then none
  else if piece = ".." then some .parent
  else some (.named piece)

def components (path : Path) : List Component :=
  let pieces := Text.splitOn '/' path.text
  let start : List Component :=
    if path.isAbsolute then [.root] else if pieces.head? = some "." then [.current] else []
  start ++ pieces.filterMap innerComponent?

/-- The components without a leading `.`: paths with the same key name the same file. -/
def key (path : Path) : List Component := path.components.filter (· != .current)

/-- The path `name` seen from the directory `base`.  An absolute name stands for itself. -/
def join (base : Path) (name : Path) : Path :=
  if name.isAbsolute || base.text.isEmpty then name
  else if base.text.getLast? = some '/' then ⟨base.text ++ name.text⟩
  else ⟨base.text ++ "/" ++ name.text⟩

/-- The pieces of a path, in reverse, without its last component; the first piece of all, which
tells absolute paths from relative ones, is kept whatever it is. -/
def dropLastPiece (reversed : List Text) : List Text :=
  match reversed.dropWhile isVoid with
  | [] => []
  | _ :: pieces =>
    match pieces.dropWhile isVoid with
    | [] => pieces.drop (pieces.length - 1)
    | kept => kept

/-- The path without its last component, as it is written; the root and the empty path have none. -/
def parent? (path : Path) : Option Path :=
  match path.components.getLast? with
  | none | some .root => none
  | some .current => some ⟨[]⟩
  | some _ =>
    match (dropLastPiece (Text.splitOn '/' path.text).reverse).reverse with
    | [[]] => some ⟨"/"⟩
    | pieces => some ⟨Text.joinWith "/" pieces⟩

/-- Whether the last component of the path is a name that ends in a dot and the extension, with
something before the dot. -/
def hasExtension (path : Path) (extension : Text) : Bool :=
  match path.components.getLast? with
  | some (.named name) =>
    match Text.splitFirst (· == '.') name.reverse with
    | some (reversedExtension, stem) =>
      !stem.isEmpty && reversedExtension.reverse == extension
    | none => false
  | _ => false

/-- Whether the path lies at or below `directory`, component by component. -/
def isWithin (path directory : Path) : Bool := directory.components.isPrefixOf path.components

/-- The order of component lists, the first difference deciding. -/
def compareComponents : List Component → List Component → Ordering
  | [], [] => .eq
  | [], _ :: _ => .lt
  | _ :: _, [] => .gt
  | a :: as, b :: bs => (a.compare b).then (compareComponents as bs)

def compare (a b : Path) : Ordering := compareComponents a.components b.components

def quoted (path : Path) : Text := Text.quote path.text

end Path

end CatalogLint
