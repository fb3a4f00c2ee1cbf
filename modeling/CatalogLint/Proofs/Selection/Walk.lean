/-
**The walk of a directory.**

From a tree one gets to the trees in it by the names on the way.  The files that a walk comes upon
are those that one can get to, each with the path that the names make of the path of the root; the
same holds of the directories.  A walk does not enter a directory whose path is longer than the
system takes for one.  Where there is none, nothing is left out.

Main definitions:

* `CatalogLint.Tree.Reaches` — one gets from a tree to another one by some names;
* `CatalogLint.Path.joinAll` — the path below a root that some names make;
* `CatalogLint.Files.Walked` — a file lies below a directory;
* `CatalogLint.Files.CanWalk` — every directory at or below a path can be entered.

Main results:

* `CatalogLint.Tree.inductionOn` — induction from the trees in a directory to the directory;
* `CatalogLint.Tree.mem_filesBelow_iff`, `CatalogLint.Tree.mem_directoriesBelow_iff` — **a walk
  comes upon what one can get to**;
* `CatalogLint.Tree.readable_eq_self` — nothing is left out if no path of a directory is too long;
* `CatalogLint.Files.canWalk_iff` — every directory can be entered if none is reported.
-/

import CatalogLint.Selection

set_option autoImplicit false

namespace CatalogLint

/-! ### Ways in a tree -/

/-- The named trees of a directory as a list. -/
def Forest.toList : Forest → List (Text × Tree)
  | .empty => []
  | .entry name tree others => (name, tree) :: others.toList

/-- One gets from a tree to another one by some names. -/
inductive Tree.Reaches : Tree → List Text → Tree → Prop
  /-- No name leads to the tree itself. -/
  | here (tree : Tree) : Reaches tree [] tree
  /-- A name leads from a directory to a tree in it. -/
  | into {name : Text} {names : List Text} {entries : Forest} {next found : Tree}
      (hentry : (name, next) ∈ entries.toList) (hnext : Reaches next names found) :
      Reaches (.directory entries) (name :: names) found

/-- The path that some names make, from a root on. -/
def Path.joinAll (root : Path) (names : List Text) : Path :=
  names.foldl (fun path name => path.join ⟨name⟩) root

theorem Path.joinAll_cons (root : Path) (name : Text) (names : List Text) :
    root.joinAll (name :: names) = (root.join ⟨name⟩).joinAll names := rfl

/-- What holds of files, and of directories if it holds of the trees in them, holds of all trees. -/
@[elab_as_elim]
theorem Tree.inductionOn {motive : Tree → Prop} (tree : Tree)
    (file : ∀ content executable, motive (.file content executable))
    (directory : ∀ entries : Forest, (∀ entry ∈ entries.toList, motive entry.2) →
      motive (.directory entries)) : motive tree :=
  @Tree.rec motive (fun entries => ∀ entry ∈ entries.toList, motive entry.2) file directory
    (fun _ hentry => absurd hentry List.not_mem_nil)
    (fun _ _ _ htree hothers entry hentry =>
      (List.mem_cons.1 hentry).elim (fun heq => heq ▸ htree) (hothers entry)) tree

/-! ### The trees of a directory -/

namespace Forest

theorem filesBelow_eq_flatMap (root : Path) : (entries : Forest) →
    entries.filesBelow root =
      entries.toList.flatMap fun entry => entry.2.filesBelow (root.join ⟨entry.1⟩)
  | .empty => rfl
  | .entry name tree others => by
    rw [filesBelow, toList, List.flatMap_cons, filesBelow_eq_flatMap root others]

theorem directoriesBelow_eq_flatMap (root : Path) : (entries : Forest) →
    entries.directoriesBelow root =
      entries.toList.flatMap fun entry => entry.2.directoriesBelow (root.join ⟨entry.1⟩)
  | .empty => rfl
  | .entry name tree others => by
    rw [directoriesBelow, toList, List.flatMap_cons, directoriesBelow_eq_flatMap root others]

theorem toList_readable (root : Path) : (entries : Forest) →
    (entries.readable root).toList =
      entries.toList.map fun entry => (entry.1, entry.2.readable (root.join ⟨entry.1⟩))
  | .empty => rfl
  | .entry name tree others => by
    rw [readable, toList, toList, List.map_cons, toList_readable root others]

theorem readable_eq_self {root : Path} : {entries : Forest} →
    (∀ entry ∈ entries.toList, entry.2.readable (root.join ⟨entry.1⟩) = entry.2) →
      entries.readable root = entries
  | .empty, _ => rfl
  | .entry name tree others, h => by
    obtain ⟨htree, hothers⟩ := List.forall_mem_cons.1 h
    rw [readable, readable_eq_self hothers, htree]

theorem filesBelow_readable_subset {entries : Forest} {root : Path}
    (h : ∀ entry ∈ entries.toList, (entry.2.readable (root.join ⟨entry.1⟩)).filesBelow
      (root.join ⟨entry.1⟩) ⊆ entry.2.filesBelow (root.join ⟨entry.1⟩)) :
    (entries.readable root).filesBelow root ⊆ entries.filesBelow root := by
  intro path hpath
  rw [filesBelow_eq_flatMap, toList_readable, List.flatMap_map] at hpath
  obtain ⟨entry, hentry, hbelow⟩ := List.mem_flatMap.1 hpath
  rw [filesBelow_eq_flatMap]
  exact List.mem_flatMap.2 ⟨entry, hentry, h entry hentry hbelow⟩

end Forest

/-! ### What a walk comes upon -/

namespace Tree

/-- **A walk comes upon the files that one can get to.** -/
theorem mem_filesBelow_iff {tree : Tree} {root path : Path} :
    path ∈ tree.filesBelow root ↔ ∃ names content executable,
      tree.Reaches names (.file content executable) ∧ path = root.joinAll names := by
  induction tree using Tree.inductionOn generalizing root with
  | file content executable =>
      rw [filesBelow, List.mem_singleton]
      constructor
      · rintro rfl
        exact ⟨[], content, executable, .here _, rfl⟩
      · rintro ⟨_, _, _, ⟨⟩, hpath⟩
        exact hpath
  | directory entries ih =>
      rw [filesBelow, Forest.filesBelow_eq_flatMap, List.mem_flatMap]
      constructor
      · rintro ⟨⟨name, next⟩, hentry, hpath⟩
        obtain ⟨names, content, executable, hnext, rfl⟩ := (ih _ hentry).1 hpath
        exact ⟨name :: names, content, executable, .into hentry hnext, rfl⟩
      · rintro ⟨_, content, executable, ⟨⟩ | ⟨hentry, hnext⟩, rfl⟩
        exact ⟨_, hentry, (ih _ hentry).2 ⟨_, content, executable, hnext, rfl⟩⟩

/-- **A walk comes upon the directories that one can get to.** -/
theorem mem_directoriesBelow_iff {tree : Tree} {root path : Path} :
    path ∈ tree.directoriesBelow root ↔ ∃ names entries,
      tree.Reaches names (.directory entries) ∧ path = root.joinAll names := by
  induction tree using Tree.inductionOn generalizing root with
  | file content executable =>
      rw [directoriesBelow]
      constructor
      · intro h
        cases h
      · rintro ⟨_, _, ⟨⟩, _⟩
  | directory entries ih =>
      rw [directoriesBelow, Forest.directoriesBelow_eq_flatMap, List.mem_cons, List.mem_flatMap]
      constructor
      · rintro (rfl | ⟨⟨name, next⟩, hentry, hpath⟩)
        · exact ⟨[], entries, .here _, rfl⟩
        · obtain ⟨names, below, hnext, rfl⟩ := (ih _ hentry).1 hpath
          exact ⟨name :: names, below, .into hentry hnext, rfl⟩
      · rintro ⟨_, below, ⟨⟩ | ⟨hentry, hnext⟩, rfl⟩
        · exact .inl rfl
        · exact .inr ⟨_, hentry, (ih _ hentry).2 ⟨_, below, hnext, rfl⟩⟩

/-! ### What can be read of a tree -/

/-- The directory itself and those in its trees. -/
theorem forall_mem_directoriesBelow_iff {entries : Forest} {root : Path} {p : Path → Prop} :
    (∀ path ∈ (directory entries).directoriesBelow root, p path) ↔
      p root ∧ ∀ entry ∈ entries.toList,
        ∀ path ∈ entry.2.directoriesBelow (root.join ⟨entry.1⟩), p path := by
  rw [directoriesBelow, Forest.directoriesBelow_eq_flatMap, List.forall_mem_cons,
    List.forall_mem_flatMap]

/-- A tree is read as a whole if no path of a directory in it is too long. -/
theorem readable_eq_self {tree : Tree} {root : Path}
    (h : ∀ path ∈ tree.directoriesBelow root, Files.isLongPath path = false) :
    tree.readable root = tree := by
  induction tree using Tree.inductionOn generalizing root with
  | file content executable => rfl
  | directory entries ih =>
      obtain ⟨hroot, hentries⟩ := forall_mem_directoriesBelow_iff.1 h
      rw [readable, hroot, if_neg Bool.false_ne_true,
        Forest.readable_eq_self fun entry hentry => ih entry hentry (hentries entry hentry)]

/-- What is read of a tree holds no other files. -/
theorem filesBelow_readable_subset {tree : Tree} {root : Path} :
    (tree.readable root).filesBelow root ⊆ tree.filesBelow root := by
  induction tree using Tree.inductionOn generalizing root with
  | file content executable => exact List.Subset.refl _
  | directory entries ih =>
      rw [readable, filesBelow]
      split
      · exact List.nil_subset _
      · exact Forest.filesBelow_readable_subset fun entry hentry => ih entry hentry

/-- If no path of a directory that is read is too long, there is none in the whole tree. -/
theorem not_isLongPath_of_readable {tree : Tree} {root : Path}
    (h : ∀ path ∈ (tree.readable root).directoriesBelow root, Files.isLongPath path = false) :
    ∀ path ∈ tree.directoriesBelow root, Files.isLongPath path = false := by
  induction tree using Tree.inductionOn generalizing root with
  | file content executable => exact h
  | directory entries ih =>
      -- A directory that is not entered is reported all the same, so this one is entered.
      rw [readable, forall_mem_directoriesBelow_iff] at h
      obtain ⟨hroot, hentries⟩ := h
      rw [hroot, if_neg Bool.false_ne_true, Forest.toList_readable, List.forall_mem_map] at hentries
      exact forall_mem_directoriesBelow_iff.2
        ⟨hroot, fun entry hentry => ih entry hentry (hentries entry hentry)⟩

end Tree

/-! ### Walks in a file tree -/

namespace Files

variable {files : Files} {root path : Path}

/-- The path is that of a file below the directory at `root`. -/
def Walked (files : Files) (root path : Path) : Prop :=
  ∃ entries names content executable, files.tree root = .ok (.directory entries) ∧
    (Tree.directory entries).Reaches names (.file content executable) ∧ path = root.joinAll names

theorem Walked.exists_tree_eq (h : files.Walked root path) :
    ∃ entries, files.tree root = .ok (.directory entries) := by
  obtain ⟨entries, _, _, _, htree, _⟩ := h
  exact ⟨entries, htree⟩

/-- The files below a directory are those that a walk comes upon. -/
theorem walked_iff {entries : Forest} (htree : files.tree root = .ok (.directory entries)) :
    files.Walked root path ↔ path ∈ entries.filesBelow root := by
  rw [← Tree.filesBelow, Tree.mem_filesBelow_iff]
  constructor
  · rintro ⟨below, names, content, executable, hbelow, hreaches, hpath⟩
    cases htree.symm.trans hbelow
    exact ⟨names, content, executable, hreaches, hpath⟩
  · rintro ⟨names, content, executable, hreaches, hpath⟩
    exact ⟨entries, names, content, executable, htree, hreaches, hpath⟩

theorem walked_of_mem_readable {entries : Forest}
    (htree : files.tree root = .ok (.directory entries))
    (hpath : path ∈ (entries.readable root).filesBelow root) : files.Walked root path :=
  (walked_iff htree).2
    (Forest.filesBelow_readable_subset (fun _ _ => Tree.filesBelow_readable_subset) hpath)

/-- No directory at or below `root` has a path that is too long. -/
def CanWalk (files : Files) (root : Path) : Prop :=
  ∀ tree names entries, files.tree root = .ok tree → tree.Reaches names (.directory entries) →
    isLongPath (root.joinAll names) = false

theorem canWalk_iff_directoriesBelow :
    files.CanWalk root ↔ ∀ tree, files.tree root = .ok tree →
      ∀ path ∈ tree.directoriesBelow root, isLongPath path = false := by
  constructor
  · intro h tree htree path hpath
    obtain ⟨names, entries, hreaches, rfl⟩ := Tree.mem_directoriesBelow_iff.1 hpath
    exact h tree names entries htree hreaches
  · intro h tree names entries htree hreaches
    exact h tree htree _ (Tree.mem_directoriesBelow_iff.2 ⟨names, entries, hreaches, rfl⟩)

/-- A directory that can be entered, with all that are in it, is read as a whole. -/
theorem CanWalk.readable_eq_self {entries : Forest} (h : files.CanWalk root)
    (htree : files.tree root = .ok (.directory entries)) : entries.readable root = entries := by
  obtain ⟨-, hentries⟩ :=
    Tree.forall_mem_directoriesBelow_iff.1 (canWalk_iff_directoriesBelow.1 h _ htree)
  exact Forest.readable_eq_self fun entry hentry => Tree.readable_eq_self (hentries entry hentry)

/-- **Every directory can be entered if and only if none is reported.** -/
theorem canWalk_iff : files.CanWalk root ↔ files.unreadableAt root = [] := by
  rw [canWalk_iff_directoriesBelow, unreadableAt]
  cases files.tree root with
  | error error => exact ⟨fun _ => rfl, fun _ tree htree => by cases htree⟩
  | ok tree =>
      simp only [List.map_eq_nil_iff, List.filter_eq_nil_iff, Bool.not_eq_true]
      constructor
      · intro h
        rw [Tree.readable_eq_self (h tree rfl)]
        exact h tree rfl
      · rintro h _ ⟨⟩
        exact Tree.not_isLongPath_of_readable h

end Files

end CatalogLint
