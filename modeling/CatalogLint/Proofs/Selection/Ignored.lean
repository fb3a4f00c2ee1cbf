/-
**Ignored directories.**

A text without wildcards leaves out what lies at or below it, and this is decided by the components
of the paths that a walk makes.  As these begin as the given directory does, the text has to begin
so too: with a dot if the directory is given with one, and without a dot otherwise.  Where it does,
no file is selected whose key says that it lies there.  Where it does not, the text leaves nothing
out.

Main definitions:

* `CatalogLint.Tree.names` — all names in a tree;
* `CatalogLint.Files.Heeds` — what the selection makes of an ignored text without wildcards.

Main results:

* `CatalogLint.Tree.Reaches.subset_names` — the names on a way, and those beyond, are names of the
  tree;
* `CatalogLint.Files.excludes_iff_spelledLike` — what a text without wildcards excludes;
* `CatalogLint.Files.heeds_select` — **a text leaves out what lies below it if it is spelled as the
  directory is**, and nothing else;
* `CatalogLint.Files.not_forall_ignored` — in another spelling it leaves nothing out.
-/

import CatalogLint.Proofs.Selection.Selected
import CatalogLint.Proofs.Selection.Spelling

set_option autoImplicit false

namespace CatalogLint

/-! ### Names in a tree -/

mutual

/-- The names of all trees in a tree. -/
def Tree.names : Tree → List Text
  | .file _ _ => []
  | .directory entries => entries.names

def Forest.names : Forest → List Text
  | .empty => []
  | .entry name tree others => name :: tree.names ++ others.names

end

namespace Forest

theorem cons_names_subset {name : Text} {next : Tree} : {entries : Forest} →
    (name, next) ∈ entries.toList → name :: next.names ⊆ entries.names
  | .entry first tree others, hentry => by
    rw [names]
    rcases List.mem_cons.1 hentry with heq | hothers
    · cases heq
      exact List.subset_append_left _ _
    · exact List.Subset.trans (cons_names_subset hothers) (List.subset_append_right _ _)

theorem mem_toList_of_find? {name : Text} {next : Tree} : {entries : Forest} →
    entries.find? name = some next → (name, next) ∈ entries.toList
  | .entry first tree others, hfind => by
    rw [find?] at hfind
    split at hfind
    · next heq =>
      cases hfind
      exact heq ▸ List.mem_cons_self
    · exact List.mem_cons_of_mem _ (mem_toList_of_find? hfind)

end Forest

namespace Tree

/-- The names on a way, and those in the tree that it leads to, are names of the tree. -/
theorem Reaches.subset_names {tree found : Tree} {names : List Text}
    (h : tree.Reaches names found) : names ⊆ tree.names ∧ found.names ⊆ tree.names := by
  induction h with
  | here tree => exact ⟨List.nil_subset _, List.Subset.refl _⟩
  | into hentry _ ih =>
      obtain ⟨hname, hnext⟩ := List.cons_subset.1 (Forest.cons_names_subset hentry)
      exact ⟨List.cons_subset.2 ⟨hname, List.Subset.trans ih.1 hnext⟩, List.Subset.trans ih.2 hnext⟩

/-- The tree at a place is one that the names of the place lead to. -/
theorem reaches_of_get? {tree found : Tree} {names : List Text}
    (h : tree.get? names = some found) : tree.Reaches names found := by
  induction names generalizing tree with
  | nil =>
      cases tree <;> cases h <;> exact .here _
  | cons name names ih =>
      cases tree with
      | file content executable => cases h
      | directory entries =>
          obtain ⟨next, hfind, hnext⟩ := Option.bind_eq_some_iff.1 h
          exact .into (Forest.mem_toList_of_find? hfind) (ih hnext)

end Tree

/-! ### Ignored texts without wildcards -/

/-- What the selection makes of an ignored text without wildcards. -/
structure Files.Heeds (files : Files) (paths : List Path) (ignores : List Text) (text : Text) :
    Prop where
  /-- No file below a directory that is spelled like the text lies at or below the text, unless it
  is given itself. -/
  absent : ∀ root ∈ paths, (Path.mk text).SpelledLike root →
    ∀ path ∈ (files.select paths ignores).files, files.Walked root path →
      ¬ (path ∈ paths ∧ files.isFile path = true) → ¬ (Path.mk text).key <+: path.key
  /-- Below any other directory the text leaves nothing out. -/
  kept : ∀ root ∈ paths, ¬ (Path.mk text).SpelledLike root → files.CanWalk root →
    ∀ path, files.Walked root path → path.NamesCatalog →
      (∀ other ∈ ignores, other ≠ text → ¬ Excludes other path) →
        path.components ∈ (files.select paths ignores).files.map Path.components

namespace Files

variable {files : Files} {root path : Path} {text : Text}

/-- A path that names anything is not empty, and what it names is in the tree. -/
theorem exists_get?_of_tree {tree : Tree} (h : files.tree root = .ok tree) :
    root.text ≠ [] ∧ ∃ place, files.root.get? place = some tree := by
  rw [Files.tree] at h
  cases hplace : files.locate root with
  | error error => rw [hplace] at h; cases h
  | ok place =>
      rw [hplace] at h
      constructor
      · intro hempty
        rw [locate, hempty] at hplace
        cases hplace
      · cases hget : files.root.get? place with
        | none => simp [bind, Except.bind, hget] at h
        | some found =>
            simp only [bind, Except.bind, hget, Except.ok.injEq] at h
            exact ⟨place, h ▸ hget⟩

/-- A path below a directory begins as the directory does. -/
theorem Walked.beginsHere_iff (hnames : ∀ name ∈ files.root.names, '/' ∉ name)
    (h : files.Walked root path) : path.BeginsHere ↔ root.BeginsHere := by
  obtain ⟨entries, names, content, executable, htree, hreaches, rfl⟩ := h
  obtain ⟨hroot, place, hplace⟩ := exists_get?_of_tree htree
  have hsubset : names ⊆ files.root.names :=
    List.Subset.trans hreaches.subset_names.1 (Tree.reaches_of_get? hplace).subset_names.2
  exact Path.beginsHere_joinAll hroot fun name hname => hnames name (hsubset hname)

/-- **What a text without wildcards excludes.** -/
theorem excludes_iff_spelledLike (hnames : ∀ name ∈ files.root.names, '/' ∉ name)
    (hstar : '*' ∉ text) (hmark : '?' ∉ text) (hwalked : files.Walked root path) :
    Excludes text path ↔
      (Path.mk text).key <+: path.key ∧ (Path.mk text).SpelledLike root := by
  have hspelled : (Path.mk text).SpelledLike path ↔ (Path.mk text).SpelledLike root := by
    rw [Path.SpelledLike, Path.SpelledLike, hwalked.beginsHere_iff hnames]
  rw [← hspelled, ← Path.components_prefix_iff]
  constructor
  · rintro (⟨-, -, hwithin⟩ | ⟨hwildcard, -, -⟩)
    · exact hwithin
    · exact absurd hwildcard (not_or.2 ⟨hstar, hmark⟩)
  · exact .below hstar hmark

/-- **A text without wildcards leaves out what lies below it where it is spelled as the directory
is**, and nothing below any other directory. -/
theorem heeds_select (files : Files) (paths : List Path) (ignores : List Text) (text : Text)
    (hnames : ∀ name ∈ files.root.names, '/' ∉ name) (htext : text ∈ ignores)
    (hstar : '*' ∉ text) (hmark : '?' ∉ text) : files.Heeds paths ignores text := by
  refine ⟨?absent, ?kept⟩
  case absent =>
    intro root _ hspelled path hpath hwalked hgiven hbelow
    rcases selected_of_mem_select hpath with ⟨hmem, hfile⟩ | ⟨-, -, -, hignores⟩
    · exact hgiven ⟨hmem, hfile⟩
    · exact hignores text htext
        ((excludes_iff_spelledLike hnames hstar hmark hwalked).2 ⟨hbelow, hspelled⟩)
  case kept =>
    intro root hroot hspelled hwalk path hwalked hcatalog hothers
    have hexcludes : ¬ Excludes text path := fun h =>
      hspelled ((excludes_iff_spelledLike hnames hstar hmark hwalked).1 h).2
    have hignores : ∀ other ∈ ignores, ¬ Excludes other path := by
      intro other hother
      by_cases heq : other = text
      · exact heq ▸ hexcludes
      · exact hothers other hother heq
    obtain ⟨found, hfound, hcomponents⟩ := exists_mem_select_of_mem_filesAt hroot
      (mem_filesAt_of_walked hwalk hwalked hcatalog hignores)
    exact List.mem_map.2 ⟨found, hfound, hcomponents⟩

/-- The text `./build` leaves out what lies below it where the current directory is checked. -/
theorem heeds_select_someFiles :
    ((∀ name ∈ someFiles.root.names, '/' ∉ name) ∧ ("./build" : Text) ∈ [("./build" : Text)] ∧
      '*' ∉ ("./build" : Text) ∧ '?' ∉ ("./build" : Text)) ∧
      someFiles.Heeds [⟨"."⟩] ["./build"] "./build" ∧
        (someFiles.select [⟨"."⟩] ["./build"]).files = [⟨"./a.po"⟩, ⟨"./c.po"⟩] := by
  have hnames : ∀ name ∈ someFiles.root.names, '/' ∉ name := by decide +kernel
  refine ⟨⟨hnames, by decide, by decide, by decide⟩, ?_, by decide +kernel⟩
  exact heeds_select someFiles [⟨"."⟩] ["./build"] "./build" hnames (by decide) (by decide)
    (by decide)

/-- A directory with one catalog in it. -/
def buildFiles : Files where
  root := .directory (.entry "build"
    (.directory (.entry "a.po" (.file .empty false) .empty)) .empty)
  working := []

/-- **The text `build` leaves nothing out where the current directory is checked.** -/
theorem not_forall_ignored :
    ¬ ∀ (files : Files) (paths : List Path) (ignores : List Text), ∀ text ∈ ignores,
      '*' ∉ text → '?' ∉ text → ∀ root ∈ paths, ∀ path ∈ (files.select paths ignores).files,
        files.Walked root path → ¬ (path ∈ paths ∧ files.isFile path = true) →
          ¬ (Path.mk text).key <+: path.key := by
  intro h
  have hwalked : buildFiles.Walked ⟨"."⟩ ⟨"./build/a.po"⟩ := (walked_iff rfl).2 (by decide +kernel)
  exact h buildFiles [⟨"."⟩] ["build"] "build" (by decide) (by decide) (by decide) ⟨"."⟩ (by decide)
    ⟨"./build/a.po"⟩ (by decide +kernel) hwalked (by decide) (by decide +kernel)

end Files

end CatalogLint
