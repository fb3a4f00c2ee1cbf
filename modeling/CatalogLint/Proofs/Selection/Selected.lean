/-
**The files that are asked for.**

A given path that names a file is asked for as it is.  A given path that names a directory asks for
the files below it whose names are those of catalogs, less those that one of the ignored texts
excludes: a text with a wildcard excludes what it matches, any other one what lies at or below it.
The selection holds these files, in order and each of them once.  So it does not depend on the order
of what is given, and one text more can only take files away that a walk came upon.

Main definitions:

* `CatalogLint.Path.NamesCatalog` — the last component of the path is the name of a catalog;
* `CatalogLint.Excludes` — a text excludes the file at a path;
* `CatalogLint.Ignore.rules` — the rules that some texts spell;
* `CatalogLint.Selected` — a file is asked for;
* `CatalogLint.Files.SelectsExactly` — the selection is what is asked for.

Main results:

* `CatalogLint.Path.isCatalog_iff`, `CatalogLint.excludes_iff` — names and texts are read so;
* `CatalogLint.Files.mem_filesAt_iff` — what one given path stands for;
* `CatalogLint.Files.selectsExactly_select` — **exactly the files that are asked for are selected**.
-/

import CatalogLint.Proofs.Selection.Order
import CatalogLint.Proofs.Selection.Walk

set_option autoImplicit false

namespace CatalogLint

/-! ### Names of catalogs -/

/-- A text is cut at its first separator. -/
theorem Text.splitFirst_append {isSeparator : Char → Bool} {c : Char} {head : Text}
    (hhead : ∀ d ∈ head, isSeparator d = false) (hc : isSeparator c = true) (tail : Text) :
    splitFirst isSeparator (head ++ c :: tail) = some (head, tail) := by
  induction head with
  | nil => exact if_pos hc
  | cons d head ih =>
      obtain ⟨hd, hhead⟩ := List.forall_mem_cons.1 hhead
      rw [List.cons_append, splitFirst, hd, if_neg Bool.false_ne_true, ih hhead]
      rfl

namespace Path

/-- The last component of the path is a name that ends in `.po`, with something before the dot. -/
def NamesCatalog (path : Path) : Prop :=
  ∃ (above : List Component) (stem : Text),
    stem ≠ [] ∧ path.components = above ++ [.named (stem ++ ".po")]

theorem isCatalog_iff {path : Path} : path.isCatalog = true ↔ path.NamesCatalog := by
  have hextension : ∀ d ∈ Catalog.fileExtension.reverse, (d == '.') = false := by decide
  rw [isCatalog, hasExtension]
  constructor
  · intro h
    split at h
    case h_2 => cases h
    case h_1 name hlast =>
      split at h
      case h_2 => cases h
      case h_1 reversedExtension reversedStem hsplit =>
        obtain ⟨hstem, hpo⟩ := Bool.and_eq_true_iff.1 h
        obtain ⟨c, hc, -, hname⟩ := Text.splitFirst_eq_some hsplit
        obtain ⟨above, habove⟩ := List.getLast?_eq_some_iff.1 hlast
        refine ⟨above, reversedStem.reverse, ?_, ?_⟩
        · simpa using hstem
        · rw [habove, List.reverse_eq_iff.1 hname, List.reverse_append, List.reverse_cons,
            beq_iff_eq.1 hpo, beq_iff_eq.1 hc, List.append_assoc]
          rfl
  · rintro ⟨above, stem, hstem, habove⟩
    have hreverse : (stem ++ ".po" : Text).reverse =
        Catalog.fileExtension.reverse ++ '.' :: stem.reverse := by
      rw [List.reverse_append]
      rfl
    rw [habove, List.getLast?_concat]
    simp only [hreverse, Text.splitFirst_append hextension (beq_self_eq_true '.')]
    simpa using hstem

end Path

/-! ### Texts that exclude files -/

/-- The file at a path is left out because of a text. -/
inductive Excludes (text : Text) (path : Path) : Prop
  /-- The text has no wildcard, and the path lies at or below it, component by component. -/
  | below (hstar : '*' ∉ text) (hmark : '?' ∉ text)
      (hwithin : (Path.mk text).components <+: path.components)
  /-- The text has a wildcard and is a pattern that the text of the path matches. -/
  | pattern (hwildcard : '*' ∈ text ∨ '?' ∈ text) {glob : Glob} (hglob : Glob.parse text = .ok glob)
      (hmatch : glob.isMatch path.text = true)

/-- The rules that the texts spell; a text that is no pattern spells none. -/
def Ignore.rules (ignores : List Text) : List Ignore :=
  ignores.filterMap fun text => (Ignore.parse text).toOption

theorem Ignore.isPattern_iff {text : Text} :
    Ignore.isPattern text = true ↔ '*' ∈ text ∨ '?' ∈ text := by
  rw [isPattern, Bool.or_eq_true, List.contains_iff_mem, List.contains_iff_mem]

theorem excludes_iff {text : Text} {path : Path} :
    Excludes text path ↔
      ∃ rule, (Ignore.parse text).toOption = some rule ∧ rule.covers path = true := by
  rw [Ignore.parse]
  constructor
  · rintro (⟨hstar, hmark, hwithin⟩ | ⟨hwildcard, hglob, hmatch⟩)
    · rw [if_neg fun h => (Ignore.isPattern_iff.1 h).elim hstar hmark]
      exact ⟨_, rfl, List.isPrefixOf_iff_prefix.2 hwithin⟩
    · rw [if_pos (Ignore.isPattern_iff.2 hwildcard), hglob]
      exact ⟨_, rfl, hmatch⟩
  · rintro ⟨rule, hrule, hcovers⟩
    split at hrule
    case isTrue hpattern =>
      cases hglob : Glob.parse text with
      | error error => rw [hglob] at hrule; cases hrule
      | ok glob =>
          rw [hglob] at hrule
          cases hrule
          exact .pattern (Ignore.isPattern_iff.1 hpattern) hglob hcovers
    case isFalse hplain =>
      cases hrule
      exact .below (fun h => hplain (Ignore.isPattern_iff.2 (.inl h)))
        (fun h => hplain (Ignore.isPattern_iff.2 (.inr h))) (List.isPrefixOf_iff_prefix.1 hcovers)

/-! ### Files that are asked for -/

/-- The file at a path is asked for by the given paths, less what the texts exclude. -/
inductive Selected (files : Files) (paths : List Path) (ignores : List Text) (path : Path) : Prop
  /-- The path is given and names a file. -/
  | given (hgiven : path ∈ paths) (hfile : files.isFile path = true)
  /-- The file lies below a given directory, is a catalog by its name, and no text excludes it. -/
  | walked {root : Path} (hroot : root ∈ paths) (hwalked : files.Walked root path)
      (hcatalog : path.NamesCatalog) (hignores : ∀ text ∈ ignores, ¬ Excludes text path)

namespace Files

/-- **What one given path stands for.** -/
theorem mem_filesAt_iff {files : Files} {root path : Path} {rules : List Ignore} :
    path ∈ files.filesAt rules root ↔
      (path = root ∧ files.isFile root = true) ∨
        ∃ entries, files.tree root = .ok (.directory entries) ∧
          path ∈ (entries.readable root).filesBelow root ∧ path.NamesCatalog ∧
            ∀ rule ∈ rules, rule.covers path = false := by
  rw [filesAt, isFile]
  cases files.tree root with
  | error error => simp
  | ok tree => cases tree <;> simp [List.mem_filter, Path.isCatalog_iff]

end Files

section
variable {files : Files} {paths : List Path} {ignores : List Text} {root path : Path}

/-- No rule that is read from the texts covers the path if no text excludes it. -/
theorem forall_rules_iff :
    (∀ rule ∈ Ignore.rules ignores, rule.covers path = false) ↔
      ∀ text ∈ ignores, ¬ Excludes text path := by
  constructor
  · intro h text htext hexcludes
    obtain ⟨rule, hrule, hcovers⟩ := excludes_iff.1 hexcludes
    have hnot := h rule (List.mem_filterMap.2 ⟨text, htext, hrule⟩)
    exact Bool.false_ne_true (hnot.symm.trans hcovers)
  · intro h rule hrule
    obtain ⟨text, htext, hparse⟩ := List.mem_filterMap.1 hrule
    exact Bool.eq_false_iff.2 fun hcovers => h text htext (excludes_iff.2 ⟨rule, hparse, hcovers⟩)

/-- What a given path stands for is asked for. -/
theorem selected_of_mem_filesAt (hroot : root ∈ paths)
    (hpath : path ∈ files.filesAt (Ignore.rules ignores) root) :
    Selected files paths ignores path := by
  rcases Files.mem_filesAt_iff.1 hpath with ⟨rfl, hfile⟩ | ⟨_, htree, hread, hcatalog, hrules⟩
  · exact .given hroot hfile
  · exact .walked hroot (Files.walked_of_mem_readable htree hread) hcatalog
      (forall_rules_iff.1 hrules)

/-- A file below a directory that can be entered is found, unless a text excludes it. -/
theorem mem_filesAt_of_walked (hwalk : files.CanWalk root) (hwalked : files.Walked root path)
    (hcatalog : path.NamesCatalog) (hignores : ∀ text ∈ ignores, ¬ Excludes text path) :
    path ∈ files.filesAt (Ignore.rules ignores) root := by
  obtain ⟨entries, htree⟩ := hwalked.exists_tree_eq
  refine Files.mem_filesAt_iff.2 (.inr ⟨entries, htree, ?_, hcatalog, forall_rules_iff.2 hignores⟩)
  rw [hwalk.readable_eq_self htree]
  exact (Files.walked_iff htree).1 hwalked

/-- What is asked for is what some given path stands for. -/
theorem Selected.exists_mem_filesAt (hwalk : ∀ root ∈ paths, files.CanWalk root)
    (h : Selected files paths ignores path) :
    ∃ root ∈ paths, path ∈ files.filesAt (Ignore.rules ignores) root := by
  rcases h with ⟨hgiven, hfile⟩ | ⟨hroot, hwalked, hcatalog, hignores⟩
  · exact ⟨path, hgiven, Files.mem_filesAt_iff.2 (.inl ⟨rfl, hfile⟩)⟩
  · exact ⟨_, hroot, mem_filesAt_of_walked (hwalk _ hroot) hwalked hcatalog hignores⟩

/-- More paths and fewer texts ask for no fewer files. -/
theorem Selected.mono {others : List Path} {texts : List Text}
    (h : Selected files paths ignores path) (hpaths : paths ⊆ others) (htexts : texts ⊆ ignores) :
    Selected files others texts path := by
  rcases h with ⟨hgiven, hfile⟩ | ⟨hroot, hwalked, hcatalog, hignores⟩
  · exact .given (hpaths hgiven) hfile
  · exact .walked (hpaths hroot) hwalked hcatalog fun text htext => hignores text (htexts htext)

end

/-! ### The selection -/

/-- The selection is what is asked for.  Equal paths are those with the same components. -/
structure Files.SelectsExactly (files : Files) (paths : List Path) (ignores : List Text) :
    Prop where
  /-- The selected paths are in order. -/
  increasing : Path.Increasing (files.select paths ignores).files
  distinct : ((files.select paths ignores).files.map Path.components).Nodup
  /-- All of them are asked for. -/
  sound : ∀ path ∈ (files.select paths ignores).files, Selected files paths ignores path
  /-- Every path that is asked for is one of them, or an equal path is. -/
  complete : ∀ path, Selected files paths ignores path →
    ∃ found ∈ (files.select paths ignores).files, found.components = path.components
  /-- What is skipped are the given paths that name nothing. -/
  skipped : (files.select paths ignores).missing.length +
    (files.select paths ignores).unreadable.length = paths.countP fun path => !files.exists? path
  /-- The order of the paths and of the texts, and how often they come, makes no difference. -/
  unordered : ∀ others texts, (∀ path, path ∈ others ↔ path ∈ paths) →
    (∀ text, text ∈ texts ↔ text ∈ ignores) →
      (files.select others texts).files.map Path.components =
        (files.select paths ignores).files.map Path.components
  /-- One text more adds no file. -/
  lessened : ∀ text, (files.select paths (text :: ignores)).files.map Path.components ⊆
    (files.select paths ignores).files.map Path.components
  /-- One text more removes nothing but files that a walk came upon and that it excludes. -/
  removed : ∀ text, ∀ path ∈ (files.select paths ignores).files,
    path.components ∉ (files.select paths (text :: ignores)).files.map Path.components →
      (∀ given ∈ paths, files.isFile given = true → given.components ≠ path.components) ∧
        (∃ root ∈ paths, files.Walked root path) ∧ Excludes text path

namespace Files

variable {files : Files} {paths : List Path} {ignores : List Text}

theorem selected_of_mem_select {path : Path} (h : path ∈ (files.select paths ignores).files) :
    Selected files paths ignores path := by
  obtain ⟨root, hroot, hpath⟩ := List.mem_flatMap.1 (Path.mem_of_mem_sorted h)
  exact selected_of_mem_filesAt hroot hpath

theorem exists_mem_select_of_mem_filesAt {root path : Path} (hroot : root ∈ paths)
    (h : path ∈ files.filesAt (Ignore.rules ignores) root) :
    ∃ found ∈ (files.select paths ignores).files, found.components = path.components :=
  Path.exists_mem_sorted (List.mem_flatMap.2 ⟨root, hroot, h⟩)

theorem components_mem_select {path : Path} (hwalk : ∀ root ∈ paths, files.CanWalk root)
    (h : Selected files paths ignores path) :
    path.components ∈ (files.select paths ignores).files.map Path.components := by
  obtain ⟨root, hroot, hpath⟩ := h.exists_mem_filesAt hwalk
  obtain ⟨found, hfound, hcomponents⟩ := exists_mem_select_of_mem_filesAt hroot hpath
  exact List.mem_map.2 ⟨found, hfound, hcomponents⟩

/-- More paths and fewer texts select no fewer files. -/
theorem map_components_select_subset {others : List Path} {texts : List Text}
    (hwalk : ∀ root ∈ others, files.CanWalk root) (hpaths : paths ⊆ others)
    (htexts : texts ⊆ ignores) :
    (files.select paths ignores).files.map Path.components ⊆
      (files.select others texts).files.map Path.components := by
  intro components hcomponents
  obtain ⟨path, hpath, rfl⟩ := List.mem_map.1 hcomponents
  exact components_mem_select hwalk ((selected_of_mem_select hpath).mono hpaths htexts)

/-- **Exactly the files that are asked for are selected**, if every directory can be entered. -/
theorem selectsExactly_select (files : Files) (paths : List Path) (ignores : List Text)
    (hwalk : ∀ root ∈ paths, files.CanWalk root) : files.SelectsExactly paths ignores := by
  refine ⟨Path.increasing_sorted _, (Path.increasing_sorted _).nodup,
    fun _ => selected_of_mem_select, ?complete, ?skipped, ?unordered, ?lessened, ?removed⟩
  case complete =>
    intro path h
    obtain ⟨root, hroot, hpath⟩ := h.exists_mem_filesAt hwalk
    exact exists_mem_select_of_mem_filesAt hroot hpath
  case skipped =>
    have hunreadable : (files.select paths ignores).unreadable = [] :=
      List.flatMap_eq_nil_iff.2 fun root hroot => canWalk_iff.1 (hwalk root hroot)
    rw [hunreadable, List.length_nil, Nat.add_zero, List.countP_eq_length_filter]
    rfl
  case unordered =>
    intro others texts hothers htexts
    have hotherWalk : ∀ root ∈ others, files.CanWalk root :=
      fun root hroot => hwalk root ((hothers root).1 hroot)
    refine (Path.increasing_sorted _).map_components_eq (Path.increasing_sorted _)
      fun components => ⟨fun h => ?_, fun h => ?_⟩
    · exact map_components_select_subset hwalk (fun _ => (hothers _).1) (fun _ => (htexts _).2) h
    · exact map_components_select_subset hotherWalk (fun _ => (hothers _).2)
        (fun _ => (htexts _).1) h
  case lessened =>
    exact fun text => map_components_select_subset hwalk (List.Subset.refl _)
      (List.subset_cons_self text ignores)
  case removed =>
    intro text path hpath hremoved
    have hgiven : ∀ given ∈ paths, files.isFile given = true →
        given.components ≠ path.components := by
      intro given hgiven hfile heq
      exact hremoved (heq ▸ components_mem_select hwalk (.given hgiven hfile))
    rcases selected_of_mem_select hpath with
      ⟨hmem, hfile⟩ | ⟨hroot, hwalked, hcatalog, hignores⟩
    · exact absurd rfl (hgiven path hmem hfile)
    -- If the new text did not exclude the file, no text would, and the walk would find it again.
    · refine ⟨hgiven, ⟨_, hroot, hwalked⟩, Classical.byContradiction fun hexcludes => hremoved ?_⟩
      refine components_mem_select hwalk (.walked hroot hwalked hcatalog fun other hother => ?_)
      rcases List.mem_cons.1 hother with rfl | hother
      · exact hexcludes
      · exact hignores other hother

/-- A directory with two catalogs and a note, and a directory in it with one catalog. -/
def someFiles : Files where
  root := .directory (.entry "a.po" (.file .empty false) (.entry "build"
    (.directory (.entry "b.po" (.file .empty false) .empty))
    (.entry "c.po" (.file .empty false) (.entry "notes.txt" (.file .empty false) .empty))))
  working := []

/-- The directory is given twice, in two spellings; the note is given, a path that names nothing is,
and a path and a pattern exclude two of the catalogs. -/
theorem selectsExactly_select_someFiles :
    (∀ root ∈ [⟨"./"⟩, ⟨"notes.txt"⟩, ⟨"gone"⟩, ⟨"."⟩], someFiles.CanWalk root) ∧
      someFiles.SelectsExactly [⟨"./"⟩, ⟨"notes.txt"⟩, ⟨"gone"⟩, ⟨"."⟩] ["./build", "*c.p?"] ∧
        (someFiles.select [⟨"./"⟩, ⟨"notes.txt"⟩, ⟨"gone"⟩, ⟨"."⟩] ["./build", "*c.p?"]).files =
          [⟨"./a.po"⟩, ⟨"notes.txt"⟩] := by
  have hwalk : ∀ root ∈ [⟨"./"⟩, ⟨"notes.txt"⟩, ⟨"gone"⟩, ⟨"."⟩], someFiles.CanWalk root := by
    simp only [canWalk_iff]
    decide +kernel
  exact ⟨hwalk, selectsExactly_select someFiles _ _ hwalk, by decide +kernel⟩

end Files

end CatalogLint
