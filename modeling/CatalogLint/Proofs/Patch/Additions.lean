/-
**The files of a patch are a map, and the last addition wins.**

Files are added to a store one after the other, under the keys of their paths.  Of the files that
share a key only the last one can be found, however its path and those of the others are written;
a file of another key makes no difference to it.  So a store is told by the last additions, and two
additions of different keys that follow each other may change places.

Main definitions:

* `CatalogLint.Patch.Store.addAll` — a store with some more files;
* `CatalogLint.Patch.AddedLast` — a file that no later one of its key takes the place of;
* `CatalogLint.Patch.Store.SameAnswers` — two stores answer every question alike;
* `CatalogLint.Patch.Swapped` — two histories differ by the order of two neighbours;
* `CatalogLint.Patch.LastWriteWins` — what a store has to do with the files that were added.

Main results:

* `CatalogLint.Patch.addedLast_append_singleton` — what one more addition changes;
* `CatalogLint.Patch.Store.file?_addAll` — **the last file of a key is found**;
* `CatalogLint.Patch.Store.add_swap` — additions of different keys may change places;
* `CatalogLint.Patch.lastWriteWins_addAll` — **the last addition wins**, also among the files of a
  patch.
-/

import CatalogLint.Patch.Store
import Mathlib.Data.List.Dedup
import Mathlib.Data.List.Induction

set_option autoImplicit false

namespace CatalogLint.Patch

/-! ### Histories of additions -/

def LocalFile.key (file : LocalFile) : List Path.Component := file.path.key

/-- The store with some more files, added one after the other. -/
def Store.addAll (store : Store) (files : List LocalFile) : Store := files.foldl Store.add store

/-- The file is among those that were added, and no later one of its key is. -/
def AddedLast (added : List LocalFile) (file : LocalFile) : Prop :=
  ∃ earlier later, added = earlier ++ file :: later ∧ ∀ other ∈ later, other.key ≠ file.key

theorem AddedLast.mem {added : List LocalFile} {file : LocalFile} (h : AddedLast added file) :
    file ∈ added := by
  obtain ⟨earlier, later, rfl, -⟩ := h
  exact List.mem_append_right _ List.mem_cons_self

/-- **One more addition** comes last itself, and so do the former last ones of other keys. -/
theorem addedLast_append_singleton {added : List LocalFile} {new file : LocalFile} :
    AddedLast (added ++ [new]) file ↔
      file = new ∨ AddedLast added file ∧ new.key ≠ file.key := by
  constructor
  · rintro ⟨earlier, later, hsplit, hlater⟩
    rcases List.eq_nil_or_concat later with rfl | ⟨between, last, rfl⟩
    · obtain ⟨-, heq⟩ := List.append_inj' hsplit rfl
      exact .inl (List.singleton_inj.1 heq).symm
    · rw [List.concat_eq_append, ← List.cons_append, ← List.append_assoc] at hsplit
      obtain ⟨rfl, heq⟩ := List.append_inj' hsplit rfl
      obtain rfl := List.singleton_inj.1 heq
      refine .inr ⟨⟨earlier, between, rfl, fun other hother => hlater other ?_⟩, hlater new ?_⟩
      · simp [hother]
      · simp
  · rintro (rfl | ⟨⟨earlier, later, rfl, hlater⟩, hnew⟩)
    · exact ⟨added, [], rfl, fun _ h => absurd h List.not_mem_nil⟩
    · refine ⟨earlier, later ++ [new], by simp, fun other hother => ?_⟩
      rcases List.mem_append.1 hother with hother | hother
      · exact hlater other hother
      · rwa [List.mem_singleton.1 hother]

/-- Of every key that was added, some file was added last. -/
theorem exists_addedLast {added : List LocalFile} {file : LocalFile} (h : file ∈ added) :
    ∃ last, AddedLast added last ∧ last.key = file.key := by
  induction added using List.reverseRecOn with
  | nil => cases h
  | append_singleton added new ih =>
      by_cases hnew : new.key = file.key
      · exact ⟨new, addedLast_append_singleton.2 (.inl rfl), hnew⟩
      · have hbefore : file ∈ added := by
          rcases List.mem_append.1 h with h | h
          · exact h
          · exact absurd (List.mem_singleton.1 h ▸ rfl) hnew
        obtain ⟨last, hlast, hkey⟩ := ih hbefore
        exact ⟨last, addedLast_append_singleton.2 (.inr ⟨hlast, hkey ▸ hnew⟩), hkey⟩

/-! ### What a store holds -/

namespace Store

/-- The keys of the files, in the order in which the store holds them. -/
def keys (store : Store) : List (List Path.Component) := store.files.map LocalFile.key

theorem mem_files_add {store : Store} {new file : LocalFile} :
    file ∈ (store.add new).files ↔ file = new ∨ file ∈ store.files ∧ new.key ≠ file.key := by
  rw [add, List.mem_cons, List.mem_filter, bne_iff_ne, ne_comm]
  rfl

theorem addAll_append (store : Store) (added more : List LocalFile) :
    store.addAll (added ++ more) = (store.addAll added).addAll more := List.foldl_append

/-- **The store holds the files that were added last.** -/
theorem mem_files_addAll {added : List LocalFile} {file : LocalFile} :
    file ∈ (addAll {} added).files ↔ AddedLast added file := by
  induction added using List.reverseRecOn with
  | nil =>
      refine iff_of_false List.not_mem_nil ?_
      exact fun h => absurd h.mem List.not_mem_nil
  | append_singleton added new ih =>
      rw [addAll_append, addedLast_append_singleton, ← ih]
      exact mem_files_add

/-- An addition does not make a key come twice. -/
theorem nodup_keys_add {store : Store} (h : store.keys.Nodup) (new : LocalFile) :
    (store.add new).keys.Nodup := by
  refine List.nodup_cons.2 ⟨?_, h.sublist (List.filter_sublist.map _)⟩
  rintro hmem
  obtain ⟨file, hfile, hkey⟩ := List.mem_map.1 hmem
  exact (bne_iff_ne.1 (List.mem_filter.1 hfile).2) hkey

theorem nodup_keys_addAll (added : List LocalFile) : (addAll {} added).keys.Nodup := by
  induction added using List.reverseRecOn with
  | nil => exact List.nodup_nil
  | append_singleton added new ih =>
      rw [addAll_append]
      exact nodup_keys_add ih new

/-- The keys of a store are those that were added, each once. -/
theorem keys_addAll_perm (added : List LocalFile) :
    (addAll {} added).keys.Perm (added.map LocalFile.key).dedup := by
  refine (List.perm_ext_iff_of_nodup (nodup_keys_addAll added) (List.nodup_dedup _)).2 fun key => ?_
  rw [List.mem_dedup, keys, List.mem_map, List.mem_map]
  constructor
  · rintro ⟨file, hfile, rfl⟩
    exact ⟨file, (mem_files_addAll.1 hfile).mem, rfl⟩
  · rintro ⟨file, hfile, rfl⟩
    obtain ⟨last, hlast, hkey⟩ := exists_addedLast hfile
    exact ⟨last, mem_files_addAll.2 hlast, hkey⟩

/-! ### What a path finds -/

variable {store : Store} {path : Path} {file : LocalFile}

theorem key_of_file?_eq_some (h : store.file? path = some file) : file.key = path.key := by
  have hfound := List.find?_some h
  exact beq_iff_eq.1 hfound

/-- A path finds the file of its key, of which there is one at most. -/
theorem file?_eq_some_iff (h : store.keys.Nodup) :
    store.file? path = some file ↔ file ∈ store.files ∧ file.key = path.key := by
  constructor
  · intro hfound
    exact ⟨List.mem_of_find?_eq_some hfound, key_of_file?_eq_some hfound⟩
  · rintro ⟨hmem, hkey⟩
    obtain ⟨other, hfound⟩ : ∃ other, store.file? path = some other :=
      Option.isSome_iff_exists.1 (List.find?_isSome.2 ⟨file, hmem, beq_iff_eq.2 hkey⟩)
    have hother : other.key = file.key := (key_of_file?_eq_some hfound).trans hkey.symm
    rw [hfound, List.inj_on_of_nodup_map h (List.mem_of_find?_eq_some hfound) hmem hother]

/-- **The last file of a key is found.** -/
theorem file?_addAll {added : List LocalFile} :
    (addAll {} added).file? path = some file ↔ AddedLast added file ∧ file.key = path.key := by
  rw [file?_eq_some_iff (nodup_keys_addAll added), mem_files_addAll]

/-- Nothing is found under a key that was not added, and only there. -/
theorem file?_addAll_eq_none_iff {added : List LocalFile} :
    (addAll {} added).file? path = none ↔ ∀ file ∈ added, file.key ≠ path.key := by
  rw [Option.eq_none_iff_forall_not_mem]
  constructor
  · intro h file hfile heq
    obtain ⟨last, hlast, hkey⟩ := exists_addedLast hfile
    exact h last (file?_addAll.2 ⟨hlast, hkey.trans heq⟩)
  · intro h file hfound
    obtain ⟨hlast, hkey⟩ := file?_addAll.1 hfound
    exact h file hlast.mem hkey

/-! ### Stores that answer alike -/

/-- The stores give the same answers to all questions.  The order of their paths says nothing. -/
structure SameAnswers (store other : Store) : Prop where
  /-- Every path finds the same file. -/
  file : ∀ path, store.file? path = other.file? path
  /-- Every path has the same hunks. -/
  diff : ∀ path, store.diff path = other.diff path
  /-- They have as many files. -/
  size : store.size = other.size
  isEmpty : store.isEmpty = other.isEmpty
  paths : store.paths.Perm other.paths

/-- Stores that hold the same files answer alike. -/
theorem sameAnswers_of_perm {other : Store} (hkeys : store.keys.Nodup)
    (hperm : store.files.Perm other.files) : store.SameAnswers other := by
  have hothers : other.keys.Nodup := (hperm.map _).nodup_iff.1 hkeys
  have hfile : ∀ path, store.file? path = other.file? path := by
    intro path
    refine Option.ext fun file => ?_
    rw [file?_eq_some_iff hkeys, file?_eq_some_iff hothers, hperm.mem_iff]
  refine ⟨hfile, fun path => ?_, hperm.length_eq, ?_, hperm.map _⟩
  · rw [diff, diff, hfile]
  · rw [isEmpty, isEmpty, Bool.eq_iff_iff, List.isEmpty_iff_length_eq_zero,
      List.isEmpty_iff_length_eq_zero, hperm.length_eq]

/-- **Additions of different keys may change places**: the store holds the same files after them. -/
theorem add_swap (store : Store) {first second : LocalFile} (h : first.key ≠ second.key) :
    ((store.add first).add second).files.Perm ((store.add second).add first).files := by
  have hfirst : (first.path.key != second.path.key) = true := bne_iff_ne.2 h
  have hsecond : (second.path.key != first.path.key) = true := bne_iff_ne.2 (Ne.symm h)
  simp only [add, List.filter_cons, hfirst, hsecond, if_true, List.filter_filter, Bool.and_comm]
  exact List.Perm.swap _ _ _

/-- What is added to stores that hold the same files leaves them so. -/
theorem addAll_perm {other : Store} (h : store.files.Perm other.files) (added : List LocalFile) :
    (store.addAll added).files.Perm (other.addAll added).files := by
  induction added generalizing store other with
  | nil => exact h
  | cons file added ih => exact ih ((h.filter _).cons file)

end Store

/-! ### The last addition wins -/

/-- The histories differ by the order of two neighbours of different keys. -/
inductive Swapped : List LocalFile → List LocalFile → Prop
  /-- The second neighbour comes first. -/
  | neighbours (earlier later : List LocalFile) {first second : LocalFile}
      (hkeys : first.key ≠ second.key) :
      Swapped (earlier ++ first :: second :: later) (earlier ++ second :: first :: later)

theorem Swapped.perm_files {added others : List LocalFile} (h : Swapped added others) :
    (Store.addAll {} added).files.Perm (Store.addAll {} others).files := by
  obtain ⟨earlier, later, hkeys⟩ := h
  rw [Store.addAll_append, Store.addAll_append]
  exact Store.addAll_perm (Store.add_swap _ hkeys) later

/-- What a store has to do with the files that were added to it. -/
structure LastWriteWins (added : List LocalFile) (store : Store) : Prop where
  /-- A path finds the file that was added last under its key. -/
  found : ∀ path file,
    store.file? path = some file ↔ AddedLast added file ∧ file.key = path.key
  /-- A path finds nothing if nothing was added under its key. -/
  missing : ∀ path, store.file? path = none ↔ ∀ file ∈ added, file.key ≠ path.key
  /-- The hunks at a path are those of the file that was added last. -/
  diff : ∀ path file, AddedLast added file → file.key = path.key → store.diff path = file.diff
  /-- A path under whose key nothing was added has no hunks. -/
  noDiff : ∀ path, (∀ file ∈ added, file.key ≠ path.key) → store.diff path = []
  /-- There are as many files as different keys were added. -/
  size : store.size = (added.map LocalFile.key).dedup.length
  /-- The store is empty if there is no key. -/
  isEmpty : store.isEmpty = true ↔ store.size = 0
  /-- There is one path for every key that was added. -/
  onePath : (store.paths.map Path.key).Perm (added.map LocalFile.key).dedup
  /-- It is the path that was added last. -/
  lastPath : ∀ path, path ∈ store.paths ↔ ∃ file, AddedLast added file ∧ file.path = path
  /-- Neighbours of different keys may change places. -/
  swapped : ∀ others, Swapped added others → store.SameAnswers (Store.addAll {} others)

/-- What was added to an empty store is found in it, the last addition of every key. -/
theorem LastWriteWins.of_addAll (added : List LocalFile) :
    LastWriteWins added (Store.addAll {} added) := by
  have hkeys := Store.nodup_keys_addAll added
  have honePath := Store.keys_addAll_perm added
  refine ⟨fun _ _ => Store.file?_addAll, fun _ => Store.file?_addAll_eq_none_iff, ?diff, ?noDiff,
    ?size, ?isEmpty, ?onePath, ?lastPath, ?swapped⟩
  case diff =>
    intro path file hlast hkey
    rw [Store.diff, Store.file?_addAll.2 ⟨hlast, hkey⟩]
  case noDiff =>
    intro path hnone
    rw [Store.diff, Store.file?_addAll_eq_none_iff.2 hnone]
  case size => rw [← honePath.length_eq, Store.keys, List.length_map, Store.size]
  case isEmpty => exact List.isEmpty_iff_length_eq_zero
  case onePath =>
    rw [Store.paths, List.map_map]
    exact honePath
  case lastPath =>
    intro path
    rw [Store.paths, List.mem_map]
    exact exists_congr fun file => and_congr_left' Store.mem_files_addAll
  case swapped => exact fun others h => Store.sameAnswers_of_perm hkeys h.perm_files

/-- The files of a patch are added below the directory, one after the other. -/
theorem Store.ofPatch_eq_addAll (patch : Text) (root : Path) :
    ofPatch patch root = addAll {}
      ((split patch).map fun file => ⟨file.name, root.join ⟨file.name⟩, file.diff⟩) := by
  rw [addAll, List.foldl_map, ofPatch]

/-- **The last addition wins**, and so it does among the files of a patch. -/
theorem lastWriteWins_addAll (added : List LocalFile) (patch : Text) (root : Path) :
    LastWriteWins added (Store.addAll {} added) ∧
      LastWriteWins
        ((split patch).map fun file => ⟨file.name, root.join ⟨file.name⟩, file.diff⟩)
        (Store.ofPatch patch root) := by
  rw [Store.ofPatch_eq_addAll]
  exact ⟨.of_addAll added, .of_addAll _⟩

/-- Slashes and dots make no difference to what is found, two dots do. -/
example : let store := Store.addAll {} [⟨"a", ⟨"./a//b.po"⟩, "1"⟩, ⟨"b", ⟨"a/./b.po"⟩, "2"⟩]
    store.paths = [⟨"a/./b.po"⟩] ∧ store.diff ⟨"a/b.po/"⟩ = "2".toList ∧
      store.diff ⟨"a/../a/b.po"⟩ = [] := by
  decide

end CatalogLint.Patch
