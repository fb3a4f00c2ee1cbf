/-
**Which settings file holds for a directory.**

The search for settings looks at a directory and at those above it, one after the other, and ends at
the first one that has a settings file or is the root of a repository.  So the file that is found is
the nearest one, and it is found only if no repository begins in between; a repository that begins
in the directory with the file does not hide it.

Main definitions:

* `CatalogLint.Settings.IsNearest` — a directory has the settings file that holds for another one;
* `CatalogLint.Settings.FindsNearest` — what there is to say about the search from a directory.

Main results:

* `CatalogLint.Settings.find?_eq` — one step of the search;
* `CatalogLint.Settings.isNearest_iff` — the same step, for the nearest settings file;
* `CatalogLint.Settings.findsNearest` — **the search finds the nearest settings file, unless a
  repository begins below it**.
-/

import CatalogLint.Proofs.Path.Ancestor

set_option autoImplicit false

namespace CatalogLint.Settings

variable {files : Files} {start directory path : Path}

/-! ### One step of the search -/

/-- **One step of the search**: it goes on in the directory above if there is nothing to end it. -/
theorem find?_eq (files : Files) (start : Path) :
    find? files start =
      if files.exists? (start.join fileName) then some (start.join fileName)
      else if files.exists? (start.join repositoryMark) then none
      else start.parent?.bind (find? files) := by
  rw [find?, Path.ancestors_eq, findIn]
  cases start.parent? <;> rfl

/-- The directory has the settings file that holds for `start`. -/
structure IsNearest (files : Files) (start directory : Path) : Prop where
  /-- It is `start`, or lies above it. -/
  above : directory.IsAtOrAbove start
  /-- It has a settings file. -/
  holds : files.exists? (directory.join fileName) = true
  /-- No directory on the way to it has one, or is the root of a repository. -/
  first : ∀ inner, inner.IsAtOrAbove start → directory.IsAbove inner →
    files.exists? (inner.join fileName) = false ∧
      files.exists? (inner.join repositoryMark) = false

/-- **The nearest settings file is that of the directory itself, or the nearest one of the directory
above.** -/
theorem isNearest_iff (files : Files) (start : Path) :
    IsNearest files start directory ↔
      (files.exists? (start.join fileName) = true ∧ directory = start) ∨
        files.exists? (start.join fileName) = false ∧
          files.exists? (start.join repositoryMark) = false ∧
            ∃ parent, start.parent? = some parent ∧ IsNearest files parent directory := by
  constructor
  · rintro ⟨habove, hholds, hfirst⟩
    rcases Path.isAtOrAbove_iff.1 habove with rfl | ⟨parent, hparent, hle⟩
    · exact .inl ⟨hholds, rfl⟩
    · have hstart := Path.isAbove_iff.2 ⟨parent, hparent, hle⟩
      obtain ⟨hfile, hmark⟩ := hfirst start (.refl start) hstart
      exact .inr ⟨hfile, hmark, parent, hparent, hle, hholds,
        fun inner hinner => hfirst inner (hinner.below hparent)⟩
  · rintro (⟨hholds, rfl⟩ | ⟨hfile, hmark, parent, hparent, hle, hholds, hfirst⟩)
    · refine ⟨.refl directory, hholds, fun inner hinner habove => ?_⟩
      -- No directory lies between a directory and itself.
      have hlength := hinner.isBeginning.1.length_le
      have hlt := habove.length_lt
      omega
    · refine ⟨hle.below hparent, hholds, fun inner hinner habove => ?_⟩
      rcases Path.isAtOrAbove_iff.1 hinner with rfl | ⟨next, hnext, hinner⟩
      · exact ⟨hfile, hmark⟩
      · cases hparent.symm.trans hnext
        exact hfirst inner hinner habove

/-! ### The whole search -/

/-- What is found is the settings file of the nearest directory that has one. -/
theorem find?_eq_some_iff :
    find? files start = some path ↔
      ∃ directory, IsNearest files start directory ∧ path = directory.join fileName := by
  induction start using Path.inductionOn with
  | step start ih =>
      simp only [find?_eq files start, isNearest_iff files start]
      cases hfile : files.exists? (start.join fileName) with
      | true =>
          simp only [if_true, Option.some.injEq, true_and, Bool.true_eq_false, false_and, or_false,
            exists_eq_left]
          exact eq_comm
      | false =>
          cases hmark : files.exists? (start.join repositoryMark) with
          | true => simp
          | false =>
              cases hparent : start.parent? with
              | none => simp
              | some parent => simpa using ih parent hparent

/-- Different directories at or above `start` would have different settings files. -/
theorem eq_of_join_fileName_eq {other : Path} (h : directory.IsAtOrAbove start)
    (hother : other.IsAtOrAbove start) (heq : directory.join fileName = other.join fileName) :
    directory = other := by
  have hcomponents (base : Path) :
      (base.join fileName).components = base.components ++ [.named ".polintrc.json"] :=
    Path.components_join rfl (by decide)
  have happend := congrArg Path.components heq
  rw [hcomponents, hcomponents] at happend
  exact h.eq_of_components_eq hother (List.append_cancel_right happend)

/-- What there is to say about the search for settings that begins in the directory `start`. -/
structure FindsNearest (files : Files) (start : Path) : Prop where
  /-- The directories at or above `start` are beginnings of its text, one for each beginning of its
  components; only an absolute path keeps its root. -/
  lexical : (∀ directory : Path, directory.IsAtOrAbove start → directory.text <+: start.text) ∧
    ∀ components, (∃! directory : Path, directory.IsAtOrAbove start ∧
      directory.components = components) ↔
        components <+: start.components ∧ (start.isAbsolute = true → components ≠ [])
  /-- The settings file of such a directory is found if and only if the directory has one, be it the
  root of a repository or not, and none on the way to it has one or is the root of a repository. -/
  found (directory : Path) (h : directory.IsAtOrAbove start) :
    find? files start = some (directory.join fileName) ↔ IsNearest files start directory
  /-- Nothing else is found. -/
  only (path : Path) (h : find? files start = some path) :
    ∃ directory, IsNearest files start directory ∧ path = directory.join fileName
  /-- Nothing is found if and only if there is no such directory. -/
  nothing : find? files start = none ↔ ∀ directory, ¬ IsNearest files start directory
  /-- Nothing is found above the root of a repository. -/
  bounded (repository : Path) (h : repository.IsAtOrAbove start)
    (hmark : files.exists? (repository.join repositoryMark) = true) (path : Path)
    (hpath : find? files start = some path) :
    ∃ directory : Path, directory.IsAtOrAbove start ∧ repository.IsAtOrAbove directory ∧
      path = directory.join fileName

/-- **The search finds the nearest settings file, unless a repository begins below it.** -/
theorem findsNearest (files : Files) (start : Path) : FindsNearest files start := by
  refine ⟨⟨fun directory h => h.isBeginning.2, fun components => ?lexical⟩,
    fun directory h => ?found, fun path h => find?_eq_some_iff.1 h, ?nothing,
    fun repository h hmark path hpath => ?bounded⟩
  case lexical =>
    rw [← Path.exists_isAtOrAbove_iff]
    refine ⟨ExistsUnique.exists, fun ⟨directory, habove, heq⟩ => ⟨directory, ⟨habove, heq⟩, ?_⟩⟩
    rintro other ⟨hother, hsame⟩
    exact hother.eq_of_components_eq habove (hsame.trans heq.symm)
  case found =>
    rw [find?_eq_some_iff]
    constructor
    · rintro ⟨nearest, hnearest, heq⟩
      rwa [eq_of_join_fileName_eq h hnearest.above heq]
    · exact fun hnearest => ⟨directory, hnearest, rfl⟩
  case nothing =>
    rw [Option.eq_none_iff_forall_ne_some]
    constructor
    · exact fun h directory hnearest => h _ (find?_eq_some_iff.2 ⟨directory, hnearest, rfl⟩)
    · intro h path hpath
      obtain ⟨directory, hnearest, -⟩ := find?_eq_some_iff.1 hpath
      exact h directory hnearest
  case bounded =>
    obtain ⟨directory, hnearest, rfl⟩ := find?_eq_some_iff.1 hpath
    refine ⟨directory, hnearest.above, ?_, rfl⟩
    -- If the directory lay above the root of the repository, it would not be the nearest one.
    rcases h.total hnearest.above with hle | hle
    · rcases Path.isAtOrAbove_iff.1 hle with rfl | habove
      · exact .refl _
      · have hnone := (hnearest.first repository h (Path.isAbove_iff.2 habove)).2
        rw [hmark] at hnone
        cases hnone
    · exact hle

/-- A repository that begins in the directory with the settings file does not hide it. -/
example :
    find? ⟨.directory (.entry ".git" (.directory .empty)
      (.entry ".polintrc.json" (.file .empty false) .empty)), []⟩ ⟨"./a/b"⟩ =
        some ⟨"./.polintrc.json"⟩ := by decide

end CatalogLint.Settings
