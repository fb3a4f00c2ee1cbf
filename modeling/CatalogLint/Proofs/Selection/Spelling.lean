/-
**How a path begins.**

A relative path may begin with a dot for the current directory.  The dot is a component and makes no
difference to what the path names; the key of a path is what remains of its components without it.
So one path lies at or below another one by its components if it does so by its key and both begin
alike; and a path below a directory begins as that directory does.

Main definitions:

* `CatalogLint.Path.BeginsHere` — the first component of the path is the current directory;
* `CatalogLint.Path.SpelledLike` — two paths begin alike, or the first one has no component at all.

Main results:

* `CatalogLint.Path.components_eq` — the components are the key, with or without a dot before it;
* `CatalogLint.Path.components_prefix_iff` — **lying below by components and by keys**;
* `CatalogLint.Path.beginsHere_joinAll` — names that are added do not change how a path begins.
-/

import CatalogLint.Proofs.Selection.Walk

set_option autoImplicit false

namespace CatalogLint

namespace Path

/-- The path begins with the current directory. -/
def BeginsHere (path : Path) : Prop := path.components.head? = some .current

instance (path : Path) : Decidable path.BeginsHere := inferInstanceAs (Decidable (_ = _))

/-- The paths both begin with the current directory or neither does, unless `directory` is empty. -/
def SpelledLike (directory root : Path) : Prop :=
  directory.components = [] ∨ (directory.BeginsHere ↔ root.BeginsHere)

/-! ### Components and keys -/

theorem current_not_mem_filterMap (pieces : List Text) :
    Component.current ∉ pieces.filterMap innerComponent? := by
  intro h
  obtain ⟨piece, -, hpiece⟩ := List.mem_filterMap.1 h
  rw [innerComponent?] at hpiece
  split at hpiece
  · cases hpiece
  · split at hpiece <;> cases hpiece

theorem current_not_mem_key (path : Path) : Component.current ∉ path.key := by
  simp [key]

/-- **The components are the key, after a dot if the path begins with one.** -/
theorem components_eq (path : Path) :
    path.components = if path.BeginsHere then .current :: path.key else path.key := by
  have hinner := current_not_mem_filterMap (Text.splitOn '/' path.text)
  have hkey : ((Text.splitOn '/' path.text).filterMap innerComponent?).filter (· != .current) =
      (Text.splitOn '/' path.text).filterMap innerComponent? :=
    List.filter_eq_self.2 fun component hmem => bne_iff_ne.2 fun heq => hinner (heq ▸ hmem)
  change path.components =
    if path.components.head? = some .current then .current :: path.key else path.key
  rw [key, components]
  split
  · simp [hkey]
  · split
    · simp [hkey]
    · rw [List.nil_append, hkey]
      exact (if_neg fun h => hinner (List.mem_of_mem_head? h)).symm

theorem components_of_beginsHere {path : Path} (h : path.BeginsHere) :
    path.components = .current :: path.key := (components_eq path).trans (if_pos h)

theorem components_of_not_beginsHere {path : Path} (h : ¬ path.BeginsHere) :
    path.components = path.key := (components_eq path).trans (if_neg h)

/-- **A path lies below another one if it does so by its key and both begin alike.** -/
theorem components_prefix_iff {directory path : Path} :
    directory.components <+: path.components ↔
      directory.key <+: path.key ∧ directory.SpelledLike path := by
  rw [SpelledLike]
  by_cases hd : directory.BeginsHere
  · rw [components_of_beginsHere hd]
    by_cases hp : path.BeginsHere
    · rw [components_of_beginsHere hp]
      simp [hd, hp, List.cons_prefix_cons]
    · -- Even the path `.` covers nothing here, though its key is before every key.
      rw [components_of_not_beginsHere hp]
      simp only [hd, hp, reduceCtorEq, iff_false, not_true_eq_false, or_self, and_false]
      intro h
      exact current_not_mem_key path (h.subset List.mem_cons_self)
  · rw [components_of_not_beginsHere hd]
    by_cases hp : path.BeginsHere
    · rw [components_of_beginsHere hp, List.prefix_cons_iff]
      simp only [hd, hp, false_iff, not_true_eq_false, or_false]
      constructor
      · rintro (hempty | ⟨rest, hrest, -⟩)
        · exact ⟨hempty ▸ List.nil_prefix, hempty⟩
        · exact absurd (hrest ▸ List.mem_cons_self) (current_not_mem_key directory)
      · rintro ⟨-, hempty⟩
        exact .inl hempty
    · rw [components_of_not_beginsHere hp]
      simp [hd, hp]

/-! ### Names that are added -/

/-- A path begins with a dot if its text has nothing else before the first slash. -/
theorem beginsHere_iff {path : Path} :
    path.BeginsHere ↔ (Text.splitOn '/' path.text).head? = some ("." : Text) := by
  have hinner := current_not_mem_filterMap (Text.splitOn '/' path.text)
  rw [BeginsHere, components]
  split
  next habsolute =>
    obtain ⟨text, htext⟩ := List.head?_eq_some_iff.1 (beq_iff_eq.1 habsolute)
    rw [htext, Text.splitOn, if_pos rfl]
    simp
  next =>
    split
    next hhead => exact iff_of_true rfl hhead
    next hhead => exact iff_of_false (fun h => hinner (List.mem_of_mem_head? h)) hhead

/-- The first part of a text stays when more is written after a slash. -/
theorem head?_splitOn_append_cons (above below : Text) :
    (Text.splitOn '/' (above ++ '/' :: below)).head? = (Text.splitOn '/' above).head? := by
  have hne := Text.splitOn_ne_nil '/' above
  rw [Text.splitOn_append_cons, List.head?_append, List.head?_eq_some_head hne, Option.some_or]

/-- A name below a directory is written after a slash, which the directory may end in already. -/
theorem join_text {base : Path} {name : Text} (hbase : base.text ≠ []) (hname : '/' ∉ name) :
    ∃ above, (base.text = above ++ ['/'] ∨ base.text = above) ∧
      (base.join ⟨name⟩).text = above ++ '/' :: name := by
  have hrelative : (Path.mk name).isAbsolute = false :=
    beq_eq_false_iff_ne.2 fun h => hname (List.mem_of_mem_head? h)
  rw [join, hrelative, List.isEmpty_eq_false_iff.2 hbase]
  split
  next h => cases h
  next =>
    split
    next hlast =>
      obtain ⟨above, habove⟩ := List.getLast?_eq_some_iff.1 hlast
      exact ⟨above, .inl habove, by simp [habove]⟩
    next => exact ⟨base.text, .inr rfl, by simp⟩

/-- A name below a directory does not change how the path begins. -/
theorem beginsHere_join {base : Path} {name : Text} (hbase : base.text ≠ []) (hname : '/' ∉ name) :
    (base.join ⟨name⟩).BeginsHere ↔ base.BeginsHere := by
  obtain ⟨above, habove, hjoin⟩ := join_text hbase hname
  rw [beginsHere_iff, beginsHere_iff, hjoin, head?_splitOn_append_cons]
  rcases habove with habove | habove
  · rw [habove, head?_splitOn_append_cons]
  · rw [habove]

/-- **Names that are added to a path do not change how it begins.** -/
theorem beginsHere_joinAll {root : Path} {names : List Text} (hroot : root.text ≠ [])
    (hnames : ∀ name ∈ names, '/' ∉ name) : (root.joinAll names).BeginsHere ↔ root.BeginsHere := by
  induction names generalizing root with
  | nil => exact Iff.rfl
  | cons name names ih =>
      obtain ⟨hname, hrest⟩ := List.forall_mem_cons.1 hnames
      obtain ⟨above, -, hjoin⟩ := join_text hroot hname
      have hnext : (root.join ⟨name⟩).text ≠ [] := by simp [hjoin]
      rw [joinAll_cons, ih hnext hrest, beginsHere_join hroot hname]

end Path

end CatalogLint
