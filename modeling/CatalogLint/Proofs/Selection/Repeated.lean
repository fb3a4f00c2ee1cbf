/-
**Files that are selected twice.**

The selection takes two paths for the same file if their components agree, and a leading dot is a
component.  So a file can be selected in two spellings, with a dot and without one, and in no third
one.  This happens if both spellings are asked for; where all given paths begin alike, no file is
selected twice.

Main definition:

* `CatalogLint.Files.RepeatsBySpelling` — how often a file is selected.

Main results:

* `CatalogLint.Path.count_map_key` — a key is counted in its two spellings;
* `CatalogLint.Files.exists_beginsHere_iff` — a selected path begins as a given one does;
* `CatalogLint.Files.repeatsBySpelling_select` — **a file is selected twice if it is asked for in
  both spellings**, and once otherwise;
* `CatalogLint.Files.not_forall_distinct_keys` — a file that is given and below the current
  directory is selected twice.
-/

import CatalogLint.Proofs.Selection.Ignored
import Mathlib.Data.List.Nodup

set_option autoImplicit false

namespace CatalogLint

/-! ### Keys in a list of paths -/

namespace Path

/-- Two paths have the same components if they have the same key and begin alike. -/
theorem components_eq_components_iff {a b : Path} :
    a.components = b.components ↔ a.key = b.key ∧ (a.BeginsHere ↔ b.BeginsHere) := by
  constructor
  · intro h
    rw [key, key, BeginsHere, BeginsHere, h]
    exact ⟨rfl, Iff.rfl⟩
  · rintro ⟨hkey, hbegins⟩
    rw [components_eq, components_eq, hkey]
    simp only [hbegins]

/-- The components are a key after a dot exactly if the path begins with one and has the key. -/
theorem components_eq_current_cons_iff {path : Path} {key : List Component} :
    path.components = .current :: key ↔ path.BeginsHere ∧ path.key = key := by
  constructor
  · intro h
    have hbegins : path.BeginsHere := congrArg List.head? h
    rw [components_of_beginsHere hbegins] at h
    exact ⟨hbegins, (List.cons.inj h).2⟩
  · rintro ⟨hbegins, rfl⟩
    exact components_of_beginsHere hbegins

/-- The components are a key exactly if the path begins without a dot and has the key. -/
theorem components_eq_iff {path : Path} {key : List Component} (hkey : Component.current ∉ key) :
    path.components = key ↔ ¬ path.BeginsHere ∧ path.key = key := by
  constructor
  · rintro rfl
    have hbegins : ¬ path.BeginsHere := fun h => hkey (List.mem_of_mem_head? h)
    exact ⟨hbegins, (components_of_not_beginsHere hbegins).symm⟩
  · rintro ⟨hbegins, rfl⟩
    exact components_of_not_beginsHere hbegins

/-- **A key is counted in its two spellings.** -/
theorem count_map_key {key : List Component} (hkey : Component.current ∉ key)
    (paths : List Path) :
    (paths.map Path.key).count key =
      (paths.map components).count (.current :: key) + (paths.map components).count key := by
  induction paths with
  | nil => rfl
  | cons path paths ih =>
      simp only [List.map_cons, List.count_cons, ih, beq_iff_eq, components_eq_current_cons_iff,
        components_eq_iff hkey]
      by_cases hbegins : path.BeginsHere
      · simp only [hbegins, true_and, not_true_eq_false, false_and, if_false]
        omega
      · simp only [hbegins, false_and, not_false_eq_true, true_and, if_false]
        omega

/-- No key comes more than twice in a list of different paths. -/
theorem count_map_key_le_two {paths : List Path} (h : (paths.map components).Nodup)
    (key : List Component) : (paths.map Path.key).count key ≤ 2 := by
  by_cases hkey : Component.current ∈ key
  · have hnone : key ∉ paths.map Path.key := by
      intro hmem
      obtain ⟨path, -, rfl⟩ := List.mem_map.1 hmem
      exact current_not_mem_key path hkey
    rw [List.count_eq_zero_of_not_mem hnone]
    exact Nat.zero_le 2
  · have hhere : (paths.map components).count (.current :: key) ≤ 1 :=
      List.nodup_iff_count_le_one.1 h _
    have hthere : (paths.map components).count key ≤ 1 := List.nodup_iff_count_le_one.1 h _
    rw [count_map_key hkey]
    omega

/-- **A key comes twice if both of its spellings are there.** -/
theorem count_map_key_eq_two_iff {paths : List Path} (h : (paths.map components).Nodup)
    (key : List Component) :
    (paths.map Path.key).count key = 2 ↔
      (∃ here ∈ paths, here.BeginsHere ∧ here.key = key) ∧
        ∃ there ∈ paths, ¬ there.BeginsHere ∧ there.key = key := by
  by_cases hkey : Component.current ∈ key
  · have hnone : ∀ path ∈ paths, path.key ≠ key := fun path _ heq =>
      current_not_mem_key path (heq ▸ hkey)
    have hcount : (paths.map Path.key).count key = 0 := by
      refine List.count_eq_zero_of_not_mem fun hmem => ?_
      obtain ⟨path, hpath, heq⟩ := List.mem_map.1 hmem
      exact hnone path hpath heq
    rw [hcount]
    refine iff_of_false (by decide) ?_
    rintro ⟨⟨path, hpath, -, heq⟩, -⟩
    exact hnone path hpath heq
  · have hhere : (paths.map components).count (.current :: key) ≤ 1 :=
      List.nodup_iff_count_le_one.1 h _
    have hthere : (paths.map components).count key ≤ 1 := List.nodup_iff_count_le_one.1 h _
    have hmemHere := List.count_pos_iff (a := .current :: key) (l := paths.map components)
    have hmemThere := List.count_pos_iff (a := key) (l := paths.map components)
    simp only [List.mem_map, components_eq_current_cons_iff] at hmemHere
    simp only [List.mem_map, components_eq_iff hkey] at hmemThere
    rw [← hmemHere, ← hmemThere, count_map_key hkey]
    omega

end Path

/-! ### Files that are selected twice -/

/-- How often a file is selected: once for every spelling in which it is asked for. -/
structure Files.RepeatsBySpelling (files : Files) (paths : List Path) (ignores : List Text) :
    Prop where
  /-- Two selected paths of one file are the same, or one begins with a dot and the other does
  not. -/
  spelling : ∀ first ∈ (files.select paths ignores).files,
    ∀ second ∈ (files.select paths ignores).files, first.key = second.key →
      first = second ∨ ¬ (first.BeginsHere ↔ second.BeginsHere)
  /-- No file is selected more than twice. -/
  atMostTwice : ∀ key, ((files.select paths ignores).files.map Path.key).count key ≤ 2
  /-- A file is selected twice if it is asked for with a dot and without one. -/
  twice : (∀ root ∈ paths, files.CanWalk root) → ∀ key,
    ((files.select paths ignores).files.map Path.key).count key = 2 ↔
      ∃ here there, Selected files paths ignores here ∧ Selected files paths ignores there ∧
        here.key = key ∧ there.key = key ∧ here.BeginsHere ∧ ¬ there.BeginsHere
  /-- No file is selected twice if all given paths begin alike. -/
  once : (∀ name ∈ files.root.names, '/' ∉ name) →
    (∀ first ∈ paths, ∀ second ∈ paths, first.BeginsHere ↔ second.BeginsHere) →
      ((files.select paths ignores).files.map Path.key).Nodup

namespace Files

theorem nodup_components_select (files : Files) (paths : List Path) (ignores : List Text) :
    ((files.select paths ignores).files.map Path.components).Nodup :=
  (Path.increasing_sorted _).nodup

/-- **A selected path begins as a given one does.** -/
theorem exists_beginsHere_iff {files : Files} {paths : List Path} {ignores : List Text}
    {path : Path} (hnames : ∀ name ∈ files.root.names, '/' ∉ name)
    (h : path ∈ (files.select paths ignores).files) :
    ∃ root ∈ paths, (path.BeginsHere ↔ root.BeginsHere) := by
  rcases selected_of_mem_select h with ⟨hgiven, -⟩ | ⟨hroot, hwalked, -, -⟩
  · exact ⟨path, hgiven, Iff.rfl⟩
  · exact ⟨_, hroot, hwalked.beginsHere_iff hnames⟩

/-- **A file is selected twice if it is asked for in both spellings**, and once otherwise. -/
theorem repeatsBySpelling_select (files : Files) (paths : List Path) (ignores : List Text) :
    files.RepeatsBySpelling paths ignores := by
  have hnodup := nodup_components_select files paths ignores
  refine ⟨?spelling, Path.count_map_key_le_two hnodup, ?twice, ?once⟩
  case spelling =>
    intro first hfirst second hsecond hkey
    refine Decidable.or_iff_not_imp_right.2 fun hbegins => ?_
    exact List.inj_on_of_nodup_map hnodup hfirst hsecond
      (Path.components_eq_components_iff.2 ⟨hkey, Decidable.not_not.1 hbegins⟩)
  case twice =>
    intro hwalk key
    rw [Path.count_map_key_eq_two_iff hnodup]
    constructor
    · rintro ⟨⟨here, hhere, hbegins, hkey⟩, there, hthere, hnot, hkey'⟩
      exact ⟨here, there, selected_of_mem_select hhere, selected_of_mem_select hthere, hkey, hkey',
        hbegins, hnot⟩
    · rintro ⟨here, there, hhere, hthere, hkey, hkey', hbegins, hnot⟩
      obtain ⟨first, hfirst, heq⟩ := List.mem_map.1 (components_mem_select hwalk hhere)
      obtain ⟨second, hsecond, heq'⟩ := List.mem_map.1 (components_mem_select hwalk hthere)
      obtain ⟨hfirstKey, hfirstBegins⟩ := Path.components_eq_components_iff.1 heq
      obtain ⟨hsecondKey, hsecondBegins⟩ := Path.components_eq_components_iff.1 heq'
      exact ⟨⟨first, hfirst, hfirstBegins.2 hbegins, hfirstKey.trans hkey⟩,
        second, hsecond, fun h => hnot (hsecondBegins.1 h), hsecondKey.trans hkey'⟩
  case once =>
    intro hnames halike
    refine List.nodup_iff_count_le_one.2 fun key => Nat.le_of_lt_succ ?_
    refine Nat.lt_of_le_of_ne (Path.count_map_key_le_two hnodup key) fun htwo => ?_
    obtain ⟨⟨here, hhere, hbegins, -⟩, there, hthere, hnot, -⟩ :=
      (Path.count_map_key_eq_two_iff hnodup key).1 htwo
    obtain ⟨first, hfirst, hbeginsFirst⟩ := exists_beginsHere_iff hnames hhere
    obtain ⟨second, hsecond, hbeginsSecond⟩ := exists_beginsHere_iff hnames hthere
    exact hnot (hbeginsSecond.2 ((halike first hfirst second hsecond).1 (hbeginsFirst.1 hbegins)))

/-- **A file that is given and below the current directory is selected twice.** -/
theorem not_forall_distinct_keys :
    ¬ ∀ (files : Files) (paths : List Path) (ignores : List Text),
      ((files.select paths ignores).files.map Path.key).Nodup := by
  intro h
  have hselected : (someFiles.select [⟨"."⟩, ⟨"a.po"⟩] ["./build", "*c.po"]).files =
      [⟨"./a.po"⟩, ⟨"a.po"⟩] := by decide +kernel
  have hkeys := h someFiles [⟨"."⟩, ⟨"a.po"⟩] ["./build", "*c.po"]
  rw [hselected] at hkeys
  revert hkeys
  decide

end Files

end CatalogLint
