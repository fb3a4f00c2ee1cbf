/-
**The order of paths.**

Paths are compared component by component, the first difference deciding.  Two paths are in the same
place of this order if they have the same components, however many slashes and dots they are written
with.  A sorted list of paths holds one path from every place that is asked for, and lists in order
that hold paths from the same places agree place by place.

Main definitions:

* `CatalogLint.Path.Increasing` — the paths of a list are in order, and no two in the same place;
* `CatalogLint.Path.insertAll` — a sorted list with some more paths.

Main results:

* `CatalogLint.Text.compare_eq_compareLex`, `CatalogLint.Path.compareComponents_eq_compareLex` — the
  orders of texts and of paths are lexicographic;
* `CatalogLint.Path.compare_eq_eq_iff` — two paths are in the same place if their components agree;
* `CatalogLint.Path.increasing_sorted`, `CatalogLint.Path.mem_of_mem_sorted`,
  `CatalogLint.Path.exists_mem_sorted` — **a sorted list is in order and holds what is asked for**;
* `CatalogLint.Path.Increasing.map_components_eq` — **lists in order that hold the same places
  agree**.
-/

import CatalogLint.Selection
import Mathlib.Data.List.Basic

set_option autoImplicit false

namespace CatalogLint

open Std (TransCmp LawfulEqCmp OrientedCmp)

/-! ### Texts and components -/

/-- The order of texts is the lexicographic one. -/
theorem Text.compare_eq_compareLex (s t : Text) :
    Text.compare s t = List.compareLex (compareOn Char.toNat) s t := by
  induction s generalizing t with
  | nil => cases t <;> rfl
  | cons c s ih =>
      cases t with
      | nil => rfl
      | cons d t => rw [Text.compare, List.compareLex_cons_cons, ih, compareOn]

instance : TransCmp Text.compare := by
  rw [show Text.compare = List.compareLex (compareOn Char.toNat) from
    funext fun s => funext fun t => Text.compare_eq_compareLex s t]
  infer_instance

namespace Path

def Component.name : Component → Text
  | named name => name
  | root | current | parent => []

/-- Components are compared by their kinds and then by their names. -/
theorem Component.compare_eq (a b : Component) :
    a.compare b = (Ord.compare a.rank b.rank).then (Text.compare a.name b.name) := by
  cases a <;> cases b <;> rfl

/-- Only equal components are in the same place of the order. -/
theorem Component.compare_eq_eq_iff {a b : Component} : a.compare b = .eq ↔ a = b := by
  cases a <;> cases b <;>
    simp [Component.compare, Component.rank, Text.compare_eq_eq_iff]

instance : TransCmp fun a b : Component => Text.compare a.name b.name where
  eq_swap := OrientedCmp.eq_swap
  isLE_trans := TransCmp.isLE_trans

instance : TransCmp Component.compare := by
  rw [show Component.compare =
      compareLex (compareOn Component.rank) fun a b => Text.compare a.name b.name from
    funext fun a => funext fun b => Component.compare_eq a b]
  infer_instance

instance : LawfulEqCmp Component.compare where
  compare_self := Component.compare_eq_eq_iff.2 rfl
  eq_of_compare := Component.compare_eq_eq_iff.1

/-- The order of component lists is the lexicographic one. -/
theorem compareComponents_eq_compareLex (as bs : List Component) :
    compareComponents as bs = List.compareLex Component.compare as bs := by
  induction as generalizing bs with
  | nil => cases bs <;> rfl
  | cons a as ih =>
      cases bs with
      | nil => rfl
      | cons b bs => rw [compareComponents, List.compareLex_cons_cons, ih]

/-! ### Paths -/

theorem compare_eq_compareLex (a b : Path) :
    a.compare b = List.compareLex Component.compare a.components b.components :=
  compareComponents_eq_compareLex _ _

instance : TransCmp Path.compare where
  eq_swap := by
    simp only [compare_eq_compareLex]
    exact OrientedCmp.eq_swap
  isLE_trans := by
    simp only [compare_eq_compareLex]
    exact TransCmp.isLE_trans

/-- **Two paths are in the same place of the order if their components agree.** -/
theorem compare_eq_eq_iff {a b : Path} : a.compare b = .eq ↔ a.components = b.components := by
  rw [compare_eq_compareLex]
  exact LawfulEqCmp.compare_eq_iff_eq

/-- The paths are in order, and no two of them are in the same place. -/
def Increasing (paths : List Path) : Prop := paths.Pairwise fun a b => a.compare b = .lt

/-! ### Sorted lists -/

theorem mem_of_mem_insertSorted {path other : Path} {paths : List Path}
    (h : other ∈ insertSorted path paths) : other = path ∨ other ∈ paths := by
  induction paths with
  | nil => exact .inl (List.mem_singleton.1 h)
  | cons first paths ih =>
      rw [insertSorted] at h
      split at h
      · exact List.mem_cons.1 h
      · exact .inr h
      · rcases List.mem_cons.1 h with rfl | hrest
        · exact .inr List.mem_cons_self
        · exact (ih hrest).imp_right (List.mem_cons_of_mem _)

/-- A path that is there stays. -/
theorem mem_insertSorted_of_mem {path other : Path} {paths : List Path} (h : other ∈ paths) :
    other ∈ insertSorted path paths := by
  induction paths with
  | nil => cases h
  | cons first paths ih =>
      rw [insertSorted]
      split
      · exact List.mem_cons_of_mem _ h
      · exact h
      · rcases List.mem_cons.1 h with rfl | hrest
        · exact List.mem_cons_self
        · exact List.mem_cons_of_mem _ (ih hrest)

/-- The new path is there afterwards, unless an equal one was. -/
theorem exists_mem_insertSorted (path : Path) (paths : List Path) :
    ∃ other ∈ insertSorted path paths, other.components = path.components := by
  induction paths with
  | nil => exact ⟨path, List.mem_singleton_self path, rfl⟩
  | cons first paths ih =>
      rw [insertSorted]
      split
      · exact ⟨path, List.mem_cons_self, rfl⟩
      · next heq => exact ⟨first, List.mem_cons_self, (compare_eq_eq_iff.1 heq).symm⟩
      · obtain ⟨other, hother, hcomponents⟩ := ih
        exact ⟨other, List.mem_cons_of_mem _ hother, hcomponents⟩

theorem Increasing.insertSorted {paths : List Path} (h : Increasing paths) (path : Path) :
    Increasing (insertSorted path paths) := by
  induction paths with
  | nil => exact List.pairwise_singleton _ _
  | cons first paths ih =>
      obtain ⟨hfirst, hpaths⟩ := List.pairwise_cons.1 h
      rw [Path.insertSorted]
      split
      · next hlt =>
        refine List.pairwise_cons.2 ⟨fun other hother => ?_, h⟩
        rcases List.mem_cons.1 hother with rfl | hrest
        · exact hlt
        · exact TransCmp.lt_trans hlt (hfirst other hrest)
      · exact h
      · next hgt =>
        refine List.pairwise_cons.2 ⟨fun other hother => ?_, ih hpaths⟩
        rcases mem_of_mem_insertSorted hother with rfl | hrest
        · exact OrientedCmp.lt_of_gt hgt
        · exact hfirst other hrest

/-- A sorted list with some more paths, put in one after the other. -/
def insertAll (paths sorted : List Path) : List Path :=
  paths.foldl (fun sorted path => path.insertSorted sorted) sorted

theorem Increasing.insertAll {sorted : List Path} (h : Increasing sorted) (paths : List Path) :
    Increasing (insertAll paths sorted) := by
  induction paths generalizing sorted with
  | nil => exact h
  | cons path paths ih => exact ih (h.insertSorted path)

theorem mem_of_mem_insertAll {path : Path} {paths sorted : List Path}
    (h : path ∈ insertAll paths sorted) : path ∈ paths ∨ path ∈ sorted := by
  induction paths generalizing sorted with
  | nil => exact .inr h
  | cons first paths ih =>
      rcases ih h with hpaths | hsorted
      · exact .inl (List.mem_cons_of_mem _ hpaths)
      · rcases mem_of_mem_insertSorted hsorted with rfl | hbefore
        · exact .inl List.mem_cons_self
        · exact .inr hbefore

theorem mem_insertAll_of_mem {path : Path} (paths : List Path) {sorted : List Path}
    (h : path ∈ sorted) : path ∈ insertAll paths sorted := by
  induction paths generalizing sorted with
  | nil => exact h
  | cons first paths ih => exact ih (mem_insertSorted_of_mem h)

theorem exists_mem_insertAll {path : Path} {paths : List Path} (h : path ∈ paths)
    (sorted : List Path) :
    ∃ other ∈ insertAll paths sorted, other.components = path.components := by
  induction paths generalizing sorted with
  | nil => cases h
  | cons first paths ih =>
      rcases List.mem_cons.1 h with rfl | hpaths
      · obtain ⟨other, hother, hcomponents⟩ := exists_mem_insertSorted path sorted
        exact ⟨other, mem_insertAll_of_mem paths hother, hcomponents⟩
      · exact ih hpaths _

section
variable {path : Path} {paths : List Path}

theorem increasing_sorted (paths : List Path) : Increasing (sorted paths) :=
  Increasing.insertAll List.Pairwise.nil paths

theorem mem_of_mem_sorted (h : path ∈ sorted paths) : path ∈ paths :=
  (mem_of_mem_insertAll h).resolve_right List.not_mem_nil

/-- A sorted list holds every path, or an equal one. -/
theorem exists_mem_sorted (h : path ∈ paths) :
    ∃ other ∈ sorted paths, other.components = path.components := exists_mem_insertAll h []

end

/-! ### One list for one set of paths -/

/-- No two paths of an increasing list have the same components. -/
theorem Increasing.nodup {paths : List Path} (h : Increasing paths) :
    (paths.map components).Nodup := by
  refine List.pairwise_map.2 (h.imp fun hlt heq => ?_)
  rw [compare_eq_eq_iff.2 heq] at hlt
  cases hlt

/-- **Increasing lists that hold the same places agree.** -/
theorem Increasing.map_components_eq {paths others : List Path} (h : Increasing paths)
    (hothers : Increasing others)
    (hmem : ∀ components, components ∈ paths.map Path.components ↔
      components ∈ others.map Path.components) :
    paths.map components = others.map components := by
  have hpairwise : ∀ {paths : List Path}, Increasing paths →
      (paths.map components).Pairwise fun as bs =>
        List.compareLex Component.compare as bs = .lt := by
    intro paths h
    exact List.pairwise_map.2 (h.imp fun hlt => compare_eq_compareLex _ _ ▸ hlt)
  refine List.Perm.eq_of_pairwise (fun as bs _ _ hab hba => ?_) (hpairwise h) (hpairwise hothers)
    ((List.perm_ext_iff_of_nodup h.nodup hothers.nodup).2 hmem)
  exact absurd hba (OrientedCmp.not_lt_of_lt hab)

end Path

end CatalogLint
